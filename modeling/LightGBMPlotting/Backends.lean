import LightGBMPlotting.Booster

/-!
# The Rendering Backends, and the Module's Helpers

`plotting.py` draws through two libraries it does not define: graphviz, whose `Digraph`
collects nodes and edges, and matplotlib, whose `Axes` collects bars, lines, labels and
limits. Both are modelled here by what the plotting code asks of them, as an append-only
log of calls: a `Digraph` is the options it was built with and the `node`/`edge` calls
made on it, an `Axes` the figure size it was made with and the calls made on it. What
the libraries then render from those calls is theirs, not the module's.

The module's two private helpers follow: `_float2str`, the number formatting of every
label, and `_check_not_tuple_of_2_elements`, the shape check of every size and limit.

## Conventions

Python renders a float in two ways that `_float2str` chooses between, `str(x)` and
`"{0:.{p}f}".format(x)`. Neither is computable on `ℚ` as Python computes it on a binary
float, so both are a parameter, `FloatFormat`; no result of the development depends on
the digits they produce. The precision itself is checked by CPython's format
mini-language, and `float2str` keeps its three `ValueError`s: a negative precision leaves
no digits after the `.` of the spec, one above `2**63 - 1` does not fit a `Py_ssize_t`,
and one above `2**31 - 1` does not fit the C `int` the float formatter takes.
-/

namespace LightGBMPlotting

/-- The flags `compat.py` sets once at import time. -/
structure Compat where
  matplotlibInstalled : Bool
  graphvizInstalled : Bool

/-- Python's two renderings of a float: `str(x)`, and `"{0:.{p}f}".format(x)` for a
precision `p ≥ 0`. -/
structure FloatFormat where
  str : ℚ → String
  fixed : ℚ → ℕ → String

/-- A rendering for running the model on concrete inputs: every value as Lean prints a
rational, at any precision. -/
def FloatFormat.plain : FloatFormat := ⟨toString, fun q _ => toString q⟩

/-! ### graphviz -/

/-- A call made on a `Digraph`: `graph.node(name, label=label)` or
`graph.edge(tail_name, head_name, label)`. -/
inductive GraphCall where
  | node (name label : String)
  | edge (tailName headName : String) (label : Option String)
  deriving DecidableEq, Repr

/-- A `graphviz.Digraph`: the keyword arguments it was constructed with, and the calls
made on it since, oldest first. -/
structure Digraph where
  options : PyDict PyObj
  calls : List GraphCall

/-- The `node` calls of a log, as `(name, label)`. -/
def GraphCall.asNode : GraphCall → Option (String × String)
  | .node name label => some (name, label)
  | .edge .. => none

/-- The `edge` calls of a log, as `(tail_name, head_name, label)`. -/
def GraphCall.asEdge : GraphCall → Option (String × String × Option String)
  | .node .. => none
  | .edge tailName headName label => some (tailName, headName, label)

/-- `Digraph(**kwargs)`. -/
def Digraph.new (kwargs : PyDict PyObj) : Digraph := ⟨kwargs, []⟩

/-- `graph.node(name, label=label)`. -/
def Digraph.node (g : Digraph) (name label : String) : Digraph :=
  { g with calls := g.calls ++ [.node name label] }

/-- `graph.edge(tail_name, head_name, label)`. -/
def Digraph.edge (g : Digraph) (tailName headName : String) (label : Option String) :
    Digraph :=
  { g with calls := g.calls ++ [.edge tailName headName label] }

/-- The `node` calls made on a graph, oldest first. -/
def Digraph.nodeCalls (g : Digraph) : List (String × String) := g.calls.filterMap GraphCall.asNode

/-- The `edge` calls made on a graph, oldest first. -/
def Digraph.edgeCalls (g : Digraph) : List (String × String × Option String) :=
  g.calls.filterMap GraphCall.asEdge

@[simp] theorem Digraph.node_options (g : Digraph) (name label : String) :
    (g.node name label).options = g.options := rfl

@[simp] theorem Digraph.node_calls (g : Digraph) (name label : String) :
    (g.node name label).calls = g.calls ++ [.node name label] := rfl

@[simp] theorem Digraph.edge_options (g : Digraph) (t h : String) (l : Option String) :
    (g.edge t h l).options = g.options := rfl

@[simp] theorem Digraph.edge_calls (g : Digraph) (t h : String) (l : Option String) :
    (g.edge t h l).calls = g.calls ++ [.edge t h l] := rfl

/-! ### matplotlib -/

/-- A call made on an `Axes`, with the arguments that vary between calls (the constant
ones, `align='center'`, `va='center'` and `loc='best'`, are left out). -/
inductive AxesCall where
  | barh (y : List ℕ) (width : List ℚ) (height : ℚ) (kwargs : List (String × PyObj))
  | bar (x : List ℚ) (height : List ℕ) (width : ℚ) (kwargs : List (String × PyObj))
  | text (x : ℚ) (y : ℕ) (s : Scalar)
  | plot (x : List ℕ) (y : List ℚ) (label : String)
  | legend
  | setYticks (ticks : List ℕ)
  | setYticklabels (labels : List String)
  | integerYLocator
  | setXlim (lim : PyObj)
  | setYlim (lim : PyObj)
  | setTitle (s : String)
  | setXlabel (s : String)
  | setYlabel (s : String)
  | grid (b : Bool)
  | imshow (graph : Digraph)
  | axisOff

/-- A matplotlib `Axes`: the figure size of the figure it was made in, and the calls
made on it, oldest first. `imshow` records the digraph whose PNG rendering it shows. -/
structure Axes where
  figsize : PyObj
  calls : List AxesCall

/-- `ax.<call>`. -/
def Axes.call (ax : Axes) (c : AxesCall) : Axes := { ax with calls := ax.calls ++ [c] }

@[simp] theorem Axes.call_calls (ax : Axes) (c : AxesCall) :
    (ax.call c).calls = ax.calls ++ [c] := rfl

/-- The calls of a loop over `ax.<call>`, made in order. -/
def Axes.callAll (ax : Axes) (cs : List AxesCall) : Axes := { ax with calls := ax.calls ++ cs }

/-- `if x is not None: ax.<call>(x)`. -/
def Axes.callIf {α : Type} (ax : Axes) (x : Option α) (c : α → AxesCall) : Axes :=
  match x with
  | some a => ax.call (c a)
  | none => ax

@[simp] theorem Axes.callAll_calls (ax : Axes) (cs : List AxesCall) :
    (ax.callAll cs).calls = ax.calls ++ cs := rfl

@[simp] theorem Axes.callAll_nil (ax : Axes) : ax.callAll [] = ax := by
  cases ax
  simp [Axes.callAll]

theorem Axes.call_callAll (ax : Axes) (c : AxesCall) (cs : List AxesCall) :
    (ax.call c).callAll cs = ax.callAll (c :: cs) := by
  simp [Axes.call, Axes.callAll]

@[simp] theorem Axes.callIf_calls {α : Type} (ax : Axes) (x : Option α) (c : α → AxesCall) :
    (ax.callIf x c).calls = ax.calls ++ (x.map c).toList := by
  cases x <;> simp [Axes.callIf]

/-! ### The module's helpers -/

/-- `_check_not_tuple_of_2_elements(obj, obj_name)`: raise `TypeError` unless `obj` is a
tuple of two elements. -/
def checkNotTupleOf2Elements (obj : PyObj) (objName : String) : Except PyError Unit :=
  match obj with
  | .tuple [_, _] => .ok ()
  | _ => .error (.typeError (objName ++ " must be a tuple of 2 elements."))

/-- The check passes exactly the tuples of two elements. -/
theorem checkNotTupleOf2Elements_eq_ok (obj : PyObj) (objName : String) :
    checkNotTupleOf2Elements obj objName = .ok () ↔ ∃ a b, obj = .tuple [a, b] := by
  unfold checkNotTupleOf2Elements
  split <;> simp_all

/-- A failed check names the argument it checked. -/
theorem checkNotTupleOf2Elements_error (obj : PyObj) (objName : String) {e : PyError}
    (h : checkNotTupleOf2Elements obj objName = .error e) :
    e = .typeError (objName ++ " must be a tuple of 2 elements.") := by
  unfold checkNotTupleOf2Elements at h
  split at h <;> simp_all

/-- `if <BACKEND>_INSTALLED: import ... else: raise ImportError(msg)`, the first lines of
every entry point. -/
def requireBackend (installed : Bool) (msg : String) : Except PyError Unit :=
  if installed then .ok () else .error (.importError msg)

@[simp] theorem requireBackend_true (msg : String) : requireBackend true msg = .ok () := rfl

@[simp] theorem requireBackend_false (msg : String) :
    requireBackend false msg = .error (.importError msg) := rfl

/-- The opening of every matplotlib entry point: `if ax is None:` check a given
`figsize`, then `_, ax = plt.subplots(1, 1, figsize=figsize)`; a given `ax` is used as it
is. -/
def subplotsIfNone (ax : Option Axes) (figsize : PyObj) : Except PyError Axes :=
  match ax with
  | some ax => .ok ax
  | none =>
    match figsize with
    | .none => .ok ⟨figsize, []⟩
    | _ => (fun _ => ⟨figsize, []⟩) <$> checkNotTupleOf2Elements figsize "figsize"

/-- `if lim is not None: _check_not_tuple_of_2_elements(lim, name) else: lim = default`,
which every plot runs for each axis before `ax.set_<x|y>lim(lim)`. -/
def limitOrDefault (lim : PyObj) (limName : String) (default : Except PyError PyObj) :
    Except PyError PyObj :=
  match lim with
  | .none => default
  | _ => (fun _ => lim) <$> checkNotTupleOf2Elements lim limName

@[simp] theorem limitOrDefault_none (limName : String) (default : Except PyError PyObj) :
    limitOrDefault .none limName default = default := rfl

/-- A limit that is set fails only its own shape check, and is used as it is. -/
theorem limitOrDefault_of_ne_none {lim : PyObj} (h : lim ≠ .none) (limName : String)
    (default : Except PyError PyObj) :
    limitOrDefault lim limName default = (fun _ => lim) <$> checkNotTupleOf2Elements lim limName := by
  cases lim <;> first | exact absurd rfl h | rfl

/-- A limit fails its own shape check, or its default fails. -/
theorem limitOrDefault_error {lim : PyObj} {limName : String} {default : Except PyError PyObj}
    {e : PyError} (h : limitOrDefault lim limName default = .error e) :
    default = .error e ∨ e = .typeError (limName ++ " must be a tuple of 2 elements.") := by
  unfold limitOrDefault at h
  split at h
  · exact .inl h
  · exact .inr (checkNotTupleOf2Elements_error lim limName (Except.map_eq_error.mp h))

/-- A limit with a default that is computed fails only its own shape check. -/
theorem limitOrDefault_ok_error {lim : PyObj} {limName : String} {d : PyObj} {e : PyError}
    (h : limitOrDefault lim limName (.ok d) = .error e) :
    e = .typeError (limName ++ " must be a tuple of 2 elements.") :=
  (limitOrDefault_error h).resolve_left fun h => by cases h

/-- Opening the axes fails only on a `figsize` that is not a tuple of two. -/
theorem subplotsIfNone_error {ax : Option Axes} {figsize : PyObj} {e : PyError}
    (h : subplotsIfNone ax figsize = .error e) :
    e = .typeError ("figsize" ++ " must be a tuple of 2 elements.") := by
  unfold subplotsIfNone at h
  split at h
  · cases h
  · split at h
    · cases h
    · exact checkNotTupleOf2Elements_error figsize "figsize" (Except.map_eq_error.mp h)

/-- A limit argument that passes its check: `None`, or a tuple of two elements. -/
def LimitOk (lim : PyObj) : Prop := lim = .none ∨ ∃ a b, lim = .tuple [a, b]

/-- A limit that passes its check is the default when it is `None`, and itself otherwise. -/
theorem limitOrDefault_of_limitOk {lim : PyObj} (h : LimitOk lim) (limName : String)
    (d : PyObj) : ∃ l, limitOrDefault lim limName (.ok d) = .ok l ∧ (lim = .none → l = d) := by
  rcases h with rfl | ⟨a, b, rfl⟩
  · exact ⟨d, rfl, fun _ => rfl⟩
  · exact ⟨_, rfl, fun h => PyObj.noConfusion h⟩

/-- `(lo - r * 0.2, hi + r * 0.2)` with `r = hi - lo`: a default limit padded by a fifth
of the span on each side, as the histogram's x-range and the metric plot's y-range are. -/
def paddedRange (lo hi : ℚ) : PyObj :=
  .tuple [.num (lo - (hi - lo) * (1 / 5)), .num (hi + (hi - lo) * (1 / 5))]

/-- The `ValueError` of CPython's format mini-language for the precision `p` of
`"{0:.{p}f}"`, if any: a negative `p` leaves the spec without digits after its `.`, the
spec parser refuses a number beyond `Py_ssize_t`, and the float formatter one beyond
`int`. -/
def precisionError (p : ℤ) : Option PyError :=
  if p < 0 then some (.valueError "Format specifier missing precision")
  else if 2 ^ 63 ≤ p then some (.valueError "Too many decimal digits in format string")
  else if 2 ^ 31 ≤ p then some (.valueError "precision too big")
  else none

/-- A precision passes the format's checks exactly in `[0, 2**31)`. -/
theorem precisionError_eq_none {p : ℤ} : precisionError p = none ↔ 0 ≤ p ∧ p < 2 ^ 31 := by
  unfold precisionError
  split_ifs <;> simp <;> omega

/-- The precision's errors are the format's three `ValueError`s. -/
theorem precisionError_eq_some {p : ℤ} {e : PyError} (h : precisionError p = some e) :
    e = .valueError "Format specifier missing precision" ∨
      e = .valueError "Too many decimal digits in format string" ∨
      e = .valueError "precision too big" := by
  unfold precisionError at h
  split_ifs at h <;> cases h <;> simp

/-- `_float2str(value, precision)`: fixed-point at the given precision for a number,
`str(value)` otherwise. -/
def float2str (fmt : FloatFormat) (value : Scalar) (precision : Option ℤ) :
    Except PyError String :=
  match precision, value with
  | some p, .num x =>
    match precisionError p with
    | some e => .error e
    | none => .ok (fmt.fixed x p.toNat)
  | _, .str s => .ok s
  | none, .num x => .ok (fmt.str x)

/-- Formatting fails only on a number with a precision outside `[0, 2**31)`. -/
theorem float2str_isOk (fmt : FloatFormat) (value : Scalar) (precision : Option ℤ) :
    (float2str fmt value precision).isOk ↔
      ∀ p x, precision = some p → value = .num x → 0 ≤ p ∧ p < 2 ^ 31 := by
  unfold float2str
  split
  · rename_i p x
    have h := @precisionError_eq_none p
    cases hp : precisionError p with
    | none => simpa [Except.isOk, Except.toBool] using h.mp hp
    | some e =>
      simp only [hp, reduceCtorEq, false_iff] at h
      simpa [Except.isOk, Except.toBool] using h
  · simp
  · simp

/-- Every value formats at a precision in `[0, 2**31)`, and without one. -/
theorem float2str_isOk_of (fmt : FloatFormat) (value : Scalar) {precision : Option ℤ}
    (hp : ∀ p, precision = some p → 0 ≤ p ∧ p < 2 ^ 31) : (float2str fmt value precision).isOk :=
  (float2str_isOk fmt value precision).mpr fun p _ h _ => hp p h

/-- Formatting fails only with the precision's `ValueError`. -/
theorem float2str_error {fmt : FloatFormat} {value : Scalar} {precision : Option ℤ}
    {e : PyError} (h : float2str fmt value precision = .error e) :
    ∃ p, precisionError p = some e := by
  unfold float2str at h
  split at h
  · split at h
    · cases h
      exact ⟨_, ‹_›⟩
    · cases h
  · cases h
  · cases h

end LightGBMPlotting
