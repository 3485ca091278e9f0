import Mathlib.Algebra.Order.Ring.Rat
import Mathlib.Data.List.Sort
import Mathlib.Data.Nat.Digits

/-!
# Python Values, Errors and Containers

`plotting.py` is Python, and what its functions compute is only as precise as the part of
Python's data model they touch. This module fixes that part once: the values the code
only passes on (`PyObj`), the exceptions it raises or lets the interpreter raise
(`PyError`), the insertion-ordered `dict` (`PyDict`), list indexing and slicing with
negative indices, `max`/`min` of a list, and `str.replace`/`str.split`.

## Conventions

A Python function is modelled as a Lean function into `Except PyError`: a raise is
`.error`, carrying the exception's class and message, and a return is `.ok`. Python
floats are read as `ℚ`, so the arithmetic of the plotting code (axis padding, running
extrema) is exact. A `dict` is keyed by strings, which every `dict` of the module is.
The messages of the exceptions the interpreter raises itself (a failed unpacking, a
keyword passed twice) are those of CPython 3.7.
-/

namespace LightGBMPlotting

/-! ### Values and exceptions -/

/-- A Python value that the plotting code passes on or tests without looking inside:
keyword arguments, axis limits, figure sizes. `other` is any object of a class the code
never inspects. -/
inductive PyObj where
  | none
  | bool (b : Bool)
  | num (q : ℚ)
  | str (s : String)
  | tuple (items : List PyObj)
  | list (items : List PyObj)
  | dict (items : List (String × PyObj))
  | other
  deriving Repr, Inhabited

/-- Python's truth value of an object (`if x:`). -/
def PyObj.truthy : PyObj → Bool
  | .none => false
  | .bool b => b
  | .num q => q ≠ 0
  | .str s => !s.isEmpty
  | .tuple items | .list items => !items.isEmpty
  | .dict items => !items.isEmpty
  | .other => true

/-- A value that is either a number or a string: what `_float2str` formats, and what
`ax.text` is given to show. -/
inductive Scalar where
  | num (x : ℚ)
  | str (s : String)
  deriving DecidableEq, Repr

/-- An exception, by class and message (a `KeyError` carries the missing key). -/
inductive PyError where
  | importError (msg : String)
  | typeError (msg : String)
  | valueError (msg : String)
  | keyError (key : String)
  | indexError (msg : String)
  /-- `next` on an exhausted iterator. -/
  | stopIteration
  deriving DecidableEq, Repr

/-- Sequencing an `.ok` runs the continuation on its value. -/
@[simp] theorem Except.ok_bind {α β : Type} (a : α) (f : α → Except PyError β) :
    (Except.ok a >>= f) = f a := rfl

/-- Sequencing an `.error` propagates it. -/
@[simp] theorem Except.error_bind {α β : Type} (e : PyError) (f : α → Except PyError β) :
    (Except.error e >>= f) = Except.error e := rfl

/-- A sequenced computation returns only if both halves do. -/
theorem Except.bind_eq_ok {α β : Type} {x : Except PyError α} {f : α → Except PyError β}
    {b : β} : x >>= f = .ok b ↔ ∃ a, x = .ok a ∧ f a = .ok b := by
  cases x <;> simp

/-- A sequenced computation raises the error of its first half, or of its second. -/
theorem Except.bind_eq_error {α β : Type} {x : Except PyError α} {f : α → Except PyError β}
    {e : PyError} : x >>= f = .error e ↔ x = .error e ∨ ∃ a, x = .ok a ∧ f a = .error e := by
  cases x <;> simp

/-- A mapped computation raises what the computation raises. -/
theorem Except.map_eq_error {α β : Type} {f : α → β} {x : Except PyError α} {e : PyError} :
    f <$> x = .error e ↔ x = .error e := by
  cases x <;> simp

/-- A mapped computation returns only if the computation does. -/
theorem Except.map_eq_ok {α β : Type} {f : α → β} {x : Except PyError α} {b : β} :
    f <$> x = .ok b ↔ ∃ a, x = .ok a ∧ f a = b := by
  cases x <;> simp

@[simp] theorem Except.isOk_ok {α : Type} (a : α) : (Except.ok a : Except PyError α).isOk = true :=
  rfl

@[simp] theorem Except.isOk_error {α : Type} (e : PyError) :
    (Except.error e : Except PyError α).isOk = false := rfl

@[simp] theorem Except.isOk_map {α β : Type} (f : α → β) (x : Except PyError α) :
    (f <$> x).isOk = x.isOk := by
  cases x <;> rfl

theorem Except.exists_eq_ok {α : Type} {x : Except PyError α} (h : x.isOk) :
    ∃ a, x = .ok a := by
  cases x with
  | error e => exact absurd h Bool.false_ne_true
  | ok a => exact ⟨a, rfl⟩

/-- A loop of checks passes exactly when every check does. -/
theorem forM_eq_ok_iff {α : Type} (l : List α) (f : α → Except PyError Unit) :
    l.forM f = .ok () ↔ ∀ a ∈ l, f a = .ok () := by
  induction l with
  | nil => simp [pure, Except.pure]
  | cons a l ih => cases h : f a <;> simp [h, ih]

/-- A loop of checks fails with the error of its first failing check. -/
theorem forM_eq_error_iff {α : Type} (l : List α) (f : α → Except PyError Unit) (e : PyError) :
    l.forM f = .error e ↔
      ∃ pre a post, l = pre ++ a :: post ∧ (∀ b ∈ pre, f b = .ok ()) ∧ f a = .error e := by
  induction l with
  | nil => simp [pure, Except.pure]
  | cons a l ih =>
    cases h : f a with
    | error e' =>
      simp only [List.forM_cons', h, Except.error_bind, Except.error.injEq]
      constructor
      · rintro rfl
        exact ⟨[], a, l, rfl, by simp, h⟩
      · rintro ⟨pre, b, post, hl, hpre, hb⟩
        cases pre with
        | nil => simp_all
        | cons c pre => simp_all
    | ok u =>
      simp only [List.forM_cons', h, Except.ok_bind, ih]
      constructor
      · rintro ⟨pre, b, post, rfl, hpre, hb⟩
        exact ⟨a :: pre, b, post, rfl, by simp_all, hb⟩
      · rintro ⟨pre, b, post, hl, hpre, hb⟩
        cases pre with
        | nil => simp_all
        | cons c pre =>
          simp only [List.cons_append, List.cons.injEq] at hl
          exact ⟨pre, b, post, hl.2, fun x hx => hpre x (.tail _ hx), hb⟩

/-- A map that raises, raises the error of one of its steps. -/
theorem mapM_eq_error {α β : Type} {l : List α} {f : α → Except PyError β} {e : PyError}
    (h : l.mapM f = .error e) : ∃ a ∈ l, f a = .error e := by
  induction l with
  | nil => cases h
  | cons a l ih =>
    rw [List.mapM_cons] at h
    rcases Except.bind_eq_error.mp h with hfa | ⟨b, -, h⟩
    · exact ⟨a, .head _, hfa⟩
    rcases Except.bind_eq_error.mp h with hl | ⟨bs, -, h⟩
    · obtain ⟨x, hx, hfx⟩ := ih hl
      exact ⟨x, .tail _ hx, hfx⟩
    · cases h

/-- A map whose every step returns, returns. -/
theorem mapM_isOk_of {α β : Type} {l : List α} {f : α → Except PyError β}
    (h : ∀ a ∈ l, (f a).isOk) : (l.mapM f).isOk := by
  cases hm : l.mapM f with
  | ok _ => rfl
  | error e =>
    obtain ⟨a, ha, hfa⟩ := mapM_eq_error hm
    exact absurd (h a ha) (by simp [hfa])

/-- A map that returns relates each element to what its step returned. -/
theorem forall₂_of_mapM_eq_ok {α β : Type} {l : List α} {f : α → Except PyError β}
    {bs : List β} (h : l.mapM f = .ok bs) : List.Forall₂ (fun a b => f a = .ok b) l bs := by
  induction l generalizing bs with
  | nil =>
    cases h
    exact .nil
  | cons a l ih =>
    rw [List.mapM_cons] at h
    obtain ⟨b, hb, h⟩ := Except.bind_eq_ok.mp h
    obtain ⟨bs', hbs, h⟩ := Except.bind_eq_ok.mp h
    cases h
    exact .cons hb (ih hbs)

/-- A map whose every step returns returns the mapped list. -/
theorem mapM_eq_ok_of {α β : Type} {l : List α} {f : α → Except PyError β} {g : α → β}
    (h : ∀ a ∈ l, f a = .ok (g a)) : l.mapM f = .ok (l.map g) := by
  induction l with
  | nil => rfl
  | cons a l ih =>
    simp only [List.mapM_cons, h a (.head _), ih fun b hb => h b (.tail _ hb)]
    rfl

/-! ### `dict` -/

/-- A Python `dict` with string keys: its items in insertion order, which is the order
`keys()`, iteration and `popitem()` see, and no key twice. -/
structure PyDict (α : Type) where
  items : List (String × α)
  nodup : (items.map Prod.fst).Nodup

namespace PyDict

variable {α : Type}

/-- The empty `dict`. -/
def empty : PyDict α := ⟨[], List.nodup_nil⟩

/-- `d.keys()`, in insertion order. -/
def keys (d : PyDict α) : List String := d.items.map Prod.fst

/-- `d.get(k)`: the value at `k`, if any. -/
def get? (d : PyDict α) (k : String) : Option α := d.items.lookup k

/-- `k in d`. -/
def contains (d : PyDict α) (k : String) : Bool := (d.get? k).isSome

/-- Two `dict`s with the same items are the same. -/
@[ext] theorem ext {d d' : PyDict α} (h : d.items = d'.items) : d = d' := by
  cases d
  cases d'
  cases h
  rfl

/-- A key is in a `dict` exactly when it is one of its keys. -/
theorem contains_iff (d : PyDict α) (k : String) : d.contains k ↔ k ∈ d.keys := by
  simp only [contains, get?, keys, List.lookup_isSome_iff, beq_iff_eq, List.mem_map]
  exact exists_congr fun _ => and_congr_right fun _ => eq_comm

theorem get?_eq_none {d : PyDict α} {k : String} (h : k ∉ d.keys) : d.get? k = none := by
  have : ¬d.contains k := fun hc => h ((contains_iff d k).mp hc)
  simpa [contains] using this

/-- `d[k]`, raising `KeyError(k)` on a missing key. -/
def getItem (d : PyDict α) (k : String) : Except PyError α :=
  match d.get? k with
  | some v => .ok v
  | none => .error (.keyError k)

/-- `d[k] = v`: an existing key keeps its place and takes the new value; a new key is
appended. -/
def setItem (d : PyDict α) (k : String) (v : α) : PyDict α :=
  if h : d.contains k then
    ⟨d.items.map (fun p => if p.1 = k then (k, v) else p), by
      have : (d.items.map (fun p => if p.1 = k then (k, v) else p)).map Prod.fst =
          d.items.map Prod.fst := by
        simp only [List.map_map]
        exact List.map_congr_left fun p _ => by by_cases hp : p.1 = k <;> simp [hp]
      exact this ▸ d.nodup⟩
  else
    ⟨d.items ++ [(k, v)], by
      rw [contains_iff] at h
      simpa [keys] using d.nodup.concat h⟩

/-- `d.popitem()`: remove and return the last inserted item, raising `KeyError` on an
empty `dict`. -/
def popitem (d : PyDict α) : Except PyError ((String × α) × PyDict α) :=
  match d.items.getLast? with
  | some p => .ok (p, ⟨d.items.dropLast, d.nodup.sublist ((List.dropLast_sublist _).map _)⟩)
  | none => .error (.keyError "popitem(): dictionary is empty")

/-- The last key of a `dict` is none of the keys before it. -/
theorem last_ne_front {d : PyDict α} {ys : List (String × α)} {k : String} {v : α}
    (hys : d.items = ys ++ [(k, v)]) : ∀ p ∈ ys, (k != p.1) = true := by
  have hnd := d.nodup
  rw [hys, List.map_append, List.nodup_append] at hnd
  exact fun p hp => bne_iff_ne.mpr fun hkp =>
    hnd.2.2 (List.mem_map_of_mem _ hp) (List.mem_singleton.mpr hkp.symm)

/-- The items whose key satisfies `p`, in order. -/
def filterKeys (d : PyDict α) (p : String → Bool) : PyDict α :=
  ⟨d.items.filter (p ·.1), d.nodup.sublist ((List.filter_sublist _).map _)⟩

/-- A key that is absent is appended by `d[k] = v`. -/
theorem setItem_items_of_not_contains {d : PyDict α} {k : String} (h : ¬d.contains k)
    (v : α) : (d.setItem k v).items = d.items ++ [(k, v)] := by
  simp [setItem, h]

/-- `d[k] = v` leaves the keys of `d` alone when `k` is one of them, and appends `k`
otherwise. -/
theorem keys_setItem (d : PyDict α) (k : String) (v : α) :
    (d.setItem k v).keys = if d.contains k then d.keys else d.keys ++ [k] := by
  by_cases h : d.contains k
  · simp only [setItem, h, dite_true, if_true, keys, List.map_map]
    exact List.map_congr_left fun p _ => by by_cases hp : p.1 = k <;> simp [hp]
  · simp [setItem, h, keys]

/-- After `d[k] = v`, the keys are those of `d` and `k`. -/
theorem contains_setItem (d : PyDict α) (k k' : String) (v : α) :
    (d.setItem k v).contains k' ↔ k' = k ∨ d.contains k' := by
  rw [contains_iff, contains_iff, keys_setItem]
  by_cases h : d.contains k
  · rw [if_pos h, iff_or_self]
    rintro rfl
    exact (contains_iff d k').mp h
  · simp [h, or_comm]

theorem lookup_map_replace_of_ne (k k' : String) (v : α) (h : k' ≠ k) :
    ∀ l : List (String × α), (l.map fun p => if p.1 = k then (k, v) else p).lookup k' = l.lookup k'
  | [] => rfl
  | (a, b) :: l => by
    have ih := lookup_map_replace_of_ne k k' v h l
    by_cases ha : a = k
    · subst ha
      have hk : (k' == a) = false := by simpa using h
      simp only [List.map_cons, if_true, List.lookup_cons, hk, ih]
    · simp only [List.map_cons, ha, if_false, List.lookup_cons, ih]

theorem lookup_map_replace_self (k : String) (v : α) :
    ∀ l : List (String × α), (∃ x, (k, x) ∈ l) →
      (l.map fun p => if p.1 = k then (k, v) else p).lookup k = some v
  | [], h => by simp at h
  | (a, b) :: l, h => by
    by_cases ha : a = k
    · simp [ha]
    · have hk : (k == a) = false := by simpa using Ne.symm ha
      have hl : ∃ x, (k, x) ∈ l := by
        obtain ⟨x, hx⟩ := h
        rcases List.mem_cons.mp hx with hx | hx
        · exact absurd (congrArg Prod.fst hx).symm ha
        · exact ⟨x, hx⟩
      simp only [List.map_cons, ha, if_false, List.lookup_cons, hk]
      exact lookup_map_replace_self k v l hl

/-- `d[k] = v` leaves every other key's value alone. -/
theorem get?_setItem_of_ne (d : PyDict α) {k k' : String} (v : α) (h : k' ≠ k) :
    (d.setItem k v).get? k' = d.get? k' := by
  have hk : (k' == k) = false := by simpa using h
  by_cases hc : d.contains k
  · simp only [setItem, hc, dite_true, get?]
    exact lookup_map_replace_of_ne k k' v h d.items
  · simp [setItem, hc, get?, List.lookup_append, List.lookup_cons, hk]

/-- `d[k] = v` on a key of `d` gives `k` the value `v`. -/
theorem get?_setItem_self {d : PyDict α} {k : String} (h : d.contains k) (v : α) :
    (d.setItem k v).get? k = some v := by
  simp only [setItem, h, dite_true, get?]
  rw [contains, get?, List.lookup_isSome_iff] at h
  obtain ⟨p, hp, hkp⟩ := h
  rw [beq_iff_eq] at hkp
  exact lookup_map_replace_self k v d.items ⟨p.2, hkp ▸ hp⟩

/-- The item `popitem()` returns is the value of its key. -/
theorem get?_of_getLast? {d : PyDict α} {k : String} {v : α}
    (h : d.items.getLast? = some (k, v)) : d.get? k = some v := by
  obtain ⟨ys, hys⟩ := List.getLast?_eq_some_iff.mp h
  rw [get?, hys, List.lookup_append, List.lookup_eq_none_iff.mpr (last_ne_front hys)]
  simp

end PyDict

/-! ### Lists -/

/-- Python's `xs[i]` on a list: a negative index counts from the end, and an index out of
range raises `IndexError`. -/
def listIndex {α : Type} (xs : List α) (i : ℤ) : Except PyError α :=
  let j := if 0 ≤ i then i else i + xs.length
  match (if 0 ≤ j then xs[j.toNat]? else none) with
  | some x => .ok x
  | none => .error (.indexError "list index out of range")

/-- `xs[-1]` is the last element. -/
theorem listIndex_neg_one {α : Type} {xs : List α} {x : α} (h : xs.getLast? = some x) :
    listIndex xs (-1) = .ok x := by
  have hlen : 0 < xs.length := List.length_pos.mpr (by rintro rfl; simp at h)
  have hj : (-1 + (xs.length : ℤ)).toNat = xs.length - 1 := by omega
  rw [List.getLast?_eq_getElem?] at h
  simp only [listIndex, show ¬(0 : ℤ) ≤ -1 by decide, if_false,
    show (0 : ℤ) ≤ -1 + xs.length by omega, if_true, hj, h]

/-- Python's `xs[start:]`: a negative `start` counts from the end, and a start beyond
either end is clamped to it. -/
def sliceFrom {α : Type} (xs : List α) (start : ℤ) : List α :=
  if 0 ≤ start then xs.drop start.toNat else xs.drop (xs.length - start.natAbs)

/-- `xs[-k:]` for a positive `k`: the last `k` elements, or all of them. -/
theorem sliceFrom_neg_of_pos {α : Type} {xs : List α} {k : ℤ} (hk : 0 < k) :
    sliceFrom xs (-k) = xs.drop (xs.length - k.toNat) := by
  have hneg : ¬0 ≤ -k := by omega
  simp only [sliceFrom, hneg, if_false, Int.natAbs_neg]
  congr 2
  omega

/-- Python's `max(xs)`, raising `ValueError` on an empty sequence. -/
def pyMax (xs : List ℚ) : Except PyError ℚ :=
  match xs.max? with
  | some m => .ok m
  | none => .error (.valueError "max() arg is an empty sequence")

/-- What `max` returns is the greatest element. -/
theorem pyMax_eq_ok_iff {xs : List ℚ} {m : ℚ} : pyMax xs = .ok m ↔ m ∈ xs ∧ ∀ v ∈ xs, v ≤ m := by
  haveI : Std.Antisymm (fun x y : ℚ => x ≤ y) := ⟨fun h h' => le_antisymm h h'⟩
  rw [← List.max?_eq_some_iff le_refl max_choice (fun _ _ _ => max_le_iff)]
  unfold pyMax
  split <;> simp_all

/-- `max` raises only on an empty list. -/
theorem pyMax_eq_error {xs : List ℚ} {e : PyError} (h : pyMax xs = .error e) :
    e = .valueError "max() arg is an empty sequence" := by
  unfold pyMax at h
  split at h <;> simp_all

/-- `max` of a non-empty list is its greatest element. -/
theorem pyMax_eq_ok {xs : List ℚ} (h : xs ≠ []) :
    ∃ m, pyMax xs = .ok m ∧ m ∈ xs ∧ ∀ v ∈ xs, v ≤ m := by
  obtain ⟨m, hm⟩ := Option.ne_none_iff_exists'.mp (mt List.max?_eq_none_iff.mp h)
  exact ⟨m, by simp [pyMax, hm], List.max?_mem max_choice hm,
    (List.max?_le_iff (fun _ _ _ => max_le_iff) hm).mp le_rfl⟩

/-- Python's `min(xs)`, raising `ValueError` on an empty sequence. -/
def pyMin (xs : List ℚ) : Except PyError ℚ :=
  match xs.min? with
  | some m => .ok m
  | none => .error (.valueError "min() arg is an empty sequence")

/-- `min` of a non-empty list is its least element. -/
theorem pyMin_eq_ok {xs : List ℚ} (h : xs ≠ []) :
    ∃ m, pyMin xs = .ok m ∧ m ∈ xs ∧ ∀ v ∈ xs, m ≤ v := by
  obtain ⟨m, hm⟩ := Option.ne_none_iff_exists'.mp (mt List.min?_eq_none_iff.mp h)
  exact ⟨m, by simp [pyMin, hm], List.min?_mem min_choice hm,
    (List.le_min?_iff (fun _ _ _ => le_min_iff) hm).mp le_rfl⟩

/-- `next(it)` on an iterator over a list: its first element and the rest. -/
def pyNext {α : Type} : List α → Except PyError (α × List α)
  | x :: rest => .ok (x, rest)
  | [] => .error .stopIteration

/-! ### Statements and calls -/

/-- `if cond: raise e`. -/
def raiseIf (cond : Bool) (e : PyError) : Except PyError Unit :=
  if cond then .error e else .ok ()

@[simp] theorem raiseIf_false (e : PyError) : raiseIf false e = .ok () := rfl

@[simp] theorem raiseIf_true (e : PyError) : raiseIf true e = .error e := rfl

/-- The interpreter's message for an argument passed twice. -/
def multipleValues (callee kind k : String) : String :=
  callee ++ "() got multiple values for " ++ kind ++ " '" ++ k ++ "'"

/-- Python's binding of `**kwargs` in a call that already passes the arguments `names`:
a key among them raises `TypeError`. -/
def checkDuplicateArgs (callee kind : String) (names : List String) (kwargs : PyDict PyObj) :
    Except PyError Unit :=
  match kwargs.keys.find? (· ∈ names) with
  | some k => .error (.typeError (multipleValues callee kind k))
  | none => .ok ()

/-- A keyword passed twice is the only error of the binding, and it names the keyword. -/
theorem checkDuplicateArgs_error {callee kind : String} {names : List String}
    {kwargs : PyDict PyObj} {e : PyError} (h : checkDuplicateArgs callee kind names kwargs = .error e) :
    ∃ k ∈ names, e = .typeError (multipleValues callee kind k) := by
  unfold checkDuplicateArgs at h
  split at h
  · rename_i k hk
    cases h
    exact ⟨k, by simpa using List.find?_some hk, rfl⟩
  · cases h

/-- The binding passes when none of the names already passed is a keyword. -/
theorem checkDuplicateArgs_eq_ok {callee kind : String} {names : List String}
    {kwargs : PyDict PyObj} (h : ∀ k ∈ names, k ∉ kwargs.keys) :
    checkDuplicateArgs callee kind names kwargs = .ok () := by
  rw [checkDuplicateArgs, List.find?_eq_none.mpr fun k hk hn => h k (by simpa using hn) hk]

/-! ### Decimal rendering

`str(n)` of a non-negative Python `int` is Lean's `toString n`. The plotting code builds
graph node names from it, so it matters that distinct numbers render distinctly. -/

/-- The decimal digits of `n`: those of `n / 10`, unless that is zero, then the last
digit. -/
theorem toDigitsCore_eq : ∀ n f (ds : List Char), n < f →
    Nat.toDigitsCore 10 f n ds =
      (if n / 10 = 0 then [] else Nat.toDigits 10 (n / 10)) ++ Nat.digitChar (n % 10) :: ds := by
  intro n
  induction n using Nat.strong_induction_on with
  | _ n ih =>
    intro f ds hf
    obtain ⟨f, rfl⟩ : ∃ f', f = f' + 1 := ⟨f - 1, by omega⟩
    by_cases h0 : n / 10 = 0
    · simp [Nat.toDigitsCore, h0]
    · have hlt : n / 10 < n := Nat.div_lt_self (by omega) (by omega)
      have e : Nat.toDigits 10 (n / 10) = (if n / 10 / 10 = 0 then [] else
          Nat.toDigits 10 (n / 10 / 10)) ++ [Nat.digitChar (n / 10 % 10)] :=
        ih _ hlt _ [] (by omega)
      simp only [Nat.toDigitsCore, h0, if_false, ite_false]
      rw [ih _ hlt f _ (by omega), e]
      simp

theorem toDigits_eq (n : ℕ) : Nat.toDigits 10 n =
    (if n / 10 = 0 then [] else Nat.toDigits 10 (n / 10)) ++ [Nat.digitChar (n % 10)] :=
  toDigitsCore_eq n (n + 1) [] (by omega)

theorem digitChar_inj : ∀ a b : Fin 10, Nat.digitChar a = Nat.digitChar b → a = b := by
  decide

/-- Distinct numbers have distinct decimal digits. -/
theorem toDigits_injective : Function.Injective (Nat.toDigits 10) := by
  intro n
  induction n using Nat.strong_induction_on with
  | _ n ih =>
    intro m h
    rw [toDigits_eq n, toDigits_eq m] at h
    obtain ⟨hinit, hlast⟩ := List.append_inj' h rfl
    have hmod : n % 10 = m % 10 := by
      have := digitChar_inj ⟨n % 10, Nat.mod_lt _ (by omega)⟩
        ⟨m % 10, Nat.mod_lt _ (by omega)⟩ (by simpa using hlast)
      simpa using this
    have hdiv : n / 10 = m / 10 := by
      by_cases hn : n / 10 = 0 <;> by_cases hm : m / 10 = 0 <;>
        simp only [hn, hm, if_true, if_false] at hinit
      · omega
      · rw [toDigits_eq] at hinit; simp at hinit
      · rw [toDigits_eq] at hinit; simp at hinit
      · exact ih _ (Nat.div_lt_self (by omega) (by omega)) hinit
    omega

/-- `str` is injective on non-negative integers. -/
theorem natToString_injective : Function.Injective (fun n : ℕ => toString n) := by
  intro n m h
  have : (Nat.toDigits 10 n).asString = (Nat.toDigits 10 m).asString := h
  exact toDigits_injective (by simpa [List.asString] using congrArg String.data this)

theorem digitChar_mem_digits : ∀ a : Fin 10, Nat.digitChar a ∈ "0123456789".data := by
  decide

/-- The decimal digits of a number are digits. -/
theorem mem_toDigits {n : ℕ} {c : Char} (h : c ∈ Nat.toDigits 10 n) :
    c ∈ "0123456789".data := by
  induction n using Nat.strong_induction_on with
  | _ n ih =>
    rw [toDigits_eq, List.mem_append, List.mem_singleton] at h
    rcases h with h | rfl
    · split at h
      · exact absurd h (List.not_mem_nil c)
      · exact ih _ (Nat.div_lt_self (by omega) (by omega)) h
    · exact digitChar_mem_digits ⟨n % 10, Nat.mod_lt _ (by omega)⟩

theorem toDigits_ne_nil (n : ℕ) : Nat.toDigits 10 n ≠ [] := by
  rw [toDigits_eq]
  exact List.append_ne_nil_of_right_ne_nil _ (List.cons_ne_nil _ _)

/-- `str(i)` of a Python `int` is a sign and digits, and never empty. -/
theorem intToString_data (i : ℤ) :
    (toString i).data ≠ [] ∧ ∀ c ∈ (toString i).data, c ∈ "-0123456789".data := by
  cases i with
  | ofNat m =>
    refine ⟨toDigits_ne_nil m, fun c hc => ?_⟩
    exact List.mem_cons_of_mem _ (mem_toDigits hc)
  | negSucc m =>
    refine ⟨List.cons_ne_nil _ _, fun c hc => ?_⟩
    rcases List.mem_cons.mp hc with rfl | hc
    · exact List.mem_cons_self _ _
    · exact List.mem_cons_of_mem _ (mem_toDigits hc)

/-! ### Strings -/

/-- The left-to-right scan of `str.replace`: at a match of `old` it emits `new` and then
drops the `skip` characters left of that match. -/
def replaceScan (old new : List Char) : ℕ → List Char → List Char
  | _, [] => []
  | skip + 1, _ :: s => replaceScan old new skip s
  | 0, c :: s =>
    if old.isPrefixOf (c :: s) then new ++ replaceScan old new (old.length - 1) s
    else c :: replaceScan old new 0 s

/-- Python's `s.replace(old, new)` for a non-empty `old`: every occurrence of `old`,
leftmost first and without overlaps, is replaced by `new`. -/
def strReplace (s old new : String) : String :=
  ⟨replaceScan old.data new.data 0 s.data⟩

/-- The left-to-right scan of `str.split`: `cur` holds the current piece, reversed. -/
def splitScan (sep : List Char) : ℕ → List Char → List Char → List (List Char)
  | _, cur, [] => [cur.reverse]
  | skip + 1, cur, _ :: s => splitScan sep skip cur s
  | 0, cur, c :: s =>
    if sep.isPrefixOf (c :: s) then cur.reverse :: splitScan sep (sep.length - 1) [] s
    else splitScan sep 0 (c :: cur) s

/-- Python's `s.split(sep)` for a non-empty `sep`: the pieces between the occurrences of
`sep`, leftmost first and without overlaps. -/
def strSplit (s sep : String) : List String :=
  (splitScan sep.data 0 [] s.data).map String.mk

example : strReplace "a@x@b@x@" "@x@" "-" = "a-b-" := by decide
example : strSplit "a@x@b@x@" "@x@" = ["a", "b", ""] := by decide

/-! ### `replace` as `join` of `split`, and where a second `replace` stops

`s.replace(old, new) == new.join(s.split(old))`: both scans find the same occurrences.
A second `replace` of a pattern `p` then acts piece by piece, provided the text `new`
joining the pieces is non-empty and shares no character with `p`: no occurrence of `p`
can then reach into it. -/

theorem intercalate_cons_cons {α : Type} (sep a b : List α) (l : List (List α)) :
    sep.intercalate (a :: b :: l) = a ++ sep ++ sep.intercalate (b :: l) := by
  simp [List.intercalate, List.intersperse_cons₂]

theorem intercalate_append_head {α : Type} (sep x y : List α) (l : List (List α)) :
    sep.intercalate ((x ++ y) :: l) = x ++ sep.intercalate (y :: l) := by
  cases l <;> simp [List.intercalate, List.intersperse_cons₂]

/-- `String.intercalate` joins the characters of its pieces. -/
theorem String.intercalate_data (sep : String) (l : List String) :
    (sep.intercalate l).data = sep.data.intercalate (l.map String.data) := by
  have go : ∀ (acc : String) (l : List String), (String.intercalate.go acc sep l).data =
      sep.data.intercalate (acc.data :: l.map String.data) := by
    intro acc l
    induction l generalizing acc with
    | nil => simp [String.intercalate.go, List.intercalate]
    | cons a l ih =>
      rw [String.intercalate.go, ih, List.map_cons, intercalate_cons_cons]
      exact intercalate_append_head _ _ _ _
  cases l with
  | nil => rfl
  | cons a l => exact go a l

theorem splitScan_ne_nil (sep : List Char) :
    ∀ skip (cur cs : List Char), splitScan sep skip cur cs ≠ []
  | _, _, [] => by simp [splitScan]
  | skip + 1, cur, _ :: s => splitScan_ne_nil sep skip cur s
  | 0, cur, c :: s => by
    unfold splitScan
    split
    · exact List.cons_ne_nil _ _
    · exact splitScan_ne_nil sep 0 (c :: cur) s

/-- **`replace` is `join` of `split`**, scan by scan: `cur` is the piece `splitScan` has
read so far, which `replaceScan` has already emitted. -/
theorem replaceScan_eq_intercalate (old new : List Char) :
    ∀ skip (cur cs : List Char),
      cur.reverse ++ replaceScan old new skip cs = new.intercalate (splitScan old skip cur cs)
  | _, cur, [] => by simp [replaceScan, splitScan, List.intercalate]
  | skip + 1, cur, _ :: s => replaceScan_eq_intercalate old new skip cur s
  | 0, cur, c :: s => by
    unfold replaceScan splitScan
    split
    · have ih := replaceScan_eq_intercalate old new (old.length - 1) [] s
      obtain ⟨p, ps, hps⟩ := List.exists_cons_of_ne_nil (splitScan_ne_nil old (old.length - 1) [] s)
      rw [List.reverse_nil, List.nil_append] at ih
      rw [ih, hps, intercalate_cons_cons, List.append_assoc]
    · have ih := replaceScan_eq_intercalate old new 0 (c :: cur) s
      rwa [List.reverse_cons, List.append_assoc, List.singleton_append] at ih

/-- A pattern is a prefix of `y ++ c :: r` only if it is one of `y`, when `c` is not in it. -/
theorem isPrefixOf_append_cons {c : Char} (r : List Char) :
    ∀ {old : List Char} (y : List Char), c ∉ old →
      old.isPrefixOf (y ++ c :: r) = old.isPrefixOf y
  | [], _, _ => by simp
  | o :: os, [], hc => by
    have hoc : o ≠ c := fun h => hc (h ▸ List.mem_cons_self o os)
    simp [List.isPrefixOf_cons₂, hoc]
  | o :: os, z :: zs, hc => by
    simp only [List.cons_append, List.isPrefixOf_cons₂]
    rw [isPrefixOf_append_cons r zs fun h => hc (List.mem_cons_of_mem o h)]

/-- A character not in a non-empty pattern splits the scan in two. -/
theorem replaceScan_append_cons {old new : List Char} (hold : old ≠ []) {c : Char}
    (hc : c ∉ old) (rest : List Char) :
    ∀ (a : List Char) skip, skip ≤ a.length →
      replaceScan old new skip (a ++ c :: rest) =
        replaceScan old new skip a ++ c :: replaceScan old new 0 rest
  | [], skip, hskip => by
    obtain rfl : skip = 0 := Nat.le_zero.mp hskip
    obtain ⟨o, os, rfl⟩ := List.exists_cons_of_ne_nil hold
    have hoc : o ≠ c := fun h => hc (h ▸ List.mem_cons_self o os)
    simp [replaceScan, List.isPrefixOf_cons₂, hoc]
  | x :: a, skip + 1, hskip =>
    replaceScan_append_cons hold hc rest a skip (by simp at hskip; omega)
  | x :: a, 0, _ => by
    simp only [List.cons_append, replaceScan, List.append_eq]
    rw [← List.cons_append, isPrefixOf_append_cons rest _ hc]
    split
    · rename_i hpre
      have hlen := (List.isPrefixOf_iff_prefix.mp hpre).length_le
      simp only [List.length_cons] at hlen
      rw [replaceScan_append_cons hold hc rest a _ (by omega), List.append_assoc]
    · rw [replaceScan_append_cons hold hc rest a 0 (Nat.zero_le _), List.cons_append]

/-- Text made of characters not in the pattern passes through the scan unchanged. -/
theorem replaceScan_append_of_not_mem {old new : List Char} (hold : old ≠ []) :
    ∀ (s rest : List Char), (∀ c ∈ s, c ∉ old) →
      replaceScan old new 0 (s ++ rest) = s ++ replaceScan old new 0 rest
  | [], _, _ => rfl
  | c :: s, rest, hs => by
    have h := @replaceScan_append_cons old new hold c (hs c (List.mem_cons_self c s)) (s ++ rest)
      [] 0 le_rfl
    rw [List.nil_append] at h
    rw [List.cons_append, h, replaceScan_append_of_not_mem hold s rest
      fun d hd => hs d (List.mem_cons_of_mem c hd)]
    rfl

/-- **A `replace` acts piece by piece** on pieces joined by a non-empty text that shares
no character with the pattern. -/
theorem replaceScan_intercalate {old new sep : List Char} (hold : old ≠ []) (hsep : sep ≠ [])
    (hchars : ∀ c ∈ sep, c ∉ old) :
    ∀ pieces : List (List Char), replaceScan old new 0 (sep.intercalate pieces) =
      sep.intercalate (pieces.map (replaceScan old new 0))
  | [] => rfl
  | [a] => by simp [List.intercalate]
  | a :: b :: l => by
    obtain ⟨c, s, rfl⟩ := List.exists_cons_of_ne_nil hsep
    rw [intercalate_cons_cons, List.append_assoc, List.cons_append,
      replaceScan_append_cons hold (hchars c (List.mem_cons_self c s)) _ a 0 (Nat.zero_le _),
      replaceScan_append_of_not_mem hold s _ fun d hd => hchars d (List.mem_cons_of_mem c hd),
      replaceScan_intercalate hold hsep hchars (b :: l)]
    simp only [List.map_cons, intercalate_cons_cons, List.append_assoc, List.cons_append]

/-- **Two `replace`s as one substitution.** Replacing `sep` by `s`, then `old` by `w`,
is the same as replacing `old` by `w` in each piece between the occurrences of `sep` and
joining the pieces with `s`, when `s` is non-empty and shares no character with `old`. -/
theorem strReplace_strReplace_eq_intercalate (t sep s old w : String) (hold : old.data ≠ [])
    (hs : s.data ≠ []) (hchars : ∀ c ∈ s.data, c ∉ old.data) :
    strReplace (strReplace t sep s) old w = s.intercalate ((strSplit t sep).map (strReplace · old w)) := by
  apply String.ext
  have hsplit := replaceScan_eq_intercalate sep.data s.data 0 [] t.data
  rw [List.reverse_nil, List.nil_append] at hsplit
  rw [String.intercalate_data, strSplit, List.map_map, List.map_map]
  show replaceScan old.data w.data 0 (replaceScan sep.data s.data 0 t.data) = _
  rw [hsplit, replaceScan_intercalate hold hs hchars]
  rfl

end LightGBMPlotting
