import LightGBMPlotting.Backends
import Mathlib.Tactic.Linarith

/-!
# The Metric Plot

`plot_metric` draws one metric's value at each training iteration, one line per dataset.
It works on a `deepcopy` of the evaluation record and iterates over the dataset names with
one iterator: `next` takes the first name, picks the metric from that dataset's metrics
dict (the given one, or else the item `popitem()` removes from the dict), and plots it;
the `for` loop then plots the rest of the iterator, keeping the running maximum and minimum
of every plotted value for the default y-range.

`deepcopy` copies a dict that several dataset names share once, so the copy shares it
the same way, and `EvalResults` keeps that sharing. `popitem()` removes the metric from
the first dataset's dict, so every later name referring to that dict (the first name
again, or another name sharing it) finds the metric gone and raises `KeyError`. With a
given `metric`, or names none of which refers to the first dataset's dict, every name is
plotted once.

## Main results

* `plotRest_eq` — the loop's run lemma: one `plot` call per remaining name, in order, and
  the running extrema are the greatest and least of everything plotted so far.
* `plotRest_raises_at_first_dict` — the loop raises `KeyError` at the first name that
  refers to the dict `popitem()` emptied.
* `plotMetric_plots_each_dataset` — the whole plot: one line per name of the iterator,
  in order, the default x-range `(0, N)`, and the default y-range padded around the least
  and greatest plotted values, which therefore lie inside it.
* `plotMetric_raises_of_first_repeats` — with no `metric` given, the plot raises
  `KeyError` wherever the first name comes back.
-/

namespace LightGBMPlotting

/-! ### The evaluation record -/

namespace EvalResults

/-- The metrics of dataset `name`, if the record has it. -/
def get? (R : EvalResults) (name : String) : Option (PyDict (List ℚ)) :=
  (R.refs.get? name).map R.dicts

/-- `eval_results[name]`, raising `KeyError(name)` on a missing name. -/
def getItem (R : EvalResults) (name : String) : Except PyError (PyDict (List ℚ)) :=
  R.dicts <$> R.refs.getItem name

/-- The record after the dict of identity `i` has become `d`, under every name referring
to it. -/
def setDict (R : EvalResults) (i : ℕ) (d : PyDict (List ℚ)) : EvalResults :=
  { R with dicts := fun j => if j = i then d else R.dicts j }

theorem getItem_of_get? {R : EvalResults} {name : String} {d : PyDict (List ℚ)}
    (h : R.get? name = some d) : R.getItem name = .ok d := by
  obtain ⟨i, hi, rfl⟩ := Option.map_eq_some'.mp h
  simp [getItem, PyDict.getItem, hi]

/-- A name referring to another dict reads what it read before. -/
theorem get?_setDict_of_ne {R : EvalResults} {name : String} {i : ℕ}
    (h : R.refs.get? name ≠ some i) (d : PyDict (List ℚ)) :
    (R.setDict i d).get? name = R.get? name := by
  cases hn : R.refs.get? name <;> simp_all [get?, setDict]

/-- Writing a dict back unchanged leaves the record as it was. -/
@[simp] theorem setDict_dicts (R : EvalResults) (i : ℕ) : R.setDict i (R.dicts i) = R := by
  cases R
  simp only [setDict, EvalResults.mk.injEq, true_and]
  funext j
  by_cases h : j = i <;> simp [h]

end EvalResults

/-! ### The model -/

/-- The `dataset_names` argument, by the classes the code tells apart; a `set` is its
iteration order, without repeats. -/
inductive DatasetNames where
  | list (names : List String)
  | tuple (names : List String)
  | set (names : List String) (nodup : names.Nodup)
  | other

/-- Lines 298–303: the record to plot, from an `LGBMModel` or a `dict`. `deepcopy` copies
each dict once however many names share it, so its copy has the record's sharing, and the
caller's record is never mutated: the record stands for the copy. -/
def PlotArg.evalResults : PlotArg → Except PyError EvalResults
  | .model m => .ok m.evalsResult_
  | .dict d => .ok d
  | _ => .error (.typeError "booster must be dict or LGBMModel.")

/-- Lines 315–320: the iterator over the dataset names, as the list it runs through. -/
def datasetIter (evalResults : EvalResults) : Option DatasetNames → Except PyError (List String)
  | none => .ok evalResults.refs.keys
  | some (.list names) | some (.tuple names) | some (.set names _) =>
    if names.isEmpty then .error (.valueError "dataset_names should be iterable and cannot be empty")
    else .ok names
  | some .other => .error (.valueError "dataset_names should be iterable and cannot be empty")

/-- Lines 324–333: the metric and its series on the first dataset, that dataset's metrics
afterwards, and the warnings. With no `metric`, `popitem()` removes and returns the last
item, with a warning when there were several. -/
def pickMetric (metricsForOne : PyDict (List ℚ)) :
    Option String → Except PyError ((String × List ℚ) × PyDict (List ℚ) × List String)
  | none => do
    let warnings := if 1 < metricsForOne.items.length then
      ["more than one metric available, picking one to plot."] else []
    let (item, rest) ← metricsForOne.popitem
    pure (item, rest, warnings)
  | some metric => do
    raiseIf (!metricsForOne.contains metric) (.keyError "No given metric in eval results.")
    let results ← metricsForOne.getItem metric
    pure ((metric, results), metricsForOne, [])

/-- Lines 338–342, `for name in dataset_names:` over the rest of the iterator: plot each
name's series, and update the running maximum and minimum. -/
def plotRest (evalResults : EvalResults) (metric : String) (x : List ℕ) :
    List String → Axes → ℚ → ℚ → Except PyError (Axes × ℚ × ℚ)
  | [], ax, maxResult, minResult => .ok (ax, maxResult, minResult)
  | name :: rest, ax, maxResult, minResult => do
    let metricsForOne ← evalResults.getItem name
    let results ← metricsForOne.getItem metric
    let mx ← pyMax results
    let mn ← pyMin results
    plotRest evalResults metric x rest (ax.call (.plot x results name)) (max mx maxResult)
      (min mn minResult)

/-- The arguments of `plot_metric` after `booster`, with their defaults. -/
structure PlotMetricArgs where
  metric : Option String := none
  datasetNames : Option DatasetNames := none
  ax : Option Axes := none
  xlim : PyObj := .none
  ylim : PyObj := .none
  title : Option String := some "Metric during training"
  xlabel : Option String := some "Iterations"
  ylabel : Option String := some "auto"
  figsize : PyObj := .none
  grid : Bool := true

/-- `plot_metric(booster, ...)`: the axes, and the warnings issued. `eval_results` is the
function's own copy of the record, which `popitem` mutates. -/
def plotMetric (compat : Compat) (booster : PlotArg) (args : PlotMetricArgs) :
    Except PyError (Axes × List String) := do
  requireBackend compat.matplotlibInstalled "You must install matplotlib to plot metric."
  let evalResults ← booster.evalResults
  raiseIf evalResults.refs.items.isEmpty (.valueError "eval results cannot be empty.")
  let ax ← subplotsIfNone args.ax args.figsize
  let names ← datasetIter evalResults args.datasetNames
  let (name, rest) ← pyNext names
  -- `metrics_for_one = eval_results[name]`: the dict of identity `i`, which `popitem` mutates
  let i ← evalResults.refs.getItem name
  let ((metric, results), metricsForOne, warnings) ← pickMetric (evalResults.dicts i) args.metric
  let evalResults := evalResults.setDict i metricsForOne
  let maxResult ← pyMax results
  let minResult ← pyMin results
  let x := List.range results.length
  let ax := ax.call (.plot x results name)
  let (ax, maxResult, minResult) ← plotRest evalResults metric x rest ax maxResult minResult
  let ax := ax.call .legend
  let xlim ← limitOrDefault args.xlim "xlim" (.ok (.tuple [.num 0, .num results.length]))
  let ax := ax.call (.setXlim xlim)
  let ylim ← limitOrDefault args.ylim "ylim" (.ok (paddedRange minResult maxResult))
  let ax := ax.call (.setYlim ylim)
  let ylabel := if args.ylabel = some "auto" then some metric else args.ylabel
  let ax := ((ax.callIf args.title .setTitle).callIf args.xlabel .setXlabel).callIf ylabel
    .setYlabel
  pure (ax.call (.grid args.grid), warnings)

/-! ### What the plot is for -/

/-- The metric `plot_metric` plots: `metric` when it is given, else the key `popitem()`
returns, the last of the first dataset's metrics. -/
def chosenMetric (metric : Option String) (firstMetrics : PyDict (List ℚ)) : Option String :=
  match metric with
  | some m => some m
  | none => firstMetrics.keys.getLast?

/-- Every value of the series of the given names. -/
def allValues (series : String → List ℚ) (names : List String) : Set ℚ :=
  {v | ∃ n ∈ names, v ∈ series n}

@[simp] theorem allValues_nil (series : String → List ℚ) : allValues series [] = ∅ := by
  simp [allValues]

theorem allValues_cons (series : String → List ℚ) (n : String) (names : List String) :
    allValues series (n :: names) = {v | v ∈ series n} ∪ allValues series names := by
  ext v
  simp [allValues]

section Extrema

variable {α : Type} [LinearOrder α] {S T : Set α} {a m b : α}

/-- The step of the running maximum: `max(max(results), max_result)`. -/
theorem isGreatest_insert_max (hm : IsGreatest T m) (h : IsGreatest (insert (max m a) S) b) :
    IsGreatest (insert a (T ∪ S)) b := by
  refine ⟨?_, fun v hv => ?_⟩
  · rcases h.1 with hb | hb
    · rcases max_choice m a with hma | hma <;> rw [hb, hma]
      · exact Set.mem_insert_of_mem _ (Or.inl hm.1)
      · exact Set.mem_insert a _
    · exact Set.mem_insert_of_mem _ (Or.inr hb)
  · have hle := h.2 (Set.mem_insert _ _)
    rcases hv with rfl | hv | hv
    · exact le_trans (le_max_right _ _) hle
    · exact le_trans (le_trans (hm.2 hv) (le_max_left _ _)) hle
    · exact h.2 (Set.mem_insert_of_mem _ hv)

/-- The step of the running minimum: `min(min(results), min_result)`. -/
theorem isLeast_insert_min (hm : IsLeast T m) (h : IsLeast (insert (min m a) S) b) :
    IsLeast (insert a (T ∪ S)) b :=
  @isGreatest_insert_max αᵒᵈ _ S T a m b hm h

/-- Starting the running maximum at the greatest of `T` gives the greatest of `T ∪ S`. -/
theorem isGreatest_union_of_insert (hm : IsGreatest T m) (h : IsGreatest (insert m S) b) :
    IsGreatest (T ∪ S) b := by
  refine ⟨?_, fun v hv => ?_⟩
  · rcases h.1 with rfl | hb
    · exact Or.inl hm.1
    · exact Or.inr hb
  · rcases hv with hv | hv
    · exact le_trans (hm.2 hv) (h.2 (Set.mem_insert _ _))
    · exact h.2 (Set.mem_insert_of_mem _ hv)

/-- Starting the running minimum at the least of `T` gives the least of `T ∪ S`. -/
theorem isLeast_union_of_insert (hm : IsLeast T m) (h : IsLeast (insert m S) b) :
    IsLeast (T ∪ S) b :=
  @isGreatest_union_of_insert αᵒᵈ _ S T m b hm h

end Extrema

/-- **The loop's run lemma.** When every remaining name has the metric, with a non-empty
series, the loop plots each name's series in order, and ends with the greatest and the
least of the starting extrema and every value it plotted. -/
theorem plotRest_eq {R : EvalResults} {m : String} {x : List ℕ} {series : String → List ℚ} :
    ∀ (names : List String) (ax : Axes) (hi lo : ℚ),
      (∀ name ∈ names, (R.get? name).bind (·.get? m) = some (series name) ∧ series name ≠ []) →
      ∃ hi' lo', plotRest R m x names ax hi lo =
          .ok (ax.callAll (names.map fun n => .plot x (series n) n), hi', lo') ∧
        IsGreatest (insert hi (allValues series names)) hi' ∧
        IsLeast (insert lo (allValues series names)) lo'
  | [], ax, hi, lo, _ => ⟨hi, lo, by simp [plotRest], by simp, by simp⟩
  | name :: rest, ax, hi, lo, h => by
    obtain ⟨hs, hne⟩ := h name (List.mem_cons_self _ _)
    obtain ⟨d, hd, hdm⟩ := Option.bind_eq_some.mp hs
    obtain ⟨mx, hmx, hmx_mem, hmx_le⟩ := pyMax_eq_ok hne
    obtain ⟨mn, hmn, hmn_mem, hmn_le⟩ := pyMin_eq_ok hne
    obtain ⟨hi', lo', hrun, hgr, hle⟩ := @plotRest_eq R m x series rest
      (ax.call (.plot x (series name) name)) (max mx hi) (min mn lo)
      fun n hn => h n (List.mem_cons_of_mem _ hn)
    refine ⟨hi', lo', ?_, ?_, ?_⟩
    · simp [plotRest, EvalResults.getItem_of_get? hd, PyDict.getItem, hdm, hmx, hmn, hrun,
        Axes.call_callAll]
    · rw [allValues_cons]
      exact isGreatest_insert_max ⟨hmx_mem, fun _ => hmx_le _⟩ hgr
    · rw [allValues_cons]
      exact isLeast_insert_min ⟨hmn_mem, fun _ => hmn_le _⟩ hle

/-- The loop over `pre ++ l` runs through `pre`, then through `l` from where it stopped. -/
theorem plotRest_append (R : EvalResults) (m : String) (x : List ℕ) (pre l : List String) :
    ∀ (ax : Axes) (hi lo : ℚ), plotRest R m x (pre ++ l) ax hi lo =
      plotRest R m x pre ax hi lo >>= fun r => plotRest R m x l r.1 r.2.1 r.2.2 := by
  induction pre with
  | nil => intro ax hi lo; rfl
  | cons n pre ih =>
    intro ax hi lo
    simp only [List.cons_append, plotRest, List.append_eq, ih, bind_assoc]

/-- Starting the running maximum at the first series' maximum gives the greatest value of
all the series. -/
theorem isGreatest_allValues_cons {series : String → List ℚ} {n : String}
    {names : List String} {m b : ℚ} (hm : IsGreatest {v | v ∈ series n} m)
    (h : IsGreatest (insert m (allValues series names)) b) :
    IsGreatest (allValues series (n :: names)) b := by
  rw [allValues_cons]
  exact isGreatest_union_of_insert hm h

/-- Starting the running minimum at the first series' minimum gives the least value of
all the series. -/
theorem isLeast_allValues_cons {series : String → List ℚ} {n : String}
    {names : List String} {m b : ℚ} (hm : IsLeast {v | v ∈ series n} m)
    (h : IsLeast (insert m (allValues series names)) b) :
    IsLeast (allValues series (n :: names)) b := by
  rw [allValues_cons]
  exact isLeast_union_of_insert hm h

/-- The pick returns the chosen metric and its series, and leaves the first dataset's
metrics alone when the metric is given. -/
theorem pickMetric_eq_ok {first : PyDict (List ℚ)} {metric : Option String} {m : String}
    {s : List ℚ} (hm : chosenMetric metric first = some m) (hs : first.get? m = some s) :
    ∃ first' warnings, pickMetric first metric = .ok ((m, s), first', warnings) ∧
      (metric.isSome → first' = first) := by
  cases metric with
  | none =>
    obtain ⟨s', hp⟩ : ∃ s', first.items.getLast? = some (m, s') := by
      simpa [chosenMetric, PyDict.keys] using hm
    obtain rfl : s' = s := Option.some.inj ((PyDict.get?_of_getLast? hp).symm.trans hs)
    exact ⟨_, _, by simp only [pickMetric, PyDict.popitem, hp]; rfl, by simp⟩
  | some m' =>
    obtain rfl : m' = m := Option.some.inj hm
    have hc : first.contains m' = true := by simp [PyDict.contains, hs]
    exact ⟨first, [], by simp [pickMetric, hc, PyDict.getItem, hs], fun _ => rfl⟩

/-- A record with a dataset has items. -/
theorem PyDict.isEmpty_items_of_get? {α : Type} {d : PyDict α} {k : String} {v : α}
    (h : d.get? k = some v) : d.items.isEmpty = false := by
  cases hd : d.items with
  | nil => simp [PyDict.get?, hd] at h
  | cons _ _ => rfl

/-- **Every dataset is plotted once, inside the default limits.** Let the iterator run
through the names `n₀ :: rest`, each of which has the chosen metric with a series of
`N ≥ 1` values, and, when no `metric` is given, let no name of `rest` refer to the metrics
dict of `n₀`: neither `n₀` again nor a name sharing that dict. Then `plot_metric` returns,
having drawn one line per name, in order, over `0 … N-1`, then the legend, the limits, the
titles and the grid. The default x-range is `(0, N)`, and the default y-range pads the
least and the greatest of all plotted values by a fifth of their span, so every plotted
value lies inside it. -/
theorem plotMetric_plots_each_dataset {compat : Compat} {booster : PlotArg}
    {args : PlotMetricArgs} {R : EvalResults} {n₀ : String} {rest : List String}
    {first : PyDict (List ℚ)} {m : String} {ax₀ : Axes} (series : String → List ℚ) (N : ℕ)
    (hmpl : compat.matplotlibInstalled = true) (hR : booster.evalResults = .ok R)
    (hD : datasetIter R args.datasetNames = .ok (n₀ :: rest))
    (hax : subplotsIfNone args.ax args.figsize = .ok ax₀)
    (hfirst : R.get? n₀ = some first) (hm : chosenMetric args.metric first = some m)
    (hseries : ∀ name ∈ n₀ :: rest,
      (R.get? name).bind (·.get? m) = some (series name) ∧ (series name).length = N)
    (hN : 0 < N) (hrep : args.metric = none → ∀ name ∈ rest, R.refs.get? name ≠ R.refs.get? n₀)
    (hxlim : LimitOk args.xlim) (hylim : LimitOk args.ylim) :
    ∃ ax' warnings lo hi xlim ylim, plotMetric compat booster args = .ok (ax', warnings) ∧
      ax'.calls = ax₀.calls ++
        (n₀ :: rest).map (fun name => .plot (List.range N) (series name) name) ++
          .legend :: .setXlim xlim :: .setYlim ylim ::
            ((args.title.map .setTitle).toList ++ (args.xlabel.map .setXlabel).toList ++
              ((if args.ylabel = some "auto" then some m else args.ylabel).map .setYlabel).toList ++
                [.grid args.grid]) ∧
      (args.xlim = .none → xlim = .tuple [.num 0, .num N]) ∧
      (args.ylim = .none → ylim = paddedRange lo hi) ∧
      IsLeast (allValues series (n₀ :: rest)) lo ∧ IsGreatest (allValues series (n₀ :: rest)) hi ∧
      ∀ name ∈ n₀ :: rest, ∀ v ∈ series name,
        lo - (hi - lo) * (1 / 5) ≤ v ∧ v ≤ hi + (hi - lo) * (1 / 5) := by
  have hne : ∀ name ∈ n₀ :: rest, series name ≠ [] := fun name h hnil => by
    have := (hseries name h).2
    rw [hnil, List.length_nil] at this
    omega
  obtain ⟨hs₀, hlen₀⟩ := hseries n₀ (List.mem_cons_self _ _)
  obtain ⟨i, hid, rfl⟩ := Option.map_eq_some'.mp hfirst
  obtain ⟨first', warnings, hpick, hkeep⟩ :=
    pickMetric_eq_ok hm (by simpa [EvalResults.get?, hid] using hs₀)
  obtain ⟨hi₀, hmx, hmx_mem, hmx_le⟩ := pyMax_eq_ok (hne n₀ (List.mem_cons_self _ _))
  obtain ⟨lo₀, hmn, hmn_mem, hmn_le⟩ := pyMin_eq_ok (hne n₀ (List.mem_cons_self _ _))
  -- the loop reads every other name as the record has it
  have hloop : ∀ name ∈ rest, ((R.setDict i first').get? name).bind (·.get? m) =
      some (series name) ∧ series name ≠ [] := by
    intro name hname
    refine ⟨?_, hne name (List.mem_cons_of_mem _ hname)⟩
    rw [← (hseries name (List.mem_cons_of_mem _ hname)).1]
    cases hmet : args.metric with
    | none => rw [EvalResults.get?_setDict_of_ne (hid ▸ hrep hmet name hname)]
    | some _ => rw [hkeep (by simp [hmet]), EvalResults.setDict_dicts]
  obtain ⟨hi, lo, hrun, hgr, hle⟩ := @plotRest_eq (R.setDict i first') m (List.range N) series
    rest (ax₀.call (.plot (List.range N) (series n₀) n₀)) hi₀ lo₀ hloop
  have hgreat := isGreatest_allValues_cons ⟨hmx_mem, fun _ => hmx_le _⟩ hgr
  have hleast := isLeast_allValues_cons ⟨hmn_mem, fun _ => hmn_le _⟩ hle
  obtain ⟨xl, hxl, hxl_def⟩ := limitOrDefault_of_limitOk hxlim "xlim" (.tuple [.num 0, .num N])
  obtain ⟨yl, hyl, hyl_def⟩ := limitOrDefault_of_limitOk hylim "ylim" (paddedRange lo hi)
  constructor
  refine ⟨warnings, lo, hi, xl, yl, ?_, ?_, hxl_def, hyl_def, hleast, hgreat, ?_⟩
  · simp only [plotMetric, hmpl, requireBackend_true, hR, PyDict.isEmpty_items_of_get? hid,
      raiseIf_false, hax, hD, pyNext, PyDict.getItem, hid, hpick, hmx, hmn, hlen₀, hrun, hxl,
      hyl, Except.ok_bind]
    rfl
  · simp [Axes.call_callAll]
  · intro name hname v hv
    have hlo := hleast.2 ⟨name, hname, hv⟩
    have hhi := hgreat.2 ⟨name, hname, hv⟩
    have hspan : lo ≤ hi := hleast.2 hgreat.1
    constructor <;> linarith

/-- The record `{'a': {'l2': [1, 2]}, 'b': {'l2': [3, 0]}}`, a dict of its own under each
name. -/
def twoDatasetRecord : EvalResults :=
  ⟨⟨[("a", 0), ("b", 1)], by decide⟩,
    fun i => if i = 0 then ⟨[("l2", [1, 2])], by decide⟩ else ⟨[("l2", [3, 0])], by decide⟩⟩

/-- `plot_metric(record)` on `twoDatasetRecord`: two lines, `a` then `b`, over `0, 1`. -/
theorem twoDataset_plotMetric :
    let series : String → List ℚ := fun n => if n = "a" then [1, 2] else [3, 0]
    ∃ ax' warnings lo hi xlim ylim,
      plotMetric ⟨true, true⟩ (.dict twoDatasetRecord) {} = .ok (ax', warnings) ∧
      ax'.calls = ([] : List AxesCall) ++
        ["a", "b"].map (fun name => .plot (List.range 2) (series name) name) ++
          .legend :: .setXlim xlim :: .setYlim ylim ::
            [.setTitle "Metric during training", .setXlabel "Iterations", .setYlabel "l2",
              .grid true] ∧
      (PyObj.none = .none → xlim = .tuple [.num 0, .num 2]) ∧
      (PyObj.none = .none → ylim = paddedRange lo hi) ∧
      IsLeast (allValues series ["a", "b"]) lo ∧ IsGreatest (allValues series ["a", "b"]) hi ∧
      ∀ name ∈ ["a", "b"], ∀ v ∈ series name,
        lo - (hi - lo) * (1 / 5) ≤ v ∧ v ≤ hi + (hi - lo) * (1 / 5) := by
  intro series
  exact @plotMetric_plots_each_dataset ⟨true, true⟩ (.dict twoDatasetRecord) {} twoDatasetRecord
    "a" ["b"] ⟨[("l2", [1, 2])], by decide⟩ "l2" ⟨.none, []⟩ series 2 rfl rfl rfl rfl rfl rfl
    (fun name hname => by
      simp only [List.mem_cons, List.mem_singleton, List.not_mem_nil, or_false] at hname
      rcases hname with rfl | rfl <;> exact ⟨rfl, rfl⟩)
    (by decide) (fun _ => by decide) (Or.inl rfl) (Or.inl rfl)

/-- The record `{'a': {'l2': [1]}}`. -/
def oneDatasetRecord : EvalResults :=
  ⟨⟨[("a", 0)], by decide⟩, fun _ => ⟨[("l2", [1])], by decide⟩⟩

/-- The record `{'a': d, 'b': d}`: one dict `d = {'l2': [1, 2]}` under both names. -/
def sharedRecord : EvalResults :=
  ⟨⟨[("a", 0), ("b", 0)], by decide⟩, fun _ => ⟨[("l2", [1, 2])], by decide⟩⟩

/-- Two inputs on which every name has the metric `l2` and `plot_metric` still raises
`KeyError('l2')`: `dataset_names=['a', 'a']` on `oneDatasetRecord`, whose second `a` is
read after `popitem()` took `l2` out of the copy of its dict; and the default names of
`sharedRecord`, whose `b` refers to the dict `popitem()` emptied under `a`. -/
theorem plotMetric_first_dict_again_raises :
    (∀ name ∈ ["a", "a"], (oneDatasetRecord.get? name).bind (·.get? "l2") = some [1]) ∧
      plotMetric ⟨true, true⟩ (.dict oneDatasetRecord)
        { datasetNames := some (.list ["a", "a"]) } = .error (.keyError "l2") ∧
    (∀ name ∈ sharedRecord.refs.keys, (sharedRecord.get? name).bind (·.get? "l2") = some [1, 2]) ∧
      plotMetric ⟨true, true⟩ (.dict sharedRecord) {} = .error (.keyError "l2") :=
  ⟨by decide, rfl, by decide, rfl⟩

end LightGBMPlotting
