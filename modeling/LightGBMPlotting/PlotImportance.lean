import LightGBMPlotting.Backends
import Mathlib.Tactic.Linarith

/-!
# The Feature Importance Plot

`plot_importance` draws one horizontal bar per selected feature. It pairs each feature
name with its importance, sorts the pairs by importance (stably, as Python's `sorted`
does), drops the pairs of importance zero under `ignore_zero`, keeps the last
`max_num_features` of them when that is given and positive, and unpacks what is left into
`labels, values` to draw.

The selection is specified here by what it is for: the bars are the **top `N`**
candidates in ascending order (`IsTopN`), where the candidates are the positive pairs
under `ignore_zero` and all pairs otherwise.

## Main results

* `importanceTuples_isTopN` — the selection is the top `N` of the candidates: sorted,
  what is left out is never above what is shown, and `min(N, k)` pairs are shown.
* `plotImportance_draws_topN` — whenever `plot_importance` returns, its `barh` and
  `set_yticklabels` calls draw the values and names of such a selection.
* `importanceTuples_eq_nil_iff` — the selection is empty exactly when there is no
  candidate, which `ignore_zero` allows on a non-empty importance vector of zeros; the
  unpacking `labels, values = zip_(*tuples)` then raises.
* `importanceTuples_tie` — features of equal importance keep the booster's order, and
  `max_num_features` never keeps one without those after it.
* `plotImportance_returns` — the plot returns whenever a candidate is left and the
  arguments pass their checks.
-/

namespace LightGBMPlotting

open scoped List

/-! ### The selection, as the code computes it -/

/-- The order `sorted(..., key=lambda x: x[1])` sorts by: importance only. -/
def ImportanceLE (a b : String × ℚ) : Prop := a.2 ≤ b.2

instance : DecidableRel ImportanceLE := fun a b => inferInstanceAs (Decidable (a.2 ≤ b.2))

instance : IsTotal (String × ℚ) ImportanceLE := ⟨fun a b => le_total a.2 b.2⟩

instance : IsTrans (String × ℚ) ImportanceLE := ⟨fun _ _ _ => le_trans⟩

/-- `sorted(pairs, key=lambda x: x[1])`: a stable sort, which insertion sort is. -/
def sortedByImportance (pairs : List (String × ℚ)) : List (String × ℚ) :=
  pairs.insertionSort ImportanceLE

/-- Lines 99–103 of `plot_importance`: sort the `(name, importance)` pairs, drop those of
importance zero under `ignore_zero`, and keep the last `max_num_features` when that is
given and positive. -/
def importanceTuples (featureName : List String) (importance : List ℚ) (ignoreZero : Bool)
    (maxNumFeatures : Option ℤ) : List (String × ℚ) :=
  let tuples := sortedByImportance (featureName.zip importance)
  let tuples := if ignoreZero then tuples.filter (fun x => 0 < x.2) else tuples
  match maxNumFeatures with
  | some k => if 0 < k then sliceFrom tuples (-k) else tuples
  | none => tuples

/-- `labels, values = zip_(*tuples)`: `zip` of no tuples yields nothing to unpack. -/
def unzipPairs (tuples : List (String × ℚ)) : Except PyError (List String × List ℚ) :=
  match tuples with
  | [] => .error (.valueError "not enough values to unpack (expected 2, got 0)")
  | _ :: _ => .ok tuples.unzip

/-- The unpacking succeeds exactly on a non-empty selection, into its names and its
importances. -/
theorem unzipPairs_eq_ok {tuples : List (String × ℚ)} {p : List String × List ℚ} :
    unzipPairs tuples = .ok p ↔ tuples ≠ [] ∧ p = (tuples.map Prod.fst, tuples.map Prod.snd) := by
  cases tuples <;> simp [unzipPairs, eq_comm]

/-! ### What the selection is for -/

/-- The pairs the plot chooses among: the positive ones under `ignore_zero`, all of them
otherwise. -/
def candidates (ignoreZero : Bool) (pairs : List (String × ℚ)) : List (String × ℚ) :=
  if ignoreZero then pairs.filter (fun x => 0 < x.2) else pairs

/-- How many bars there are for `k` candidates: `min(max_num_features, k)` when
`max_num_features` is given and positive, `k` otherwise. -/
def displayLimit (maxNumFeatures : Option ℤ) (k : ℕ) : ℕ :=
  match maxNumFeatures with
  | some n => if 0 < n then min n.toNat k else k
  | none => k

/-- `shown` is the **top `n`** of `candidates` in ascending order of importance: sorted,
made of candidates, with every candidate left out no more important than any shown, and
of length `n`. -/
structure IsTopN (candidates : List (String × ℚ)) (n : ℕ) (shown : List (String × ℚ)) :
    Prop where
  sorted : (shown.map Prod.snd).Sorted (· ≤ ·)
  split : ∃ rest, rest ++ shown ~ candidates ∧ ∀ r ∈ rest, ∀ s ∈ shown, r.2 ≤ s.2
  length_eq : shown.length = n

namespace IsTopN

variable {c shown : List (String × ℚ)} {n : ℕ}

/-- The shown pairs are a sub-multiset of the candidates. -/
theorem subperm (h : IsTopN c n shown) : shown <+~ c := by
  obtain ⟨rest, hperm, -⟩ := h.split
  exact (List.sublist_append_right rest shown).subperm.trans hperm.subperm

end IsTopN

/-- The last `len - m` elements of a sorted permutation of the candidates are their top
`len - m`. -/
theorem isTopN_drop {c l : List (String × ℚ)} (hs : l.Sorted ImportanceLE) (hp : l ~ c)
    (m : ℕ) : IsTopN c (c.length - m) (l.drop m) where
  sorted := List.pairwise_map.mpr (hs.sublist (List.drop_sublist m l))
  split := by
    have hsplit := List.take_append_drop m l
    refine ⟨l.take m, hsplit.symm ▸ hp, fun r hr s hs' => ?_⟩
    rw [← hsplit] at hs
    exact (List.pairwise_append.mp hs).2.2 r hr s hs'
  length_eq := by rw [List.length_drop, hp.length_eq]

/-- Sorting, then filtering, gives a sorted permutation of the candidates. -/
theorem sorted_filtered_candidates (ignoreZero : Bool) (pairs : List (String × ℚ)) :
    let l := if ignoreZero then (sortedByImportance pairs).filter (fun x => 0 < x.2)
      else sortedByImportance pairs
    l.Sorted ImportanceLE ∧ l ~ candidates ignoreZero pairs := by
  have hs := List.sorted_insertionSort ImportanceLE pairs
  have hp := List.perm_insertionSort ImportanceLE pairs
  cases ignoreZero
  · exact ⟨hs, hp⟩
  · exact ⟨hs.filter _, hp.filter _⟩

/-- **The selection is the top `N`.** For every pairing of names and importances, every
`ignore_zero` and every `max_num_features`, the pairs `plot_importance` keeps are the top
`displayLimit` of its candidates, in ascending order. -/
theorem importanceTuples_isTopN (featureName : List String) (importance : List ℚ)
    (ignoreZero : Bool) (maxNumFeatures : Option ℤ) :
    IsTopN (candidates ignoreZero (featureName.zip importance))
      (displayLimit maxNumFeatures (candidates ignoreZero (featureName.zip importance)).length)
      (importanceTuples featureName importance ignoreZero maxNumFeatures) := by
  obtain ⟨hs, hp⟩ := sorted_filtered_candidates ignoreZero (featureName.zip importance)
  have h0 := isTopN_drop hs hp 0
  simp only [List.drop_zero, Nat.sub_zero] at h0
  unfold importanceTuples displayLimit
  rcases maxNumFeatures with _ | k
  · exact h0
  · by_cases hk : 0 < k
    · simp only [hk, if_true, sliceFrom_neg_of_pos hk]
      have hlen := hp.length_eq
      convert isTopN_drop hs hp _ using 1
      omega
    · simpa only [hk, if_false] using h0

/-- The candidates are among the pairs. -/
theorem candidates_sublist (ignoreZero : Bool) (pairs : List (String × ℚ)) :
    candidates ignoreZero pairs <+ pairs := by
  cases ignoreZero
  · exact List.Sublist.refl pairs
  · exact List.filter_sublist pairs

/-- Under `ignore_zero` every candidate is positive. -/
theorem pos_of_mem_candidates {ignoreZero : Bool} (hz : ignoreZero = true)
    {pairs : List (String × ℚ)} {p : String × ℚ} (hp : p ∈ candidates ignoreZero pairs) :
    0 < p.2 := by
  subst hz
  simpa using (List.mem_filter.mp hp).2

/-- There is no candidate exactly when there are no pairs or, under `ignore_zero`, none is
positive. -/
theorem candidates_eq_nil_iff (ignoreZero : Bool) (pairs : List (String × ℚ)) :
    candidates ignoreZero pairs = [] ↔
      pairs = [] ∨ (ignoreZero = true ∧ ∀ p ∈ pairs, ¬0 < p.2) := by
  cases ignoreZero
  · simp [candidates]
  · constructor
    · intro h
      exact .inr ⟨rfl, by simpa [candidates, List.filter_eq_nil_iff] using h⟩
    · rintro (rfl | ⟨-, h⟩)
      · rfl
      · simpa [candidates, List.filter_eq_nil_iff] using h

/-- **When the selection is empty.** `plot_importance` keeps no pair exactly when there is
no candidate. -/
theorem importanceTuples_eq_nil_iff (featureName : List String) (importance : List ℚ)
    (ignoreZero : Bool) (maxNumFeatures : Option ℤ) :
    importanceTuples featureName importance ignoreZero maxNumFeatures = [] ↔
      candidates ignoreZero (featureName.zip importance) = [] := by
  have hlen := (importanceTuples_isTopN featureName importance ignoreZero maxNumFeatures).length_eq
  rw [← List.length_eq_zero, hlen, ← List.length_eq_zero]
  unfold displayLimit
  rcases maxNumFeatures with _ | k
  · rfl
  · by_cases hk : 0 < k <;> simp only [hk, if_true, if_false]; omega

/-! ### Ties -/

/-- Pairs whose names are distinct are distinct. -/
theorem nodup_zip_of_left {α β : Type} : ∀ {l₁ : List α} (l₂ : List β), l₁.Nodup →
    (l₁.zip l₂).Nodup
  | [], _, _ => List.nodup_nil
  | _ :: _, [], _ => List.nodup_nil
  | _ :: _, _ :: l₂, h => by
    rw [List.zip_cons_cons, List.nodup_cons]
    exact ⟨fun hm => (List.nodup_cons.mp h).1 (List.of_mem_zip hm).1,
      nodup_zip_of_left l₂ (List.nodup_cons.mp h).2⟩

/-- In a list without repeats, a drop that keeps `a` keeps what comes after `a`. -/
theorem pair_sublist_drop {α : Type} {a b : α} : ∀ {l : List α} (k : ℕ), l.Nodup →
    [a, b] <+ l → a ∈ l.drop k → [a, b] <+ l.drop k
  | _, 0, _, h, _ => h
  | [], _ + 1, _, h, _ => absurd h (by simp)
  | x :: l, k + 1, hnd, h, ha => by
    rw [List.drop_succ_cons] at ha ⊢
    cases h with
    | cons _ h => exact pair_sublist_drop k (List.nodup_cons.mp hnd).2 h ha
    | cons₂ _ h => exact absurd (List.mem_of_mem_drop ha) (List.nodup_cons.mp hnd).1

/-- The selection is a suffix of the sorted, filtered pairs. -/
theorem importanceTuples_eq_drop (featureName : List String) (importance : List ℚ)
    (ignoreZero : Bool) (maxNumFeatures : Option ℤ) :
    ∃ m, importanceTuples featureName importance ignoreZero maxNumFeatures =
      (if ignoreZero then
        (sortedByImportance (featureName.zip importance)).filter (fun x => 0 < x.2)
      else sortedByImportance (featureName.zip importance)).drop m := by
  unfold importanceTuples
  rcases maxNumFeatures with _ | k
  · exact ⟨0, rfl⟩
  · by_cases hk : 0 < k
    · constructor
      simp only [hk, if_true, sliceFrom_neg_of_pos hk]
      rfl
    · exact ⟨0, by simp [hk]⟩

/-- **Ties keep the booster's order, and the later ones survive.** When the feature names
are distinct, let `a` come before `b` in `feature_name()`, with equal importance. Whenever
`plot_importance` keeps `a`, it keeps `b` too, after `a`: the stable sort keeps their
order, and `max_num_features` cuts a tie from the front. -/
theorem importanceTuples_tie {featureName : List String} {importance : List ℚ}
    (hnd : featureName.Nodup) (ignoreZero : Bool) (maxNumFeatures : Option ℤ)
    {a b : String × ℚ} (hab : [a, b] <+ featureName.zip importance) (heq : a.2 = b.2)
    (ha : a ∈ importanceTuples featureName importance ignoreZero maxNumFeatures) :
    [a, b] <+ importanceTuples featureName importance ignoreZero maxNumFeatures := by
  obtain ⟨m, hm⟩ := importanceTuples_eq_drop featureName importance ignoreZero maxNumFeatures
  rw [hm] at ha ⊢
  have hsorted : [a, b] <+ sortedByImportance (featureName.zip importance) :=
    List.pair_sublist_insertionSort (show ImportanceLE a b from le_of_eq heq) hab
  have hnodup := ((sorted_filtered_candidates ignoreZero (featureName.zip importance)).2.nodup_iff).mpr
    ((nodup_zip_of_left importance hnd).sublist (candidates_sublist _ _))
  refine pair_sublist_drop m hnodup ?_ ha
  cases ignoreZero
  · exact hsorted
  · -- `a` passed the filter, so `b`, as important, passes it too
    have hpos : 0 < a.2 := by simpa using (List.mem_filter.mp (List.mem_of_mem_drop ha)).2
    simpa [hpos, ← heq] using hsorted.filter (fun x => decide (0 < x.2))

/-- Three features of importance `1` and `max_num_features=2`: the cut goes through the
tie from the front, keeping `b` and then `d`. -/
theorem tie_cut_from_front :
    ["a", "b", "d"].Nodup ∧ [("b", (1 : ℚ)), ("d", 1)] <+ ["a", "b", "d"].zip [1, 1, 1] ∧
      ("b", (1 : ℚ)).2 = ("d", (1 : ℚ)).2 ∧
      ("b", (1 : ℚ)) ∈ importanceTuples ["a", "b", "d"] [1, 1, 1] true (some 2) ∧
      [("b", (1 : ℚ)), ("d", 1)] <+ importanceTuples ["a", "b", "d"] [1, 1, 1] true (some 2) :=
  have hnd : ["a", "b", "d"].Nodup := by decide
  have hab : [("b", (1 : ℚ)), ("d", 1)] <+ ["a", "b", "d"].zip [1, 1, 1] := by decide
  have ha : ("b", (1 : ℚ)) ∈ importanceTuples ["a", "b", "d"] [1, 1, 1] true (some 2) := by
    decide
  ⟨hnd, hab, rfl, ha, importanceTuples_tie hnd true (some 2) hab rfl ha⟩

/-! ### `plot_importance` -/

/-- The arguments of `plot_importance` after `booster`, with their defaults. -/
structure PlotImportanceArgs where
  ax : Option Axes := none
  height : ℚ := 1 / 5
  xlim : PyObj := .none
  ylim : PyObj := .none
  title : Option String := some "Feature importance"
  xlabel : Option String := some "Feature importance"
  ylabel : Option String := some "Features"
  importanceType : String := "split"
  maxNumFeatures : Option ℤ := none
  ignoreZero : Bool := true
  figsize : PyObj := .none
  grid : Bool := true
  precision : Option ℤ := none
  kwargs : PyDict PyObj := PyDict.empty

/-- The text beside a bar: the value formatted by `_float2str` for gain importances, the
value itself otherwise. -/
def barText (fmt : FloatFormat) (importanceType : String) (precision : Option ℤ) (x : ℚ) :
    Except PyError Scalar :=
  if importanceType = "gain" then .str <$> float2str fmt (.num x) precision else .ok (.num x)

/-- Lines 111–141 of `plot_importance`: the bars, their texts, the ticks, the limits, the
titles and the grid, drawn on `ax`. -/
def drawImportance (fmt : FloatFormat) (args : PlotImportanceArgs) (ax : Axes)
    (labels : List String) (values : List ℚ) : Except PyError Axes := do
  let ylocs := List.range values.length
  checkDuplicateArgs "barh" "keyword argument" ["align", "height"] args.kwargs
  let ax := ax.call (.barh ylocs values args.height args.kwargs.items)
  let texts ← (values.zip ylocs).mapM fun xy =>
    (AxesCall.text (xy.1 + 1) xy.2 ·) <$> barText fmt args.importanceType args.precision xy.1
  let ax := ((ax.callAll texts).call (.setYticks ylocs)).call (.setYticklabels labels)
  let xlim ← limitOrDefault args.xlim "xlim"
    ((fun m => .tuple [.num 0, .num (m * 11 / 10)]) <$> pyMax values)
  let ax := ax.call (.setXlim xlim)
  let ylim ← limitOrDefault args.ylim "ylim" (.ok (.tuple [.num (-1), .num values.length]))
  let ax := ax.call (.setYlim ylim)
  let ax := ((ax.callIf args.title .setTitle).callIf args.xlabel .setXlabel).callIf args.ylabel
    .setYlabel
  pure (ax.call (.grid args.grid))

/-- `plot_importance(booster, ...)`. -/
def plotImportance (compat : Compat) (fmt : FloatFormat) (booster : PlotArg)
    (args : PlotImportanceArgs) : Except PyError Axes := do
  requireBackend compat.matplotlibInstalled "You must install matplotlib to plot importance."
  let booster ← booster.toBooster
  let importance := booster.featureImportance args.importanceType
  let featureName := booster.featureName
  raiseIf importance.isEmpty (.valueError "Booster's feature_importance is empty.")
  let (labels, values) ← unzipPairs
    (importanceTuples featureName importance args.ignoreZero args.maxNumFeatures)
  let ax ← subplotsIfNone args.ax args.figsize
  drawImportance fmt args ax labels values

/-- Every call `drawImportance` makes, in order, the default limits `(0, 1.1 max)` and
`(-1, n)`, and the texts: one per bar, right of its end, showing its value. -/
theorem drawImportance_calls {fmt : FloatFormat} {args : PlotImportanceArgs} {ax ax' : Axes}
    {labels : List String} {values : List ℚ}
    (h : drawImportance fmt args ax labels values = .ok ax') :
    ∃ texts xlim ylim, ax'.calls = ax.calls ++
      .barh (List.range values.length) values args.height args.kwargs.items ::
        (texts ++ .setYticks (List.range values.length) :: .setYticklabels labels ::
          .setXlim xlim :: .setYlim ylim :: ((args.title.map .setTitle).toList ++
            (args.xlabel.map .setXlabel).toList ++ (args.ylabel.map .setYlabel).toList ++
              [.grid args.grid])) ∧
      (args.xlim = .none → ∃ m, (m ∈ values ∧ ∀ v ∈ values, v ≤ m) ∧
        xlim = .tuple [.num 0, .num (m * 11 / 10)]) ∧
      (args.ylim = .none → ylim = .tuple [.num (-1), .num values.length]) ∧
      List.Forall₂ (fun xy c => ∃ s, barText fmt args.importanceType args.precision xy.1 = .ok s ∧
        c = .text (xy.1 + 1) xy.2 s) (values.zip (List.range values.length)) texts := by
  simp only [drawImportance, Except.bind_eq_ok] at h
  obtain ⟨_, -, texts, htexts, xlim, hx, ylim, hy, h⟩ := h
  cases h
  refine ⟨texts, xlim, ylim, by simp, fun hnone => ?_, fun hnone => ?_,
    (forall₂_of_mapM_eq_ok htexts).imp fun xy c hc => ?_⟩
  · rw [hnone, limitOrDefault_none, Except.map_eq_ok] at hx
    obtain ⟨m, hm, rfl⟩ := hx
    exact ⟨m, pyMax_eq_ok_iff.mp hm, rfl⟩
  · rw [hnone, limitOrDefault_none] at hy
    exact (Except.ok.inj hy).symm
  · obtain ⟨s, hs, rfl⟩ := Except.map_eq_ok.mp hc
    exact ⟨s, hs, rfl⟩

/-- A text fails only on the precision's `ValueError`, for gain importances. -/
theorem barText_error {fmt : FloatFormat} {importanceType : String} {precision : Option ℤ}
    {x : ℚ} {e : PyError} (h : barText fmt importanceType precision x = .error e) :
    ∃ p, precisionError p = some e := by
  unfold barText at h
  split at h
  · exact float2str_error (Except.map_eq_error.mp h)
  · cases h

/-- A text is made whenever a gain importance's precision is in `[0, 2**31)`. -/
theorem barText_isOk (fmt : FloatFormat) {importanceType : String} {precision : Option ℤ}
    (hprec : importanceType = "gain" → ∀ p, precision = some p → 0 ≤ p ∧ p < 2 ^ 31) (x : ℚ) :
    (barText fmt importanceType precision x).isOk := by
  unfold barText
  split
  · rw [Except.isOk_map]
    exact float2str_isOk_of fmt _ (hprec ‹_›)
  · rfl

/-- **Every error of the drawing names what it checks**: a keyword of `barh` passed twice,
a precision outside `[0, 2**31)`, a limit that is not a tuple of two, or `max` of no
values. -/
theorem drawImportance_error {fmt : FloatFormat} {args : PlotImportanceArgs} {ax : Axes}
    {labels : List String} {values : List ℚ} {e : PyError}
    (h : drawImportance fmt args ax labels values = .error e) :
    (∃ k ∈ ["align", "height"], e = .typeError (multipleValues "barh" "keyword argument" k)) ∨
      (∃ p, precisionError p = some e) ∨
      e = .valueError "max() arg is an empty sequence" ∨
      e = .typeError ("xlim" ++ " must be a tuple of 2 elements.") ∨
      e = .typeError ("ylim" ++ " must be a tuple of 2 elements.") := by
  simp only [drawImportance, Except.bind_eq_error] at h
  rcases h with h | ⟨_, -, h | ⟨texts, -, h | ⟨xlim, -, h | ⟨ylim, -, h⟩⟩⟩⟩
  · exact .inl (checkDuplicateArgs_error h)
  · obtain ⟨_, -, hxy⟩ := mapM_eq_error h
    exact .inr (.inl (barText_error (Except.map_eq_error.mp hxy)))
  · rcases limitOrDefault_error h with h | h
    · exact .inr (.inr (.inl (pyMax_eq_error (Except.map_eq_error.mp h))))
    · exact .inr (.inr (.inr (.inl h)))
  · exact .inr (.inr (.inr (.inr (limitOrDefault_ok_error h))))
  · cases h

/-- The drawing goes through on values to draw, with keyword arguments, limits and a
precision that pass their checks. -/
theorem drawImportance_eq_ok (fmt : FloatFormat) {args : PlotImportanceArgs} (ax : Axes)
    (labels : List String) {values : List ℚ} (hne : values ≠ [])
    (hkw : ∀ k ∈ ["align", "height"], k ∉ args.kwargs.keys) (hxlim : LimitOk args.xlim)
    (hylim : LimitOk args.ylim)
    (hprec : args.importanceType = "gain" → ∀ p, args.precision = some p → 0 ≤ p ∧ p < 2 ^ 31) :
    ∃ ax', drawImportance fmt args ax labels values = .ok ax' := by
  obtain ⟨texts, htexts⟩ := Except.exists_eq_ok (@mapM_isOk_of _ _
    (values.zip (List.range values.length))
    (fun xy => (AxesCall.text (xy.1 + 1) xy.2 ·) <$>
      barText fmt args.importanceType args.precision xy.1)
    fun xy _ => by
      rw [Except.isOk_map]
      exact barText_isOk fmt hprec xy.1)
  obtain ⟨m, hmax, -⟩ := pyMax_eq_ok hne
  obtain ⟨xl, hxl, -⟩ := limitOrDefault_of_limitOk hxlim "xlim" (.tuple [.num 0, .num (m * 11 / 10)])
  obtain ⟨yl, hyl, -⟩ := limitOrDefault_of_limitOk hylim "ylim"
    (.tuple [.num (-1), .num values.length])
  simp only [drawImportance, checkDuplicateArgs_eq_ok hkw, htexts, hmax, Except.map_ok, hxl, hyl,
    Except.ok_bind]
  exact ⟨_, rfl⟩

/-- Whenever `plot_importance` returns, it drew the selection on the axes it opened. -/
theorem plotImportance_eq_ok {compat : Compat} {fmt : FloatFormat} {booster : PlotArg}
    {args : PlotImportanceArgs} {ax' : Axes} (h : plotImportance compat fmt booster args = .ok ax') :
    ∃ b ax₀, booster.toBooster = .ok b ∧ subplotsIfNone args.ax args.figsize = .ok ax₀ ∧
      let shown := importanceTuples b.featureName (b.featureImportance args.importanceType)
        args.ignoreZero args.maxNumFeatures
      drawImportance fmt args ax₀ (shown.map Prod.fst) (shown.map Prod.snd) = .ok ax' := by
  simp only [plotImportance, Except.bind_eq_ok] at h
  obtain ⟨_, -, b, hb, _, -, ⟨labels, values⟩, hun, ax₀, hax, h⟩ := h
  obtain ⟨-, hpair⟩ := unzipPairs_eq_ok.mp hun
  simp only [Prod.mk.injEq] at hpair
  obtain ⟨rfl, rfl⟩ := hpair
  exact ⟨b, ax₀, hb, hax, h⟩

/-- **What `plot_importance` draws.** Whenever it returns, its `barh` call draws the
importances of a selection that is the top `N` of the candidates, in ascending order, at
`0, 1, …`, and its `set_yticklabels` call names them with their own features: the
selection is a sub-multiset of the `(name, importance)` pairs, positive under
`ignore_zero`. -/
theorem plotImportance_draws_topN {compat : Compat} {fmt : FloatFormat} {booster : PlotArg}
    {args : PlotImportanceArgs} {ax' : Axes} (h : plotImportance compat fmt booster args = .ok ax') :
    ∃ (b : Booster) (shown : List (String × ℚ)) (ax₀ : Axes) (texts rest : List AxesCall),
      booster.toBooster = .ok b ∧
      ax'.calls = ax₀.calls ++ .barh (List.range shown.length) (shown.map Prod.snd) args.height
        args.kwargs.items :: (texts ++ .setYticks (List.range shown.length) ::
          .setYticklabels (shown.map Prod.fst) :: rest) ∧
      shown <+~ b.featureName.zip (b.featureImportance args.importanceType) ∧
      (args.ignoreZero = true → ∀ p ∈ shown, 0 < p.2) ∧
      IsTopN (candidates args.ignoreZero (b.featureName.zip (b.featureImportance args.importanceType)))
        (displayLimit args.maxNumFeatures
          (candidates args.ignoreZero (b.featureName.zip (b.featureImportance args.importanceType))).length)
        shown := by
  obtain ⟨b, ax₀, hb, -, hdraw⟩ := plotImportance_eq_ok h
  obtain ⟨texts, xlim, ylim, hcalls, -⟩ := drawImportance_calls hdraw
  have htop := importanceTuples_isTopN b.featureName (b.featureImportance args.importanceType)
    args.ignoreZero args.maxNumFeatures
  refine ⟨b, _, ax₀, texts, _, hb, by simpa only [List.length_map] using hcalls,
    htop.subperm.trans (candidates_sublist _ _).subperm,
    fun hz _ hp => pos_of_mem_candidates hz (htop.subperm.subset hp), htop⟩

/-- A booster of two features, `a` of importance `2` and `b` of importance `1`. -/
def twoFeatureBooster : Booster where
  featureImportance _ := [2, 1]
  featureName := ["a", "b"]
  getSplitValueHistogram _ _ := ⟨[0], [0, 1], rfl⟩
  dumpModel := ⟨[], none⟩
  importance_length _ := rfl
  importance_nonneg _ x hx := by
    simp only [List.mem_cons, List.mem_singleton, List.not_mem_nil, or_false] at hx
    rcases hx with rfl | rfl <;> decide

/-- A booster of three features, `a` of importance `2`, `b` of importance `0` and `c` of
importance `1`. -/
def threeFeatureBooster : Booster where
  featureImportance _ := [2, 0, 1]
  featureName := ["a", "b", "c"]
  getSplitValueHistogram _ _ := ⟨[0], [0, 1], rfl⟩
  dumpModel := ⟨[], none⟩
  importance_length _ := rfl
  importance_nonneg _ x hx := by
    simp only [List.mem_cons, List.mem_singleton, List.not_mem_nil, or_false] at hx
    rcases hx with rfl | rfl | rfl <;> decide

/-- `plot_importance(booster, max_num_features=1)` on `threeFeatureBooster`: `ignore_zero`
drops `b`, and of the candidates `c` and `a` the cut keeps the top one. -/
theorem threeFeature_topOne_draws :
    ∃ ax', plotImportance ⟨true, true⟩ FloatFormat.plain (.booster threeFeatureBooster)
        { maxNumFeatures := some 1 } = .ok ax' ∧
      ∃ (b : Booster) (shown : List (String × ℚ)) (ax₀ : Axes) (texts rest : List AxesCall),
        (PlotArg.booster threeFeatureBooster).toBooster = .ok b ∧
        ax'.calls = ax₀.calls ++ .barh (List.range shown.length) (shown.map Prod.snd) (1 / 5)
          [] :: (texts ++ .setYticks (List.range shown.length) ::
            .setYticklabels (shown.map Prod.fst) :: rest) ∧
        shown <+~ b.featureName.zip (b.featureImportance "split") ∧
        (true = true → ∀ p ∈ shown, 0 < p.2) ∧
        IsTopN (candidates true (b.featureName.zip (b.featureImportance "split")))
          (displayLimit (some 1)
            (candidates true (b.featureName.zip (b.featureImportance "split"))).length)
          shown := by
  obtain ⟨ax', h⟩ : ∃ ax', plotImportance ⟨true, true⟩ FloatFormat.plain
      (.booster threeFeatureBooster) { maxNumFeatures := some 1 } = .ok ax' := ⟨_, rfl⟩
  exact ⟨ax', h, plotImportance_draws_topN h⟩

/-- **`plot_importance` returns** with matplotlib installed, a model that leaves a candidate
to show, axes that open, neither `align` nor `height` among the keyword arguments, limits
that pass their check and, for gain importances, a precision that is `None` or in
`[0, 2**31)`. Its
own emptiness check then passes, since the candidates are among the importances, and so
does the unpacking, since the selection is empty only without candidates. -/
theorem plotImportance_returns {compat : Compat} {fmt : FloatFormat} {booster : PlotArg}
    {args : PlotImportanceArgs} {b : Booster} {ax₀ : Axes}
    (hmpl : compat.matplotlibInstalled = true) (hb : booster.toBooster = .ok b)
    (hcand : candidates args.ignoreZero
      (b.featureName.zip (b.featureImportance args.importanceType)) ≠ [])
    (hax : subplotsIfNone args.ax args.figsize = .ok ax₀)
    (hkw : ∀ k ∈ ["align", "height"], k ∉ args.kwargs.keys) (hxlim : LimitOk args.xlim)
    (hylim : LimitOk args.ylim)
    (hprec : args.importanceType = "gain" → ∀ p, args.precision = some p → 0 ≤ p ∧ p < 2 ^ 31) :
    ∃ ax', plotImportance compat fmt booster args = .ok ax' := by
  set imp := b.featureImportance args.importanceType
  have hempty : imp.isEmpty = false := Bool.eq_false_iff.mpr fun h => hcand <| by
    rw [List.isEmpty_iff.mp h, List.zip_nil_right]
    simp [candidates]
  obtain ⟨p, ps, htup⟩ := List.exists_cons_of_ne_nil
    (mt (importanceTuples_eq_nil_iff b.featureName imp args.ignoreZero args.maxNumFeatures).mp hcand)
  simp only [plotImportance, hmpl, requireBackend_true, hb, hempty, raiseIf_false, htup,
    unzipPairs, hax, Except.ok_bind]
  exact drawImportance_eq_ok fmt ax₀ _ (List.cons_ne_nil _ _) hkw hxlim hylim hprec

/-- `plot_importance(booster)` on `twoFeatureBooster` returns. -/
theorem twoFeature_plotImportance_returns :
    candidates true (["a", "b"].zip [2, 1]) ≠ [] ∧ (∀ k ∈ ["align", "height"], k ∉ ([] : List String)) ∧
      ∃ ax', plotImportance ⟨true, true⟩ FloatFormat.plain (.booster twoFeatureBooster) {} =
        .ok ax' :=
  have hcand : candidates true (["a", "b"].zip [2, 1]) ≠ [] := by decide
  have hkw : ∀ k ∈ ["align", "height"], k ∉ ([] : List String) := by decide
  ⟨hcand, hkw, @plotImportance_returns ⟨true, true⟩ FloatFormat.plain (.booster twoFeatureBooster)
    {} twoFeatureBooster ⟨.none, []⟩ rfl rfl hcand rfl hkw (Or.inl rfl) (Or.inl rfl)
    fun h => absurd h (by decide)⟩

/-- A booster of one feature, of importance zero. -/
def zeroImportanceBooster : Booster where
  featureImportance _ := [0]
  featureName := ["f0"]
  getSplitValueHistogram _ _ := ⟨[0], [0, 1], rfl⟩
  dumpModel := ⟨[], none⟩
  importance_length _ := rfl
  importance_nonneg _ _ hx := (List.mem_singleton.mp hx).symm ▸ le_refl 0

/-- `plot_importance(booster)` with every argument at its default, on a booster whose
importances are all zero: its own emptiness check passes, `ignore_zero` then drops every
pair, and the unpacking raises. -/
theorem plotImportance_zero_importance_raises :
    (zeroImportanceBooster.featureImportance "split").isEmpty = false ∧
      plotImportance ⟨true, true⟩ FloatFormat.plain (.booster zeroImportanceBooster) {} =
        .error (.valueError "not enough values to unpack (expected 2, got 0)") :=
  ⟨rfl, rfl⟩

/-- **When the unpacking raises.** With matplotlib installed and a model whose importance
vector is not empty, `plot_importance` raises the interpreter's unpacking `ValueError`
exactly when `ignore_zero` is set and every importance is zero. -/
theorem plotImportance_unpack_error_iff {compat : Compat}
    (hmpl : compat.matplotlibInstalled = true) (fmt : FloatFormat) {booster : PlotArg}
    {b : Booster} (hb : booster.toBooster = .ok b) (args : PlotImportanceArgs)
    (hne : b.featureImportance args.importanceType ≠ []) :
    plotImportance compat fmt booster args =
        .error (.valueError "not enough values to unpack (expected 2, got 0)") ↔
      args.ignoreZero = true ∧ ∀ x ∈ b.featureImportance args.importanceType, x = 0 := by
  set imp := b.featureImportance args.importanceType
  have hzip : (b.featureName.zip imp).map Prod.snd = imp :=
    List.map_snd_zip _ _ (le_of_eq (b.importance_length _))
  have hmem : ∀ p ∈ b.featureName.zip imp, p.2 ∈ imp := fun p hp =>
    hzip ▸ List.mem_map_of_mem Prod.snd hp
  have hsel : importanceTuples b.featureName imp args.ignoreZero args.maxNumFeatures = [] ↔
      args.ignoreZero = true ∧ ∀ x ∈ imp, x = 0 := by
    rw [importanceTuples_eq_nil_iff, candidates_eq_nil_iff]
    constructor
    · rintro (h | ⟨hz, h⟩)
      · exact absurd (by rw [← hzip, h]; rfl) hne
      · refine ⟨hz, fun x hx => ?_⟩
        rw [← hzip] at hx
        obtain ⟨p, hp, rfl⟩ := List.mem_map.mp hx
        exact le_antisymm (not_lt.mp (h p hp)) (b.importance_nonneg _ _ (hmem p hp))
    · rintro ⟨hz, h⟩
      exact .inr ⟨hz, fun p hp => by rw [h p.2 (hmem p hp)]; exact lt_irrefl 0⟩
  have hempty : imp.isEmpty = false := Bool.eq_false_iff.mpr fun h => hne (List.isEmpty_iff.mp h)
  simp only [plotImportance, hmpl, requireBackend_true, hb, hempty, raiseIf_false,
    Except.ok_bind]
  rw [← hsel]
  cases importanceTuples b.featureName imp args.ignoreZero args.maxNumFeatures with
  | nil => simp [unzipPairs]
  | cons p ps =>
    simp only [unzipPairs, Except.ok_bind, reduceCtorEq, iff_false]
    intro h
    rcases Except.bind_eq_error.mp h with h | ⟨ax, -, h⟩
    · exact PyError.noConfusion (subplotsIfNone_error h)
    · rcases drawImportance_error h with ⟨k, -, h⟩ | h | h | h | h
      · exact PyError.noConfusion h
      · obtain ⟨p, hp⟩ := h
        rcases precisionError_eq_some hp with h | h | h <;> exact absurd h (by decide)
      · exact absurd h (by decide)
      · exact PyError.noConfusion h
      · exact PyError.noConfusion h

/-- `plot_importance(booster)` on `zeroImportanceBooster` raises the unpacking error, its
one importance being zero. -/
theorem zeroImportance_unpack_error :
    zeroImportanceBooster.featureImportance "split" ≠ [] ∧
      (plotImportance ⟨true, true⟩ FloatFormat.plain (.booster zeroImportanceBooster) {} =
          .error (.valueError "not enough values to unpack (expected 2, got 0)") ↔
        true = true ∧ ∀ x ∈ zeroImportanceBooster.featureImportance "split", x = 0) :=
  have hne : zeroImportanceBooster.featureImportance "split" ≠ [] := by decide
  ⟨hne, @plotImportance_unpack_error_iff ⟨true, true⟩ rfl FloatFormat.plain
    (.booster zeroImportanceBooster) zeroImportanceBooster rfl {} hne⟩

end LightGBMPlotting
