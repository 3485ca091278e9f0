import LightGBMPlotting.Backends
import Mathlib.Tactic.Linarith

/-!
# The Split Value Histogram

`plot_split_value_histogram` draws the histogram of the thresholds a feature is split on:
one bar per bin, centred between the bin's edges, with default limits padded around the
bins and above the largest count. Its title is a template with two placeholders:
`@feature@` becomes `str(feature)`, and `@index/name@` becomes the word `name` or `index`.

The code fills the template by two `str.replace` calls in turn, the second running over
the output of the first. The docstring's reading is one simultaneous substitution,
`substitutedTitle`: replace `@index/name@` in the template's pieces between the
`@feature@`s and join them with `str(feature)`. The two agree whenever `str(feature)`
shares no character with `@index/name@`, in particular for every integer index; a feature
whose name itself contains `@index/name@` has it replaced too.

## Main results

* `splitValueHistogramTitle_eq_substitutedTitle` — the two readings agree when
  `str(feature)` is non-empty and shares no character with `@index/name@`.
* `splitValueHistogramTitle_index` — they always agree for an integer index.
* `plotSplitValueHistogram_calls` — every call the plot makes, in order.
* `plotSplitValueHistogram_draws` — with the feature used in splitting and arguments that
  pass their checks, the plot returns, and its default limits contain every bar.
-/

namespace LightGBMPlotting

/-! ### The title -/

/-- `str(feature)`. -/
def featureStr : Feature → String
  | .index i => toString i
  | .name s => s

/-- What `@index/name@` stands for: `'name'` for a string feature, `'index'` otherwise. -/
def indexOrName : Feature → String
  | .name _ => "name"
  | .index _ => "index"

/-- Lines 237–238: `title.replace('@feature@', str(feature))`, then
`.replace('@index/name@', 'name' or 'index')` on the result. -/
def splitValueHistogramTitle (title : String) (feature : Feature) : String :=
  strReplace (strReplace title "@feature@" (featureStr feature)) "@index/name@"
    (indexOrName feature)

/-- The docstring's substitution, done at once: `@index/name@` is replaced in the pieces
of the template between its `@feature@`s, and the pieces are joined by `str(feature)`,
which is kept verbatim. -/
def substitutedTitle (title : String) (feature : Feature) : String :=
  (featureStr feature).intercalate
    ((strSplit title "@feature@").map (strReplace · "@index/name@" (indexOrName feature)))

/-- **The two readings agree** when `str(feature)` is non-empty and has no character of
`@index/name@`: no placeholder can then be formed with, or inside, the feature. -/
theorem splitValueHistogramTitle_eq_substitutedTitle (title : String) (feature : Feature)
    (hne : (featureStr feature).data ≠ [])
    (hchars : ∀ c ∈ (featureStr feature).data, c ∉ "@index/name@".data) :
    splitValueHistogramTitle title feature = substitutedTitle title feature :=
  strReplace_strReplace_eq_intercalate _ _ _ _ _ (by decide) hne hchars

/-- The default title of feature `f0`, both ways. -/
theorem default_title_f0 :
    ((featureStr (.name "f0")).data ≠ [] ∧
        ∀ c ∈ (featureStr (.name "f0")).data, c ∉ "@index/name@".data) ∧
      splitValueHistogramTitle "Split value histogram for feature with @index/name@ @feature@"
          (.name "f0") =
        substitutedTitle "Split value histogram for feature with @index/name@ @feature@"
          (.name "f0") :=
  have h : (featureStr (.name "f0")).data ≠ [] ∧
      ∀ c ∈ (featureStr (.name "f0")).data, c ∉ "@index/name@".data := by decide
  ⟨h, splitValueHistogramTitle_eq_substitutedTitle _ _ h.1 h.2⟩

/-- **An integer index is substituted verbatim.** Its `str` is a sign and digits, none
of which is in `@index/name@`. -/
theorem splitValueHistogramTitle_index (title : String) (i : ℤ) :
    splitValueHistogramTitle title (.index i) = substitutedTitle title (.index i) := by
  obtain ⟨hne, hdigits⟩ := intToString_data i
  have hsafe : ∀ c ∈ "-0123456789".data, c ∉ "@index/name@".data := by decide
  exact strReplace_strReplace_eq_intercalate _ _ _ _ _ (by decide) hne
    fun c hc => hsafe c (hdigits c hc)

/-! ### `plot_split_value_histogram` -/

/-- The arguments of `plot_split_value_histogram` after `booster` and `feature`, with
their defaults. -/
structure SplitValueHistogramArgs where
  bins : Option PyObj := none
  ax : Option Axes := none
  widthCoef : ℚ := 4 / 5
  xlim : PyObj := .none
  ylim : PyObj := .none
  title : Option String := some "Split value histogram for feature with @index/name@ @feature@"
  xlabel : Option String := some "Feature split value"
  ylabel : Option String := some "Count"
  figsize : PyObj := .none
  grid : Bool := true
  kwargs : PyDict PyObj := PyDict.empty

/-- `(bins[:-1] + bins[1:]) / 2`: the centre of each bin. -/
def binCentres (bins : List ℚ) : List ℚ :=
  List.zipWith (fun a b => (a + b) / 2) bins.dropLast bins.tail

@[simp] theorem binCentres_cons_cons (a b : ℚ) (bins : List ℚ) :
    binCentres (a :: b :: bins) = (a + b) / 2 :: binCentres (b :: bins) := rfl

/-- A centre lies between any two bounds of all the edges. -/
theorem binCentres_bounded {lo hi : ℚ} :
    ∀ {bins : List ℚ}, (∀ x ∈ bins, lo ≤ x ∧ x ≤ hi) → ∀ c ∈ binCentres bins, lo ≤ c ∧ c ≤ hi
  | [], _, _, hc => by simp [binCentres] at hc
  | [_], _, _, hc => by simp [binCentres] at hc
  | a :: b :: bins, h, c, hc => by
    rcases List.mem_cons.mp ((binCentres_cons_cons a b bins) ▸ hc) with rfl | hc
    · obtain ⟨ha, ha'⟩ := h a (List.mem_cons_self _ _)
      obtain ⟨hb, hb'⟩ := h b (List.mem_cons_of_mem _ (List.mem_cons_self _ _))
      constructor <;> linarith
    · exact binCentres_bounded (fun x hx => h x (List.mem_cons_of_mem _ hx)) c hc

/-- Sorted edges lie between the first and the last. -/
theorem mem_bounds_of_sorted {bins : List ℚ} {lo hi : ℚ} (hs : bins.Sorted (· ≤ ·))
    (hlo : bins.head? = some lo) (hhi : bins.getLast? = some hi) :
    ∀ x ∈ bins, lo ≤ x ∧ x ≤ hi := by
  obtain ⟨ys, rfl⟩ := List.getLast?_eq_some_iff.mp hhi
  intro x hx
  constructor
  · cases ys with
    | nil => simp_all
    | cons y ys =>
      obtain rfl : y = lo := by simpa using hlo
      rcases List.mem_cons.mp hx with rfl | hx
      · exact le_refl _
      · exact List.rel_of_sorted_cons hs x hx
  · rcases List.mem_append.mp hx with hx | hx
    · exact (List.pairwise_append.mp hs).2.2 x hx hi (List.mem_singleton_self _)
    · exact le_of_eq (List.mem_singleton.mp hx)

/-- What the plot reads of a histogram with a non-zero count exists: the check passes,
there are two edges at least, and the counts have a greatest one, which is positive, so
that every count lies below `1.1` times it. -/
theorem Histogram.used_edges {hg : Histogram} (hused : ∃ n ∈ hg.hist, n ≠ 0) :
    (hg.hist.countP (· != 0) == 0) = false ∧
      ∃ (lo b₁ : ℚ) (rest : List ℚ) (hi : ℚ) (m : ℕ), hg.bins = lo :: b₁ :: rest ∧
        hg.bins.getLast? = some hi ∧ pyMax (hg.hist.map (↑)) = .ok (m : ℚ) ∧ m ∈ hg.hist ∧
          (∀ n ∈ hg.hist, n ≤ m) ∧ ∀ n ∈ hg.hist, (n : ℚ) < m * 11 / 10 := by
  obtain ⟨n, hn, hn0⟩ := hused
  have hcount : (hg.hist.countP (· != 0) == 0) = false := by
    have := (@List.countP_pos_iff _ hg.hist (· != 0)).mpr ⟨n, hn, by simpa using hn0⟩
    simp only [beq_eq_false_iff_ne]
    omega
  -- numpy's edges are one more than the counts: two at least
  obtain ⟨lo, b₁, rest, hbins⟩ : ∃ lo b₁ rest, hg.bins = lo :: b₁ :: rest := by
    have hlen : 2 ≤ hg.bins.length := by
      have := List.length_pos_of_mem hn
      have := hg.bins_length
      omega
    rcases hb : hg.bins with _ | ⟨lo, _ | ⟨b₁, rest⟩⟩ <;> simp only [hb, List.length_cons,
      List.length_nil] at hlen
    · omega
    · omega
    · exact ⟨lo, b₁, rest, rfl⟩
  obtain ⟨hi, hhi⟩ : ∃ hi, hg.bins.getLast? = some hi :=
    Option.ne_none_iff_exists'.mp (by simp [hbins])
  obtain ⟨mq, hmax, hm_mem, hm_le⟩ :=
    @pyMax_eq_ok (hg.hist.map ((↑) : ℕ → ℚ)) (by simpa using List.ne_nil_of_mem hn)
  obtain ⟨m, hm, rfl⟩ := List.mem_map.mp hm_mem
  have hpos : (0 : ℚ) < m := by
    have := hm_le n (List.mem_map_of_mem _ hn)
    have : (0 : ℚ) < n := by exact_mod_cast Nat.pos_of_ne_zero hn0
    linarith
  refine ⟨hcount, lo, b₁, rest, hi, m, hbins, hhi, hmax, hm,
    fun k hk => by exact_mod_cast hm_le k (List.mem_map_of_mem _ hk), fun k hk => ?_⟩
  have := hm_le k (List.mem_map_of_mem _ hk)
  linarith

/-- `plot_split_value_histogram(booster, feature, ...)`. numpy's indexing of `bins` is
Python's list indexing here; the check on `hist` before it leaves every index in range. -/
def plotSplitValueHistogram (compat : Compat) (booster : PlotArg) (feature : Feature)
    (args : SplitValueHistogramArgs) : Except PyError Axes := do
  requireBackend compat.matplotlibInstalled
    "You must install matplotlib to plot split value histogram."
  let booster ← booster.toBooster
  let h := booster.getSplitValueHistogram feature args.bins
  raiseIf (h.hist.countP (· != 0) == 0) (.valueError
    ("Cannot plot split value histogram, because feature " ++ featureStr feature ++
      " was not used in splitting"))
  let b0 ← listIndex h.bins 0
  let b1 ← listIndex h.bins 1
  let width := args.widthCoef * (b1 - b0)
  let centred := binCentres h.bins
  let ax ← subplotsIfNone args.ax args.figsize
  checkDuplicateArgs "bar" "keyword argument" ["align", "width"] args.kwargs
  let ax := ax.call (.bar centred h.hist width args.kwargs.items)
  let xlim ← limitOrDefault args.xlim "xlim" (paddedRange b0 <$> listIndex h.bins (-1))
  let ax := (ax.call (.setXlim xlim)).call .integerYLocator
  let ylim ← limitOrDefault args.ylim "ylim"
    ((fun m => .tuple [.num 0, .num (m * 11 / 10)]) <$> pyMax (h.hist.map (↑)))
  let ax := ax.call (.setYlim ylim)
  let ax := ((ax.callIf (args.title.map (splitValueHistogramTitle · feature)) .setTitle).callIf
    args.xlabel .setXlabel).callIf args.ylabel .setYlabel
  pure (ax.call (.grid args.grid))

/-- **Every call the plot makes**, in order, whenever it returns: the bars at the bin
centres with the histogram's counts, the two limits with the integer locator between
them, then the title filled in from the template, the labels and the grid. -/
theorem plotSplitValueHistogram_calls {compat : Compat} {booster : PlotArg} {feature : Feature}
    {args : SplitValueHistogramArgs} {ax' : Axes}
    (h : plotSplitValueHistogram compat booster feature args = .ok ax') :
    ∃ (b : Booster) (ax₀ : Axes) (width : ℚ) (xlim ylim : PyObj), booster.toBooster = .ok b ∧
      ax'.calls = ax₀.calls ++
        .bar (binCentres (b.getSplitValueHistogram feature args.bins).bins)
          (b.getSplitValueHistogram feature args.bins).hist width args.kwargs.items ::
        .setXlim xlim :: .integerYLocator :: .setYlim ylim ::
          ((args.title.map fun t => .setTitle (splitValueHistogramTitle t feature)).toList ++
            (args.xlabel.map .setXlabel).toList ++ (args.ylabel.map .setYlabel).toList ++
              [.grid args.grid]) := by
  simp only [plotSplitValueHistogram, Except.bind_eq_ok] at h
  obtain ⟨_, -, b, hb, _, -, b0, -, b1, -, ax₀, -, _, -, xlim, -, ylim, -, h⟩ := h
  cases h
  exact ⟨b, ax₀, args.widthCoef * (b1 - b0), xlim, ylim, hb,
    by simp [Option.map_map, Function.comp_def]⟩

/-- A booster every feature of which has one split, at a threshold in `[0, 1]`. -/
def oneSplitBooster : Booster where
  featureImportance _ := []
  featureName := []
  getSplitValueHistogram _ _ := ⟨[1], [0, 1], rfl⟩
  dumpModel := ⟨[], none⟩
  importance_length _ := rfl
  importance_nonneg _ _ h := absurd h (List.not_mem_nil _)

/-- A feature named `@index/name@`, with the title `@feature@`: the plot sets the title
`name`, where the substitution gives the feature's name verbatim. -/
theorem plotSplitValueHistogram_placeholder_name :
    ∃ ax', plotSplitValueHistogram ⟨true, true⟩ (.booster oneSplitBooster) (.name "@index/name@")
        { title := some "@feature@" } = .ok ax' ∧
      AxesCall.setTitle "name" ∈ ax'.calls ∧
      substitutedTitle "@feature@" (.name "@index/name@") = "@index/name@" := by
  obtain ⟨ax', h⟩ : ∃ ax', plotSplitValueHistogram ⟨true, true⟩ (.booster oneSplitBooster)
      (.name "@index/name@") { title := some "@feature@" } = .ok ax' := ⟨_, rfl⟩
  obtain ⟨b, ax₀, width, xlim, ylim, -, hcalls⟩ := plotSplitValueHistogram_calls h
  have htitle : splitValueHistogramTitle "@feature@" (.name "@index/name@") = "name" := by decide
  refine ⟨ax', h, ?_, by decide⟩
  simp [hcalls, htitle]

/-- **The histogram is drawn when the feature was used.** With matplotlib installed, a
model whose histogram of the feature has a non-zero count, axes that open, neither `align`
nor `width` among the keyword arguments, and limits that pass their check,
`plot_split_value_histogram` returns. Its bars stand at the bin centres with the counts as
heights and a width of `width_coef` times the first bin's. The default x-range pads the
first and last edges by a fifth of their span, and contains every centre when the edges
are sorted, as `numpy.histogram` returns them; the default y-range is `(0, 1.1 m)` with `m`
the greatest count, and rises above every count. -/
theorem plotSplitValueHistogram_draws {compat : Compat} {booster : PlotArg} {feature : Feature}
    {args : SplitValueHistogramArgs} {b : Booster} {hg : Histogram} {ax₀ : Axes}
    (hmpl : compat.matplotlibInstalled = true) (hb : booster.toBooster = .ok b)
    (hh : b.getSplitValueHistogram feature args.bins = hg) (hused : ∃ n ∈ hg.hist, n ≠ 0)
    (hax : subplotsIfNone args.ax args.figsize = .ok ax₀)
    (hkw : ∀ k ∈ ["align", "width"], k ∉ args.kwargs.keys)
    (hxlim : LimitOk args.xlim) (hylim : LimitOk args.ylim) :
    ∃ (ax' : Axes) (lo b₁ hi : ℚ) (m : ℕ) (xlim ylim : PyObj),
      plotSplitValueHistogram compat booster feature args = .ok ax' ∧
      hg.bins.head? = some lo ∧ hg.bins[1]? = some b₁ ∧ hg.bins.getLast? = some hi ∧
      ax'.calls = ax₀.calls ++
        .bar (binCentres hg.bins) hg.hist (args.widthCoef * (b₁ - lo)) args.kwargs.items ::
          .setXlim xlim :: .integerYLocator :: .setYlim ylim ::
            ((args.title.map fun t => .setTitle (splitValueHistogramTitle t feature)).toList ++
              (args.xlabel.map .setXlabel).toList ++ (args.ylabel.map .setYlabel).toList ++
                [.grid args.grid]) ∧
      (args.xlim = .none → xlim = paddedRange lo hi) ∧
      (args.ylim = .none → ylim = .tuple [.num 0, .num (m * 11 / 10)]) ∧
      (hg.bins.Sorted (· ≤ ·) → ∀ c ∈ binCentres hg.bins, lo ≤ c ∧ c ≤ hi) ∧
      (m ∈ hg.hist ∧ ∀ n ∈ hg.hist, n ≤ m) ∧ ∀ n ∈ hg.hist, (n : ℚ) < m * 11 / 10 := by
  obtain ⟨hcount, lo, b₁, rest, hi, m, hbins, hhi, hmax, hm, hle, hlt⟩ :=
    Histogram.used_edges hused
  have h0 : listIndex hg.bins 0 = .ok lo := by simp [listIndex, hbins]
  have h1 : listIndex hg.bins 1 = .ok b₁ := by simp [listIndex, hbins]
  obtain ⟨xl, hxl, hxl_def⟩ := limitOrDefault_of_limitOk hxlim "xlim" (paddedRange lo hi)
  obtain ⟨yl, hyl, hyl_def⟩ := limitOrDefault_of_limitOk hylim "ylim"
    (.tuple [.num 0, .num (m * 11 / 10)])
  constructor
  refine ⟨lo, b₁, hi, m, xl, yl, ?_, by simp [hbins], by simp [hbins], hhi, ?_, hxl_def, hyl_def,
    fun hs => binCentres_bounded (mem_bounds_of_sorted hs (by simp [hbins]) hhi), ⟨hm, hle⟩, hlt⟩
  · simp only [plotSplitValueHistogram, hmpl, requireBackend_true, hb, hh, hcount, raiseIf_false,
      h0, h1, hax, checkDuplicateArgs_eq_ok hkw, listIndex_neg_one hhi, hmax, Except.ok_bind,
      Except.map_ok, hxl, hyl]
    rfl
  · simp [Option.map_map, Function.comp_def]

/-- `plot_split_value_histogram(booster, 0)` on `oneSplitBooster`: one bar, of height `1`
at the centre of `[0, 1]`, inside both default ranges. -/
theorem oneSplit_histogram_draws :
    ∃ (ax' : Axes) (lo b₁ hi : ℚ) (m : ℕ) (xlim ylim : PyObj),
      plotSplitValueHistogram ⟨true, true⟩ (.booster oneSplitBooster) (.index 0) {} = .ok ax' ∧
      [0, 1].head? = some lo ∧ [(0 : ℚ), 1][1]? = some b₁ ∧ [0, 1].getLast? = some hi ∧
      ax'.calls = [] ++ .bar (binCentres [0, 1]) [1] (4 / 5 * (b₁ - lo)) [] ::
          .setXlim xlim :: .integerYLocator :: .setYlim ylim ::
            ([.setTitle (splitValueHistogramTitle
                "Split value histogram for feature with @index/name@ @feature@" (.index 0))] ++
              [.setXlabel "Feature split value"] ++ [.setYlabel "Count"] ++ [.grid true]) ∧
      (PyObj.none = .none → xlim = paddedRange lo hi) ∧
      (PyObj.none = .none → ylim = .tuple [.num 0, .num (m * 11 / 10)]) ∧
      (List.Sorted (· ≤ ·) [(0 : ℚ), 1] → ∀ c ∈ binCentres [0, 1], lo ≤ c ∧ c ≤ hi) ∧
      (m ∈ [1] ∧ ∀ n ∈ ([1] : List ℕ), n ≤ m) ∧ ∀ n ∈ ([1] : List ℕ), (n : ℚ) < m * 11 / 10 :=
  @plotSplitValueHistogram_draws ⟨true, true⟩ (.booster oneSplitBooster) (.index 0) {}
    oneSplitBooster ⟨[1], [0, 1], rfl⟩ ⟨.none, []⟩ rfl rfl rfl ⟨1, by decide, by decide⟩ rfl
    (by decide) (Or.inl rfl) (Or.inl rfl)

end LightGBMPlotting
