import LightGBMPlotting.TreeWalk

/-!
# The Tree Entry Points and their Deprecated Parameters

`create_tree_digraph` picks one tree of the model dump and hands it to `_to_graphviz`;
`plot_tree` calls it and shows the rendered graph in an `Axes`. Both accept deprecated
parameters `old_<p>`, which they fold into the keyword arguments of `Digraph` under the
key `<p>` unless the caller already passed that key. Each finds the value of `old_<p>`
by `locals().get('old_<p>')`, so the model carries `locals()` explicitly: the list of the
function's local names and their values.

`create_tree_digraph` has one more deprecated parameter, `old_strict`, handled apart: its
branch reads `locals().get('strict')`. No local of the function is called `strict`, so
the lookup is always `None` and the branch never runs; `old_strict=True` never reaches
`Digraph` (`createTreeDigraph_ignores_oldStrict`).

## Main results

* `foldDeprecated_kwargs` — the loop's invariant: the keyword arguments after the loop
  are the given ones followed by one entry per deprecated parameter that is set and
  whose key was not given; no given entry changes.
* `createTreeDigraph_options` — the options `Digraph` is built with.
* `plotTree_options` — the same through `plot_tree`, which folds its three parameters and
  passes the rest on.
* `createTreeDigraph_eq_walk`, `plotTree_shows_walk` — on a tree that passes the walker's
  checks, both entry points return the digraph of the walk.
* `createTreeDigraph_ignores_unknown_showInfo` — `show_info` entries the walker does not
  know change nothing, so a misspelt one goes unreported.
* `createTreeDigraph_duplicate_argument` — a `**kwargs` key naming a parameter of
  `_to_graphviz` raises `TypeError`, naming the first such key.
-/

namespace LightGBMPlotting

/-! ### `locals()` and the deprecation loop -/

/-- Python's `x is None`. -/
def PyObj.isNone : PyObj → Bool
  | .none => true
  | _ => false

/-- `locals().get(name)`. -/
def getLocal (locals : List (String × PyObj)) (name : String) : PyObj :=
  (locals.lookup name).getD .none

/-- The warning for a deprecated parameter `old_<p>`. -/
def deprecationWarning (paramName : String) : String :=
  paramName ++ " parameter is deprecated and will be removed in 2.4 version.\n" ++
    "Please use **kwargs to pass " ++ paramName.drop 4 ++ " parameter."

/-- The loop of both tree entry points over their deprecated parameter names: for each
`old_<p>` whose local is not `None`, warn, and set `kwargs['<p>']` unless `<p>` is
already a key. Returns the warnings and the keyword arguments. -/
def foldDeprecated (locals : List (String × PyObj)) :
    List String → PyDict PyObj → List String × PyDict PyObj
  | [], kwargs => ([], kwargs)
  | paramName :: rest, kwargs =>
    let param := getLocal locals paramName
    if param.isNone then foldDeprecated locals rest kwargs
    else
      let kwargs := if kwargs.contains (paramName.drop 4) then kwargs
        else kwargs.setItem (paramName.drop 4) param
      let r := foldDeprecated locals rest kwargs
      (deprecationWarning paramName :: r.1, r.2)

/-- The entries the loop adds: `(<p>, value)` for each `old_<p>` that is set and whose
key `kwargs` does not have, in loop order. -/
def deprecatedEntries (locals : List (String × PyObj)) (names : List String)
    (kwargs : PyDict PyObj) : List (String × PyObj) :=
  names.filterMap fun n =>
    if (getLocal locals n).isNone || kwargs.contains (n.drop 4) then none
    else some (n.drop 4, getLocal locals n)

/-- **The loop's invariant.** When the deprecated names have distinct keys, the loop
appends exactly `deprecatedEntries` to the given keyword arguments. -/
theorem foldDeprecated_kwargs (locals : List (String × PyObj)) (names : List String)
    (hnames : (names.map (·.drop 4)).Nodup) (kwargs : PyDict PyObj) :
    (foldDeprecated locals names kwargs).2.items =
      kwargs.items ++ deprecatedEntries locals names kwargs := by
  induction names generalizing kwargs with
  | nil => simp [foldDeprecated, deprecatedEntries]
  | cons n rest ih =>
    simp only [List.map_cons, List.nodup_cons, List.mem_map] at hnames
    obtain ⟨hn, hrest⟩ := hnames
    have hkeys : ∀ v, deprecatedEntries locals rest
        (if kwargs.contains (n.drop 4) then kwargs else kwargs.setItem (n.drop 4) v) =
        deprecatedEntries locals rest kwargs := fun v => by
      split
      · rfl
      · refine List.filterMap_congr fun m hm => ?_
        have hne : m.drop 4 ≠ n.drop 4 := fun h => hn ⟨m, hm, h⟩
        simp [PyDict.contains_setItem, hne]
    by_cases hv : (getLocal locals n).isNone
    · simp [foldDeprecated, deprecatedEntries, hv, ih hrest]
    · simp only [foldDeprecated, hv, Bool.false_eq_true, if_false, ite_false, ih hrest, hkeys]
      by_cases hk : kwargs.contains (n.drop 4)
      · simp [deprecatedEntries, hv, hk]
      · simp [deprecatedEntries, hv, hk, PyDict.setItem_items_of_not_contains]

/-- The loop adds only the keys of the names it goes through. -/
theorem mem_deprecatedEntries {locals : List (String × PyObj)} {names : List String}
    {kwargs : PyDict PyObj} {p : String × PyObj} (hp : p ∈ deprecatedEntries locals names kwargs) :
    p.1 ∈ names.map (·.drop 4) := by
  obtain ⟨n, hn, hsome⟩ := List.mem_filterMap.mp hp
  split at hsome
  · cases hsome
  · cases hsome
    exact List.mem_map_of_mem _ hn

/-- The loop adds only keys of the names it goes through. -/
theorem mem_keys_foldDeprecated {locals : List (String × PyObj)} {names : List String}
    (hnames : (names.map (·.drop 4)).Nodup) {kwargs : PyDict PyObj} {k : String}
    (hk : k ∈ (foldDeprecated locals names kwargs).2.keys) :
    k ∈ kwargs.keys ∨ k ∈ names.map (·.drop 4) := by
  rw [PyDict.keys, foldDeprecated_kwargs locals names hnames kwargs, List.map_append,
    List.mem_append] at hk
  rcases hk with hk | hk
  · exact .inl hk
  · obtain ⟨p, hp, rfl⟩ := List.mem_map.mp hk
    exact .inr (mem_deprecatedEntries hp)

/-- One warning per deprecated parameter that is set, whatever `kwargs` holds. -/
theorem foldDeprecated_warnings (locals : List (String × PyObj)) (names : List String)
    (kwargs : PyDict PyObj) :
    (foldDeprecated locals names kwargs).1 =
      (names.filter fun n => !(getLocal locals n).isNone).map deprecationWarning := by
  induction names generalizing kwargs with
  | nil => rfl
  | cons n rest ih =>
    by_cases hv : (getLocal locals n).isNone <;> simp [foldDeprecated, hv, ih]

/-! ### `create_tree_digraph` -/

/-- The deprecated parameters of `create_tree_digraph`, each with its default. -/
structure DeprecatedParams where
  oldName : PyObj := .none
  oldComment : PyObj := .none
  oldFilename : PyObj := .none
  oldDirectory : PyObj := .none
  oldFormat : PyObj := .none
  oldEngine : PyObj := .none
  oldEncoding : PyObj := .none
  oldGraphAttr : PyObj := .none
  oldNodeAttr : PyObj := .none
  oldEdgeAttr : PyObj := .none
  oldBody : PyObj := .none
  oldStrict : PyObj := .bool false

/-- The names `create_tree_digraph`'s loop goes through, in order. -/
def createTreeDigraphDeprecated : List String :=
  ["old_name", "old_comment", "old_filename", "old_directory", "old_format", "old_engine",
    "old_encoding", "old_graph_attr", "old_node_attr", "old_edge_attr", "old_body"]

/-- An optional list of strings as the Python object it is. -/
def optionalStrings : Option (List String) → PyObj
  | some l => .list (l.map .str)
  | none => .none

/-- An optional integer as the Python object it is. -/
def optionalInt : Option ℤ → PyObj
  | some i => .num i
  | none => .none

/-- `locals()` in the body of `create_tree_digraph`: its parameters, then the loop's
`param_name` and `param` (shown at their last values). -/
def createTreeDigraphLocals (treeIndex : ℤ) (showInfo : Option (List String))
    (precision : Option ℤ) (old : DeprecatedParams) (kwargs : PyDict PyObj) :
    List (String × PyObj) :=
  [("booster", .other), ("tree_index", .num treeIndex), ("show_info", optionalStrings showInfo),
    ("precision", optionalInt precision), ("old_name", old.oldName),
    ("old_comment", old.oldComment), ("old_filename", old.oldFilename),
    ("old_directory", old.oldDirectory), ("old_format", old.oldFormat),
    ("old_engine", old.oldEngine), ("old_encoding", old.oldEncoding),
    ("old_graph_attr", old.oldGraphAttr), ("old_node_attr", old.oldNodeAttr),
    ("old_edge_attr", old.oldEdgeAttr), ("old_body", old.oldBody),
    ("old_strict", old.oldStrict), ("kwargs", .dict kwargs.items),
    ("param_name", .str "old_body"), ("param", old.oldBody)]

/-- The `old_strict` branch: `if locals().get('strict'):` warn, and set
`kwargs['strict'] = True` unless `strict` is a key. -/
def foldStrict (locals : List (String × PyObj)) (kwargs : PyDict PyObj) :
    List String × PyDict PyObj :=
  if (getLocal locals "strict").truthy then
    (["old_strict parameter is deprecated and will be removed in 2.4 version.\n" ++
        "Please use **kwargs to pass strict parameter."],
      if kwargs.contains "strict" then kwargs else kwargs.setItem "strict" (.bool true))
  else ([], kwargs)

/-- Lines 458–473 of `create_tree_digraph`: the loop, then the `old_strict` branch.
Returns the warnings issued and the keyword arguments passed on. -/
def createTreeDigraphKwargs (locals : List (String × PyObj)) (kwargs : PyDict PyObj) :
    List String × PyDict PyObj :=
  let folded := foldDeprecated locals createTreeDigraphDeprecated kwargs
  let strict := foldStrict locals folded.2
  (folded.1 ++ strict.1, strict.2)

/-- `tree_infos[tree_index]`, behind `create_tree_digraph`'s own range check (which lets
a negative index through to Python's indexing from the end). -/
def pickTree (treeInfos : List TreeInfo) (treeIndex : ℤ) : Except PyError TreeInfo :=
  if treeIndex < treeInfos.length then listIndex treeInfos treeIndex
  else .error (.indexError "tree_index is out of range.")

/-- `create_tree_digraph(booster, tree_index, show_info, precision, old_..., **kwargs)`:
the digraph of one tree, and the warnings issued. -/
def createTreeDigraph (compat : Compat) (fmt : FloatFormat) (booster : PlotArg)
    (treeIndex : ℤ) (showInfo : Option (List String)) (precision : Option ℤ)
    (old : DeprecatedParams) (kwargs : PyDict PyObj) :
    Except PyError (Digraph × List String) := do
  let booster ← booster.toBooster
  let folded := createTreeDigraphKwargs
    (createTreeDigraphLocals treeIndex showInfo precision old kwargs) kwargs
  let model := booster.dumpModel
  let treeInfo ← pickTree model.treeInfo treeIndex
  checkDuplicateArgs "_to_graphviz" "argument"
    ["tree_info", "show_info", "feature_names", "precision"] folded.2
  let graph ← toGraphviz compat fmt treeInfo (showInfo.getD []) model.featureNames precision
    folded.2
  pure (graph, folded.1)

/-- `create_tree_digraph` never sees a local named `strict`. -/
theorem getLocal_strict (treeIndex : ℤ) (showInfo : Option (List String))
    (precision : Option ℤ) (old : DeprecatedParams) (kwargs : PyDict PyObj) :
    getLocal (createTreeDigraphLocals treeIndex showInfo precision old kwargs) "strict" =
      .none := rfl

/-- The keyword arguments `create_tree_digraph` passes on: the given ones, then one entry
per deprecated parameter among `old_name`…`old_body` that is set and whose key was not
given. `old_strict` plays no part. -/
theorem createTreeDigraphKwargs_items (treeIndex : ℤ) (showInfo : Option (List String))
    (precision : Option ℤ) (old : DeprecatedParams) (kwargs : PyDict PyObj) :
    (createTreeDigraphKwargs (createTreeDigraphLocals treeIndex showInfo precision old kwargs)
        kwargs).2.items =
      kwargs.items ++ deprecatedEntries (createTreeDigraphLocals treeIndex showInfo precision
        old kwargs) createTreeDigraphDeprecated kwargs := by
  simp only [createTreeDigraphKwargs, foldStrict, getLocal_strict, PyObj.truthy,
    Bool.false_eq_true, if_false]
  exact foldDeprecated_kwargs _ _ (by decide) kwargs

/-- The loop adds only keys of the deprecated names, none of which `_to_graphviz` takes:
the keyword arguments it passes on name a parameter of `_to_graphviz` only when the given
ones do. -/
theorem createTreeDigraphKwargs_keys {treeIndex : ℤ} {showInfo : Option (List String)}
    {precision : Option ℤ} {old : DeprecatedParams} {kwargs : PyDict PyObj}
    (hkw : ∀ k ∈ ["tree_info", "show_info", "feature_names", "precision"], k ∉ kwargs.keys) :
    ∀ k ∈ ["tree_info", "show_info", "feature_names", "precision"],
      k ∉ (createTreeDigraphKwargs
        (createTreeDigraphLocals treeIndex showInfo precision old kwargs) kwargs).2.keys := by
  have hnew : ∀ k ∈ ["tree_info", "show_info", "feature_names", "precision"],
      k ∉ createTreeDigraphDeprecated.map (·.drop 4) := by decide
  intro k hk hmem
  rw [PyDict.keys, createTreeDigraphKwargs_items, List.map_append, List.mem_append] at hmem
  rcases hmem with hmem | hmem
  · exact hkw k hk hmem
  · obtain ⟨p, hp, rfl⟩ := List.mem_map.mp hmem
    exact hnew _ hk (mem_deprecatedEntries hp)

/-- With every deprecated parameter at its default, lines 458–473 warn of nothing and pass
the keyword arguments on as they are. -/
theorem createTreeDigraphKwargs_default (treeIndex : ℤ) (showInfo : Option (List String))
    (precision : Option ℤ) (kwargs : PyDict PyObj) :
    createTreeDigraphKwargs (createTreeDigraphLocals treeIndex showInfo precision {} kwargs)
      kwargs = ([], kwargs) := rfl

/-- Whenever `create_tree_digraph` returns, `Digraph` is built with the keyword arguments
its lines 458–473 produce. -/
theorem createTreeDigraph_ok_options {compat : Compat} {fmt : FloatFormat} {booster : PlotArg}
    {treeIndex : ℤ} {showInfo : Option (List String)} {precision : Option ℤ}
    {old : DeprecatedParams} {kwargs : PyDict PyObj} {g : Digraph} {warnings : List String}
    (h : createTreeDigraph compat fmt booster treeIndex showInfo precision old kwargs =
      .ok (g, warnings)) :
    g.options = (createTreeDigraphKwargs
      (createTreeDigraphLocals treeIndex showInfo precision old kwargs) kwargs).2 := by
  simp only [createTreeDigraph, Except.bind_eq_ok] at h
  obtain ⟨_, -, _, -, _, -, g', hg, hpair⟩ := h
  cases hpair
  exact toGraphviz_options fmt _ _ _ hg

/-- The options `Digraph` is built with, whenever `create_tree_digraph` returns. -/
theorem createTreeDigraph_options {compat : Compat} {fmt : FloatFormat} {booster : PlotArg}
    {treeIndex : ℤ} {showInfo : Option (List String)} {precision : Option ℤ}
    {old : DeprecatedParams} {kwargs : PyDict PyObj} {g : Digraph} {warnings : List String}
    (h : createTreeDigraph compat fmt booster treeIndex showInfo precision old kwargs =
      .ok (g, warnings)) :
    g.options.items = kwargs.items ++ deprecatedEntries
      (createTreeDigraphLocals treeIndex showInfo precision old kwargs)
      createTreeDigraphDeprecated kwargs := by
  rw [createTreeDigraph_ok_options h, createTreeDigraphKwargs_items]

/-- Whenever `create_tree_digraph` returns, it has warned once per deprecated parameter
among `old_name`…`old_body` that is set, in loop order, and never about `old_strict`. -/
theorem createTreeDigraph_warnings {compat : Compat} {fmt : FloatFormat} {booster : PlotArg}
    {treeIndex : ℤ} {showInfo : Option (List String)} {precision : Option ℤ}
    {old : DeprecatedParams} {kwargs : PyDict PyObj} {g : Digraph} {warnings : List String}
    (h : createTreeDigraph compat fmt booster treeIndex showInfo precision old kwargs =
      .ok (g, warnings)) :
    warnings = (createTreeDigraphDeprecated.filter fun n =>
      !(getLocal (createTreeDigraphLocals treeIndex showInfo precision old kwargs) n).isNone).map
        deprecationWarning := by
  simp only [createTreeDigraph, Except.bind_eq_ok] at h
  obtain ⟨_, -, _, -, _, -, g', -, hpair⟩ := h
  cases hpair
  simp [createTreeDigraphKwargs, foldStrict, getLocal_strict, PyObj.truthy,
    foldDeprecated_warnings]

/-- **Which tree `create_tree_digraph` picks.** Its range check lets every index below the
number of trees through, so Python's indexing from the end applies to a negative one: the
index picks a tree exactly when it lies in `[-len, len)`, and the tree is the one at
`tree_index mod len`. -/
theorem pickTree_eq_ok_iff (trees : List TreeInfo) (treeIndex : ℤ) (t : TreeInfo) :
    pickTree trees treeIndex = .ok t ↔
      -(trees.length : ℤ) ≤ treeIndex ∧ treeIndex < trees.length ∧
        trees[(treeIndex % trees.length).toNat]? = some t := by
  unfold pickTree listIndex
  by_cases hlt : treeIndex < trees.length
  · by_cases h0 : 0 ≤ treeIndex
    · rw [Int.emod_eq_of_lt h0 hlt]
      simp only [hlt, h0, if_true]
      split <;> simp_all
      omega
    · by_cases hlo : -(trees.length : ℤ) ≤ treeIndex
      · have hmod : treeIndex % trees.length = treeIndex + trees.length := by
          rw [← Int.add_emod_self, Int.emod_eq_of_lt (by omega) (by omega)]
        have hj : 0 ≤ treeIndex + trees.length := by omega
        rw [hmod]
        simp only [hlt, h0, hj, if_true, if_false]
        split <;> simp_all
      · have hj : ¬0 ≤ treeIndex + trees.length := by omega
        simp [hlt, h0, hj, hlo]
  · simp [hlt]

/-- The loop reads only the locals it is given the names of. -/
theorem foldDeprecated_congr {locals locals' : List (String × PyObj)} {names : List String}
    (h : ∀ n ∈ names, getLocal locals n = getLocal locals' n) (kwargs : PyDict PyObj) :
    foldDeprecated locals names kwargs = foldDeprecated locals' names kwargs := by
  induction names generalizing kwargs with
  | nil => rfl
  | cons n rest ih =>
    have hrest := ih fun m hm => h m (List.mem_cons_of_mem n hm)
    simp only [foldDeprecated, h n (List.mem_cons_self n rest), hrest]

/-- **`old_strict` is never read.** Whatever the other arguments, `create_tree_digraph`
returns, or raises, the same with `old_strict` at any value as at its default. -/
theorem createTreeDigraph_oldStrict_irrelevant (compat : Compat) (fmt : FloatFormat)
    (booster : PlotArg) (treeIndex : ℤ) (showInfo : Option (List String))
    (precision : Option ℤ) (old : DeprecatedParams) (kwargs : PyDict PyObj) :
    createTreeDigraph compat fmt booster treeIndex showInfo precision old kwargs =
      createTreeDigraph compat fmt booster treeIndex showInfo precision
        { old with oldStrict := .bool false } kwargs := by
  have hloop : ∀ n ∈ createTreeDigraphDeprecated,
      getLocal (createTreeDigraphLocals treeIndex showInfo precision old kwargs) n =
        getLocal (createTreeDigraphLocals treeIndex showInfo precision
          { old with oldStrict := .bool false } kwargs) n := by
    intro n hn
    simp only [createTreeDigraphDeprecated, List.mem_cons, List.mem_singleton,
      List.not_mem_nil, or_false] at hn
    rcases hn with rfl | rfl | rfl | rfl | rfl | rfl | rfl | rfl | rfl | rfl | rfl <;> rfl
  simp only [createTreeDigraph, createTreeDigraphKwargs, foldStrict, getLocal_strict,
    foldDeprecated_congr hloop]

/-- A booster whose dump holds the one tree `stump` and no feature names. -/
def stumpBooster : Booster where
  featureImportance _ := []
  featureName := []
  getSplitValueHistogram _ _ := ⟨[0], [0, 1], rfl⟩
  dumpModel := ⟨[⟨stump⟩], none⟩
  importance_length _ := rfl
  importance_nonneg _ _ h := absurd h (List.not_mem_nil _)

/-- `create_tree_digraph(booster, old_strict=True)` with no other keyword: the graph is
built, with no warning and without a `strict` option. -/
theorem createTreeDigraph_ignores_oldStrict :
    ∃ g, createTreeDigraph ⟨true, true⟩ FloatFormat.plain (.booster stumpBooster) 0 none none
        { oldStrict := .bool true } PyDict.empty = .ok (g, []) ∧ g.options.items = [] :=
  ⟨_, rfl, rfl⟩

/-- `create_tree_digraph(booster, old_name='t')`: the graph is named `t`. -/
theorem stump_digraph_named :
    ∃ g ws, createTreeDigraph ⟨true, true⟩ FloatFormat.plain (.booster stumpBooster) 0 none
        none { oldName := .str "t" } PyDict.empty = .ok (g, ws) ∧
      g.options.items = [("name", .str "t")] := by
  obtain ⟨g, ws, h⟩ : ∃ g ws, createTreeDigraph ⟨true, true⟩ FloatFormat.plain
      (.booster stumpBooster) 0 none none { oldName := .str "t" } PyDict.empty = .ok (g, ws) :=
    ⟨_, _, rfl⟩
  exact ⟨g, ws, h, (createTreeDigraph_options h).trans rfl⟩

/-- `create_tree_digraph(booster, old_name='t', old_body=['x'])`: two warnings, `old_name`'s
first. -/
theorem stump_digraph_two_warnings :
    ∃ g ws, createTreeDigraph ⟨true, true⟩ FloatFormat.plain (.booster stumpBooster) 0 none
        none { oldName := .str "t", oldBody := .list [.str "x"] } PyDict.empty = .ok (g, ws) ∧
      ws = [deprecationWarning "old_name", deprecationWarning "old_body"] := by
  obtain ⟨g, ws, h⟩ : ∃ g ws, createTreeDigraph ⟨true, true⟩ FloatFormat.plain
      (.booster stumpBooster) 0 none none { oldName := .str "t", oldBody := .list [.str "x"] }
      PyDict.empty = .ok (g, ws) := ⟨_, _, rfl⟩
  exact ⟨g, ws, h, (createTreeDigraph_warnings h).trans rfl⟩

/-- **`create_tree_digraph` draws the tree it picks.** With graphviz installed, a booster,
an index that picks a tree, no keyword argument named after a parameter of
`_to_graphviz`, and a tree whose labels build and whose decision types are known,
`create_tree_digraph` returns: the digraph has the folded keyword arguments as options and
the calls of the walk of the tree, and the warnings are the deprecation loop's. -/
theorem createTreeDigraph_eq_walk {compat : Compat} {fmt : FloatFormat} {booster : PlotArg}
    {b : Booster} {treeIndex : ℤ} {showInfo : Option (List String)} {precision : Option ℤ}
    {old : DeprecatedParams} {kwargs : PyDict PyObj} {t : TreeInfo}
    (hgv : compat.graphvizInstalled = true) (hb : booster.toBooster = .ok b)
    (ht : pickTree b.dumpModel.treeInfo treeIndex = .ok t)
    (hkw : ∀ k ∈ ["tree_info", "show_info", "feature_names", "precision"], k ∉ kwargs.keys)
    (hdt : ∀ n ∈ t.treeStructure.preorder, n.DecisionTypeValid)
    (hlabel : ∀ n ∈ t.treeStructure.preorder,
      (n.label fmt b.dumpModel.featureNames (showInfo.getD []) precision).isOk) :
    createTreeDigraph compat fmt booster treeIndex showInfo precision old kwargs =
      .ok (⟨(createTreeDigraphKwargs
          (createTreeDigraphLocals treeIndex showInfo precision old kwargs) kwargs).2,
        t.treeStructure.walk
          (TreeNode.labelText fmt b.dumpModel.featureNames (showInfo.getD []) precision) none none⟩,
        (createTreeDigraphKwargs
          (createTreeDigraphLocals treeIndex showInfo precision old kwargs) kwargs).1) := by
  simp only [createTreeDigraph, hb, ht, checkDuplicateArgs_eq_ok (createTreeDigraphKwargs_keys hkw),
    toGraphviz_eq_walk fmt _ _ _ hgv _ hdt hlabel, Except.ok_bind]
  rfl

/-- `create_tree_digraph(booster)` on `stumpBooster`: the stump's walk, with no option and
no warning. -/
theorem stump_digraph_walk :
    createTreeDigraph ⟨true, true⟩ FloatFormat.plain (.booster stumpBooster) 0 none none {}
        PyDict.empty =
      .ok (⟨(createTreeDigraphKwargs (createTreeDigraphLocals 0 none none {} PyDict.empty)
          PyDict.empty).2, stump.walk (TreeNode.labelText FloatFormat.plain none [] none) none none⟩,
        (createTreeDigraphKwargs (createTreeDigraphLocals 0 none none {} PyDict.empty)
          PyDict.empty).1) :=
  @createTreeDigraph_eq_walk ⟨true, true⟩ FloatFormat.plain (.booster stumpBooster) stumpBooster 0
    none none {} PyDict.empty ⟨stump⟩ rfl rfl rfl (by decide) (by decide) (by decide)

/-! ### What `create_tree_digraph` does not check -/

/-- Lines 458–473 read only the deprecated parameters among the locals. -/
theorem createTreeDigraphKwargs_locals (treeIndex treeIndex' : ℤ)
    (showInfo showInfo' : Option (List String)) (precision precision' : Option ℤ)
    (old : DeprecatedParams) (kwargs : PyDict PyObj) :
    createTreeDigraphKwargs (createTreeDigraphLocals treeIndex showInfo precision old kwargs)
        kwargs =
      createTreeDigraphKwargs (createTreeDigraphLocals treeIndex' showInfo' precision' old kwargs)
        kwargs := by
  have hloop : ∀ n ∈ createTreeDigraphDeprecated,
      getLocal (createTreeDigraphLocals treeIndex showInfo precision old kwargs) n =
        getLocal (createTreeDigraphLocals treeIndex' showInfo' precision' old kwargs) n := by
    intro n hn
    simp only [createTreeDigraphDeprecated, List.mem_cons, List.mem_singleton,
      List.not_mem_nil, or_false] at hn
    rcases hn with rfl | rfl | rfl | rfl | rfl | rfl | rfl | rfl | rfl | rfl | rfl <;> rfl
  simp only [createTreeDigraphKwargs, foldStrict, getLocal_strict, foldDeprecated_congr hloop]

/-- **`show_info` is not validated.** `create_tree_digraph` returns, or raises, the same
with `show_info` as with only its entries among `split_gain`, `internal_value`,
`internal_count` and `leaf_count`: a misspelt field is neither shown nor reported. -/
theorem createTreeDigraph_ignores_unknown_showInfo (compat : Compat) (fmt : FloatFormat)
    (booster : PlotArg) (treeIndex : ℤ) (showInfo : List String) (precision : Option ℤ)
    (old : DeprecatedParams) (kwargs : PyDict PyObj) :
    createTreeDigraph compat fmt booster treeIndex (some showInfo) precision old kwargs =
      createTreeDigraph compat fmt booster treeIndex
        (some (showInfo.filter (· ∈ showInfoFields))) precision old kwargs := by
  simp only [createTreeDigraph, Option.getD_some,
    toGraphviz_showInfoFields fmt _ showInfo precision,
    createTreeDigraphKwargs_locals treeIndex treeIndex (some showInfo)
      (some (showInfo.filter (· ∈ showInfoFields))) precision precision old kwargs]

/-- **A keyword of `_to_graphviz` raises.** With a booster and an index that picks a tree,
a `**kwargs` naming `tree_info`, `show_info`, `feature_names` or `precision` makes
`create_tree_digraph` raise `TypeError`, graphviz installed or not, naming the first such
key the caller passed: the keys the deprecation loop adds come after the given ones and
name none of them. -/
theorem createTreeDigraph_duplicate_argument {compat : Compat} {fmt : FloatFormat}
    {booster : PlotArg} {b : Booster} {treeIndex : ℤ} {showInfo : Option (List String)}
    {precision : Option ℤ} {old : DeprecatedParams} {kwargs : PyDict PyObj} {t : TreeInfo}
    {pre post : List String} {k : String}
    (hb : booster.toBooster = .ok b) (ht : pickTree b.dumpModel.treeInfo treeIndex = .ok t)
    (hkeys : kwargs.keys = pre ++ k :: post)
    (hk : k ∈ ["tree_info", "show_info", "feature_names", "precision"])
    (hpre : ∀ k' ∈ pre, k' ∉ ["tree_info", "show_info", "feature_names", "precision"]) :
    createTreeDigraph compat fmt booster treeIndex showInfo precision old kwargs =
      .error (.typeError (multipleValues "_to_graphviz" "argument" k)) := by
  have hfind : (createTreeDigraphKwargs (createTreeDigraphLocals treeIndex showInfo precision
      old kwargs) kwargs).2.keys.find? (· ∈ ["tree_info", "show_info", "feature_names",
        "precision"]) = some k := by
    have hnone : pre.find? (· ∈ ["tree_info", "show_info", "feature_names", "precision"]) =
        none := List.find?_eq_none.mpr fun x hx => by simpa using hpre x hx
    have hhead : (k :: post).find? (· ∈ ["tree_info", "show_info", "feature_names",
        "precision"]) = some k := List.find?_cons_of_pos _ (decide_eq_true hk)
    rw [PyDict.keys, createTreeDigraphKwargs_items, List.map_append, ← PyDict.keys, hkeys,
      List.find?_append, List.find?_append, hnone, hhead]
    rfl
  simp only [createTreeDigraph, hb, ht, checkDuplicateArgs, hfind, Except.ok_bind]
  rfl

/-- `create_tree_digraph(booster, feature_names=None)`: `feature_names` is
`_to_graphviz`'s own argument. -/
theorem stump_digraph_feature_names_raises :
    (⟨[("feature_names", .none)], by decide⟩ : PyDict PyObj).keys = [] ++ "feature_names" :: [] ∧
      "feature_names" ∈ ["tree_info", "show_info", "feature_names", "precision"] ∧
      createTreeDigraph ⟨true, true⟩ FloatFormat.plain (.booster stumpBooster) 0 none none {}
          ⟨[("feature_names", .none)], by decide⟩ =
        .error (.typeError (multipleValues "_to_graphviz" "argument" "feature_names")) :=
  ⟨rfl, by decide, createTreeDigraph_duplicate_argument rfl rfl rfl (by decide)
    fun _ h => absurd h (List.not_mem_nil _)⟩

/-! ### `plot_tree` -/

/-- The names `plot_tree`'s loop goes through, in order. -/
def plotTreeDeprecated : List String := ["old_graph_attr", "old_node_attr", "old_edge_attr"]

/-- `locals()` in `plot_tree`'s loop: its parameters, and the two modules its opening
imports. -/
def plotTreeLocals (ax : Option Axes) (treeIndex : ℤ) (figsize oldGraphAttr oldNodeAttr
    oldEdgeAttr : PyObj) (showInfo : Option (List String)) (precision : Option ℤ)
    (kwargs : PyDict PyObj) : List (String × PyObj) :=
  [("booster", .other), ("ax", if ax.isSome then .other else .none),
    ("tree_index", .num treeIndex), ("figsize", figsize), ("old_graph_attr", oldGraphAttr),
    ("old_node_attr", oldNodeAttr), ("old_edge_attr", oldEdgeAttr),
    ("show_info", optionalStrings showInfo), ("precision", optionalInt precision),
    ("kwargs", .dict kwargs.items), ("plt", .other), ("image", .other)]

/-- How Python binds the `**kwargs` of `plot_tree`'s call to `create_tree_digraph`: a key
naming one of its deprecated parameters passes that parameter, the others stay in its
`**kwargs`. -/
def bindCreateTreeDigraph (kwargs : PyDict PyObj) : DeprecatedParams × PyDict PyObj :=
  let arg (k : String) (default : PyObj) := (kwargs.get? k).getD default
  ({ oldName := arg "old_name" .none, oldComment := arg "old_comment" .none,
     oldFilename := arg "old_filename" .none, oldDirectory := arg "old_directory" .none,
     oldFormat := arg "old_format" .none, oldEngine := arg "old_engine" .none,
     oldEncoding := arg "old_encoding" .none, oldGraphAttr := arg "old_graph_attr" .none,
     oldNodeAttr := arg "old_node_attr" .none, oldEdgeAttr := arg "old_edge_attr" .none,
     oldBody := arg "old_body" .none, oldStrict := arg "old_strict" (.bool false) },
    kwargs.filterKeys fun k => k ∉ createTreeDigraphDeprecated ++ ["old_strict"])

/-- `plot_tree(booster, ax, tree_index, figsize, old_graph_attr, old_node_attr,
old_edge_attr, show_info, precision, **kwargs)`: the axes showing the tree's digraph, and
the warnings issued. -/
def plotTree (compat : Compat) (fmt : FloatFormat) (booster : PlotArg) (ax : Option Axes)
    (treeIndex : ℤ) (figsize oldGraphAttr oldNodeAttr oldEdgeAttr : PyObj)
    (showInfo : Option (List String)) (precision : Option ℤ) (kwargs : PyDict PyObj) :
    Except PyError (Axes × List String) := do
  requireBackend compat.matplotlibInstalled "You must install matplotlib to plot tree."
  let folded := foldDeprecated (plotTreeLocals ax treeIndex figsize oldGraphAttr oldNodeAttr
    oldEdgeAttr showInfo precision kwargs) plotTreeDeprecated kwargs
  let ax ← subplotsIfNone ax figsize
  checkDuplicateArgs "create_tree_digraph" "keyword argument"
    ["booster", "tree_index", "show_info", "precision"] folded.2
  let bound := bindCreateTreeDigraph folded.2
  let (graph, warnings) ← createTreeDigraph compat fmt booster treeIndex showInfo precision
    bound.1 bound.2
  pure (((ax.call (.imshow graph)).call .axisOff), folded.1 ++ warnings)

/-- A `**kwargs` naming none of `create_tree_digraph`'s deprecated parameters binds none
of them and passes on whole. -/
theorem bindCreateTreeDigraph_of_keys {kwargs : PyDict PyObj}
    (hK : ∀ k ∈ kwargs.keys, k ∉ createTreeDigraphDeprecated ++ ["old_strict"]) :
    bindCreateTreeDigraph kwargs = ({}, kwargs) := by
  have hnone : ∀ k ∈ createTreeDigraphDeprecated ++ ["old_strict"], kwargs.get? k = none :=
    fun k hk => PyDict.get?_eq_none fun hm => hK k hm hk
  simp only [createTreeDigraphDeprecated, List.cons_append, List.nil_append, List.mem_cons,
    List.mem_singleton, forall_eq_or_imp, forall_eq] at hnone
  obtain ⟨h1, h2, h3, h4, h5, h6, h7, h8, h9, h10, h11, h12⟩ := hnone
  simp only [bindCreateTreeDigraph, h1, h2, h3, h4, h5, h6, h7, h8, h9, h10, h11, h12,
    Option.getD_none, Prod.mk.injEq, true_and]
  apply PyDict.ext
  simp only [PyDict.filterKeys]
  exact List.filter_eq_self.mpr fun p hp => by
    simpa using hK p.1 (List.mem_map_of_mem _ hp)

/-- **`plot_tree`'s options.** When the caller's keyword arguments name none of
`create_tree_digraph`'s deprecated parameters, the `Digraph` `plot_tree` shows is built
with the given keyword arguments followed by one entry per parameter among
`old_graph_attr`, `old_node_attr` and `old_edge_attr` that is set and whose key was not
given. -/
theorem plotTree_options {compat : Compat} {fmt : FloatFormat} {booster : PlotArg}
    {ax : Option Axes} {treeIndex : ℤ} {figsize oldGraphAttr oldNodeAttr oldEdgeAttr : PyObj}
    {showInfo : Option (List String)} {precision : Option ℤ} {kwargs : PyDict PyObj}
    {ax' : Axes} {warnings : List String}
    (hK : ∀ k ∈ kwargs.keys, k ∉ createTreeDigraphDeprecated ++ ["old_strict"])
    (h : plotTree compat fmt booster ax treeIndex figsize oldGraphAttr oldNodeAttr oldEdgeAttr
      showInfo precision kwargs = .ok (ax', warnings)) :
    ∃ (ax₀ : Axes) (g : Digraph), ax'.calls = ax₀.calls ++ [.imshow g, .axisOff] ∧
      g.options.items = kwargs.items ++ deprecatedEntries (plotTreeLocals ax treeIndex figsize
        oldGraphAttr oldNodeAttr oldEdgeAttr showInfo precision kwargs) plotTreeDeprecated kwargs := by
  set locals := plotTreeLocals ax treeIndex figsize oldGraphAttr oldNodeAttr oldEdgeAttr
    showInfo precision kwargs
  have hnew : ∀ k ∈ plotTreeDeprecated.map (·.drop 4),
      k ∉ createTreeDigraphDeprecated ++ ["old_strict"] := by decide
  have hkeys : ∀ k ∈ (foldDeprecated locals plotTreeDeprecated kwargs).2.keys,
      k ∉ createTreeDigraphDeprecated ++ ["old_strict"] := fun k hk =>
    (mem_keys_foldDeprecated (by decide) hk).elim (hK k) (hnew k)
  simp only [plotTree, Except.bind_eq_ok] at h
  obtain ⟨_, -, ax₀, -, _, -, ⟨g, ws⟩, hg, hpair⟩ := h
  simp only [bindCreateTreeDigraph_of_keys hkeys] at hg
  cases hpair
  refine ⟨ax₀, g, by simp [Axes.call], ?_⟩
  rw [createTreeDigraph_ok_options hg, createTreeDigraphKwargs_default,
    foldDeprecated_kwargs locals plotTreeDeprecated (by decide) kwargs]

/-- `plot_tree(booster, old_graph_attr={})` on a fresh figure: the graph gets
`graph_attr`, and the axes show it. -/
theorem stump_plotTree_graphAttr :
    (∀ k ∈ (PyDict.empty : PyDict PyObj).keys,
        k ∉ createTreeDigraphDeprecated ++ ["old_strict"]) ∧
      ∃ ax' ws, plotTree ⟨true, true⟩ FloatFormat.plain (.booster stumpBooster) none 0 .none
          (.dict []) .none .none none none PyDict.empty = .ok (ax', ws) ∧
        ∃ (ax₀ : Axes) (g : Digraph), ax'.calls = ax₀.calls ++ [.imshow g, .axisOff] ∧
          g.options.items = [("graph_attr", .dict [])] := by
  have hK : ∀ k ∈ (PyDict.empty : PyDict PyObj).keys,
      k ∉ createTreeDigraphDeprecated ++ ["old_strict"] := fun _ h => absurd h (List.not_mem_nil _)
  obtain ⟨ax', ws, h⟩ : ∃ ax' ws, plotTree ⟨true, true⟩ FloatFormat.plain (.booster stumpBooster)
      none 0 .none (.dict []) .none .none none none PyDict.empty = .ok (ax', ws) := ⟨_, _, rfl⟩
  obtain ⟨ax₀, g, hcalls, hopts⟩ := plotTree_options hK h
  exact ⟨hK, ax', ws, h, ax₀, g, hcalls, hopts.trans rfl⟩

/-- **`plot_tree` shows the tree it picks.** With matplotlib and graphviz installed, a
booster, an index that picks a tree, axes that open, keyword arguments that name no
deprecated parameter of `create_tree_digraph` and no parameter that `plot_tree` passes to
`create_tree_digraph` or that `create_tree_digraph` passes to `_to_graphviz`, and a tree
whose labels build and whose decision types are known, `plot_tree` returns. Its axes end
with the `imshow` of the walk's digraph, built with the keyword arguments its own loop
folds, and `axis('off')`; its warnings are its loop's. -/
theorem plotTree_shows_walk {compat : Compat} {fmt : FloatFormat} {booster : PlotArg}
    {b : Booster} {ax : Option Axes} {ax₀ : Axes} {treeIndex : ℤ}
    {figsize oldGraphAttr oldNodeAttr oldEdgeAttr : PyObj} {showInfo : Option (List String)}
    {precision : Option ℤ} {kwargs : PyDict PyObj} {t : TreeInfo}
    (hmpl : compat.matplotlibInstalled = true) (hgv : compat.graphvizInstalled = true)
    (hb : booster.toBooster = .ok b) (ht : pickTree b.dumpModel.treeInfo treeIndex = .ok t)
    (hax : subplotsIfNone ax figsize = .ok ax₀)
    (hK : ∀ k ∈ kwargs.keys, k ∉ createTreeDigraphDeprecated ++ ["old_strict"])
    (hcall : ∀ k ∈ ["booster", "tree_index", "show_info", "precision"], k ∉ kwargs.keys)
    (hkw : ∀ k ∈ ["tree_info", "show_info", "feature_names", "precision"], k ∉ kwargs.keys)
    (hdt : ∀ n ∈ t.treeStructure.preorder, n.DecisionTypeValid)
    (hlabel : ∀ n ∈ t.treeStructure.preorder,
      (n.label fmt b.dumpModel.featureNames (showInfo.getD []) precision).isOk) :
    plotTree compat fmt booster ax treeIndex figsize oldGraphAttr oldNodeAttr oldEdgeAttr
        showInfo precision kwargs =
      .ok (ax₀.callAll [.imshow ⟨(foldDeprecated (plotTreeLocals ax treeIndex figsize
          oldGraphAttr oldNodeAttr oldEdgeAttr showInfo precision kwargs) plotTreeDeprecated
          kwargs).2, t.treeStructure.walk
            (TreeNode.labelText fmt b.dumpModel.featureNames (showInfo.getD []) precision)
            none none⟩, .axisOff],
        (foldDeprecated (plotTreeLocals ax treeIndex figsize oldGraphAttr oldNodeAttr
          oldEdgeAttr showInfo precision kwargs) plotTreeDeprecated kwargs).1) := by
  set folded := foldDeprecated (plotTreeLocals ax treeIndex figsize oldGraphAttr oldNodeAttr
    oldEdgeAttr showInfo precision kwargs) plotTreeDeprecated kwargs
  -- the loop of `plot_tree` adds only `graph_attr`, `node_attr` and `edge_attr`
  have hkeys : ∀ k ∈ folded.2.keys, k ∈ kwargs.keys ∨ k ∈ plotTreeDeprecated.map (·.drop 4) :=
    fun _ hk => mem_keys_foldDeprecated (by decide) hk
  have hnew : ∀ k ∈ plotTreeDeprecated.map (·.drop 4),
      k ∉ createTreeDigraphDeprecated ++ ["old_strict"] ∧
        k ∉ ["booster", "tree_index", "show_info", "precision"] ∧
          k ∉ ["tree_info", "show_info", "feature_names", "precision"] := by decide
  have hdep : ∀ k ∈ folded.2.keys, k ∉ createTreeDigraphDeprecated ++ ["old_strict"] :=
    fun k hk => (hkeys k hk).elim (hK k) fun hk => (hnew k hk).1
  have hcall' : ∀ k ∈ ["booster", "tree_index", "show_info", "precision"], k ∉ folded.2.keys :=
    fun k hk hmem => (hkeys k hmem).elim (hcall k hk) fun hk' => (hnew k hk').2.1 hk
  have hkw' : ∀ k ∈ ["tree_info", "show_info", "feature_names", "precision"], k ∉ folded.2.keys :=
    fun k hk hmem => (hkeys k hmem).elim (hkw k hk) fun hk' => (hnew k hk').2.2 hk
  simp only [plotTree, hmpl, requireBackend_true, hax, checkDuplicateArgs_eq_ok hcall',
    bindCreateTreeDigraph_of_keys hdep, createTreeDigraph, hb, ht,
    createTreeDigraphKwargs_default, checkDuplicateArgs_eq_ok hkw',
    toGraphviz_eq_walk fmt _ _ _ hgv _ hdt hlabel, Except.ok_bind, pure_bind, List.append_nil]
  simp [Axes.call, Axes.callAll, pure, Except.pure]

/-- `plot_tree(booster)` on `stumpBooster`: the axes show the stump's walk. -/
theorem stump_plotTree_shows_walk :
    plotTree ⟨true, true⟩ FloatFormat.plain (.booster stumpBooster) none 0 .none .none .none
        .none none none PyDict.empty =
      .ok ((⟨.none, []⟩ : Axes).callAll [.imshow ⟨(foldDeprecated (plotTreeLocals none 0 .none
          .none .none .none none none PyDict.empty) plotTreeDeprecated PyDict.empty).2,
          stump.walk (TreeNode.labelText FloatFormat.plain none [] none) none none⟩, .axisOff],
        (foldDeprecated (plotTreeLocals none 0 .none .none .none .none none none PyDict.empty)
          plotTreeDeprecated PyDict.empty).1) :=
  @plotTree_shows_walk ⟨true, true⟩ FloatFormat.plain (.booster stumpBooster) stumpBooster none
    ⟨.none, []⟩ 0 .none .none .none .none none none PyDict.empty ⟨stump⟩ rfl rfl rfl rfl rfl
    (by decide) (by decide) (by decide) (by decide) (by decide)

end LightGBMPlotting
