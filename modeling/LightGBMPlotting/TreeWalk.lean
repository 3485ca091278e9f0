import LightGBMPlotting.ToGraphviz

/-!
# What the Tree Walker Draws

The walk `add` of `LightGBMPlotting.ToGraphviz` is described here by what it leaves in the
graph. `TreeNode.preorder` lists a tree's nodes in pre-order, `TreeNode.edges` its
parent-child pairs with the branch labels their parent's decision type gives them, and
`TreeNode.check` is what `add` verifies at a node before walking on: that the node's
label can be built and that a split's decision type is `<=` or `==`.

The run lemma `add_eq` says everything at once: `add` fails with the error of the first
node in pre-order whose check fails, and otherwise appends exactly the calls of
`TreeNode.walk`, a node's `node` call before its subtrees and its incoming `edge` call
after them. The rest reads that list.

## Main results

* `add_eq` — the run lemma.
* `add_emits_tree` — on a tree whose labels build and whose decision types are known,
  the walk makes one `node` call per node in pre-order, named and labelled from the
  node alone, one `edge` call per parent-child pair with its branch label, `I + L` node
  and `2 I` edge calls, distinct names under distinct indices, and edges only between
  named nodes.
* `toGraphviz_invalid_decision_iff` — with the labels buildable, `_to_graphviz` raises
  its `ValueError` exactly when some split, at any depth, has an unknown decision type,
  and returns the graph otherwise.
* `add_showInfoFields` — `add` reads `show_info` only for the four fields it knows.
* `toGraphviz_of_wellFormed` — under the conditions a complete dump meets, `_to_graphviz`
  returns the walk's graph exactly when every decision type is known.
-/

namespace LightGBMPlotting

open scoped List

namespace TreeNode

/-- The name `add` gives a node: `split<split_index>` or `leaf<leaf_index>`. -/
def name : TreeNode → String
  | .split splitIndex .. => "split" ++ toString splitIndex
  | .leaf leafIndex .. => "leaf" ++ toString leafIndex

/-- The nodes in pre-order: a node, then its left subtree, then its right subtree. -/
def preorder : TreeNode → List TreeNode
  | n@(.split _ _ _ _ _ _ _ l r) => n :: (l.preorder ++ r.preorder)
  | n@(.leaf ..) => [n]

/-- The number of split nodes. -/
def numInternal : TreeNode → ℕ
  | .split _ _ _ _ _ _ _ l r => l.numInternal + r.numInternal + 1
  | .leaf .. => 0

/-- The number of leaves. -/
def numLeaves : TreeNode → ℕ
  | .split _ _ _ _ _ _ _ l r => l.numLeaves + r.numLeaves
  | .leaf .. => 1

/-- The split indices, in pre-order. -/
def splitIndices : TreeNode → List ℕ
  | .split i _ _ _ _ _ _ l r => i :: (l.splitIndices ++ r.splitIndices)
  | .leaf .. => []

/-- The leaf indices, in pre-order. -/
def leafIndices : TreeNode → List ℕ
  | .split _ _ _ _ _ _ _ l r => l.leafIndices ++ r.leafIndices
  | .leaf i .. => [i]

/-- A split's decision type is one `_to_graphviz` knows; a leaf has none. -/
def DecisionTypeValid : TreeNode → Prop
  | .split _ _ _ decisionType .. => decisionType = "<=" ∨ decisionType = "=="
  | .leaf .. => True

instance : DecidablePred DecisionTypeValid
  | .split _ _ _ decisionType .. =>
    inferInstanceAs (Decidable (decisionType = "<=" ∨ decisionType = "=="))
  | .leaf .. => inferInstanceAs (Decidable True)

/-- The labels of a split's left and right edges: `<=` and `>` under `<=`, `is` and
`isn't` under `==`. -/
def branchLabels (decisionType : String) : String × String :=
  if decisionType = "<=" then ("<=", ">") else ("is", "isn't")

/-- The parent-child pairs, parents in pre-order, each as (parent name, child name,
branch label). -/
def edges : TreeNode → List (String × String × String)
  | n@(.split _ _ _ decisionType _ _ _ l r) =>
    (n.name, l.name, (branchLabels decisionType).1) ::
      (n.name, r.name, (branchLabels decisionType).2) :: (l.edges ++ r.edges)
  | .leaf .. => []

/-- The edge call `add` makes for a node named `name` under `parent`, if it has one. -/
def parentEdge (parent : Option String) (name : String) (decision : Option String) :
    List GraphCall :=
  match parent with
  | some p => [.edge p name decision]
  | none => []

/-- The calls a successful `add root parent decision` appends, in order, with `lab`
giving each node's label. -/
def walk (lab : TreeNode → String) :
    TreeNode → Option String → Option String → List GraphCall
  | n@(.split _ _ _ decisionType _ _ _ l r), parent, decision =>
    .node n.name (lab n) ::
      (l.walk lab (some n.name) (some (branchLabels decisionType).1) ++
        r.walk lab (some n.name) (some (branchLabels decisionType).2) ++
        parentEdge parent n.name decision)
  | n@(.leaf ..), parent, decision => .node n.name (lab n) :: parentEdge parent n.name decision

/-- The feature names, when the dump has them, have an entry at a split's feature. -/
def FeatureNamed (featureNames : Option (List String)) : TreeNode → Prop
  | .split _ splitFeature .. => ∀ names, featureNames = some names → splitFeature < names.length
  | .leaf .. => True

/-- Every annotation `show_info` asks of a node is present on it. -/
def HasRequestedFields (showInfo : List String) : TreeNode → Prop
  | .split _ _ _ _ splitGain internalValue internalCount _ _ =>
    ("split_gain" ∈ showInfo → splitGain.isSome) ∧
      ("internal_value" ∈ showInfo → internalValue.isSome) ∧
      ("internal_count" ∈ showInfo → internalCount.isSome)
  | .leaf _ _ leafCount => "leaf_count" ∈ showInfo → leafCount.isSome

section Labels

variable (fmt : FloatFormat) (featureNames : Option (List String)) (showInfo : List String)
  (precision : Option ℤ)

/-- The label `add` builds for a node, from the node's own fields. -/
def label : TreeNode → Except PyError String
  | .split _ splitFeature threshold _ splitGain internalValue internalCount _ _ =>
    splitLabel fmt featureNames showInfo precision splitFeature threshold splitGain
      internalValue internalCount
  | .leaf leafIndex leafValue leafCount => leafLabel fmt showInfo precision leafIndex leafValue leafCount

/-- The label of a node whose label builds. -/
def labelText (n : TreeNode) : String :=
  match n.label fmt featureNames showInfo precision with
  | .ok s => s
  | .error _ => ""

/-- What `add` checks at a node before walking on: its label builds, and a split's
decision type is known. -/
def check : TreeNode → Except PyError Unit
  | n@(.split _ _ _ decisionType ..) =>
    n.label fmt featureNames showInfo precision >>= fun _ =>
      (fun _ => ()) <$> decisionLabels decisionType
  | n@(.leaf ..) => (fun _ => ()) <$> n.label fmt featureNames showInfo precision

end Labels

/-- A node's label builds when the feature names cover its feature, the annotations
`show_info` asks for are on it, and the precision is in `[0, 2**31)`. -/
theorem label_isOk_of (fmt : FloatFormat) {featureNames : Option (List String)}
    {showInfo : List String} {precision : Option ℤ} (n : TreeNode)
    (hf : n.FeatureNamed featureNames) (ha : n.HasRequestedFields showInfo)
    (hp : ∀ p, precision = some p → 0 ≤ p ∧ p < 2 ^ 31) :
    (n.label fmt featureNames showInfo precision).isOk := by
  have hfmt : ∀ v, ∃ s, float2str fmt v precision = .ok s := fun v =>
    Except.exists_eq_ok (float2str_isOk_of fmt v hp)
  cases n with
  | split _ splitFeature threshold _ splitGain internalValue internalCount =>
    obtain ⟨hg, hv, hc⟩ := ha
    obtain ⟨featureLine, hline⟩ : ∃ s, splitFeatureLine featureNames splitFeature = .ok s := by
      cases featureNames with
      | none => exact ⟨_, rfl⟩
      | some names =>
        simp [splitFeatureLine, List.getElem?_eq_getElem (hf names rfl)]
    obtain ⟨thr, hthr⟩ := hfmt threshold
    have hinfo : (showInfo.mapM (splitInfoLine fmt precision splitGain internalValue
        internalCount)).isOk := mapM_isOk_of fun info hi => by
      unfold splitInfoLine
      by_cases h1 : info = "split_gain"
      · subst h1
        obtain ⟨v, hv⟩ := Option.isSome_iff_exists.mp (hg hi)
        obtain ⟨s, hs⟩ := hfmt v
        simp [hv, hs]
      by_cases h2 : info = "internal_value"
      · subst h2
        obtain ⟨v, hv⟩ := Option.isSome_iff_exists.mp (hv hi)
        obtain ⟨s, hs⟩ := hfmt v
        simp [hv, hs]
      by_cases h3 : info = "internal_count"
      · subst h3
        obtain ⟨c, hc⟩ := Option.isSome_iff_exists.mp (hc hi)
        simp [hc]
      simp [h1, h2, h3]
    obtain ⟨lines, hm⟩ := Except.exists_eq_ok hinfo
    simp only [label, splitLabel, hline, hthr, hm, Except.ok_bind]
    rfl
  | leaf _ leafValue leafCount =>
    obtain ⟨s, hs⟩ := hfmt leafValue
    by_cases hc : "leaf_count" ∈ showInfo
    · obtain ⟨c, hc'⟩ := Option.isSome_iff_exists.mp (ha hc)
      simp [label, leafLabel, hs, hc, hc']
    · simp [label, leafLabel, hs, hc]

/-! ### Shape of the tree -/

theorem self_mem_preorder (T : TreeNode) : T ∈ T.preorder := by
  cases T <;> simp [preorder]

/-- A tree has one node per split and per leaf. -/
theorem length_preorder (T : TreeNode) : T.preorder.length = T.numInternal + T.numLeaves := by
  induction T with
  | split => simp [preorder, numInternal, numLeaves, *]; omega
  | leaf => rfl

/-- Every split has exactly two children. -/
theorem length_edges (T : TreeNode) : T.edges.length = 2 * T.numInternal := by
  induction T with
  | split => simp [edges, numInternal, *]; omega
  | leaf => rfl

/-- Both ends of every parent-child pair are nodes of the tree. -/
theorem edges_mem_names (T : TreeNode) :
    ∀ e ∈ T.edges, e.1 ∈ T.preorder.map name ∧ e.2.1 ∈ T.preorder.map name := by
  induction T with
  | split _ _ _ _ _ _ _ l r ihl ihr =>
    have hl := List.mem_map_of_mem name (self_mem_preorder l)
    have hr := List.mem_map_of_mem name (self_mem_preorder r)
    intro e he
    simp only [edges, List.mem_cons, List.mem_append] at he
    simp only [preorder, List.map_cons, List.map_append, List.mem_cons, List.mem_append]
    rcases he with rfl | rfl | he | he
    · exact ⟨.inl rfl, .inr (.inl hl)⟩
    · exact ⟨.inl rfl, .inr (.inr hr)⟩
    · exact (ihl e he).imp (fun h => .inr (.inl h)) (fun h => .inr (.inl h))
    · exact (ihr e he).imp (fun h => .inr (.inr h)) (fun h => .inr (.inr h))
  | leaf => simp [edges]

/-- The names of a tree are its split names and its leaf names. -/
theorem names_perm (T : TreeNode) :
    T.preorder.map name ~ T.splitIndices.map (fun i => "split" ++ toString i) ++
      T.leafIndices.map (fun i => "leaf" ++ toString i) := by
  induction T with
  | split i _ _ _ _ _ _ l r ihl ihr =>
    simp only [preorder, splitIndices, leafIndices, name, List.map_cons, List.map_append,
      List.cons_append, List.perm_cons]
    refine (ihl.append ihr).trans (List.perm_iff_count.mpr fun a => ?_)
    simp only [List.count_append]
    omega
  | leaf => simp [preorder, splitIndices, leafIndices, name]

/-- A split name is never a leaf name. -/
theorem split_ne_leaf (i j : ℕ) : "split" ++ toString i ≠ "leaf" ++ toString j := by
  intro h
  have := congrArg (fun s => s.data.head?) h
  simp at this

theorem prefixed_injective (p : String) : Function.Injective (fun i : ℕ => p ++ toString i) := by
  intro i j h
  have : (toString i).data = (toString j).data := by
    simpa using congrArg String.data h
  exact natToString_injective (String.ext this)

/-- Distinct split indices and distinct leaf indices give distinct node names. -/
theorem names_nodup (T : TreeNode) (hs : T.splitIndices.Nodup) (hl : T.leafIndices.Nodup) :
    (T.preorder.map name).Nodup := by
  refine (names_perm T).nodup_iff.mpr (List.nodup_append.mpr
    ⟨hs.map (prefixed_injective _), hl.map (prefixed_injective _), ?_⟩)
  simp only [List.Disjoint, List.mem_map]
  rintro _ ⟨i, -, rfl⟩ ⟨j, -, h⟩
  exact split_ne_leaf i j h.symm

/-! ### The calls of a walk -/

/-- The node calls of a walk are the nodes in pre-order. -/
theorem walk_nodes (lab : TreeNode → String) (T : TreeNode) (p d : Option String) :
    (T.walk lab p d).filterMap GraphCall.asNode = T.preorder.map fun n => (n.name, lab n) := by
  induction T generalizing p d with
  | split => cases p <;> simp [walk, preorder, parentEdge, GraphCall.asNode, *]
  | leaf => cases p <;> simp [walk, preorder, parentEdge, GraphCall.asNode]

/-- The edge calls of a walk are the tree's parent-child pairs and the edge from the
walk's parent. -/
theorem walk_edges (lab : TreeNode → String) (T : TreeNode) (p d : Option String) :
    (T.walk lab p d).filterMap GraphCall.asEdge ~
      T.edges.map (fun e => (e.1, e.2.1, some e.2.2)) ++
        (parentEdge p T.name d).filterMap GraphCall.asEdge := by
  induction T generalizing p d with
  | split _ _ _ _ _ _ _ l r ihl ihr =>
    simp only [walk, edges, List.filterMap_cons, GraphCall.asNode, GraphCall.asEdge,
      List.filterMap_append, List.map_cons, List.map_append]
    refine (((ihl _ _).append (ihr _ _)).append (List.Perm.refl _)).trans
      (List.perm_iff_count.mpr fun a => ?_)
    simp only [parentEdge, List.filterMap_cons, GraphCall.asEdge, List.filterMap_nil,
      List.count_append, List.count_cons, List.count_nil, List.cons_append, List.nil_append]
    omega
  | leaf => cases p <;> simp [walk, edges, parentEdge, GraphCall.asEdge]

end TreeNode

/-! ### The run lemma -/

section Run

variable (fmt : FloatFormat) (featureNames : Option (List String)) (showInfo : List String)
  (precision : Option ℤ)

/-- `decisionLabels` gives the branch labels of a known decision type and raises on any
other. -/
theorem decisionLabels_eq (decisionType : String) :
    decisionLabels decisionType =
      if decisionType = "<=" ∨ decisionType = "==" then .ok (TreeNode.branchLabels decisionType)
      else .error (.valueError "Invalid decision type in tree model.") := by
  unfold decisionLabels TreeNode.branchLabels
  by_cases h1 : decisionType = "<=" <;> by_cases h2 : decisionType = "==" <;> simp_all

theorem edgeFromParent_eq (g : Digraph) (parent : Option String) (name : String)
    (decision : Option String) :
    edgeFromParent g parent name decision =
      { g with calls := g.calls ++ TreeNode.parentEdge parent name decision } := by
  cases parent <;> simp [edgeFromParent, TreeNode.parentEdge, Digraph.edge]

/-- **The run lemma.** `add` fails with the first failing check of the pre-order, and
otherwise appends the calls of `walk`. -/
theorem add_eq (T : TreeNode) (parent decision : Option String) (g : Digraph) :
    add fmt featureNames showInfo precision T parent decision g =
      (fun _ => { g with calls := (g.calls ++
          T.walk (TreeNode.labelText fmt featureNames showInfo precision) parent decision) }) <$>
        T.preorder.forM (TreeNode.check fmt featureNames showInfo precision) := by
  induction T generalizing parent decision g with
  | leaf leafIndex leafValue leafCount =>
    cases h : leafLabel fmt showInfo precision leafIndex leafValue leafCount with
    | error e => simp [add, TreeNode.preorder, TreeNode.check, TreeNode.label, h]
    | ok s =>
      simp [add, TreeNode.preorder, TreeNode.check, TreeNode.label, TreeNode.labelText,
        TreeNode.walk, TreeNode.name, h, edgeFromParent_eq, Digraph.node]
  | split splitIndex splitFeature threshold decisionType splitGain internalValue internalCount
      l r ihl ihr =>
    cases hlab : splitLabel fmt featureNames showInfo precision splitFeature threshold splitGain
        internalValue internalCount with
    | error e => simp [add, TreeNode.preorder, TreeNode.check, TreeNode.label, hlab]
    | ok s =>
      by_cases hdt : decisionType = "<=" ∨ decisionType = "=="
      · simp only [add, TreeNode.preorder, hlab, decisionLabels_eq, hdt, if_true,
          Except.ok_bind]
        rw [ihl]
        simp only [List.forM_cons', List.forM_append, TreeNode.check, TreeNode.label, hlab,
          decisionLabels_eq, hdt, if_true, Except.ok_bind]
        cases hL : l.preorder.forM (TreeNode.check fmt featureNames showInfo precision) with
        | error e => simp
        | ok u =>
          simp only [Except.map_ok, Except.ok_bind, ihr]
          cases r.preorder.forM (TreeNode.check fmt featureNames showInfo precision) with
          | error e => simp
          | ok v =>
            simp [TreeNode.walk, TreeNode.name, TreeNode.labelText, TreeNode.label, hlab,
              edgeFromParent_eq, Digraph.node]
      · simp [add, TreeNode.preorder, TreeNode.check, TreeNode.label, hlab, decisionLabels_eq,
          hdt]

theorem label_eq_ok_labelText {n : TreeNode}
    (h : (n.label fmt featureNames showInfo precision).isOk) :
    n.label fmt featureNames showInfo precision =
      .ok (n.labelText fmt featureNames showInfo precision) := by
  unfold TreeNode.labelText
  cases hn : n.label fmt featureNames showInfo precision <;> simp_all [Except.isOk, Except.toBool]

/-- A node passes its check exactly when its label builds and its decision type is
known. -/
theorem check_eq_ok_iff (n : TreeNode) :
    n.check fmt featureNames showInfo precision = .ok () ↔
      (n.label fmt featureNames showInfo precision).isOk ∧ n.DecisionTypeValid := by
  cases hl : n.label fmt featureNames showInfo precision with
  | error e => cases n <;> simp [TreeNode.check, hl, Except.isOk, Except.toBool]
  | ok s =>
    cases n with
    | split _ _ _ decisionType =>
      by_cases hdt : decisionType = "<=" ∨ decisionType = "==" <;>
        simp [TreeNode.check, TreeNode.DecisionTypeValid, hl, decisionLabels_eq, hdt,
          Except.isOk, Except.toBool]
    | leaf => simp [TreeNode.check, TreeNode.DecisionTypeValid, hl, Except.isOk, Except.toBool]

/-- A node whose label builds can fail its check only on its decision type, with the
walker's own `ValueError`. -/
theorem check_eq_error {n : TreeNode} {e : PyError}
    (hl : (n.label fmt featureNames showInfo precision).isOk)
    (h : n.check fmt featureNames showInfo precision = .error e) :
    e = .valueError "Invalid decision type in tree model." ∧ ¬n.DecisionTypeValid := by
  have hok := label_eq_ok_labelText fmt featureNames showInfo precision hl
  cases n with
  | split _ _ _ decisionType =>
    simp only [TreeNode.check, hok, Except.ok_bind] at h
    by_cases hdt : decisionType = "<=" ∨ decisionType = "==" <;>
      simp_all [decisionLabels_eq, TreeNode.DecisionTypeValid]
  | leaf => simp [TreeNode.check, hok] at h

/-- A tree whose labels build and whose decision types are known passes every check. -/
theorem forM_check_eq_ok {T : TreeNode} (hdt : ∀ n ∈ T.preorder, n.DecisionTypeValid)
    (hlabel : ∀ n ∈ T.preorder, (n.label fmt featureNames showInfo precision).isOk) :
    T.preorder.forM (TreeNode.check fmt featureNames showInfo precision) = .ok () :=
  (forM_eq_ok_iff _ _).mpr fun n hn =>
    (check_eq_ok_iff fmt featureNames showInfo precision n).mpr ⟨hlabel n hn, hdt n hn⟩

/-- With every label buildable, the checks of a tree fail exactly on an unknown decision
type, with the walker's `ValueError`. -/
theorem forM_check_eq_of_labels {T : TreeNode}
    (hlabel : ∀ n ∈ T.preorder, (n.label fmt featureNames showInfo precision).isOk) :
    T.preorder.forM (TreeNode.check fmt featureNames showInfo precision) =
      if ∀ n ∈ T.preorder, n.DecisionTypeValid then .ok ()
      else .error (.valueError "Invalid decision type in tree model.") := by
  split_ifs with hdt
  · exact forM_check_eq_ok fmt featureNames showInfo precision hdt hlabel
  · cases hf : T.preorder.forM (TreeNode.check fmt featureNames showInfo precision) with
    | error e =>
      obtain ⟨pre, n, post, hl, -, hn⟩ := (forM_eq_error_iff _ _ _).mp hf
      obtain ⟨rfl, -⟩ := check_eq_error fmt featureNames showInfo precision
        (hlabel n (by simp [hl])) hn
      rfl
    | ok u =>
      exact absurd (fun n hn => ((check_eq_ok_iff fmt featureNames showInfo precision n).mp
        ((forM_eq_ok_iff _ _).mp hf n hn)).2) hdt

/-- A stump: one split of feature 0 at `1.5`, and two leaves. -/
def stump : TreeNode :=
  .split 0 0 (.num (3 / 2)) "<=" none none none (.leaf 0 (.num (-1)) none) (.leaf 1 (.num 1) none)

/-- **Which error the walk raises.** With graphviz installed, `_to_graphviz` raises
exactly the error of the first node in pre-order whose label does not build or whose
decision type is unknown, having passed every node before it. -/
theorem toGraphviz_eq_error_iff (compat : Compat) (hgv : compat.graphvizInstalled = true)
    (info : TreeInfo) (kwargs : PyDict PyObj) (e : PyError) :
    toGraphviz compat fmt info showInfo featureNames precision kwargs = .error e ↔
      ∃ pre n post, info.treeStructure.preorder = pre ++ n :: post ∧
        (∀ m ∈ pre, m.check fmt featureNames showInfo precision = .ok ()) ∧
        n.check fmt featureNames showInfo precision = .error e := by
  rw [← forM_eq_error_iff]
  simp only [toGraphviz, hgv, requireBackend_true, Except.ok_bind, add_eq]
  cases info.treeStructure.preorder.forM (TreeNode.check fmt featureNames showInfo precision) <;>
    simp

/-- `_to_graphviz` builds its `Digraph` with exactly the keyword arguments it is given. -/
theorem toGraphviz_options {compat : Compat} {info : TreeInfo} {kwargs : PyDict PyObj}
    {g : Digraph} (h : toGraphviz compat fmt info showInfo featureNames precision kwargs = .ok g) :
    g.options = kwargs := by
  simp only [toGraphviz, Except.bind_eq_ok, add_eq, Except.map_eq_ok] at h
  obtain ⟨_, -, _, -, rfl⟩ := h
  rfl

/-- On a tree whose labels build and whose decision types are known, `_to_graphviz`
returns the graph of the walk, built with the keyword arguments it is given. -/
theorem toGraphviz_eq_walk {compat : Compat} (hgv : compat.graphvizInstalled = true)
    {info : TreeInfo} (kwargs : PyDict PyObj)
    (hdt : ∀ n ∈ info.treeStructure.preorder, n.DecisionTypeValid)
    (hlabel : ∀ n ∈ info.treeStructure.preorder,
      (n.label fmt featureNames showInfo precision).isOk) :
    toGraphviz compat fmt info showInfo featureNames precision kwargs =
      .ok ⟨kwargs, info.treeStructure.walk
        (TreeNode.labelText fmt featureNames showInfo precision) none none⟩ := by
  simp only [toGraphviz, hgv, requireBackend_true, Except.ok_bind, add_eq,
    forM_check_eq_ok fmt featureNames showInfo precision hdt hlabel, Except.map_ok]
  rfl

/-- A feature name missing at the root: the error is the root's `IndexError`. -/
theorem stump_short_featureNames_error :
    toGraphviz ⟨true, true⟩ FloatFormat.plain ⟨stump⟩ [] (some []) none PyDict.empty =
      .error (.indexError "list index out of range") :=
  (toGraphviz_eq_error_iff FloatFormat.plain (some []) [] none ⟨true, true⟩ rfl ⟨stump⟩
    PyDict.empty _).mpr ⟨[], stump, _, rfl, by simp, rfl⟩

/-! ### What `add` reads of `show_info` -/

/-- The entries of `show_info` that `add` looks for: the annotations it can add to a
label. -/
def showInfoFields : List String := ["split_gain", "internal_value", "internal_count", "leaf_count"]

/-- Joining the lines a `mapM` builds skips the entries whose line is empty, and nothing
else: their errors, and the lines of the others, come out the same. -/
theorem mapM_foldl_filter {f : String → Except PyError String} {p : String → Bool}
    (hf : ∀ x, p x = false → f x = .ok "") {β : Type} (k : String → Except PyError β) :
    ∀ (l : List String) (acc : String),
      (l.mapM f >>= fun ys => k (ys.foldl (· ++ ·) acc)) =
        ((l.filter p).mapM f >>= fun ys => k (ys.foldl (· ++ ·) acc))
  | [], _ => rfl
  | x :: l, acc => by
    cases hp : p x
    · simp only [List.filter_cons, hp, List.mapM_cons, hf x hp, Except.ok_bind, bind_assoc,
        pure_bind, List.foldl_cons, String.append_empty, Bool.false_eq_true, if_false]
      exact mapM_foldl_filter hf k l acc
    · simp only [List.filter_cons, hp, if_true, List.mapM_cons, bind_assoc, pure_bind,
        List.foldl_cons]
      cases f x with
      | error e => rfl
      | ok y => exact mapM_foldl_filter hf k l (acc ++ y)

/-- A split's label reads `show_info` only for the fields `add` knows. -/
theorem splitLabel_showInfoFields (splitFeature : ℕ) (threshold : Scalar)
    (splitGain internalValue : Option Scalar) (internalCount : Option ℕ) :
    splitLabel fmt featureNames showInfo precision splitFeature threshold splitGain
        internalValue internalCount =
      splitLabel fmt featureNames (showInfo.filter (· ∈ showInfoFields)) precision splitFeature
        threshold splitGain internalValue internalCount := by
  have hf : ∀ x, decide (x ∈ showInfoFields) = false →
      splitInfoLine fmt precision splitGain internalValue internalCount x = .ok "" := by
    intro x hx
    simp only [showInfoFields, decide_eq_false_iff_not, List.mem_cons, not_or] at hx
    simp [splitInfoLine, hx]
  simp only [splitLabel, String.join]
  cases splitFeatureLine featureNames splitFeature <;> cases float2str fmt threshold precision <;>
    simp only [Except.ok_bind, Except.error_bind]
  exact mapM_foldl_filter hf (fun s => pure (_ ++ "\\nthreshold: " ++ _ ++ s)) showInfo ""

/-- A leaf's label reads `show_info` only for `leaf_count`. -/
theorem leafLabel_showInfoFields (leafIndex : ℕ) (leafValue : Scalar) (leafCount : Option ℕ) :
    leafLabel fmt showInfo precision leafIndex leafValue leafCount =
      leafLabel fmt (showInfo.filter (· ∈ showInfoFields)) precision leafIndex leafValue
        leafCount := by
  have h : "leaf_count" ∈ showInfo.filter (· ∈ showInfoFields) ↔ "leaf_count" ∈ showInfo := by
    simp [showInfoFields]
  simp only [leafLabel, h]

/-- `add` reads `show_info` only for the fields it knows: dropping every other entry
changes neither the graph it draws nor the error it raises. -/
theorem add_showInfoFields (T : TreeNode) : ∀ (parent decision : Option String) (g : Digraph),
    add fmt featureNames showInfo precision T parent decision g =
      add fmt featureNames (showInfo.filter (· ∈ showInfoFields)) precision T parent decision g := by
  induction T with
  | split _ _ _ _ _ _ _ l r ihl ihr =>
    intro parent decision g
    simp only [add, splitLabel_showInfoFields fmt featureNames showInfo precision, ihl, ihr]
  | leaf =>
    intro parent decision g
    simp only [add, leafLabel_showInfoFields fmt showInfo precision]

theorem toGraphviz_showInfoFields (compat : Compat) (info : TreeInfo) (kwargs : PyDict PyObj) :
    toGraphviz compat fmt info showInfo featureNames precision kwargs =
      toGraphviz compat fmt info (showInfo.filter (· ∈ showInfoFields)) featureNames precision
        kwargs := by
  simp only [toGraphviz, add_showInfoFields fmt featureNames showInfo precision]

/-! ### What the walk draws -/

/-- **The walker draws the tree.** On a tree whose labels build and whose decision types
are `<=` or `==`, `add` started at the root returns a graph built with the given options
whose `node` calls are the nodes in pre-order, each named and labelled from its own
fields, and whose `edge` calls are the tree's parent-child pairs, each from the parent's
name to the child's with its branch label: `I + L` node calls and `2 I` edge calls. The
names are distinct when the split indices are and the leaf indices are, and every edge
joins two named nodes. -/
theorem add_emits_tree (T : TreeNode) (kwargs : PyDict PyObj)
    (hdt : ∀ n ∈ T.preorder, n.DecisionTypeValid)
    (hlabel : ∀ n ∈ T.preorder, (n.label fmt featureNames showInfo precision).isOk) :
    ∃ g, add fmt featureNames showInfo precision T none none (Digraph.new kwargs) = .ok g ∧
      g.options = kwargs ∧
      T.preorder.mapM (fun n => (n.name, ·) <$> n.label fmt featureNames showInfo precision) =
        .ok g.nodeCalls ∧
      g.edgeCalls ~ T.edges.map (fun e => (e.1, e.2.1, some e.2.2)) ∧
      g.nodeCalls.length = T.numInternal + T.numLeaves ∧
      g.edgeCalls.length = 2 * T.numInternal ∧
      (T.splitIndices.Nodup → T.leafIndices.Nodup → (g.nodeCalls.map Prod.fst).Nodup) ∧
      ∀ e ∈ g.edgeCalls, e.1 ∈ g.nodeCalls.map Prod.fst ∧ e.2.1 ∈ g.nodeCalls.map Prod.fst := by
  have hcheck := forM_check_eq_ok fmt featureNames showInfo precision hdt hlabel
  set lab := TreeNode.labelText fmt featureNames showInfo precision
  set g : Digraph := ⟨kwargs, [] ++ T.walk lab none none⟩
  have hnodes : g.nodeCalls = T.preorder.map fun n => (n.name, lab n) :=
    TreeNode.walk_nodes lab T none none
  have hnames : g.nodeCalls.map Prod.fst = T.preorder.map TreeNode.name := by
    rw [hnodes, List.map_map]
    rfl
  have hedges : g.edgeCalls ~ T.edges.map (fun e => (e.1, e.2.1, some e.2.2)) := by
    simpa [TreeNode.parentEdge] using TreeNode.walk_edges lab T none none
  refine ⟨g, by rw [add_eq, hcheck]; rfl, rfl, ?_, hedges, ?_, ?_, ?_, ?_⟩
  · rw [hnodes]
    exact mapM_eq_ok_of fun n hn => by
      rw [label_eq_ok_labelText fmt featureNames showInfo precision (hlabel n hn)]
      rfl
  · rw [hnodes, List.length_map, TreeNode.length_preorder]
  · rw [hedges.length_eq, List.length_map, TreeNode.length_edges]
  · rw [hnames]
    exact TreeNode.names_nodup T
  · intro e he
    rw [hnames]
    obtain ⟨e', he', rfl⟩ := List.mem_map.mp (hedges.subset he)
    exact TreeNode.edges_mem_names T e' he'

/-- The walk of `stump`: three `node` calls and two `edge` calls. -/
theorem stump_emits_tree :
    ∃ g, add FloatFormat.plain none [] none stump none none (Digraph.new PyDict.empty) = .ok g ∧
      g.nodeCalls.length = 3 ∧ g.edgeCalls.length = 2 := by
  obtain ⟨g, hg, -, -, -, hn, he, -⟩ :=
    add_emits_tree FloatFormat.plain none [] none stump PyDict.empty (by decide) (by decide)
  exact ⟨g, hg, hn, he⟩

/-- Feature names too short for the root's feature: the walk raises at the root, before
any `node` call. -/
theorem add_short_featureNames_raises :
    add FloatFormat.plain (some []) [] none stump none none (Digraph.new PyDict.empty) =
      .error (.indexError "list index out of range") := rfl

/-- **No malformed node is skipped.** With graphviz installed and every label
buildable, `_to_graphviz` raises its `ValueError` exactly when some split of the tree, at
any depth, has a decision type other than `<=` and `==`, and returns the graph
otherwise. -/
theorem toGraphviz_invalid_decision_iff (compat : Compat) (hgv : compat.graphvizInstalled = true)
    (info : TreeInfo) (kwargs : PyDict PyObj)
    (hlabel : ∀ n ∈ info.treeStructure.preorder,
      (n.label fmt featureNames showInfo precision).isOk) :
    (toGraphviz compat fmt info showInfo featureNames precision kwargs =
        .error (.valueError "Invalid decision type in tree model.") ↔
      ∃ n ∈ info.treeStructure.preorder, ¬n.DecisionTypeValid) ∧
    ((∀ n ∈ info.treeStructure.preorder, n.DecisionTypeValid) →
      ∃ g, toGraphviz compat fmt info showInfo featureNames precision kwargs = .ok g) := by
  simp only [toGraphviz, hgv, requireBackend_true, Except.ok_bind, add_eq,
    forM_check_eq_of_labels fmt featureNames showInfo precision hlabel]
  split_ifs with hdt
  · exact ⟨iff_of_false (fun h => by cases h) fun ⟨n, hn, hbad⟩ => hbad (hdt n hn),
      fun _ => ⟨_, rfl⟩⟩
  · push_neg at hdt
    exact ⟨iff_of_true rfl hdt, fun hall => absurd hall (by simpa using hdt)⟩

theorem stump_toGraphviz_returns :
    ∃ g, toGraphviz ⟨true, true⟩ FloatFormat.plain ⟨stump⟩ [] none none PyDict.empty = .ok g :=
  (toGraphviz_invalid_decision_iff FloatFormat.plain none [] none ⟨true, true⟩ rfl ⟨stump⟩
    PyDict.empty (by decide)).2 (by decide)

/-- **`_to_graphviz` on a tree its dump describes completely.** With graphviz installed,
feature names that cover every split's feature, every annotation `show_info` asks for
present on the nodes it applies to, and a precision that is `None` or in `[0, 2**31)`,
`_to_graphviz` returns the graph of the walk when every decision type is known, and raises
its `ValueError` otherwise. -/
theorem toGraphviz_of_wellFormed (compat : Compat) (hgv : compat.graphvizInstalled = true)
    (info : TreeInfo) (kwargs : PyDict PyObj)
    (hf : ∀ n ∈ info.treeStructure.preorder, n.FeatureNamed featureNames)
    (ha : ∀ n ∈ info.treeStructure.preorder, n.HasRequestedFields showInfo)
    (hp : ∀ p, precision = some p → 0 ≤ p ∧ p < 2 ^ 31) :
    toGraphviz compat fmt info showInfo featureNames precision kwargs =
      if ∀ n ∈ info.treeStructure.preorder, n.DecisionTypeValid then
        .ok ⟨kwargs, info.treeStructure.walk
          (TreeNode.labelText fmt featureNames showInfo precision) none none⟩
      else .error (.valueError "Invalid decision type in tree model.") := by
  simp only [toGraphviz, hgv, requireBackend_true, Except.ok_bind, add_eq,
    forM_check_eq_of_labels fmt featureNames showInfo precision
      fun n hn => TreeNode.label_isOk_of fmt n (hf n hn) (ha n hn) hp]
  split_ifs <;> rfl

/-- The stump with no feature names, no annotations and no precision: it is drawn. -/
theorem stump_of_wellFormed :
    (∀ n ∈ stump.preorder, n.FeatureNamed none) ∧ (∀ n ∈ stump.preorder, n.HasRequestedFields []) ∧
      (∀ p, (none : Option ℤ) = some p → 0 ≤ p ∧ p < 2 ^ 31) ∧
      toGraphviz ⟨true, true⟩ FloatFormat.plain ⟨stump⟩ [] none none PyDict.empty =
        if ∀ n ∈ stump.preorder, n.DecisionTypeValid then
          .ok ⟨PyDict.empty, stump.walk (TreeNode.labelText FloatFormat.plain none [] none) none none⟩
        else .error (.valueError "Invalid decision type in tree model.") :=
  have hf : ∀ n ∈ stump.preorder, n.FeatureNamed none := fun n _ => by
    cases n <;> simp [TreeNode.FeatureNamed]
  have ha : ∀ n ∈ stump.preorder, n.HasRequestedFields [] := fun n _ => by
    cases n <;> simp [TreeNode.HasRequestedFields]
  have hp : ∀ p, (none : Option ℤ) = some p → 0 ≤ p ∧ p < 2 ^ 31 := fun _ h => absurd h (by simp)
  ⟨hf, ha, hp, toGraphviz_of_wellFormed FloatFormat.plain none [] none ⟨true, true⟩ rfl ⟨stump⟩
    PyDict.empty hf ha hp⟩

/-- A negative precision: every decision type is known, and still `_to_graphviz` raises a
`ValueError`, from the format of the root's threshold. -/
theorem toGraphviz_negative_precision_raises :
    (∀ n ∈ stump.preorder, n.DecisionTypeValid) ∧
      toGraphviz ⟨true, true⟩ FloatFormat.plain ⟨stump⟩ [] none (some (-1)) PyDict.empty =
        .error (.valueError "Format specifier missing precision") :=
  ⟨by decide, rfl⟩

end Run

end LightGBMPlotting
