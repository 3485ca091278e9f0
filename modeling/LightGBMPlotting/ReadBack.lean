import LightGBMPlotting.TreeWalk

/-!
# Reading the Drawing Back

`_to_graphviz` turns a dumped tree into a log of `node` and `edge` calls. This module
shows that the log loses nothing of the tree's shape: reading it back from the root,
taking each node's label from its `node` call and its children from its out-edges in the
order they were drawn, gives the tree again, with every label and every branch label
(`toGraphviz_readTree`). It needs the tree's split indices to be distinct and its leaf
indices to be distinct, which a LightGBM dump's are: the names `add` gives the nodes are
then distinct.

The reading is `Digraph.readTree`, a fuel-bounded descent: a name with no out-edge is a
leaf, one with two labelled out-edges a split. What it returns is a `DrawnTree`, the tree
as the drawing shows it; `TreeNode.drawn` is what the walk should show of a dumped tree.

The log also never draws an edge before both of its nodes (`toGraphviz_edgesDeclared`):
graphviz never has to create a node for an edge, which would show the bare name where
the label belongs.

## Main results

* `walk_filter_of_mem` — a node's out-edges in the walk are its two child edges, in order.
* `readTree_walk` — the run lemma: reading the walk back from any node gives its subtree.
* `toGraphviz_readTree` — the round trip through `_to_graphviz`.
* `toGraphviz_edgesDeclared` — every edge joins two nodes drawn before it.
-/

namespace LightGBMPlotting

/-- A tree as its drawing shows it: each node's name and label, and the labels of a
split's two branches. -/
inductive DrawnTree where
  | split (name label leftLabel rightLabel : String) (left right : DrawnTree)
  | leaf (name label : String)
  deriving DecidableEq, Repr

namespace TreeNode

/-- What the walk draws of a tree, with `lab` giving each node's label. -/
def drawn (lab : TreeNode → String) : TreeNode → DrawnTree
  | n@(.split _ _ _ decisionType _ _ _ l r) =>
    .split n.name (lab n) (branchLabels decisionType).1 (branchLabels decisionType).2
      (l.drawn lab) (r.drawn lab)
  | n@(.leaf ..) => .leaf n.name (lab n)

/-- The out-edges of a node, in the order the walk draws them: to the left child, then to
the right child. -/
def childEdges : TreeNode → List (String × String × Option String)
  | n@(.split _ _ _ decisionType _ _ _ l r) =>
    [(n.name, l.name, some (branchLabels decisionType).1),
      (n.name, r.name, some (branchLabels decisionType).2)]
  | .leaf .. => []

end TreeNode

/-- Reading a drawing back from the node named `name`: its label from its `node` call,
its children from its out-edges in the order they were drawn. A node without out-edges
is a leaf, one with two labelled out-edges a split; anything else is not a tree, and
neither is a descent deeper than the fuel. -/
def Digraph.readTree (g : Digraph) : ℕ → String → Option DrawnTree
  | 0, _ => none
  | fuel + 1, name => do
    let label ← g.nodeCalls.lookup name
    match g.edgeCalls.filter (·.1 == name) with
    | [] => pure (.leaf name label)
    | [(_, l, some ll), (_, r, some rl)] => do
      let left ← g.readTree fuel l
      let right ← g.readTree fuel r
      pure (.split name label ll rl left right)
    | _ => none

namespace TreeNode

/-- The out-edges of `x` among the edges a parent's edge call contributes. -/
theorem parentEdge_filter (p : Option String) (name : String) (d : Option String) (x : String) :
    ((parentEdge p name d).filterMap GraphCall.asEdge).filter (·.1 == x) =
      if p = some x then [(x, name, d)] else [] := by
  cases p with
  | none => simp [parentEdge]
  | some q => by_cases h : q = x <;> simp [parentEdge, GraphCall.asEdge, h]

/-- A name the walk never gives a node has no out-edge in it, except the edge from the
walk's parent. -/
theorem walk_filter_of_not_mem (lab : TreeNode → String) (x : String) (T : TreeNode)
    (hx : x ∉ T.preorder.map name) (p d : Option String) :
    ((T.walk lab p d).filterMap GraphCall.asEdge).filter (·.1 == x) =
      if p = some x then [(x, T.name, d)] else [] := by
  induction T generalizing p d with
  | split _ _ _ _ _ _ _ l r ihl ihr =>
    simp only [preorder, List.map_cons, List.map_append, List.mem_cons, List.mem_append,
      not_or] at hx
    obtain ⟨hn, hl, hr⟩ := hx
    simp only [walk, List.filterMap_cons, GraphCall.asEdge, List.filterMap_append,
      List.filter_append, ihl hl, ihr hr, parentEdge_filter, Option.some.injEq, Ne.symm hn,
      if_false, List.nil_append]
  | leaf =>
    simp only [walk, List.filterMap_cons, GraphCall.asEdge, parentEdge_filter]

/-- **A node's out-edges in the walk are its child edges**, in order, when the tree's
names are distinct and the walk's parent is another node. -/
theorem walk_filter_of_mem (lab : TreeNode → String) (T : TreeNode)
    (hnd : (T.preorder.map name).Nodup) {m : TreeNode} (hm : m ∈ T.preorder)
    (p d : Option String) (hp : p ≠ some m.name) :
    ((T.walk lab p d).filterMap GraphCall.asEdge).filter (·.1 == m.name) = m.childEdges := by
  induction T generalizing p d with
  | split i f t dt g v c l r ihl ihr =>
    simp only [preorder, List.map_cons, List.map_append, List.nodup_cons, List.mem_append,
      not_or, List.nodup_append] at hnd
    obtain ⟨⟨hnl, hnr⟩, hndl, hndr, hdisj⟩ := hnd
    simp only [walk, List.filterMap_cons, GraphCall.asEdge, List.filterMap_append,
      List.filter_append, parentEdge_filter, hp, if_false, List.append_nil]
    rcases List.mem_cons.mp hm with rfl | hm
    · rw [walk_filter_of_not_mem lab _ l hnl, walk_filter_of_not_mem lab _ r hnr]
      simp [childEdges]
    · rcases List.mem_append.mp hm with hm | hm
      · have hne : (split i f t dt g v c l r).name ≠ m.name := fun h =>
          hnl (h ▸ List.mem_map_of_mem name hm)
        rw [ihl hndl hm _ _ (by simpa using hne), walk_filter_of_not_mem lab _ r
          fun h => hdisj (List.mem_map_of_mem name hm) h]
        simp [hne]
      · have hne : (split i f t dt g v c l r).name ≠ m.name := fun h =>
          hnr (h ▸ List.mem_map_of_mem name hm)
        rw [ihr hndr hm _ _ (by simpa using hne), walk_filter_of_not_mem lab _ l
          fun h => hdisj h (List.mem_map_of_mem name hm)]
        simp [hne]
  | leaf =>
    obtain rfl := List.mem_singleton.mp hm
    simp only [walk, List.filterMap_cons, GraphCall.asEdge, parentEdge_filter, hp, if_false]
    rfl

/-- A node's subtree lies in the tree. -/
theorem preorder_subset {T S : TreeNode} (hS : S ∈ T.preorder) : S.preorder ⊆ T.preorder := by
  induction T with
  | split _ _ _ _ _ _ _ l r ihl ihr =>
    rcases List.mem_cons.mp hS with rfl | hS
    · exact List.Subset.refl _
    · rcases List.mem_append.mp hS with hS | hS
      · exact (ihl hS).trans fun x hx => List.mem_cons_of_mem _ (List.mem_append_left _ hx)
      · exact (ihr hS).trans fun x hx => List.mem_cons_of_mem _ (List.mem_append_right _ hx)
  | leaf =>
    obtain rfl := List.mem_singleton.mp hS
    exact List.Subset.refl _

end TreeNode

/-- In pairs keyed by distinct keys, a member's key looks up its own value. -/
theorem lookup_map_of_mem {α : Type} (key val : α → String) :
    ∀ {l : List α}, (l.map key).Nodup → ∀ {m : α}, m ∈ l →
      (l.map fun n => (key n, val n)).lookup (key m) = some (val m)
  | [], _, _, hm => absurd hm (List.not_mem_nil _)
  | a :: l, hnd, m, hm => by
    rw [List.map_cons, List.nodup_cons] at hnd
    rcases List.mem_cons.mp hm with rfl | hm
    · simp [List.lookup_cons]
    · have hne : key m ≠ key a := fun h => hnd.1 (h ▸ List.mem_map_of_mem key hm)
      simp only [List.map_cons, List.lookup_cons, beq_false_of_ne hne]
      exact lookup_map_of_mem key val hnd.2 hm

/-- **Reading the walk back.** In the drawing of a tree whose names are distinct, reading
from any node's name, with more fuel than the node has splits below it, gives what the
walk drew of that node's subtree. -/
theorem readTree_walk (lab : TreeNode → String) (W : TreeNode)
    (hnd : (W.preorder.map TreeNode.name).Nodup) (kwargs : PyDict PyObj) :
    ∀ m ∈ W.preorder, ∀ fuel, m.numInternal < fuel →
      (⟨kwargs, W.walk lab none none⟩ : Digraph).readTree fuel m.name = some (m.drawn lab) := by
  have hlabel : ∀ m ∈ W.preorder, ((W.walk lab none none).filterMap GraphCall.asNode).lookup
      m.name = some (lab m) := fun m hm => by
    rw [TreeNode.walk_nodes]
    exact lookup_map_of_mem TreeNode.name lab hnd hm
  intro m
  induction m with
  | split i f t dt g v c l r ihl ihr =>
    intro hm fuel hfuel
    obtain ⟨fuel, rfl⟩ : ∃ k, fuel = k + 1 := ⟨fuel - 1, by omega⟩
    have hsub := TreeNode.preorder_subset hm
    have hl : l ∈ W.preorder := hsub (List.mem_cons_of_mem _ (List.mem_append_left _
      (TreeNode.self_mem_preorder l)))
    have hr : r ∈ W.preorder := hsub (List.mem_cons_of_mem _ (List.mem_append_right _
      (TreeNode.self_mem_preorder r)))
    simp only [TreeNode.numInternal] at hfuel
    simp only [Digraph.readTree, Digraph.nodeCalls, Digraph.edgeCalls, hlabel _ hm,
      TreeNode.walk_filter_of_mem lab W hnd hm none none (by simp), TreeNode.childEdges,
      ihl hl fuel (by omega), ihr hr fuel (by omega)]
    rfl
  | leaf =>
    intro hm fuel hfuel
    obtain ⟨fuel, rfl⟩ : ∃ k, fuel = k + 1 := ⟨fuel - 1, by omega⟩
    simp only [Digraph.readTree, Digraph.nodeCalls, Digraph.edgeCalls, hlabel _ hm,
      TreeNode.walk_filter_of_mem lab W hnd hm none none (by simp), TreeNode.childEdges]
    rfl

/-- Whether every `edge` call of a log joins two names that have `node` calls before it,
`seen` holding the names declared before the log. -/
def edgesDeclared : List String → List GraphCall → Bool
  | _, [] => true
  | seen, .node name _ :: rest => edgesDeclared (name :: seen) rest
  | seen, .edge tailName headName _ :: rest =>
    decide (tailName ∈ seen ∧ headName ∈ seen) && edgesDeclared seen rest

theorem edgesDeclared_mono {seen seen' : List String} (hs : seen ⊆ seen') :
    ∀ {calls : List GraphCall}, edgesDeclared seen calls = true →
      edgesDeclared seen' calls = true
  | [], _ => rfl
  | .node n _ :: rest, h => edgesDeclared_mono (List.cons_subset_cons n hs) h
  | .edge t u _ :: rest, h => by
    simp only [edgesDeclared, Bool.and_eq_true, decide_eq_true_eq] at h ⊢
    exact ⟨⟨hs h.1.1, hs h.1.2⟩, edgesDeclared_mono hs h.2⟩

/-- A log declares its edges when its first part does, and its second part does after the
first part's nodes. -/
theorem edgesDeclared_append {seen : List String} {a : List GraphCall} (b : List GraphCall)
    (ha : edgesDeclared seen a = true)
    (hb : edgesDeclared ((a.filterMap GraphCall.asNode).map Prod.fst ++ seen) b = true) :
    edgesDeclared seen (a ++ b) = true := by
  induction a generalizing seen with
  | nil => exact hb
  | cons c rest ih =>
    cases c with
    | node n _ =>
      refine ih ha (edgesDeclared_mono (fun x hx => ?_) hb)
      simp only [List.filterMap_cons, GraphCall.asNode, List.map_cons, List.cons_append,
        List.mem_cons, List.mem_append] at hx ⊢
      tauto
    | edge t u _ =>
      simp only [edgesDeclared, Bool.and_eq_true, decide_eq_true_eq, List.cons_append] at ha ⊢
      exact ⟨ha.1, ih ha.2 hb⟩

namespace TreeNode

/-- The edge from a declared parent to a declared node is declared. -/
theorem edgesDeclared_parentEdge {seen : List String} {p : Option String} {name : String}
    (hp : ∀ x, p = some x → x ∈ seen) (hn : name ∈ seen) (d : Option String) :
    edgesDeclared seen (parentEdge p name d) = true := by
  cases p with
  | none => rfl
  | some x => simp [parentEdge, edgesDeclared, hp x rfl, hn]

/-- The walk draws every node before an edge reaches it, when its parent was drawn before
the walk. -/
theorem walk_edgesDeclared (lab : TreeNode → String) (T : TreeNode) :
    ∀ (p d : Option String) (seen : List String), (∀ x, p = some x → x ∈ seen) →
      edgesDeclared seen (T.walk lab p d) = true := by
  induction T with
  | split _ _ _ _ _ _ _ l r ihl ihr =>
    intro p d seen hp
    simp only [walk, edgesDeclared]
    refine edgesDeclared_append _ (edgesDeclared_append _ (ihl _ _ _ fun x hx => ?_)
      (ihr _ _ _ fun x hx => ?_)) (edgesDeclared_parentEdge (fun x hx => ?_) ?_ d)
    · simp [← Option.some.inj hx]
    · simp [← Option.some.inj hx]
    · simp [hp x hx]
    · simp
  | leaf =>
    intro p d seen hp
    exact edgesDeclared_parentEdge (fun x hx => List.mem_cons_of_mem _ (hp x hx))
      (List.mem_cons_self _ _) d

end TreeNode

/-! ### What `_to_graphviz` returns -/

/-- Whenever `_to_graphviz` returns, every node's label built, and the graph is the walk of
the tree with those labels. -/
theorem toGraphviz_eq_ok_walk {compat : Compat} {fmt : FloatFormat} {info : TreeInfo}
    {showInfo : List String} {featureNames : Option (List String)} {precision : Option ℤ}
    {kwargs : PyDict PyObj} {g : Digraph}
    (h : toGraphviz compat fmt info showInfo featureNames precision kwargs = .ok g) :
    (∀ n ∈ info.treeStructure.preorder, n.label fmt featureNames showInfo precision =
      .ok (n.labelText fmt featureNames showInfo precision)) ∧
    g = ⟨kwargs, info.treeStructure.walk
      (TreeNode.labelText fmt featureNames showInfo precision) none none⟩ := by
  simp only [toGraphviz, Except.bind_eq_ok, add_eq, Except.map_eq_ok] at h
  obtain ⟨_, -, u, hf, rfl⟩ := h
  refine ⟨fun n hn => label_eq_ok_labelText fmt featureNames showInfo precision ?_, rfl⟩
  exact ((check_eq_ok_iff fmt featureNames showInfo precision n).mp
    ((forM_eq_ok_iff _ _).mp hf n hn)).1

/-- **The drawing is the tree.** Whenever `_to_graphviz` returns a graph for a tree whose
split indices are distinct and whose leaf indices are distinct, every node's label built,
and reading the graph back from the root's node gives the tree: every node with its name
and that label, every split with its two children in order and the labels of its two
branches. -/
theorem toGraphviz_readTree {compat : Compat} {fmt : FloatFormat} {info : TreeInfo}
    {showInfo : List String} {featureNames : Option (List String)} {precision : Option ℤ}
    {kwargs : PyDict PyObj} {g : Digraph}
    (h : toGraphviz compat fmt info showInfo featureNames precision kwargs = .ok g)
    (hs : info.treeStructure.splitIndices.Nodup) (hl : info.treeStructure.leafIndices.Nodup) :
    (∀ n ∈ info.treeStructure.preorder, n.label fmt featureNames showInfo precision =
      .ok (n.labelText fmt featureNames showInfo precision)) ∧
    g.readTree (info.treeStructure.numInternal + 1) info.treeStructure.name =
      some (info.treeStructure.drawn (TreeNode.labelText fmt featureNames showInfo precision)) := by
  obtain ⟨hlabel, rfl⟩ := toGraphviz_eq_ok_walk h
  exact ⟨hlabel, readTree_walk _ _ (TreeNode.names_nodup _ hs hl) kwargs _
    (TreeNode.self_mem_preorder _) _ (Nat.lt_succ_self _)⟩

/-- The stump drawn and read back. -/
theorem stump_readTree :
    ∃ g, toGraphviz ⟨true, true⟩ FloatFormat.plain ⟨stump⟩ [] none none PyDict.empty = .ok g ∧
      stump.splitIndices.Nodup ∧ stump.leafIndices.Nodup ∧
      (∀ n ∈ stump.preorder, n.label FloatFormat.plain none [] none =
        .ok (n.labelText FloatFormat.plain none [] none)) ∧
      g.readTree (stump.numInternal + 1) stump.name =
        some (stump.drawn (TreeNode.labelText FloatFormat.plain none [] none)) := by
  obtain ⟨g, h⟩ : ∃ g, toGraphviz ⟨true, true⟩ FloatFormat.plain ⟨stump⟩ [] none none
      PyDict.empty = .ok g := ⟨_, rfl⟩
  have hs : stump.splitIndices.Nodup := by decide
  have hl : stump.leafIndices.Nodup := by decide
  exact ⟨g, h, hs, hl, toGraphviz_readTree h hs hl⟩

/-- **No edge before its nodes.** Whenever `_to_graphviz` returns, every `edge` call of
its graph joins two nodes whose `node` calls, with their labels, came before it. -/
theorem toGraphviz_edgesDeclared {compat : Compat} {fmt : FloatFormat} {info : TreeInfo}
    {showInfo : List String} {featureNames : Option (List String)} {precision : Option ℤ}
    {kwargs : PyDict PyObj} {g : Digraph}
    (h : toGraphviz compat fmt info showInfo featureNames precision kwargs = .ok g) :
    edgesDeclared [] g.calls = true := by
  obtain ⟨-, rfl⟩ := toGraphviz_eq_ok_walk h
  exact TreeNode.walk_edgesDeclared _ _ none none [] fun _ h => absurd h (by simp)

/-- The stump's graph declares its three nodes before its two edges. -/
theorem stump_edgesDeclared :
    ∃ g, toGraphviz ⟨true, true⟩ FloatFormat.plain ⟨stump⟩ [] none none PyDict.empty = .ok g ∧
      edgesDeclared [] g.calls = true := by
  obtain ⟨g, h⟩ : ∃ g, toGraphviz ⟨true, true⟩ FloatFormat.plain ⟨stump⟩ [] none none
      PyDict.empty = .ok g := ⟨_, rfl⟩
  exact ⟨g, h, toGraphviz_edgesDeclared h⟩

end LightGBMPlotting
