import LightGBMPlotting.Backends

/-!
# The Tree Walker

`_to_graphviz` turns one dumped tree into a graphviz `Digraph` through its inner
recursion `add(root, parent, decision)`: a node first gets a name and a label, built from
its own fields, and its `graph.node` call; a split node then turns its decision type
into the labels of its two branches and walks its left child, then its right child; last,
a node with a parent gets the `graph.edge` call from that parent.

This module is the faithful layer: `splitLabel`, `leafLabel`, `decisionLabels`, `add` and
`toGraphviz` follow the source line by line, with `float2str` formatting every number.
The variables of the section are the names `add` closes over: the float renderings, the
feature names, the list `show_info` of requested annotations, and the precision.

## Main definitions

* `splitLabel`, `leafLabel` — the label of a node; they raise on a missing feature
  name (`IndexError`), a requested annotation the node lacks (`KeyError`) and a negative
  precision (`ValueError`).
* `decisionLabels` — `('<=', '>')`, `('is', "isn't")`, or the module's own `ValueError`.
* `add`, `toGraphviz` — the walk, and its entry point.
-/

namespace LightGBMPlotting

section Walker

variable (fmt : FloatFormat) (featureNames : Option (List String)) (showInfo : List String)
  (precision : Option ℤ)

/-- The first line of a split node's label: the feature by name when the dump has
names, by index otherwise. -/
def splitFeatureLine (splitFeature : ℕ) : Except PyError String :=
  match featureNames with
  | some names =>
    match names[splitFeature]? with
    | some n => .ok ("split_feature_name: " ++ n)
    | none => .error (.indexError "list index out of range")
  | none => .ok ("split_feature_index: " ++ toString splitFeature)

/-- The line one entry of `show_info` adds to a split node's label: `split_gain` and
`internal_value` formatted by `_float2str`, `internal_count` as is, anything else
nothing. A requested field the node lacks raises `KeyError`. -/
def splitInfoLine (splitGain internalValue : Option Scalar) (internalCount : Option ℕ)
    (info : String) : Except PyError String :=
  if info = "split_gain" ∨ info = "internal_value" then
    match (if info = "split_gain" then splitGain else internalValue) with
    | some v => (fun s => "\\n" ++ info ++ ": " ++ s) <$> float2str fmt v precision
    | none => .error (.keyError info)
  else if info = "internal_count" then
    match internalCount with
    | some c => .ok ("\\n" ++ info ++ ": " ++ toString c)
    | none => .error (.keyError info)
  else .ok ""

/-- The label of a split node: its feature, its threshold, then one line per entry of
`show_info`, in order. -/
def splitLabel (splitFeature : ℕ) (threshold : Scalar) (splitGain internalValue : Option Scalar)
    (internalCount : Option ℕ) : Except PyError String := do
  let featureLine ← splitFeatureLine featureNames splitFeature
  let thresholdText ← float2str fmt threshold precision
  let infoLines ← showInfo.mapM (splitInfoLine fmt precision splitGain internalValue internalCount)
  pure (featureLine ++ "\\nthreshold: " ++ thresholdText ++ String.join infoLines)

/-- The label of a leaf: its index and value, and its count when `show_info` asks for
`leaf_count`. -/
def leafLabel (leafIndex : ℕ) (leafValue : Scalar) (leafCount : Option ℕ) :
    Except PyError String := do
  let valueText ← float2str fmt leafValue precision
  let label := "leaf_index: " ++ toString leafIndex ++ "\\nleaf_value: " ++ valueText
  if "leaf_count" ∈ showInfo then
    match leafCount with
    | some c => pure (label ++ "\\nleaf_count: " ++ toString c)
    | none => throw (.keyError "leaf_count")
  else pure label

/-- The branch labels of a split node's left and right edges, by its decision type. -/
def decisionLabels (decisionType : String) : Except PyError (String × String) :=
  if decisionType = "<=" then .ok ("<=", ">")
  else if decisionType = "==" then .ok ("is", "isn't")
  else .error (.valueError "Invalid decision type in tree model.")

/-- The last line of `add`: `graph.edge(parent, name, decision)` when there is a parent. -/
def edgeFromParent (graph : Digraph) (parent : Option String) (name : String)
    (decision : Option String) : Digraph :=
  match parent with
  | some p => graph.edge p name decision
  | none => graph

/-- `add(root, parent, decision)`, threading the graph it mutates. -/
def add : TreeNode → Option String → Option String → Digraph → Except PyError Digraph
  | .split splitIndex splitFeature threshold decisionType splitGain internalValue
      internalCount leftChild rightChild, parent, decision, graph => do
    let name := "split" ++ toString splitIndex
    let label ← splitLabel fmt featureNames showInfo precision splitFeature threshold
      splitGain internalValue internalCount
    let graph := graph.node name label
    let (lDec, rDec) ← decisionLabels decisionType
    let graph ← add leftChild (some name) (some lDec) graph
    let graph ← add rightChild (some name) (some rDec) graph
    pure (edgeFromParent graph parent name decision)
  | .leaf leafIndex leafValue leafCount, parent, decision, graph => do
    let name := "leaf" ++ toString leafIndex
    let label ← leafLabel fmt showInfo precision leafIndex leafValue leafCount
    let graph := graph.node name label
    pure (edgeFromParent graph parent name decision)

end Walker

/-- `_to_graphviz(tree_info, show_info, feature_names, precision, **kwargs)`. -/
def toGraphviz (compat : Compat) (fmt : FloatFormat) (treeInfo : TreeInfo)
    (showInfo : List String) (featureNames : Option (List String)) (precision : Option ℤ)
    (kwargs : PyDict PyObj) : Except PyError Digraph :=
  requireBackend compat.graphvizInstalled "You must install graphviz to plot tree." >>= fun _ =>
    add fmt featureNames showInfo precision treeInfo.treeStructure none none (Digraph.new kwargs)

end LightGBMPlotting
