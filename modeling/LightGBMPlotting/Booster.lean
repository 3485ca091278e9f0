import LightGBMPlotting.Python

/-!
# The Model Handle and its Dumps

The plotting functions read a trained model only through a few accessors of `Booster`
(`basic.py`) and `LGBMModel` (`sklearn.py`), neither of which is part of `plotting.py`.
This module records what those accessors return, as data: the importance vector and the
feature names, the split-value histogram of a feature, the model dump with its trees, and
the evaluation record of a fitted `LGBMModel`.

A tree of the dump is a `TreeNode`: a split, which `_to_graphviz` recognises by its
`split_index` key, or a leaf. The node fields `_to_graphviz` reads unconditionally are
fields of the constructor; the annotations it reads only when `show_info` asks for them
are `Option`s, since nothing but the dump's writer guarantees them.

## Main definitions

* `TreeNode`, `TreeInfo`, `ModelDump` — `Booster.dump_model()`.
* `Histogram` — `Booster.get_split_value_histogram()`, with numpy's
  `len(bins) == len(hist) + 1` as a field.
* `Booster` — the accessors, with the two facts the importance plot relies on (one
  importance per feature name, none negative) as fields.
* `EvalResults` — an evaluation record, with the sharing of its metrics dicts.
* `PlotArg` — the first argument of every plotting function, by the classes the code
  dispatches on.
-/

namespace LightGBMPlotting

/-- A node of a dumped tree (`tree_info[i]['tree_structure']`). -/
inductive TreeNode where
  /-- An internal node: the dump writes `split_index` only for these. -/
  | split (splitIndex splitFeature : ℕ) (threshold : Scalar) (decisionType : String)
      (splitGain internalValue : Option Scalar) (internalCount : Option ℕ)
      (leftChild rightChild : TreeNode)
  /-- A leaf. -/
  | leaf (leafIndex : ℕ) (leafValue : Scalar) (leafCount : Option ℕ)
  deriving Repr

/-- One entry of the dump's `tree_info`; the walker reads only its `tree_structure`. -/
structure TreeInfo where
  treeStructure : TreeNode
  deriving Repr

/-- `Booster.dump_model()`: the trees, and the feature names when the dump has them. -/
structure ModelDump where
  treeInfo : List TreeInfo
  featureNames : Option (List String)
  deriving Repr

/-- The `feature` argument of the split-value histogram: an index or a name. -/
inductive Feature where
  | index (i : ℤ)
  | name (s : String)
  deriving DecidableEq, Repr

/-- `(hist, bins)` as `numpy.histogram` returns them: one count per bin, and the bin
edges, one more than the counts. -/
structure Histogram where
  hist : List ℕ
  bins : List ℚ
  bins_length : bins.length = hist.length + 1

/-- What `plotting.py` reads of a `Booster`. -/
structure Booster where
  /-- `feature_importance(importance_type=t)`. -/
  featureImportance : String → List ℚ
  /-- `feature_name()`. -/
  featureName : List String
  /-- `get_split_value_histogram(feature=f, bins=b, xgboost_style=False)`. -/
  getSplitValueHistogram : Feature → Option PyObj → Histogram
  /-- `dump_model()`. -/
  dumpModel : ModelDump
  importance_length : ∀ t, (featureImportance t).length = featureName.length
  importance_nonneg : ∀ t, ∀ x ∈ featureImportance t, 0 ≤ x

/-- An evaluation record, dataset name to metric name to the metric's value at each
iteration, as Python holds it: each dataset name refers to a metrics dict by the dict's
identity (`refs`), and `dicts` gives the dict of each identity. Two names may refer to one
dict, and a mutation of that dict is then seen under both. -/
structure EvalResults where
  refs : PyDict ℕ
  dicts : ℕ → PyDict (List ℚ)

/-- What `plotting.py` reads of a fitted `LGBMModel`. -/
structure LGBMModel where
  booster_ : Booster
  evalsResult_ : EvalResults

/-- The first argument of a plotting function, by the classes its `isinstance` tests
tell apart. -/
inductive PlotArg where
  | booster (b : Booster)
  | model (m : LGBMModel)
  | dict (d : EvalResults)
  | other

/-- The `booster` dispatch shared by `plot_importance`, `plot_split_value_histogram` and
`create_tree_digraph`: an `LGBMModel` gives its `booster_`, a `Booster` itself, and
anything else raises `TypeError`. -/
def PlotArg.toBooster : PlotArg → Except PyError Booster
  | .model m => .ok m.booster_
  | .booster b => .ok b
  | _ => .error (.typeError "booster must be Booster or LGBMModel.")

end LightGBMPlotting
