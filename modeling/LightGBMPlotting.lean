import LightGBMPlotting.Python
import LightGBMPlotting.Booster
import LightGBMPlotting.Backends
import LightGBMPlotting.ToGraphviz
import LightGBMPlotting.TreeWalk
import LightGBMPlotting.ReadBack
import LightGBMPlotting.CreateTreeDigraph
import LightGBMPlotting.PlotImportance
import LightGBMPlotting.PlotSplitValueHistogram
import LightGBMPlotting.PlotMetric
