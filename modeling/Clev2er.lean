import Clev2er.Lib.RemoveWhileIterating
import Clev2er.Lib.Dict
import Clev2er.Python
import Clev2er.Config.FileNames
import Clev2er.Config.Selection
import Clev2er.Config.AlgorithmList
import Clev2er.Algorithm
import Clev2er.Config.Merge
import Clev2er.Lib.ArraySplit
import Clev2er.RunChain.RunChain
import Clev2er.RunChain.Behaviour
import Clev2er.RunChain.SetUp
import Clev2er.RunChain.Files
import Clev2er.RunChain.Accounting
import Clev2er.RunChain.Segments
import Clev2er.RunChain.Breakpoint
import Clev2er.Lib.StableSort
import Clev2er.Lib.TextLines
import Clev2er.Logging.SortFile
import Clev2er.Logging.Protocol
import Clev2er.Logging.NoLoss
import Clev2er.Lib.Slice
import Clev2er.Lib.WithNan
import Clev2er.Retrack.FastSmooth
import Clev2er.Retrack.LeadingEdge
import Clev2er.Retrack.MaxCoherence
import Clev2er.Breakpoints.Netcdf
import Clev2er.Breakpoints.WellFormed
import Clev2er.Grids.Geotiff
import Clev2er.Grids.GeotiffToZarr
import Clev2er.Grids.Interpolation
import Clev2er.Cryotempo.Algorithms
import Clev2er.Cryotempo.BreakpointAfter
import Clev2er.Cryotempo.FailureIsolation
import Clev2er.Grids.Load
import Clev2er.RunChain.InitFailure
import Clev2er.Cryotempo.LrmSlope
import Clev2er.Cryotempo.RoemerIsolation
import Clev2er.Cryotempo.SarinGeometry
import Clev2er.Cryotempo.SarinPhase
import Clev2er.Cryotempo.SinBounds
import Clev2er.Retrack.CoherencePoint
import Clev2er.Cryotempo.Hemisphere
import Clev2er.Cryotempo.SlopeInterpolation
import Clev2er.Cryotempo.SurfaceType
import Clev2er.Masks.Agreement
import Clev2er.Config.ConfOpts
import Clev2er.Cryotempo.CorrectionSums
import Clev2er.Cryotempo.MissingUncertainty
import Clev2er.Cryotempo.ProductTimes
import Clev2er.Config.XmlTypes
import Clev2er.Cryotempo.DemMedian
import Clev2er.Cryotempo.FileFinders
import Clev2er.Cryotempo.OrbitDirections
import Clev2er.Cryotempo.SlopePosition
import Clev2er.Lib.Jumps
import Clev2er.Lib.HalfEven
import Clev2er.Cryotempo.Datetime
import Clev2er.Time.Grain
import Clev2er.Cryotempo.ProductName
import Clev2er.Cryotempo.ProductOutput
import Clev2er.Cryotempo.RecordArrays
import Clev2er.Lib.Writes
import Clev2er.Cryotempo.ProductRun
import Clev2er.Lib.Interleaving
import Clev2er.SharedMemory.Protocol
import Clev2er.SharedMemory.Ownership
import Clev2er.SharedMemory.Contents
import Clev2er.SharedMemory.Uninterrupted
import Clev2er.Lib.Pipeline
import Clev2er.Cryotempo.DataFlow
import Clev2er.Cryotempo.AlgorithmOrder
import Clev2er.Lib.Overrides
import Clev2er.Lib.TextReplace
import Clev2er.RunChain.CommandLine
import Clev2er.RunChain.MainSettings
import Clev2er.RunChain.MainFiles
import Clev2er.Cryotempo.GeolocateLepta
import Clev2er.Lib.Chain
import Clev2er.Lib.Columns
import Clev2er.Areas.Area
import Clev2er.Areas.PlotData
import Clev2er.Lib.Unwrap
import Clev2er.Cryotempo.PhaseWindow
