import TsTools.Clock
import TsTools.Format
import TsTools.Inspector.Ordered
import TsTools.Inspector.Basic
import TsTools.Inspector.Options
import TsTools.Inspector.Stats
import TsTools.Inspector.Pes
import TsTools.Inspector.Run
import TsTools.Inspector.PerPid
import TsTools.Inspector.Resources
import TsTools.Inspector.Timing
import TsTools.Inspector.Report
import TsTools.Inspector.Delivery
import TsTools.Inspector.Trend
import TsTools.Inspector.Cli
import TsTools.Inspector.ReadLoop
import TsTools.Inspector.Shutdown
import TsTools.Slicer.Index
import TsTools.Slicer.Slice
import TsTools.Slicer.VideoTime
import TsTools.Slicer.IndexFile
import TsTools.Slicer.FastQuery
import TsTools.Slicer.TimeString
import TsTools.Slicer.Main
import TsTools.Slicer.Listing
