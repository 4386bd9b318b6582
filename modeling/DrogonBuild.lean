import DrogonBuild.Python.Text
import DrogonBuild.Python.Json
import DrogonBuild.Manager.State
import DrogonBuild.Manager.Frame
import DrogonBuild.Manager.Detect
import DrogonBuild.Manager.Command
import DrogonBuild.Manager.Execute
import DrogonBuild.Manager.Jobs
import DrogonBuild.Manager.Tuning
import DrogonBuild.Manager.Dispatch
import DrogonBuild.Manager.History
import DrogonBuild.Manager.Wrapper
import DrogonBuild.Manager.Overlay
import DrogonBuild.Manager.Rerun
import DrogonBuild.Manager.Shapes
import DrogonBuild.Manager.Trend
import DrogonBuild.Manager.Verbs
import DrogonBuild.Manager.Store
import DrogonBuild.Manager.Footprint
import DrogonBuild.Verify.Version
import DrogonBuild.Verify.LibraryPath
import DrogonBuild.Verify.Library
import DrogonBuild.Verify.Report
import DrogonBuild.Launch.AutoBuild
