import Detector.Basic
import Detector.IbPerfCounter
import Detector.CounterFiles
import Detector.IbPort
import Detector.IbDiagPerfCounter
import Detector.IbPortCompat
import Detector.FileRuns
import Detector.FileReadings
import Detector.FileRecovery
import Detector.IbNode
import Detector.Library.Word
import Detector.IbFabric
import Detector.MadRuns
import Detector.DataVolume
import Detector.Library.Pointwise
import Detector.Library.BigEndian
import Detector.Capabilities
import Detector.Aggregation
import Detector.Resets
import Detector.FailedRefresh
import Detector.Hardware
import Detector.ModeAgreement
import Detector.Handles
import Detector.Ownership
import Detector.SharedPort
import Detector.Discovery
import Detector.Library.Alike
import Detector.LocalDiscovery
import Detector.DiagTest
import Detector.BaseValues
import Detector.Identity
import Detector.LinkWidth
import Detector.Library.Report
import Detector.Library.History
import Detector.Report
import Detector.HandleUse
import Detector.Library.OutStream
import Detector.Library.Record
import Detector.FabricReport
import Detector.Exceptions
import Detector.Creation
import Detector.Library.Rounds
import Detector.PerfTest
import Detector.FileRounds
import Detector.PerfRounds
import Detector.Library.Lineup
import Detector.DiagRounds
import Detector.PortCalls
import Detector.Library.Agree
import Detector.BuildSwitch
import Detector.Library.Failing
import Detector.CreationFailures
import Detector.PerfHandles
