import CodexMustWork.NotificationStream
import CodexMustWork.SessionFrame
import CodexMustWork.Batching
import CodexMustWork.SessionModel
import CodexMustWork.SessionClosing
import CodexMustWork.SessionHistory
import CodexMustWork.Activations
import CodexMustWork.CalmTicks
import CodexMustWork.Quarantine
import CodexMustWork.Restart
import CodexMustWork.TurnCalls
import CodexMustWork.RolloutReading
import CodexMustWork.OptIn
import CodexMustWork.Coverage
import CodexMustWork.DeadlineScheduler
import CodexMustWork.ActivationTickets
import CodexMustWork.CalibrationScan
import CodexMustWork.McpArguments
import CodexMustWork.McpDispatch
import CodexMustWork.McpAnswers
import CodexMustWork.McpFailures
import CodexMustWork.TerminalMonitors
import CodexMustWork.Wakeups
import CodexMustWork.SharedSessions
import CodexMustWork.SharedTarget
import CodexMustWork.CommitProtocol
import CodexMustWork.Library.TwoRuns
import CodexMustWork.TargetWrites
import CodexMustWork.Library.DecimalText
import CodexMustWork.CacheSemver
import CodexMustWork.InstalledGeneration
import CodexMustWork.ConfigFiles
import CodexMustWork.Library.DisturbedRuns
import CodexMustWork.ConfigPublication
import CodexMustWork.ConfigReading
import CodexMustWork.ConfigUndisturbed
import CodexMustWork.ConfigCrashes
import CodexMustWork.ConfigRaces
import CodexMustWork.UninstallDisk
import CodexMustWork.UninstallRun
import CodexMustWork.Uninstall
import CodexMustWork.UninstallSteps
import CodexMustWork.UninstallCrashes
import CodexMustWork.UninstallConvergence
import CodexMustWork.Library.NearestRank
import CodexMustWork.Calibration
import CodexMustWork.Library.DecimalRounding
import CodexMustWork.Durations
import CodexMustWork.McpLimits
import CodexMustWork.McpEncoding
import CodexMustWork.SavedSettings
import CodexMustWork.PythonValues
import CodexMustWork.McpFraming
import CodexMustWork.Library.LengthPrefixes
import CodexMustWork.PackageManifest
import CodexMustWork.HookIdentities
import CodexMustWork.HookState
import CodexMustWork.JsonDocuments
import CodexMustWork.StateFiles
import CodexMustWork.StatePersistence
import CodexMustWork.StateRoundTrips
import CodexMustWork.DiagnosticFiles
import CodexMustWork.DiagnosticLines
import CodexMustWork.DiagnosticRotation
import CodexMustWork.DiagnosticRetention
import CodexMustWork.Library.QuotedFields
import CodexMustWork.WorkOnToken
import CodexMustWork.Library.OrderedTable
import CodexMustWork.TurnInterrupts
import CodexMustWork.DaemonLifecycle
import CodexMustWork.Shutdown
import CodexMustWork.AppServerEvents
import CodexMustWork.Library.RetainedLog
import CodexMustWork.TurnRetention
import CodexMustWork.ClientLifetimes
import CodexMustWork.ClientPool
import CodexMustWork.ClientClosing
import CodexMustWork.Library.PosixPaths
import CodexMustWork.RuntimeArchive
import CodexMustWork.RuntimeTree
import CodexMustWork.ArchiveMembership
import CodexMustWork.RuntimeGrowth
import CodexMustWork.RuntimeExtraction
import CodexMustWork.RuntimeContainment
import CodexMustWork.ActivityStream
import CodexMustWork.ActivationFence
import CodexMustWork.Library.ExactOwnership
import CodexMustWork.Library.Fallible
import CodexMustWork.ManagerRuntime
import CodexMustWork.TurnHandshake
import CodexMustWork.ManagerEngine
import CodexMustWork.AcceptedTurns
import CodexMustWork.Library.TomlText
import CodexMustWork.Library.TomlDocuments
import CodexMustWork.TomlHeaders
import CodexMustWork.DocumentHeaders
import CodexMustWork.ConfigRemoval
import CodexMustWork.UninstalledConfig
import CodexMustWork.Library.FailingRuns
import CodexMustWork.UninstallFailures
import CodexMustWork.PassedEvents
import CodexMustWork.UninstallPublication
import CodexMustWork.WatcherWrites
import CodexMustWork.ProcessorFailures
import CodexMustWork.RaisingTurns
import CodexMustWork.SessionAgreement
import CodexMustWork.SessionIsolation
import CodexMustWork.SharedDaemons
