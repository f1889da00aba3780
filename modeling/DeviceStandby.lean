import DeviceStandby.Caller
import DeviceStandby.Config.Document
import DeviceStandby.Config.Fault
import DeviceStandby.Config.File
import DeviceStandby.Config.Load
import DeviceStandby.Config.Location
import DeviceStandby.Config.Policy
import DeviceStandby.Config.Report
import DeviceStandby.Config.TimeText
import DeviceStandby.Config.Version
import DeviceStandby.Daemon.Arguments
import DeviceStandby.Daemon.Program
import DeviceStandby.Data.Table
import DeviceStandby.DeviceState
import DeviceStandby.Engine.Basic
import DeviceStandby.Engine.Dispatch
import DeviceStandby.Engine.Facade
import DeviceStandby.Engine.Lifecycle
import DeviceStandby.Error
import DeviceStandby.Exemption.Admission
import DeviceStandby.Exemption.Grant
import DeviceStandby.Exemption.Query
import DeviceStandby.Exemption.Record
import DeviceStandby.Exemption.Recovery
import DeviceStandby.Exemption.Revoke
import DeviceStandby.Host.Audit
import DeviceStandby.Host.Basic
import DeviceStandby.Host.DeferredTimers
import DeviceStandby.Host.EventStream
import DeviceStandby.Host.FileTree
import DeviceStandby.Host.LockFiles
import DeviceStandby.Host.ProcessTable
import DeviceStandby.Host.Store
import DeviceStandby.Host.Timers
import DeviceStandby.Json.Decode
import DeviceStandby.Json.Printer
import DeviceStandby.Json.Reader
import DeviceStandby.Json.Stored
import DeviceStandby.Machine.Backoff
import DeviceStandby.Machine.Basic
import DeviceStandby.Machine.Constraint
import DeviceStandby.Machine.Entry
import DeviceStandby.Machine.Step
import DeviceStandby.Main
import DeviceStandby.Message
import DeviceStandby.Number.Double
import DeviceStandby.Number.Shortest
import DeviceStandby.Number.Width
import DeviceStandby.Owner
import DeviceStandby.Plugin.Listener
import DeviceStandby.Plugin.Probe
import DeviceStandby.Plugin.Registry
import DeviceStandby.Plugin.Strategies
import DeviceStandby.Proofs.ActiveUse
import DeviceStandby.Proofs.Arrivals
import DeviceStandby.Proofs.BackoffCalls
import DeviceStandby.Proofs.BlockedSleep
import DeviceStandby.Proofs.ConditionNames
import DeviceStandby.Proofs.Coverage
import DeviceStandby.Proofs.DayAndNight
import DeviceStandby.Proofs.DayNightTimer
import DeviceStandby.Proofs.DeclaredKinds
import DeviceStandby.Proofs.DeviceConstraint
import DeviceStandby.Proofs.DeviceFrames
import DeviceStandby.Proofs.EngineMachine
import DeviceStandby.Proofs.EngineRuns
import DeviceStandby.Proofs.EngineSteps
import DeviceStandby.Proofs.EngineTimers
import DeviceStandby.Proofs.EnteredStates
import DeviceStandby.Proofs.EventLines
import DeviceStandby.Proofs.FailedTransitions
import DeviceStandby.Proofs.FaithfulPolicies
import DeviceStandby.Proofs.FaultlessFiles
import DeviceStandby.Proofs.FiredTimers
import DeviceStandby.Proofs.FollowedStrategies
import DeviceStandby.Proofs.FreshRecovery
import DeviceStandby.Proofs.GrantEffects
import DeviceStandby.Proofs.Grants
import DeviceStandby.Proofs.HostFrames
import DeviceStandby.Proofs.IdleDevice
import DeviceStandby.Proofs.Journey
import DeviceStandby.Proofs.LateAnswers
import DeviceStandby.Proofs.Ledger
import DeviceStandby.Proofs.ListedExemptions
import DeviceStandby.Proofs.LiveOwners
import DeviceStandby.Proofs.LostReports
import DeviceStandby.Proofs.MachineRuns
import DeviceStandby.Proofs.MachineSteps
import DeviceStandby.Proofs.MaintenanceWindows
import DeviceStandby.Proofs.Masks
import DeviceStandby.Proofs.Momentum
import DeviceStandby.Proofs.NapDeadline
import DeviceStandby.Proofs.Numerals
import DeviceStandby.Proofs.Operations
import DeviceStandby.Proofs.OwnerIsolation
import DeviceStandby.Proofs.OwnerKeys
import DeviceStandby.Proofs.PolicyAnswers
import DeviceStandby.Proofs.PolicyCaps
import DeviceStandby.Proofs.Queries
import DeviceStandby.Proofs.Quiescence
import DeviceStandby.Proofs.QuietMachine
import DeviceStandby.Proofs.ReadTimes
import DeviceStandby.Proofs.RecoveredRecords
import DeviceStandby.Proofs.Recoveries
import DeviceStandby.Proofs.Refusals
import DeviceStandby.Proofs.ResourceRules
import DeviceStandby.Proofs.Revocations
import DeviceStandby.Proofs.RevokeTimers
import DeviceStandby.Proofs.RevokedEntries
import DeviceStandby.Proofs.Saves
import DeviceStandby.Proofs.SleepPhases
import DeviceStandby.Proofs.SoleTimers
import DeviceStandby.Proofs.SoundRecords
import DeviceStandby.Proofs.SpelledTexts
import DeviceStandby.Proofs.SplitTexts
import DeviceStandby.Proofs.StateTimers
import DeviceStandby.Proofs.StoppedEngine
import DeviceStandby.Proofs.StoredRecords
import DeviceStandby.Proofs.StoredTable
import DeviceStandby.Proofs.TableInvariant
import DeviceStandby.Proofs.Tables
import DeviceStandby.Proofs.TendedEngines
import DeviceStandby.Proofs.Uninstalling
import DeviceStandby.Proofs.VersionOrder
import DeviceStandby.Proofs.WakeLock
import DeviceStandby.Request
import DeviceStandby.Resource
import DeviceStandby.Simulation.Bench
import DeviceStandby.Simulation.Script
import DeviceStandby.Simulation.Session
import DeviceStandby.Simulation.Step
import DeviceStandby.State
import DeviceStandby.SystemEvent
import DeviceStandby.Task
import DeviceStandby.Text.Blank
import DeviceStandby.Text.Utf8
import DeviceStandby.Time.Calendar
import DeviceStandby.Time.Clock
import DeviceStandby.Time.ShiftedClock
import DeviceStandby.Time.Span
import DeviceStandby.Toml.Reader
import DeviceStandby.Toml.Scalar
import DeviceStandby.Toml.Section
import DeviceStandby.Value
