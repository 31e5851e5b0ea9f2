import RecordLocks.Audit.EventLog
import RecordLocks.CommandLine.Run
import RecordLocks.LockGuard
import RecordLocks.Main
import RecordLocks.Manager.Timeline
import RecordLocks.Settings.File
import RecordLocks.Proofs.LostUpdate
import RecordLocks.Proofs.WorkingSets
import RecordLocks.Proofs.Orphans
import RecordLocks.Proofs.TakingTurns
import RecordLocks.Proofs.Replay
import RecordLocks.Proofs.AuditTrail
import RecordLocks.Proofs.Identity
import RecordLocks.Proofs.Exits
import RecordLocks.Proofs.Tenures
import RecordLocks.Proofs.Teardown
import RecordLocks.Proofs.Conflicts
import RecordLocks.Proofs.Draining
import RecordLocks.Proofs.Noninterference
import RecordLocks.Proofs.Secrecy
import RecordLocks.Proofs.StoredIds
import RecordLocks.Proofs.SettingsCommands
import RecordLocks.Proofs.OneByOne
import RecordLocks.Proofs.KeyedSettings
import RecordLocks.Proofs.BrokenSettings
import RecordLocks.Proofs.EditingInSteps
import RecordLocks.Proofs.Contention
import RecordLocks.Proofs.LockViews
import RecordLocks.Proofs.SettingsRoutes
import RecordLocks.Proofs.CodedValues
import RecordLocks.Proofs.PartialSettings
import RecordLocks.Proofs.BookCommands
import RecordLocks.Proofs.GuardedLocks
import RecordLocks.Proofs.NumberTexts
import RecordLocks.Proofs.WorkingCopies
