import PoisonedOS.Files.Listing
import PoisonedOS.Files.Integrity
import PoisonedOS.Rpc.Activation
import PoisonedOS.Rpc.Agreement
import PoisonedOS.Rpc.Isolation
import PoisonedOS.Packages.RollbackTarget
import PoisonedOS.Rpc.UpdateConfirmations
import PoisonedOS.Pairing.CrashSafety
import PoisonedOS.Session.Nonces
import PoisonedOS.Session.Delivery
import PoisonedOS.Session.Dispatch
import PoisonedOS.Packages.TransactionWrites
import PoisonedOS.Vfs.JournalRuns
import PoisonedOS.Profiles.Application
import PoisonedOS.Dashboard.KeyAgreement
import PoisonedOS.Archive.Refusal
import PoisonedOS.Session.ChannelAgreement
import PoisonedOS.Audit.PackageAudit
import PoisonedOS.Audit.Commitment
import PoisonedOS.Bridge.Sessions
import PoisonedOS.Apps.CommandDelivery
import PoisonedOS.Apps.EventDelivery
import PoisonedOS.Expansion.Agreement
import PoisonedOS.Bluetooth.CreditLaws
import PoisonedOS.Gateway.Exclusivity
import PoisonedOS.Workloads.ScriptStops
import PoisonedOS.Workloads.SourceRequest
import PoisonedOS.Builder.Identity
import PoisonedOS.Workloads.VerifiedSource
import PoisonedOS.Packages.Enabling
import PoisonedOS.Files.UploadRuns
import PoisonedOS.Tools.OwnershipRuns
import PoisonedOS.Rpc.StorageAdmission
import PoisonedOS.Pairing.DiskCodec
import PoisonedOS.Session.ResumeLaws
import PoisonedOS.Session.ChannelRecords
import PoisonedOS.Archive.AuthorityRuns
import PoisonedOS.Archive.VersionGrammar
import PoisonedOS.Tools.JsonEscape
import PoisonedOS.Tools.ResultText
import PoisonedOS.Tools.CaptureLaws
import PoisonedOS.Packages.BridgeAgreement
import PoisonedOS.Evidence.Integrity
import PoisonedOS.Evidence.IndexPersistence
import PoisonedOS.Packages.DeviceCatalog
import PoisonedOS.Workloads.ConsoleStream
import PoisonedOS.Audit.Ring
import PoisonedOS.Dashboard.DelimitedFrames
import PoisonedOS.Workloads.ManagedRegistry
import PoisonedOS.Dashboard.AssignmentSyncLaws
import PoisonedOS.Protocol.Compatibility
import PoisonedOS.Workloads.ArtifactRequest
import PoisonedOS.Dashboard.RevisionStore
import PoisonedOS.Dependencies.Bundle
import PoisonedOS.Workloads.ModuleAccounting
import PoisonedOS.Packages.BootRecovery
import PoisonedOS.Lessons.Completion
