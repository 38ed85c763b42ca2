import ProxmoxMcp.ChangeSet.Destroy
import ProxmoxMcp.ChangeSet.HaRule
import ProxmoxMcp.ChangeSet.NodesList
import ProxmoxMcp.ChangeSet.Planned
import ProxmoxMcp.ChangeSet.RestoreNewVmid
import ProxmoxMcp.ChangeSet.RuleGuests
import ProxmoxMcp.ChangeSet.Stored
import ProxmoxMcp.Core.AbsentRules
import ProxmoxMcp.Core.Client
import ProxmoxMcp.Core.ClusterStates
import ProxmoxMcp.Core.Coherence
import ProxmoxMcp.Core.Encoding
import ProxmoxMcp.Core.Error
import ProxmoxMcp.Core.Fingerprint
import ProxmoxMcp.Core.Grant
import ProxmoxMcp.Core.GuestIndex
import ProxmoxMcp.Core.Guests
import ProxmoxMcp.Core.HaRules
import ProxmoxMcp.Core.IndexRuns
import ProxmoxMcp.Core.Json
import ProxmoxMcp.Core.JsonCode
import ProxmoxMcp.Core.JsonStrings
import ProxmoxMcp.Core.JsonText
import ProxmoxMcp.Core.PathExpansion
import ProxmoxMcp.Core.Protect
import ProxmoxMcp.Core.Sanitise
import ProxmoxMcp.Core.Scope
import ProxmoxMcp.Core.SelectorLanguage
import ProxmoxMcp.Core.Separation
import ProxmoxMcp.Core.Task
import ProxmoxMcp.Core.Tier
import ProxmoxMcp.Core.Volid
import ProxmoxMcp.Core.VolumePaths
import ProxmoxMcp.Core.Waiver
import ProxmoxMcp.Effect
import ProxmoxMcp.Fallible
import ProxmoxMcp.HeadSort
import ProxmoxMcp.Interaction.Determined
import ProxmoxMcp.Interaction.Footprint
import ProxmoxMcp.Interaction.Heeds
import ProxmoxMcp.Interaction.Pool
import ProxmoxMcp.Interaction.Program
import ProxmoxMcp.Interaction.Protocol
import ProxmoxMcp.PairText
import ProxmoxMcp.Percent
import ProxmoxMcp.PrefixCode
import ProxmoxMcp.Server.AppliesOnce
import ProxmoxMcp.Server.Apply
import ProxmoxMcp.Server.ApplyProtocol
import ProxmoxMcp.Server.ApplySteps
import ProxmoxMcp.Server.ApplyTrails
import ProxmoxMcp.Server.Approval
import ProxmoxMcp.Server.ArchiveOwners
import ProxmoxMcp.Server.Authorization
import ProxmoxMcp.Server.Calls
import ProxmoxMcp.Server.Catalog
import ProxmoxMcp.Server.CatalogReads
import ProxmoxMcp.Server.Changes
import ProxmoxMcp.Server.ClaimedApplies
import ProxmoxMcp.Server.Context
import ProxmoxMcp.Server.Coordinator
import ProxmoxMcp.Server.CreateKeys
import ProxmoxMcp.Server.Creations
import ProxmoxMcp.Server.Destroy
import ProxmoxMcp.Server.Devices
import ProxmoxMcp.Server.DirectCalls
import ProxmoxMcp.Server.DownloadUrl
import ProxmoxMcp.Server.ExistenceOracle
import ProxmoxMcp.Server.FreeText
import ProxmoxMcp.Server.Freshness
import ProxmoxMcp.Server.Gate
import ProxmoxMcp.Server.GuestConfig
import ProxmoxMcp.Server.HaDrift
import ProxmoxMcp.Server.HaRule
import ProxmoxMcp.Server.HaRuleForms
import ProxmoxMcp.Server.HonestOutcomes
import ProxmoxMcp.Server.LabMode
import ProxmoxMcp.Server.LifeCycle
import ProxmoxMcp.Server.LifeCycleRuns
import ProxmoxMcp.Server.Listings
import ProxmoxMcp.Server.LowTier
import ProxmoxMcp.Server.Machine
import ProxmoxMcp.Server.Outcome
import ProxmoxMcp.Server.OutcomeRuns
import ProxmoxMcp.Server.PageChain
import ProxmoxMcp.Server.Pages
import ProxmoxMcp.Server.PinnedArchives
import ProxmoxMcp.Server.PlannedApplies
import ProxmoxMcp.Server.PreviewedChanges
import ProxmoxMcp.Server.Previews
import ProxmoxMcp.Server.Read
import ProxmoxMcp.Server.Readiness
import ProxmoxMcp.Server.Records
import ProxmoxMcp.Server.Recover
import ProxmoxMcp.Server.RecoveredOutcomes
import ProxmoxMcp.Server.RecoveryPasses
import ProxmoxMcp.Server.Reloads
import ProxmoxMcp.Server.ResizeDisk
import ProxmoxMcp.Server.RestoreNewVmid
import ProxmoxMcp.Server.SettledRecords
import ProxmoxMcp.Server.TaskPaths
import ProxmoxMcp.Server.TokenCommands
import ProxmoxMcp.Server.ToolWarrants
import ProxmoxMcp.Server.UpdateGuard
import ProxmoxMcp.Server.VolumeReferences
import ProxmoxMcp.Server.Warrants
import ProxmoxMcp.Text
import ProxmoxMcp.UrlPath
import ProxmoxMcp.Utf8
