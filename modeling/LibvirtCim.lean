import LibvirtCim.Framework.Decimal
import LibvirtCim.Framework.Xml
import LibvirtCim.Indication.FilterSafety
import LibvirtCim.Indication.Polling
import LibvirtCim.Infostore.Laws
import LibvirtCim.Infostore.Serialised
import LibvirtCim.Migration.NeverLost
import LibvirtCim.Service.DevicesKept
import LibvirtCim.Service.Atomicity
import LibvirtCim.Device.NetRoundTrip
import LibvirtCim.Device.ControllerRoundTrip
import LibvirtCim.Device.DisplayRoundTrip
import LibvirtCim.Device.SettingsRoundTrip
import LibvirtCim.Device.CapacityRoundTrip
import LibvirtCim.Device.Regenerate
import LibvirtCim.Pool.TextSafety
import LibvirtCim.Pool.PoolOperations
import LibvirtCim.Service.OwnSettings
import LibvirtCim.Filter.NestedFilterList
import LibvirtCim.Filter.FilterEnumeration
import LibvirtCim.Filter.AppliedFilterList
import LibvirtCim.Association.AppliedFilters
import LibvirtCim.Association.ElementAllocatedFromPool
import LibvirtCim.Association.SettingsDefineState
import LibvirtCim.Service.CloneIdentity
import LibvirtCim.Service.Destroy
import LibvirtCim.Indication.EventListExact
import LibvirtCim.Service.TruthfulIndications
import LibvirtCim.Rasd.History
import LibvirtCim.Service.SchedulingFrame
import LibvirtCim.Service.PreciseRemoval
import LibvirtCim.Snapshot.SnapshotService
import LibvirtCim.Migration.MigratingFlag
import LibvirtCim.Service.AppliedScheduling
import LibvirtCim.Service.DeviceSlots
import LibvirtCim.Service.CompleteSettings
import LibvirtCim.Device.Duplicate
import LibvirtCim.Rasd.ConsoleReadBack
import LibvirtCim.Enumeration.PoolMemory
import LibvirtCim.Enumeration.Settings
import LibvirtCim.Service.References
import LibvirtCim.Rasd.MemoryUnits
import LibvirtCim.Filter.RuleAttributes
import LibvirtCim.Common.ListRefinement
import LibvirtCim.Service.BootOrder
import LibvirtCim.Service.VsiSupport
import LibvirtCim.Association.IdCodec
import LibvirtCim.Migration.DestUri
import LibvirtCim.Capability.Defaults
import LibvirtCim.Enumeration.ConsoleSap
import LibvirtCim.Indication.SystemName
import LibvirtCim.Rasd.SentBack
import LibvirtCim.Rasd.DiskSentBack
import LibvirtCim.Rasd.NetSentBack
import LibvirtCim.Rasd.DisplaySentBack
import LibvirtCim.Service.UnchangedRequest
import LibvirtCim.Framework.Listing
import LibvirtCim.Capability.Templates
import LibvirtCim.Capability.ValueRoles
import LibvirtCim.Capability.TemplateRanges
import LibvirtCim.Capability.TemplatesTaken
import LibvirtCim.Framework.Workers
import LibvirtCim.Snapshot.Interleaving
import LibvirtCim.Service.GuestStates
import LibvirtCim.Association.SystemComponents
import LibvirtCim.Association.ResourceAllocationFromPool
import LibvirtCim.Association.FilterLists
import LibvirtCim.Service.FilterRequests
import LibvirtCim.Capability.CapabilitiesXml
