import OvnOctavia.Library.Dict
import OvnOctavia.Library.Text
import OvnOctavia.Library.Json
import OvnOctavia.Library.Fallible
import OvnOctavia.Library.Prog
import OvnOctavia.Library.Flaky
import OvnOctavia.Library.Overlay
import OvnOctavia.Library.Shared
import OvnOctavia.Library.Grade
import OvnOctavia.Environment
import OvnOctavia.Northbound
import OvnOctavia.Encoding
import OvnOctavia.Vips
import OvnOctavia.Association
import OvnOctavia.Status
import OvnOctavia.LoadBalancer
import OvnOctavia.Listener
import OvnOctavia.Pool
import OvnOctavia.Monitoring
import OvnOctavia.Member
import OvnOctavia.HealthMonitor
import OvnOctavia.Deletion
import OvnOctavia.Fip
import OvnOctavia.Handler
import OvnOctavia.Sync
import OvnOctavia.Driver
import OvnOctavia.Keys
import OvnOctavia.Services
import OvnOctavia.Rows
import OvnOctavia.Peripheral
import OvnOctavia.Links
import OvnOctavia.Transactions
import OvnOctavia.Outcomes
import OvnOctavia.MemberOutcomes
import OvnOctavia.History
import OvnOctavia.Table
import OvnOctavia.MemberSteps
import OvnOctavia.Directory
import OvnOctavia.RouterInterfaces
import OvnOctavia.KeptRuns
import OvnOctavia.PoolMembers
import OvnOctavia.Traffic
import OvnOctavia.SharedVip
import OvnOctavia.SwitchCounts
import OvnOctavia.RefCounts
import OvnOctavia.RouterLinks
import OvnOctavia.RouterReach
import OvnOctavia.ProtocolRows
import OvnOctavia.Switching
import OvnOctavia.Reenabling
import OvnOctavia.Attaching
import OvnOctavia.Leftovers
import OvnOctavia.FipRoundTrip
import OvnOctavia.HealthEvents
import OvnOctavia.HealthChecks
import OvnOctavia.PortMappings
import OvnOctavia.MonitorOutcomes
import OvnOctavia.MonitoredMembers
import OvnOctavia.MonitorRuns
import OvnOctavia.SyncedLinks
import OvnOctavia.RouterRefs
import OvnOctavia.StepByStep
import OvnOctavia.PoolReports
import OvnOctavia.Affinity
import OvnOctavia.BatchUpdate
import OvnOctavia.RollUp
import OvnOctavia.CheckOwners
import OvnOctavia.MonitorUndone
import OvnOctavia.CheckSync
import OvnOctavia.CheckPorts
import OvnOctavia.MappingEntries
import OvnOctavia.MappingMigration
import OvnOctavia.MonitorPorts
import OvnOctavia.MemberTexts
import OvnOctavia.VipPorts
import OvnOctavia.InSync
import OvnOctavia.MissingSync
import OvnOctavia.SyncedKeys
import OvnOctavia.ProtocolSync
import OvnOctavia.RowEntries
import OvnOctavia.SyncedPools
import OvnOctavia.PortEvents
import OvnOctavia.FipRequests
import OvnOctavia.PortFollowing
import OvnOctavia.DeviceOwners
import OvnOctavia.FipSync
import OvnOctavia.FullSync
import OvnOctavia.MemberLookup
import OvnOctavia.SyncedListeners
import OvnOctavia.SyncedServices
