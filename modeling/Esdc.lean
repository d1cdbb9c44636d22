import Esdc.Lib.Transition
import Esdc.Lib.ExpiringStore
import Esdc.Lib.TimedRegister
import Esdc.Lib.Trunc
import Esdc.Lib.Dict
import Esdc.Lib.Faults
import Esdc.Vms.Status
import Esdc.Vms.StatusCache
import Esdc.Vms.Definition.Update
import Esdc.Vms.Definition.Vmadm
import Esdc.Vms.Definition.Items
import Esdc.Vms.Definition.Payload
import Esdc.Vms.Definition.Changes
import Esdc.Vms.Definition.Correct
import Esdc.Vms.Accounting.Vm
import Esdc.Vms.Accounting.Node
import Esdc.Vms.Accounting.Free
import Esdc.Vms.Accounting.Conservation
import Esdc.Api.Status.Check
import Esdc.Api.Status.Converge
import Esdc.Api.Status.Deploy
import Esdc.Api.Status.Stages
import Esdc.Api.Status.DeployOrder
import Esdc.Api.Vm.Manage
import Esdc.Api.Vm.NotReady
import Esdc.Api.Vm.Restore
import Esdc.Api.Vm.RestoreExclusive
import Esdc.Que.Lock
import Esdc.Que.Tasks
import Esdc.Que.Steps
import Esdc.Que.Exclusion
import Esdc.Que.Ownership
import Esdc.Que.Mgmt
import Esdc.Api.Callback.Data
import Esdc.Api.Callback.Retry
import Esdc.Api.Callback.Update
import Esdc.Api.Callback.Migrate
import Esdc.Api.Callback.Status
import Esdc.Api.Callback.StatusRetry
import Esdc.Api.Callback.Create
import Esdc.Api.Callback.CreateRetry
import Esdc.Api.Callback.Current
import Esdc.Api.Callback.Equivalence
import Esdc.Api.Vm.Replica
import Esdc.Api.Vm.Operations
import Esdc.Api.Vm.Restored
import Esdc.Lib.Zfs
import Esdc.Bin.Esbackup.Restore
import Esdc.Bin.Esbackup.Loops
import Esdc.Bin.Esbackup.Recovery
import Esdc.Bin.Esbackup.RestoreErrors
import Esdc.Bin.Esbackup.RestoreRecovered
import Esdc.Bin.Esbackup.RestoreFailure
import Esdc.Bin.Esbackup.Delete
import Esdc.Bin.Esbackup.Deleted
import Esdc.Bin.Esbackup.DeleteSafe
import Esdc.Api.Vm.Backup.Rows
import Esdc.Api.Vm.Backup.DeleteList
import Esdc.Lib.Triple
import Esdc.Bin.Esbackup.Create
import Esdc.Bin.Esbackup.Created
import Esdc.Bin.Esrep.Common
import Esdc.Api.Vm.Backup.Chain
import Esdc.Bin.Esrep.Sync
import Esdc.Api.Task.MgmtLock
import Esdc.Vms.IPAddress
import Esdc.Vms.SlaveVm
import Esdc.Vms.Replicas
import Esdc.Vms.ReplicaId
import Esdc.Vms.FailOver
import Esdc.Vms.Accounting.Pool
import Esdc.Api.Vm.UpdateCb
import Esdc.Api.Vm.RemovedDisks
import Esdc.Api.Vm.NodeChange
import Esdc.Api.Vm.DeployFinished
import Esdc.Api.Vm.DeployEvidence
import Esdc.Api.Callback.StatusFailures
import Esdc.Api.Vm.StatusTask
import Esdc.Api.Vm.StatusOrder
import Esdc.Api.Dc.NodeView
import Esdc.Api.Dc.Reallocation
import Esdc.Lib.DerivedCache
import Esdc.Lib.OptionMap
import Esdc.Vms.StorageSizes
import Esdc.Vms.StorageAmounts
import Esdc.Vms.StorageRefresh
import Esdc.Vms.FreeSize
import Esdc.Api.Vm.StorageOps
import Esdc.Api.Vm.StorageCoherence
import Esdc.Vms.VncPort
import Esdc.Lib.OrderBy
import Esdc.Vms.ChooseNode
import Esdc.Pdns.RecurseNetworks
import Esdc.Vms.Subnet
import Esdc.Lib.Interleave
import Esdc.Que.UserTasks
import Esdc.Que.UserTaskOwners
import Esdc.Vms.Uptime
import Esdc.Api.Vm.LastSync
import Esdc.Lib.Table
import Esdc.Vms.DiskModel
import Esdc.Api.Vm.Snapshot
import Esdc.Api.Vm.SnapshotLimit
import Esdc.Api.Vm.DiskBackup
import Esdc.Api.Vm.Retention
import Esdc.Api.Vm.Retained
import Esdc.Api.Vm.RetentionRuns
import Esdc.Lib.Shell
import Esdc.Api.Vm.UpdateCommand
import Esdc.Api.Vm.UpdateLine
import Esdc.Lib.Segments
import Esdc.Vms.NodeHistory
import Esdc.Vms.UsedSizes
import Esdc.Vms.KvmOverhead
import Esdc.Lib.Text
import Esdc.Pdns.SoaSerial
import Esdc.Lib.ZfsProperties
import Esdc.Bin.Esrep.Failover
import Esdc.Bin.Esrep.FailoverRollback
import Esdc.Api.Vm.SnapshotSync
import Esdc.Api.Vm.SnapshotSettled
import Esdc.Api.Vm.SnapshotSynced
import Esdc.Vms.ZoneDisks
import Esdc.Api.Vm.Define.Nic
import Esdc.Api.Vm.Define.NicView
import Esdc.Api.Vm.Define.NicSaved
import Esdc.Api.Vm.Define.NicRuns
import Esdc.Api.Vm.Define.NicIps
import Esdc.Lib.Fallible
import Esdc.Api.Network.Base
import Esdc.Api.Network.Segment
import Esdc.Vms.PickleDict
import Esdc.Vms.ConcatJson
import Esdc.Que.TaskId
import Esdc.Lib.JsonTree
import Esdc.Vms.SlaveDefinition
import Esdc.Api.Mon.DiffHost
import Esdc.Vms.KnownSizes
import Esdc.Api.Vm.Define.Revert
import Esdc.Api.Vm.Define.Disk
import Esdc.Api.Vm.Define.Lists
import Esdc.Api.Vm.Define.NicBooks
import Esdc.Api.Vm.Define.NicRecords
import Esdc.Api.Vm.Define.NicConflicts
import Esdc.Lib.SlidingWindow
import Esdc.Api.Throttling
import Esdc.Vms.IPUsage
import Esdc.Api.Dc.Objects
import Esdc.Api.Dc.Binding
