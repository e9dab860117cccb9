import LibSnapshot.Manager.Files

/-!
# Mapping and unmapping a partition's stack

`MapPartitionWithSnapshot` (`snapshot.cpp:1242`) builds the stack of a partition with a live
snapshot: `P-base` (the partition's extents in super), the COW device (`MapCowDevices`: the COW
image `P-cow-img`, a `P-cow` device over the COW partition in super and the image, or both),
and the snapshot device (`MapSnapshot`: the snapshot target alone as `P`, or under `P-inner`
with an outer linear table `P` when only a prefix of the partition is snapshotted). Devices it
creates go on an `AutoDeviceList`, which undoes them in reverse order unless it is released.
`UnmapPartitionWithSnapshot` (`snapshot.cpp:1363`) deletes the stack again, and
`DeleteSnapshot` (`snapshot.cpp:462`) removes what persists: the COW image and the status file.
`RemoveAllUpdateState` (`snapshot.cpp:197`) does both for every snapshot before it writes
`None`.
-/

namespace LibSnapshot

open SM DeviceMapper

namespace SnapshotManager

/-! ## Unmapping and deleting -/

/-- `SnapshotManager::MapCowImage` (`snapshot.cpp:415`): map `P-cow-img`, through the device
mapper in first-stage init. -/
def mapCowImage (name : String) (timeout_ms : Int) : SM Bool := do
  if !(← ensureImageManager) then return false
  let cow_image_name := getCowImageDeviceName name
  let mapped ← if (← get).has_local_image_manager_ then
      ImageManager.mapImageWithDeviceMapper cow_image_name
    else ImageManager.mapImageDevice cow_image_name timeout_ms
  return mapped.isSome

/-- `SnapshotManager::UnmapSnapshot` (`snapshot.cpp:439`): delete `P`, then `P-inner`. -/
def unmapSnapshot (_lock : LockedFile) (name : String) : SM Bool := do
  if !(← deleteDeviceIfExists name) then return false
  if !(← deleteDeviceIfExists (getSnapshotExtraDeviceName name)) then return false
  return true

/-- `SnapshotManager::UnmapCowDevices` (`snapshot.cpp:1459`): delete `P-cow`, then unmap
`P-cow-img`. -/
def unmapCowDevices (_lock : LockedFile) (name : String) : SM Bool := do
  if !(← ensureImageManager) then return false
  if !(← deleteDeviceIfExists (getCowName name)) then return false
  if !(← ImageManager.unmapImageIfExists (getCowImageDeviceName name)) then return false
  return true

/-- `SnapshotManager::DeleteSnapshot` (`snapshot.cpp:462`): unmap the COW devices, delete the
COW image, remove the status file. -/
def deleteSnapshot (lock : LockedFile) (name : String) : SM Bool := do
  CHECK (lock.lock_mode = .exclusive) "lock->lock_mode() == LOCK_EX"
  if !(← ensureImageManager) then return false
  if !(← unmapCowDevices lock name) then return false
  let cow_image_name := getCowImageDeviceName name
  if ← ImageManager.backingImageExists cow_image_name then
    if !(← ImageManager.deleteBackingImage cow_image_name) then return false
  removeStatusFileIfExists name

/-- `SnapshotManager::UnmapPartitionWithSnapshot` (`snapshot.cpp:1363`): the snapshot devices,
the COW devices, then `P-base`. -/
def unmapPartitionWithSnapshot (lock : LockedFile) (target_partition_name : String) :
    SM Bool := do
  if !(← unmapSnapshot lock target_partition_name) then return false
  if !(← unmapCowDevices lock target_partition_name) then return false
  if !(← deleteDeviceIfExists (getBaseDeviceName target_partition_name)) then return false
  return true

/-! ## Cleanup lists -/

/-- An entry of an `AutoDeviceList` (`utility.h`): what its destructor undoes. -/
inductive AutoDevice
  | AutoUnmapDevice (name : String)
  | AutoUnmapImage (name : String)
  | AutoDeleteSnapshot (lock : LockedFile) (name : String)
  deriving DecidableEq, Repr

/-- The destructor of one entry (`utility.cpp:45-77`); its result is only logged. -/
def AutoDevice.destroy : AutoDevice → SM Unit
  | .AutoUnmapDevice name => do let _ ← deleteDeviceIfExists name
  | .AutoUnmapImage name => do let _ ← ImageManager.unmapImageIfExists name
  | .AutoDeleteSnapshot lock name => do let _ ← deleteSnapshot lock name

/-- `~AutoDeviceList` (`utility.cpp:31`): the entries' destructors, the latest first. The list
holds its entries the latest first; `Release` empties it. -/
def destroyAll : List AutoDevice → SM Unit
  | [] => pure ()
  | d :: ds => do d.destroy; destroyAll ds

/-- The scope of an `AutoDeviceList`: `body` starts with an empty list and returns its result
with the list as it stands at the exit; the list's destructor runs then. -/
def withAutoDeviceList {α : Type} (body : List AutoDevice → SM (α × List AutoDevice)) : SM α := do
  let (r, created) ← body []
  destroyAll created
  return r

/-! ## Mapping -/

/-- `milliseconds::min()`, which `GetRemainingTime` returns for a spent budget. -/
def millisecondsMin : Int := -2 ^ 63

/-- `GetRemainingTime` (`snapshot.cpp:1225`): `0` for no timeout, else what is left of `timeout`
since `begin`, or `milliseconds::min()` when nothing is. -/
def getRemainingTime (timeout begin : Int) : SM Int := do
  if timeout = 0 then return 0
  let remaining_time := timeout - ((← now) - begin)
  if remaining_time ≤ 0 then return millisecondsMin
  return remaining_time

/-- `SnapshotManager::MapCowDevices` (`snapshot.cpp:1387`): map the COW image when
`cow_file_size > 0` (and return it alone without a COW partition), else or then build `P-cow`
over the COW partition's extents and the image. Returns the result, the cleanup list, and the
COW device's name. -/
def mapCowDevices (lock : LockedFile) (params : CreateLogicalPartitionParams)
    (snapshot_status : SnapshotStatus) (created_devices : List AutoDevice) :
    SM (Bool × List AutoDevice × String) := do
  let _ := lock
  if !(← ensureImageManager) then return (false, created_devices, "")
  CHECK (snapshot_status.cow_partition_size + snapshot_status.cow_file_size > 0)
    "snapshot_status.cow_partition_size + snapshot_status.cow_file_size > 0"
  let begin ← now
  let partition_name := params.getPartitionName
  let cow_image_name := getCowImageDeviceName partition_name
  let cow_name := getCowName partition_name
  let mut created_devices := created_devices
  if snapshot_status.cow_file_size > 0 then
    let remaining_time ← getRemainingTime params.timeout_ms begin
    if remaining_time < 0 then return (false, created_devices, cow_name)
    if !(← mapCowImage partition_name remaining_time) then
      return (false, created_devices, cow_name)
    created_devices := .AutoUnmapImage cow_image_name :: created_devices
    if snapshot_status.cow_partition_size = 0 then
      return (true, created_devices, cow_image_name)
  let remaining_time ← getRemainingTime params.timeout_ms begin
  if remaining_time < 0 then return (false, created_devices, cow_name)
  CHECK (snapshot_status.cow_partition_size > 0) "snapshot_status.cow_partition_size > 0"
  let cow_partition_params :=
    { params with partition := none, partition_name := cow_name, device_name := "" }
  let some table ← createDmTable cow_partition_params | return (false, created_devices, cow_name)
  let mut table := table
  if snapshot_status.cow_file_size > 0 then
    let some cow_image_device ← getDeviceString cow_image_name
      | return (false, created_devices, cow_name)
    let cow_partition_sectors := (snapshot_status.cow_partition_size / kSectorSize).toNat
    let cow_image_sectors := (snapshot_status.cow_file_size / kSectorSize).toNat
    table := table ++ [⟨cow_partition_sectors, cow_image_sectors, .linear cow_image_device 0⟩]
  let (ok, _) ← createDeviceTable cow_name table "" remaining_time
  if !ok then return (false, created_devices, cow_name)
  return (true, .AutoUnmapDevice cow_name :: created_devices, cow_name)

/-- The storage mode `MapSnapshot` gives a snapshot target for the global state
(`snapshot.cpp:362`): none once merging has completed, `Merge` while a merge is in progress or
stalled, `Persistent` otherwise. -/
def storageModeFor : UpdateState → Option SnapshotStorageMode
  | .MergeCompleted | .MergeNeedsReboot => none
  | .Merging | .MergeFailed => some .Merge
  | _ => some .Persistent

/-- `SnapshotManager::MapSnapshot` (`snapshot.cpp:301`): the snapshot target of
`snapshot_size / 512` sectors over `base_device` and `cow_device`, under `P` when the whole
partition is snapshotted, else under `P-inner` with an outer table `P` of two linear targets.
The branch for a `base_device` path starting with `/` is not modelled: every caller passes a
`major:minor` string from `GetDeviceString`. Returns the result and `*dev_path`, which its one
caller, `MapPartitionWithSnapshot`, has cleared (`snapshot.cpp:1248`): each `CreateDevice` sets it
once it finds the device's node. -/
def mapSnapshot (lock : LockedFile) (name base_device cow_device : String) (timeout_ms : Int) :
    SM (Bool × String) := do
  if !(← ensureImageManager) then return (false, "")
  let some status ← readSnapshotStatus lock name | return (false, "")
  if status.state = .MergeCompleted then return (false, "")
  if status.device_size % kSectorSize ≠ 0 then return (false, "")
  if status.snapshot_size % kSectorSize ≠ 0 ∨ status.snapshot_size > status.device_size then
    return (false, "")
  let snapshot_sectors := (status.snapshot_size / kSectorSize).toNat
  let linear_sectors := ((status.device_size - status.snapshot_size) / kSectorSize).toNat
  let some mode := storageModeFor (← readUpdateState lock) | return (false, "")
  let snap_name := if linear_sectors > 0 then getSnapshotExtraDeviceName name else name
  let table : List DmTarget :=
    [⟨0, snapshot_sectors, .snapshot base_device cow_device mode kSnapshotChunkSize⟩]
  let (ok, dev_path) ← createDeviceTable snap_name table "" timeout_ms
  if !ok then return (false, dev_path)
  if linear_sectors > 0 then
    let some snap_dev ← getDeviceString snap_name | return (false, dev_path)
    let table : List DmTarget :=
      [⟨0, snapshot_sectors, .linear snap_dev 0⟩,
       ⟨snapshot_sectors, linear_sectors, .linear base_device snapshot_sectors⟩]
    let (ok, dev_path) ← createDeviceTable name table dev_path timeout_ms
    if !ok then
      let _ ← deleteDevice snap_name
      return (false, dev_path)
    return (true, dev_path)
  return (true, dev_path)

/-- The `do { ... } while (0)` of `MapPartitionWithSnapshot` (`snapshot.cpp:1272`): the live
snapshot of the partition, `none` for a reflashed partition (no `UPDATED`), a missing status
file or a completed merge; `.error` when `access` fails otherwise or the status does not read. -/
def liveSnapshotStatus (lock : LockedFile) (partition : Partition) :
    SM (Except Unit (Option SnapshotStatus)) := do
  if !partition.updated then return .ok none
  if !(← ioCall) then return .error ()
  if (lookup (← sys).records partition.name).isNone then return .ok none
  let some status ← readSnapshotStatus lock partition.name | return .error ()
  if status.state = .MergeCompleted then return .ok none
  return .ok (some status)

/-- `SnapshotManager::MapPartitionWithSnapshot` (`snapshot.cpp:1242`): the base device (or the
plain partition without a live snapshot), then the COW devices and the snapshot device, with
every device it creates on a cleanup list that is released only on success. Returns the result
and `*path`: cleared at the start, then whatever `MapSnapshot` wrote to it, so empty when
nothing is snapshotted. -/
def mapPartitionWithSnapshot (lock : LockedFile) (params : CreateLogicalPartitionParams) :
    SM (Bool × String) := do
  let begin ← now
  if params.getPartitionName ≠ params.getDeviceName then return (false, "")
  let some params ← params.initDefaults | return (false, "")
  let some partition := params.partition | return (false, "")
  if partition.extents = [] then return (true, "")
  let .ok live ← liveSnapshotStatus lock partition | return (false, "")
  let params := match live with
    | some _ => { params with force_writable := true,
                              device_name := getBaseDeviceName params.getPartitionName }
    | none => params
  withAutoDeviceList fun created_devices => do
    let (ok, _) ← createLogicalPartition params
    if !ok then return ((false, ""), created_devices)
    let created_devices := .AutoUnmapDevice params.getDeviceName :: created_devices
    let some status := live | return ((true, ""), [])
    let some base_device ← getDeviceString params.getDeviceName
      | return ((false, ""), created_devices)
    let remaining_time ← getRemainingTime params.timeout_ms begin
    if remaining_time < 0 then return ((false, ""), created_devices)
    let cow_params := { params with timeout_ms := remaining_time }
    let (ok, created_devices, cow_name) ← mapCowDevices lock cow_params status created_devices
    if !ok then return ((false, ""), created_devices)
    let some cow_device ← getDeviceString cow_name | return ((false, ""), created_devices)
    let remaining_time ← getRemainingTime params.timeout_ms begin
    if remaining_time < 0 then return ((false, ""), created_devices)
    let (ok, path) ← mapSnapshot lock params.getPartitionName base_device cow_device remaining_time
    if !ok then return ((false, path), created_devices)
    return ((true, path), [])

/-! ## Removing everything -/

/-- The loop of `RemoveAllSnapshots` (`snapshot.cpp:1100`): unmap and delete each snapshot,
going on after a failure; `true` if all succeeded. -/
def removeEach (lock : LockedFile) : List String → SM Bool
  | [] => return true
  | name :: names => do
    let ok ← do
      if !(← unmapPartitionWithSnapshot lock name) then pure false
      else deleteSnapshot lock name
    let rest ← removeEach lock names
    return ok && rest

/-- `SnapshotManager::RemoveAllSnapshots` (`snapshot.cpp:1092`). -/
def removeAllSnapshots (lock : LockedFile) : SM Bool := do
  let some snapshots ← listSnapshots lock | return false
  removeEach lock snapshots

/-- `SnapshotManager::RemoveAllUpdateState` (`snapshot.cpp:197`): every snapshot, then the boot
indicator, then `None`; nothing more once a snapshot could not be removed. -/
def removeAllUpdateState (lock : LockedFile) : SM Bool := do
  if !(← removeAllSnapshots lock) then return false
  removeSnapshotBootIndicator
  writeUpdateState lock .None

end SnapshotManager

end LibSnapshot
