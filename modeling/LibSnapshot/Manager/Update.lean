import LibSnapshot.Manager.Merge

/-!
# The update's life cycle

The public operations of `SnapshotManager` that begin, fill, finish and cancel an update
(`snapshot.cpp:133-235`, `snapshot.cpp:1744-1963`), the first-stage entry points
(`snapshot.cpp:1148-1223`), and the read-only ones (`GetUpdateState`, `Dump`).

`CreateUpdateSnapshots` computes, for every partition of the target slot, the sizes of its
snapshot with the external COW creator; it writes a status file for every partition that needs a
snapshot, reserves its COW partition in the target metadata and creates its COW image, then maps
every COW device once to zero its first four bytes (`InitializeCow`). Its collaborators (liblp's
metadata builder, update_engine's metadata updater, the COW creator) are not under src/ and come
in as `UpdateCollaborators`.
-/

namespace LibSnapshot

open SM DeviceMapper

namespace SnapshotManager

/-! ## Beginning, finishing and cancelling -/

/-- `SnapshotManager::TryCancelUpdate` (`snapshot.cpp:166`): remove an update that can still be
cancelled (initiated, or finished and not booted into); otherwise report that it needs a merge.
Returns the result and `needs_merge`. -/
def tryCancelUpdate : SM (Bool × Bool) := locked lockExclusive (false, false) fun file => do
  let state ← readUpdateState file
  if state = .None then return (true, false)
  if state = .Initiated then return (← removeAllUpdateState file, false)
  if state = .Unverified then
    let some contents ← readBootIndicator | return (← removeAllUpdateState file, false)
    if (← sys).slot = contents then return (← removeAllUpdateState file, false)
  return (true, true)

/-- The last locked section of `BeginUpdate` (`snapshot.cpp:143`): write `Initiated` over
`None`. -/
def beginUpdateLocked : SM Bool := locked lockExclusive false fun file => do
  if (← readUpdateState file) ≠ .None then return false
  writeUpdateState file .Initiated

/-- `SnapshotManager::BeginUpdate` (`snapshot.cpp:133`): cancel what can be cancelled, wait for a
merge that is needed (`ProcessUpdateState`, with `fuel`), then write `Initiated` over `None`. -/
def beginUpdate (fuel : Nat) : SM Bool := do
  let (ok, needs_merge) ← tryCancelUpdate
  if !ok then return false
  if needs_merge then
    let _ ← processUpdateState fuel
  beginUpdateLocked

/-- `SnapshotManager::CancelUpdate` (`snapshot.cpp:155`). -/
def cancelUpdate : SM Bool := do
  let (ok, needs_merge) ← tryCancelUpdate
  if !ok then return false
  return !needs_merge

/-- `SnapshotManager::FinishedSnapshotWrites` (`snapshot.cpp:210`): from `Initiated`, write the
live slot to the boot indicator, then `Unverified`; nothing to do from `Unverified`. -/
def finishedSnapshotWrites : SM Bool := locked lockExclusive false fun lock => do
  let update_state ← readUpdateState lock
  if update_state = .Unverified then return true
  if update_state ≠ .Initiated then return false
  if !(← writeBootIndicator (← sys).slot) then return false
  writeUpdateState lock .Unverified

/-! ## Creating snapshots -/

/-- `SnapshotManager::CreateSnapshot` (`snapshot.cpp:237`): check that the four sizes are
sector-aligned, then write the status as `Created` with zero counters. -/
def createSnapshot (lock : LockedFile) (name : String) (status : SnapshotStatus) : SM Bool := do
  CHECK (lock.lock_mode = .exclusive) "lock->lock_mode() == LOCK_EX"
  if status.device_size % kSectorSize ≠ 0 then return false
  if status.snapshot_size % kSectorSize ≠ 0 then return false
  if status.cow_partition_size % kSectorSize ≠ 0 then return false
  if status.cow_file_size % kSectorSize ≠ 0 then return false
  writeSnapshotStatus lock name
    { status with state := .Created, sectors_allocated := 0, metadata_sectors := 0 }

/-- `SnapshotManager::CreateCowImage` (`snapshot.cpp:278`): the COW image of the size the status
file records. -/
def createCowImage (lock : LockedFile) (name : String) : SM Bool := do
  CHECK (lock.lock_mode = .exclusive) "lock->lock_mode() == LOCK_EX"
  if !(← ensureImageManager) then return false
  let some status ← readSnapshotStatus lock name | return false
  if status.cow_file_size % kSectorSize ≠ 0 then return false
  ImageManager.createBackingImage (getCowImageDeviceName name) status.cow_file_size

/-- `InitializeCow` (`utility.cpp:79`): open the COW device and zero its first four bytes, so
that the kernel takes it for a new snapshot. -/
def initializeCow (device : String) : SM Bool := do
  if !(← ioCall) then return false
  persist (.initializeCow device)

/-- Modelled from the spec: `MetadataBuilder` (liblp, not under src/): the name of its block
device 0, its groups in order, and its partitions. -/
structure MetadataBuilder where
  block_device_0 : String := LP_METADATA_DEFAULT_PARTITION_NAME
  groups : List String := []
  partitions : List Partition := []
  deriving DecidableEq, Repr

/-- `ListPartitionsWithSuffix` (`utility.cpp:59`): the partitions of each group in turn whose
name ends in `suffix`. -/
def listPartitionsWithSuffix (builder : MetadataBuilder) (suffix : String) : List Partition :=
  builder.groups.flatMap fun group =>
    builder.partitions.filter fun p => p.group = group ∧ suffix.data.isSuffixOf p.name.data

/-- Modelled from the spec: the extents `MetadataBuilder::ResizePartition` gives `sectors`
sectors within the usable regions, taken in order. -/
def allocate : Nat → List (Nat × Nat) → Option (List (Nat × Nat))
  | 0, _ => some []
  | _ + 1, [] => none
  | n + 1, (len, start) :: regions =>
    if n + 1 ≤ len then some [(n + 1, start)]
    else (allocate (n + 1 - len) regions).map ((len, start) :: ·)

/-- Modelled from the spec: `PartitionCowCreator::Return` (not under src/): the sizes of a
partition's snapshot and the regions of super free for its COW partition. -/
structure CowCreatorReturn where
  snapshot_status : SnapshotStatus
  cow_partition_usable_regions : List (Nat × Nat) := []
  deriving DecidableEq, Repr

/-- Modelled from the spec: `DeltaArchiveManifest` (update_engine): the names, without slot
suffix, of the partitions it updates. -/
structure DeltaArchiveManifest where
  partitions : List String
  deriving DecidableEq, Repr

/-- Modelled from the spec: what the collaborators of one `CreateUpdateSnapshots` compute: the
current slot's metadata (`MetadataBuilder::New`), the target slot's after
`SnapshotMetadataUpdater::Update` (`none` when it fails), and `PartitionCowCreator::Run` for each
target partition (`none` when it fails). -/
structure UpdateCollaborators where
  current_metadata : MetadataBuilder
  target_metadata : Option MetadataBuilder
  cow_creator : String → Option CowCreatorReturn

/-- The slot suffix other than `slot`: `device_->GetOtherSlotSuffix()`. -/
def otherSlotSuffix (slot : String) : String := if slot = "_a" then "_b" else "_a"

/-- The body of the first loop of `CreateUpdateSnapshots` (`snapshot.cpp:1806`) for one target
partition: its sizes, the old snapshot deleted, and, if it needs a snapshot, its status file, its
COW partition and its COW image. Returns `none` on a `return false`, else the target metadata and
the partition's entry of `all_snapshot_status`. -/
def createPartitionSnapshot (lock : LockedFile) (ext : UpdateCollaborators)
    (target_metadata : MetadataBuilder) (created_devices : List AutoDevice)
    (target_partition : Partition) :
    SM (Option (MetadataBuilder × Option SnapshotStatus) × List AutoDevice) := do
  let name := target_partition.name
  let some cow_creator_ret := ext.cow_creator name | return (none, created_devices)
  let status := cow_creator_ret.snapshot_status
  if !(← deleteSnapshot lock name) then return (none, created_devices)
  let needs_snapshot := status.snapshot_size > 0
  let needs_cow := status.cow_partition_size + status.cow_file_size > 0
  CHECK (needs_snapshot = needs_cow) "needs_snapshot == needs_cow"
  if !needs_snapshot then return (some (target_metadata, none), created_devices)
  if !(← createSnapshot lock name status) then return (none, created_devices)
  let created_devices := .AutoDeleteSnapshot lock name :: created_devices
  let mut target_metadata := target_metadata
  if status.cow_partition_size > 0 then
    CHECK (status.cow_partition_size % kSectorSize = 0)
      "cow_partition_size % kSectorSize == 0"
    if target_metadata.partitions.any (·.name = getCowName name) then
      return (none, created_devices)
    let sectors := (status.cow_partition_size / kSectorSize).toNat
    let some extents := allocate sectors cow_creator_ret.cow_partition_usable_regions
      | return (none, created_devices)
    if !(← extCall) then return (none, created_devices)
    target_metadata := { target_metadata with
      partitions := target_metadata.partitions ++ [⟨getCowName name, kCowGroupName, false, extents⟩] }
  if status.cow_file_size > 0 then
    if !(← createCowImage lock name) then return (none, created_devices)
  return (some (target_metadata, some status), created_devices)

/-- The first loop of `CreateUpdateSnapshots` (`snapshot.cpp:1806`) over the target partitions,
threading the target metadata, `all_snapshot_status` and the cleanup list. -/
def createAll (lock : LockedFile) (ext : UpdateCollaborators) :
    MetadataBuilder → List (String × SnapshotStatus) → List AutoDevice → List Partition →
      SM (Option (MetadataBuilder × List (String × SnapshotStatus)) × List AutoDevice)
  | target_metadata, all_snapshot_status, created_devices, [] =>
    return (some (target_metadata, all_snapshot_status), created_devices)
  | target_metadata, all_snapshot_status, created_devices, p :: ps => do
    let (r, created_devices) ← createPartitionSnapshot lock ext target_metadata created_devices p
    match r with
    | none => return (none, created_devices)
    | some (target_metadata, none) =>
      createAll lock ext target_metadata all_snapshot_status created_devices ps
    | some (target_metadata, some status) =>
      createAll lock ext target_metadata (insert all_snapshot_status p.name status)
        created_devices ps

/-- The body of the zero-fill loop of `CreateUpdateSnapshots` (`snapshot.cpp:1903`) for one
target partition: unmap what is left, `CHECK` that it has an entry in `all_snapshot_status`, map
its COW device, zero-fill it, and unmap it again with its own cleanup list. -/
def zeroFillCow (lock : LockedFile) (cow_params : CreateLogicalPartitionParams)
    (all_snapshot_status : List (String × SnapshotStatus)) (target_partition : Partition) :
    SM Bool := withAutoDeviceList fun created_devices_for_cow => do
  let name := target_partition.name
  if !(← unmapPartitionWithSnapshot lock name) then return (false, created_devices_for_cow)
  let it := lookup all_snapshot_status name
  CHECK it.isSome "it != all_snapshot_status.end()"
  let some status := it | return (false, created_devices_for_cow)
  let (ok, created_devices_for_cow, cow_name) ←
    mapCowDevices lock { cow_params with partition_name := name } status created_devices_for_cow
  if !ok then return (false, created_devices_for_cow)
  let some cow_path ← getDmDevicePathByName cow_name | return (false, created_devices_for_cow)
  if !(← initializeCow cow_path) then return (false, created_devices_for_cow)
  return (true, created_devices_for_cow)

/-- The zero-fill loop of `CreateUpdateSnapshots` (`snapshot.cpp:1903`). -/
def zeroFillAll (lock : LockedFile) (cow_params : CreateLogicalPartitionParams)
    (all_snapshot_status : List (String × SnapshotStatus)) : List Partition → SM Bool
  | [] => return true
  | p :: ps => do
    if !(← zeroFillCow lock cow_params all_snapshot_status p) then return false
    zeroFillAll lock cow_params all_snapshot_status ps

/-- `milliseconds::max()`. -/
def millisecondsMax : Int := 2 ^ 63 - 1

/-- `SnapshotManager::CreateUpdateSnapshots` (`snapshot.cpp:1744`). It reads no update state.
Its cleanup list deletes every snapshot it created when it fails after creating them. -/
def createUpdateSnapshots (manifest : DeltaArchiveManifest) (ext : UpdateCollaborators) :
    SM Bool := locked lockExclusive false fun lock => do
  let target_suffix := otherSlotSuffix (← sys).slot
  let some target_metadata := ext.target_metadata | return false
  if target_metadata.groups.contains kCowGroupName then return false
  let target_metadata := { target_metadata with groups := target_metadata.groups ++ [kCowGroupName] }
  if !(manifest.partitions.map (· ++ target_suffix)).Nodup then return false
  if (← sys).overlayfs then return false
  CHECK (ext.current_metadata.block_device_0 = LP_METADATA_DEFAULT_PARTITION_NAME ∧
      target_metadata.block_device_0 = LP_METADATA_DEFAULT_PARTITION_NAME)
    "GetBlockDevicePartitionName(0) == LP_METADATA_DEFAULT_PARTITION_NAME"
  withAutoDeviceList fun created_devices => do
    let targets := listPartitionsWithSuffix target_metadata target_suffix
    let (r, created_devices) ← createAll lock ext target_metadata [] created_devices targets
    let some (target_metadata, all_snapshot_status) := r | return (false, created_devices)
    if !(← extCall) then return (false, created_devices)
    let exported := target_metadata.partitions
    let cow_params : CreateLogicalPartitionParams :=
      { metadata := some exported, timeout_ms := millisecondsMax }
    let targets := listPartitionsWithSuffix target_metadata target_suffix
    if !(← zeroFillAll lock cow_params all_snapshot_status targets) then
      return (false, created_devices)
    let updated ← persist (.updateMetadata target_suffix exported)
    if !updated then return (false, created_devices)
    return (true, [])

/-! ## Mapping for clients and for first-stage init -/

/-- `SnapshotManager::MapUpdateSnapshot` (`snapshot.cpp:1947`): under the shared lock, unmap what
is left and map the partition's stack. -/
def mapUpdateSnapshot (params : CreateLogicalPartitionParams) : SM (Bool × String) :=
  locked lockShared (false, "") fun lock => do
    if !(← unmapPartitionWithSnapshot lock params.getPartitionName) then return (false, "")
    mapPartitionWithSnapshot lock params

/-- `SnapshotManager::UnmapUpdateSnapshot` (`snapshot.cpp:1959`). -/
def unmapUpdateSnapshot (target_partition_name : String) : SM Bool :=
  locked lockShared false fun lock => unmapPartitionWithSnapshot lock target_partition_name

/-- `SnapshotManager::IsSnapshotManagerNeeded` (`snapshot.cpp:1148`): the boot indicator
exists. -/
def isSnapshotManagerNeeded : SM Bool := do
  let ok ← ioCall
  let s ← sys
  return ok && s.indicator.isSome

/-- `SnapshotManager::NeedSnapshotsInFirstStageMount` (`snapshot.cpp:1152`): the indicator
names another slot and the update is `Unverified`, `Merging` or `MergeFailed`; without the
shared lock, `LOG(FATAL)`. -/
def needSnapshotsInFirstStageMount : SM Bool := do
  let some old_slot ← readBootIndicator | return false
  if (← sys).slot = old_slot then return false
  let some lock ← lockShared | fatal "Could not read update state to determine snapshot status"
  let state ← readUpdateState lock
  unlock
  return state = .Unverified ∨ state = .Merging ∨ state = .MergeFailed

/-- The loop of `CreateLogicalAndSnapshotPartitions` (`snapshot.cpp:1202`): map every partition
outside the COW group. -/
def mapAllPartitions (lock : LockedFile) (super_device : String) (metadata : List Partition) :
    List Partition → SM Bool
  | [] => return true
  | partition :: partitions => do
    if partition.group = kCowGroupName then
      return (← mapAllPartitions lock super_device metadata partitions)
    let params : CreateLogicalPartitionParams :=
      { block_device := super_device, metadata := some metadata, partition := some partition }
    let (ok, _) ← mapPartitionWithSnapshot lock params
    if !ok then return false
    mapAllPartitions lock super_device metadata partitions

/-- `SnapshotManager::CreateLogicalAndSnapshotPartitions` (`snapshot.cpp:1188`): under the
exclusive lock, map every partition of the live slot with its snapshot. -/
def createLogicalAndSnapshotPartitions (super_device : String) : SM Bool :=
  locked lockExclusive false fun lock => do
    let some metadata ← readMetadata (← sys).slot | return false
    mapAllPartitions lock super_device metadata metadata

/-! ## Reading -/

/-- `SnapshotManager::GetUpdateState` (`snapshot.cpp:1106`): the state under the shared lock, and
the progress: 100 for `MergeCompleted`, else 0. A failed `access` of the state file reads as a
missing file. -/
def getUpdateState : SM (UpdateState × Nat) := do
  if !(← ioCall) then return (.None, 0)
  locked lockShared (.None, 0) fun file => do
    let state ← readUpdateState file
    return (state, if state = .MergeCompleted then 100 else 0)

/-- The per-snapshot loop of `Dump` (`snapshot.cpp:1982`): every status must read. -/
def readAll (lock : LockedFile) : List String → SM Bool
  | [] => return true
  | name :: names => do
    let ok ← (·.isSome) <$> readSnapshotStatus lock name
    let rest ← readAll lock names
    return ok && rest

/-- `SnapshotManager::Dump` (`snapshot.cpp:1965`), without its text: open the state file without
a lock, then read the state, the indicator and every status. -/
def dump : SM Bool := do
  let some file ← openStateFile .none | return false
  let _ ← readUpdateState file
  let _ ← readBootIndicator
  let some snapshots ← listSnapshots file | return false
  readAll file snapshots

/-! ## The public interface -/

/-- A call of one of the public operations of `SnapshotManager` (`snapshot.h`), with the
arguments a client passes; `BeginUpdate` and `ProcessUpdateState` poll at most `fuel + 1` times. -/
inductive PublicOp
  | BeginUpdate (fuel : Nat)
  | CancelUpdate
  | CreateUpdateSnapshots (manifest : DeltaArchiveManifest) (ext : UpdateCollaborators)
  | MapUpdateSnapshot (params : CreateLogicalPartitionParams)
  | UnmapUpdateSnapshot (target_partition_name : String)
  | FinishedSnapshotWrites
  | InitiateMerge
  | ProcessUpdateState (fuel : Nat)
  | GetUpdateState
  | NeedSnapshotsInFirstStageMount
  | IsSnapshotManagerNeeded
  | CreateLogicalAndSnapshotPartitions (super_device : String)
  | Dump

/-- The run of a call; its result goes back to the client. -/
def PublicOp.run : PublicOp → SM Unit
  | .BeginUpdate fuel => do let _ ← beginUpdate fuel
  | .CancelUpdate => do let _ ← cancelUpdate
  | .CreateUpdateSnapshots manifest ext => do let _ ← createUpdateSnapshots manifest ext
  | .MapUpdateSnapshot params => do let _ ← mapUpdateSnapshot params
  | .UnmapUpdateSnapshot target_partition_name => do
    let _ ← unmapUpdateSnapshot target_partition_name
  | .FinishedSnapshotWrites => do let _ ← finishedSnapshotWrites
  | .InitiateMerge => do let _ ← initiateMerge
  | .ProcessUpdateState fuel => do let _ ← processUpdateState fuel
  | .GetUpdateState => do let _ ← getUpdateState
  | .NeedSnapshotsInFirstStageMount => do let _ ← needSnapshotsInFirstStageMount
  | .IsSnapshotManagerNeeded => do let _ ← isSnapshotManagerNeeded
  | .CreateLogicalAndSnapshotPartitions super_device => do
    let _ ← createLogicalAndSnapshotPartitions super_device
  | .Dump => do let _ ← dump

end SnapshotManager

end LibSnapshot
