import LibSnapshot.Manager.Map

/-!
# Merging

`InitiateMerge` (`snapshot.cpp:487`) writes `Merging` and rewrites every snapshot device's table
from `snapshot` to `snapshot-merge`. `CheckMergeState` (`snapshot.cpp:699`, `snapshot.cpp:716`)
polls each snapshot (`CheckTargetMergeState`, `snapshot.cpp:805`): a drained snapshot-merge
target (`sectors_allocated == metadata_sectors`) gets its status set to `MergeCompleted`, and
`OnSnapshotMergeComplete` collapses its stack to the plain linear partition and deletes the
snapshot. The per-snapshot results are combined with the priority
`Merging > MergeFailed > MergeNeedsReboot > Cancelled > MergeCompleted`, and a completed or
cancelled update is cleaned up by `RemoveAllUpdateState`. `ProcessUpdateState` repeats the poll
while the result is `Merging`.
-/

namespace LibSnapshot

open SM DeviceMapper

namespace SnapshotManager

/-! ## Querying snapshot devices -/

/-- `TableQuery` (`snapshot.cpp:615`). -/
inductive TableQuery
  | Table
  | Status
  deriving DecidableEq, Repr

/-- `GetSingleTarget` (`snapshot.cpp:620`): the one target of an existing device's table. -/
def getSingleTarget (dm_name : String) (query : TableQuery) : SM (Option TargetInfo) := do
  if (← getState dm_name) = .INVALID then return none
  let some targets ← (if query = .Status then getTableStatus dm_name else getTableInfo dm_name)
    | return none
  match targets with
  | [target] => return some target
  | _ => return none

/-- `SnapshotManager::IsSnapshotDevice` (`snapshot.cpp:646`): a single `snapshot` or
`snapshot-merge` target, which it returns. -/
def isSnapshotDevice (dm_name : String) : SM (Option TargetInfo) := do
  let some snap_target ← getSingleTarget dm_name .Status | return none
  let type := getTargetType snap_target.spec
  if type ≠ "snapshot" ∧ type ≠ "snapshot-merge" then return none
  return some snap_target

/-- `SnapshotManager::QuerySnapshotStatus` (`snapshot.cpp:661`): the target type and the counters
of a snapshot device's status line (`DmTargetSnapshot::ParseStatusText`). -/
def querySnapshotStatus (dm_name : String) : SM (Option (String × UInt64 × UInt64)) := do
  let some target ← isSnapshotDevice dm_name | return none
  let some (sectors_allocated, metadata_sectors) := target.status | return none
  return some (getTargetType target.spec, sectors_allocated, metadata_sectors)

/-! ## Starting the merge -/

/-- `SnapshotManager::RewriteSnapshotDeviceTable` (`snapshot.cpp:585`): replace a single
`snapshot` target by a `snapshot-merge` target over the same devices. -/
def rewriteSnapshotDeviceTable (dm_name : String) : SM Bool := do
  let some old_targets ← getTableInfo dm_name | return false
  let [old] := old_targets | return false
  if getTargetType old.spec ≠ "snapshot" then return false
  let some (base_device, cow_device) := getDevicesFromParams old.spec | return false
  loadTableAndActivate dm_name
    [⟨0, old.spec.length, .snapshot base_device cow_device .Merge kSnapshotChunkSize⟩]

/-- `SnapshotManager::SwitchSnapshotToMerge` (`snapshot.cpp:555`): rewrite the device, then
record `Merging` with the kernel's counters. A failed query leaves the counters uninitialized
(`Oracle.junk`), and a failed write is only logged. -/
def switchSnapshotToMerge (lock : LockedFile) (name : String) : SM Bool := do
  let some status ← readSnapshotStatus lock name | return false
  let dm_name := getSnapshotDeviceName name status
  if !(← rewriteSnapshotDeviceTable dm_name) then return false
  let junk := (← get).oracle.junk
  let dm_status := match ← querySnapshotStatus dm_name with
    | some (_, sectors_allocated, metadata_sectors) => (sectors_allocated, metadata_sectors)
    | none => junk
  let _ ← writeSnapshotStatus lock name
    { status with state := .Merging, sectors_allocated := dm_status.1,
                  metadata_sectors := dm_status.2 }
  return true

/-- The check loop of `InitiateMerge` (`snapshot.cpp:516`): every snapshot device exists. -/
def allMapped : List String → SM Bool
  | [] => return true
  | snapshot :: snapshots => do
    if (← getState snapshot) = .INVALID then return false
    allMapped snapshots

/-- The rewrite loop of `InitiateMerge` (`snapshot.cpp:534`): switch each snapshot, going on
after a failure; `true` if all succeeded. -/
def switchAll (lock : LockedFile) : List String → SM Bool
  | [] => return true
  | snapshot :: snapshots => do
    let ok ← switchSnapshotToMerge lock snapshot
    let rest ← switchAll lock snapshots
    return ok && rest

/-- `SnapshotManager::InitiateMerge` (`snapshot.cpp:487`): from `Unverified`, booted into the new
slot, with every snapshot mapped: write `Merging`, switch every snapshot, and write `MergeFailed`
if one could not be switched. -/
def initiateMerge : SM Bool := locked lockExclusive false fun lock => do
  if (← readUpdateState lock) ≠ .Unverified then return false
  let some old_slot ← readBootIndicator | return false
  if (← sys).slot = old_slot then return false
  let some snapshots ← listSnapshots lock | return false
  if !(← allMapped snapshots) then return false
  if !(← writeUpdateState lock .Merging) then return false
  if !(← switchAll lock snapshots) then
    let _ ← writeUpdateState lock .MergeFailed
  return true

/-! ## Completing the merge -/

/-- `SnapshotManager::CollapseSnapshotDevice` (`snapshot.cpp:949`): check the snapshot-merge
target and the outer table, load the partition's linear table into `P`, delete `P-inner`, and
try to delete `P-base`. -/
def collapseSnapshotDevice (name : String) (status : SnapshotStatus) : SM Bool := do
  let dm_name := getSnapshotDeviceName name status
  let some target ← getSingleTarget dm_name .Table | return false
  if getTargetType target.spec ≠ "snapshot-merge" then return false
  let some _ := getDevicesFromParams target.spec | return false
  let snapshot_sectors := status.snapshot_size / kSectorSize
  if snapshot_sectors * kSectorSize ≠ status.snapshot_size then return false
  if dm_name ≠ name then
    let some outer_table ← getTableInfo name | return false
    let [t0, t1] := outer_table | return false
    if getTargetType t0.spec ≠ "linear" ∨ getTargetType t1.spec ≠ "linear" then return false
    if t0.spec.length ≠ snapshot_sectors.toNat then return false
    if (status.device_size / kSectorSize).toNat ≠ t0.spec.length + t1.spec.length then
      return false
  let slot := (← sys).slot
  let some table ← createDmTable { metadata_slot := slot, partition_name := name }
    | return false
  if !(← loadTableAndActivate name table) then return false
  if dm_name ≠ name then
    if !(← deleteDeviceIfExists dm_name) then return false
  let _ ← deleteDeviceIfExists (getBaseDeviceName name)
  return true

/-- `SnapshotManager::OnSnapshotMergeComplete` (`snapshot.cpp:915`): if the snapshot device is
still there, check that it is a drained snapshot-merge target and collapse it; then delete the
snapshot. -/
def onSnapshotMergeComplete (lock : LockedFile) (name : String) (status : SnapshotStatus) :
    SM Bool := do
  let dm_name := getSnapshotDeviceName name status
  if (← isSnapshotDevice dm_name).isSome then
    let some (target_type, sectors_allocated, metadata_sectors) ← querySnapshotStatus dm_name
      | return false
    if target_type ≠ "snapshot-merge" then return false
    if sectors_allocated ≠ metadata_sectors then return false
    if !(← collapseSnapshotDevice name status) then return false
  deleteSnapshot lock name

/-- `SnapshotManager::IsCancelledSnapshot` (`snapshot.cpp:1078`): the partition is in the live
slot's metadata without `UPDATED`, so it was flashed behind the update's back. -/
def isCancelledSnapshot (snapshot_name : String) : SM Bool := do
  let some metadata ← readMetadata (← sys).slot | return false
  let some partition := findPartition metadata snapshot_name | return false
  return !partition.updated

/-- `SnapshotManager::CheckTargetMergeState` (`snapshot.cpp:805`): the merge state of one
snapshot. -/
def checkTargetMergeState (lock : LockedFile) (name : String) : SM UpdateState := do
  let some snapshot_status ← readSnapshotStatus lock name | return .MergeFailed
  let dm_name := getSnapshotDeviceName name snapshot_status
  if (← isSnapshotDevice dm_name).isNone then
    if ← isCancelledSnapshot name then
      let _ ← deleteSnapshot lock name
      return .Cancelled
    if snapshot_status.state = .MergeCompleted then
      let _ ← onSnapshotMergeComplete lock name snapshot_status
      return .MergeCompleted
    return .MergeFailed
  let some (target_type, sectors_allocated, metadata_sectors) ← querySnapshotStatus dm_name
    | return .MergeFailed
  if target_type ≠ "snapshot-merge" then return .MergeFailed
  if sectors_allocated ≠ metadata_sectors then
    if snapshot_status.state = .MergeCompleted then return .MergeFailed
    return .Merging
  let snapshot_status := { snapshot_status with state := .MergeCompleted }
  if !(← writeSnapshotStatus lock name snapshot_status) then return .MergeFailed
  if !(← onSnapshotMergeComplete lock name snapshot_status) then return .MergeNeedsReboot
  return .MergeCompleted

/-- The flags of `CheckMergeState` (`snapshot.cpp:751`): cancelled, failed, merging, needs
reboot. -/
structure MergeFlags where
  cancelled : Bool := false
  failed : Bool := false
  merging : Bool := false
  needs_reboot : Bool := false
  deriving DecidableEq, Repr

/-- The `switch` of `CheckMergeState`'s loop (`snapshot.cpp:757`): one snapshot's result into
the flags; an unexpected one counts as failed. -/
def MergeFlags.add (flags : MergeFlags) : UpdateState → MergeFlags
  | .MergeFailed => { flags with failed := true }
  | .Merging => { flags with merging := true }
  | .MergeNeedsReboot => { flags with needs_reboot := true }
  | .MergeCompleted => flags
  | .Cancelled => { flags with cancelled := true }
  | _ => { flags with failed := true }

/-- The loop of `CheckMergeState` (`snapshot.cpp:755`): check every snapshot in turn. -/
def checkEach (lock : LockedFile) (flags : MergeFlags) : List String → SM MergeFlags
  | [] => return flags
  | snapshot :: snapshots => do
    let snapshot_state ← checkTargetMergeState lock snapshot
    checkEach lock (flags.add snapshot_state) snapshots

/-- `SnapshotManager::HandleCancelledUpdate` (`snapshot.cpp:1054`): booted back into the old
slot, remove the update. -/
def handleCancelledUpdate (lock : LockedFile) : SM Bool := do
  let some old_slot ← readBootIndicator | return false
  if (← sys).slot ≠ old_slot then return false
  let _ ← removeAllUpdateState lock
  return true

/-- `SnapshotManager::CheckMergeState(LockedFile*)` (`snapshot.cpp:716`). -/
def checkMergeStateLocked (lock : LockedFile) : SM UpdateState := do
  let state ← readUpdateState lock
  match state with
  | .None | .MergeCompleted => return state
  | .Merging | .MergeNeedsReboot | .MergeFailed =>
    let some snapshots ← listSnapshots lock | return .MergeFailed
    let flags ← checkEach lock {} snapshots
    if flags.merging then return .Merging
    if flags.failed then return .MergeFailed
    if flags.needs_reboot then
      let _ ← writeUpdateState lock .MergeNeedsReboot
      return .MergeNeedsReboot
    if flags.cancelled then return .Cancelled
    return .MergeCompleted
  | .Unverified =>
    if ← handleCancelledUpdate lock then return .Cancelled
    return state
  | _ => return state

/-- `SnapshotManager::AcknowledgeMergeSuccess` (`snapshot.cpp:891`): the result of
`RemoveAllUpdateState` is dropped. -/
def acknowledgeMergeSuccess (lock : LockedFile) : SM Unit := do
  let _ ← removeAllUpdateState lock

/-- `SnapshotManager::CheckMergeState()` (`snapshot.cpp:699`): the poll under the exclusive lock,
and the cleanup of a completed or cancelled update in the same lock. -/
def checkMergeState : SM UpdateState := locked lockExclusive .MergeFailed fun lock => do
  let state ← checkMergeStateLocked lock
  if state = .MergeCompleted then acknowledgeMergeSuccess lock
  else if state = .Cancelled then
    let _ ← removeAllUpdateState lock
  return state

/-- `SnapshotManager::AcknowledgeMergeFailure` (`snapshot.cpp:895`): under a new lock, mark
`MergeFailed` unless the state moved on meanwhile. -/
def acknowledgeMergeFailure : SM Unit := locked lockExclusive () fun lock => do
  let state ← readUpdateState lock
  if state ≠ .Merging ∧ state ≠ .MergeNeedsReboot then return
  let _ ← writeUpdateState lock .MergeFailed

/-- One iteration of `ProcessUpdateState`'s loop (`snapshot.cpp:683`): poll, and acknowledge a
failure. -/
def pollUpdateState : SM UpdateState := do
  let state ← checkMergeState
  if state = .MergeFailed then acknowledgeMergeFailure
  return state

/-- `SnapshotManager::ProcessUpdateState` (`snapshot.cpp:681`): poll until the result is not
`Merging`. The source loops without bound, sleeping two seconds between polls; the model polls at
most `fuel + 1` times and returns `Merging` when the fuel runs out. -/
def processUpdateState : Nat → SM UpdateState
  | 0 => pollUpdateState
  | fuel + 1 => do
    let state ← pollUpdateState
    if state ≠ .Merging then return state
    processUpdateState fuel

end SnapshotManager

end LibSnapshot
