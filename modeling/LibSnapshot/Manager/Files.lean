import LibSnapshot.Mapper.External

/-!
# The manager's files

The state file and its flock, the per-snapshot status files, and the boot indicator
(`snapshot.cpp:1478-1720`, `snapshot.cpp:877-889`). The flock is the only cross-process mutex:
`LockShared` and `LockExclusive` open `/metadata/ota/state` and `flock` it, and the
`LockedFile` they return is what the other functions take as proof of the lock. A locked
section (`locked`) releases the lock at its end, as `~LockedFile` does on every exit path.

`WriteUpdateState` is one atomic step here: `writeUpdateStateSys_ok` shows it is the run of
`Truncate` and `WriteStringToFd` in which every call succeeds. `WriteSnapshotStatus` opens the
status file without `O_TRUNC` and writes from offset 0, so a shorter text leaves the tail of
the old one (`overwrite`).
-/

namespace LibSnapshot

open SM DeviceMapper

namespace SnapshotManager

/-! ## Names -/

/-- `GetCowName` (`snapshot.cpp:117`). -/
def getCowName (snapshot_name : String) : String := snapshot_name ++ "-cow"

/-- `GetCowImageDeviceName` (`snapshot.cpp:121`). -/
def getCowImageDeviceName (snapshot_name : String) : String := snapshot_name ++ "-cow-img"

/-- `GetBaseDeviceName` (`snapshot.cpp:125`). -/
def getBaseDeviceName (partition_name : String) : String := partition_name ++ "-base"

/-- `GetSnapshotExtraDeviceName` (`snapshot.cpp:129`). -/
def getSnapshotExtraDeviceName (snapshot_name : String) : String := snapshot_name ++ "-inner"

/-- `SnapshotManager::GetSnapshotDeviceName` (`snapshot.cpp:1714`): the device holding the
snapshot target, the inner one when part of the partition is not snapshotted. -/
def getSnapshotDeviceName (snapshot_name : String) (status : SnapshotStatus) : String :=
  if status.device_size ≠ status.snapshot_size then getSnapshotExtraDeviceName snapshot_name
  else snapshot_name

/-- `kSnapshotChunkSize` (`snapshot.cpp:74`): 8 sectors, 4 KiB. -/
def kSnapshotChunkSize : Nat := 8

/-- `kCowGroupName`, the metadata group of the COW partitions. -/
def kCowGroupName : String := "cow"

/-! ## The state file and its lock -/

/-- `SnapshotManager::LockedFile` (`snapshot.h:235`): the open state file and the flock held
on it, a proof of the lock for the functions that take it. -/
structure LockedFile where
  path : String
  lock_mode : LockMode
  deriving DecidableEq, Repr

/-- `SnapshotManager::OpenFile` (`snapshot.cpp:1478`) of the state file: `open`, then `flock`
with `lock_flags`; `nullptr` if either fails. -/
def openStateFile (lock_flags : LockMode) : SM (Option LockedFile) := do
  if !(← ioCall) then return none
  if lock_flags ≠ .none then
    if !(← ioCall) then return none
  setHeld lock_flags
  return some ⟨"/metadata/ota/state", lock_flags⟩

/-- `SnapshotManager::LockShared` (`snapshot.cpp:1511`). -/
def lockShared : SM (Option LockedFile) := openStateFile .shared

/-- `SnapshotManager::LockExclusive` (`snapshot.cpp:1515`). -/
def lockExclusive : SM (Option LockedFile) := openStateFile .exclusive

/-- `~LockedFile` (`snapshot.cpp:1495`): `flock(fd, LOCK_UN)`. -/
def unlock : SM Unit := setHeld .none

/-- A locked section: take the lock with `acquire` (returning `dflt` without it), run `body`
with it, and release it on the way out. -/
def locked {α : Type} (acquire : SM (Option LockedFile)) (dflt : α)
    (body : LockedFile → SM α) : SM α := do
  let some lock ← acquire | return dflt
  let r ← body lock
  unlock
  return r

/-- `SnapshotManager::ReadUpdateState` (`snapshot.cpp:1519`): `lseek` to 0, read the whole
file, parse it; `None` when a call fails. -/
def readUpdateState (_file : LockedFile) : SM UpdateState := do
  if !(← ioCall) then return .None
  if !(← ioCall) then return .None
  return parseUpdateState (← sys).state.data

/-- `SnapshotManager::WriteUpdateState` (`snapshot.cpp:1574`): the token, written over the whole
file in one step (`Truncate` then `WriteStringToFd`); `false` for `Cancelled`, which has none. -/
def writeUpdateState (_file : LockedFile) (state : UpdateState) : SM Bool := do
  let contents := state.toString
  if contents.isEmpty then return false
  persist (.writeState contents)

/-! ## Status files -/

/-- `SnapshotManager::ReadSnapshotStatus` (`snapshot.cpp:1593`): open and read the status file,
then parse it. -/
def readSnapshotStatus (_lock : LockedFile) (name : String) : SM (Option SnapshotStatus) := do
  let ok ← ioCall
  let some contents := lookup (← sys).records name | return none
  if !ok then return none
  if !(← ioCall) then return none
  return parseStatusLine contents

/-- `SnapshotManager::WriteSnapshotStatus` (`snapshot.cpp:1671`): `CHECK` the exclusive lock,
open the status file (`O_RDWR | O_CREAT`, no `O_TRUNC`), which creates it empty if it is
missing, and write the status line from offset 0. -/
def writeSnapshotStatus (lock : LockedFile) (name : String) (status : SnapshotStatus) :
    SM Bool := do
  CHECK (lock.lock_mode = .exclusive) "lock->lock_mode() == LOCK_EX"
  if !(← ioCall) then return false
  effect (.createStatus name)
  let contents := statusLine status
  persist (.writeStatus name contents)

/-- `android::base::RemoveFileIfExists` of a status file. -/
def removeStatusFileIfExists (name : String) : SM Bool := do
  if (lookup (← sys).records name).isNone then return true
  persist (.removeStatus name)

/-- `SnapshotManager::ListSnapshots` (`snapshot.cpp:1130`): the regular files of
`/metadata/ota/snapshots`, in the directory's order. -/
def listSnapshots (_lock : LockedFile) : SM (Option (List String)) := do
  if !(← ioCall) then return none
  return some ((← sys).records.map (·.1))

/-! ## The boot indicator -/

/-- `android::base::ReadFileToString` of `/metadata/ota/snapshot-boot`. -/
def readBootIndicator : SM (Option String) := do
  let ok ← ioCall
  let s ← sys
  return if ok then s.indicator else none

/-- `android::base::WriteStringToFile` of `/metadata/ota/snapshot-boot`. -/
def writeBootIndicator (contents : String) : SM Bool :=
  persist (.writeIndicator contents)

/-- `SnapshotManager::RemoveSnapshotBootIndicator` (`snapshot.cpp:881`): `unlink`, whose
failure is only logged. -/
def removeSnapshotBootIndicator : SM Unit := do
  let _ ← persist .removeIndicator

/-! ## The image manager handle -/

/-- `SnapshotManager::EnsureImageManager` (`snapshot.cpp:1722`): open the image manager once. -/
def ensureImageManager : SM Bool := do
  if (← get).images_ then return true
  if !(← extCall) then return false
  openImages
  return true

end SnapshotManager

end LibSnapshot
