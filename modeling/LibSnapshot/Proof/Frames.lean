import LibSnapshot.Manager.Update
import LibSnapshot.Core.Spec

/-!
# What each function of the manager keeps

One `Keeps` lemma per function: every run of it keeps the oracle and the flock held, changes the
files only by effects it logs under that flock, and never stops on the `CHECK` of the exclusive
lock. The lemmas sort the functions by the effects they may make:

* `Quiet` ones make none: the device-mapper client, the image manager's mapping calls, the
  readers, and everything that maps or unmaps a partition's stack. They hold for every kind `S`.
* the ones whose effects are all `Untracked` (no write of the update state or of a status file),
  for every `S` that allows those (`hS`): `DeleteSnapshot` and the removals, the boot
  indicator's writes, the COW images, `InitializeCow`, and the collapse of a merged snapshot;
* the writers, under the `S` that allows every effect.

Each function that takes a `LockedFile` and reaches a `CHECK(lock->lock_mode() == LOCK_EX)` needs
its lock to be exclusive; the cleanup lists carry the same fact for their `AutoDeleteSnapshot`
entries (`AutoDevice.Exclusive`). The proofs follow the code: each bind is split with
`Keeps.bind`, each `if` with `Keeps.ite`, each `match` on a value by a case split, and each call
closed by its callee's lemma.
-/

namespace LibSnapshot

open SM DeviceMapper SnapshotManager

/-- The effects that need no check of the state they are made in: all but the writes of the
update state and of status files, which the run invariants follow. -/
@[reducible] def FileOp.Untracked : FileOp → Prop
  | .writeState _ | .createStatus _ | .writeStatus _ _ => False
  | _ => True

/-- The effects of `DeleteSnapshot` of `name`: the removal of its COW image and of its status
file. -/
@[reducible] def FileOp.RemovesSnapshot (name : String) (op : FileOp) : Prop :=
  op = .deleteImage (getCowImageDeviceName name) ∨ op = .removeStatus name

/-- The two removals of `DeleteSnapshot` are untracked effects. Reference: none. -/
theorem FileOp.RemovesSnapshot.untracked {name : String} {op : FileOp}
    (h : op.RemovesSnapshot name) : op.Untracked := by
  rcases h with rfl | rfl <;> trivial

/-- An entry of a cleanup list whose destructor only unmaps. -/
def SnapshotManager.AutoDevice.Unmaps : AutoDevice → Prop
  | .AutoDeleteSnapshot .. => False
  | _ => True

/-- An entry of a cleanup list whose destructor, if it deletes a snapshot, holds the exclusive
lock. -/
def SnapshotManager.AutoDevice.Exclusive : AutoDevice → Prop
  | .AutoDeleteSnapshot lock _ => lock.lock_mode = .exclusive
  | _ => True

section Quiet

variable {S : Event → Prop}

/-! ## The device-mapper client -/

/-- An ioctl of the device-mapper client reads the kernel and makes no effect. Reference: none (each
`ioctl` of `dm.cpp`). -/
theorem ioctl_keeps (name : String) : Keeps S (fun _ => True) (ioctl name) :=
  Keeps.extCall.bind fun _ _ => Keeps.sys.bind fun _ _ => Keeps.pure_true

/-- Setting a device in the kernel makes no effect on the files. Reference: none. -/
theorem setDevice_keeps (name : String) (d : Device) :
    Keeps S (fun _ => True) (setDevice name d) :=
  Keeps.modifySys fun _ => rfl

/-- `DeviceMapper::GetState` makes no effect. Reference: `dm.cpp:169`. -/
theorem getState_keeps (name : String) : Keeps S (fun _ => True) (getState name) :=
  (ioctl_keeps name).bind fun d _ => by cases d <;> exact Keeps.pure_true

/-- `DeviceMapper::CreateDevice(name, uuid)` changes only the kernel. Reference: `dm.cpp:52`. -/
theorem createDevice_keeps (name uuid : String) :
    Keeps S (fun _ => True) (createDevice name uuid) :=
  Keeps.ite Keeps.pure_true <| Keeps.ite Keeps.pure_true <| Keeps.extCall.bind fun _ _ =>
    Keeps.sys.bind fun _ _ =>
      Keeps.ite ((setDevice_keeps _ _).bind fun _ _ => Keeps.pure_true) Keeps.pure_true

/-- Erasing a device from the kernel makes no effect on the files. Reference: none. -/
theorem eraseDevice_keeps (name : String) :
    Keeps S (fun _ => True) (modifySys fun s => { s with devices := erase s.devices name }) :=
  Keeps.modifySys fun _ => rfl

/-- `DeviceMapper::DeleteDevice` changes only the kernel. Reference: `dm.cpp:89`. -/
theorem deleteDevice_keeps (name : String) : Keeps S (fun _ => True) (deleteDevice name) :=
  (ioctl_keeps name).bind fun d _ => by
    cases d
    · exact Keeps.pure_true
    · exact (eraseDevice_keeps name).bind fun _ _ => Keeps.pure_true

/-- `DeviceMapper::DeleteDeviceIfExists` changes only the kernel. Reference: `dm.cpp:82`. -/
theorem deleteDeviceIfExists_keeps (name : String) :
    Keeps S (fun _ => True) (deleteDeviceIfExists name) :=
  (getState_keeps name).bind fun _ _ => Keeps.ite Keeps.pure_true (deleteDevice_keeps name)

/-- `DeviceMapper::LoadTableAndActivate` changes only the kernel, on each of its two ioctls.
Reference: `dm.cpp:207`. -/
theorem loadTableAndActivate_keeps (name : String) (table : List DmTarget) :
    Keeps S (fun _ => True) (loadTableAndActivate name table) :=
  (ioctl_keeps name).bind fun d _ => by
    cases d
    · exact Keeps.pure_true
    · refine (setDevice_keeps _ _).bind fun _ _ => (ioctl_keeps name).bind fun d _ => ?_
      cases d
      · exact Keeps.pure_true
      · exact (setDevice_keeps _ _).bind fun _ _ => Keeps.pure_true

/-- `DeviceMapper::GetDeviceUniquePath` makes no effect. Reference: `dm.cpp:144`. -/
theorem getDeviceUniquePath_keeps (name : String) :
    Keeps S (fun _ => True) (getDeviceUniquePath name) :=
  (ioctl_keeps name).bind fun d _ => by cases d <;> exact Keeps.pure_true

/-- `DeviceMapper::GetDmDevicePathByName` makes no effect. Reference: `dm.cpp:375`. -/
theorem getDmDevicePathByName_keeps (name : String) :
    Keeps S (fun _ => True) (getDmDevicePathByName name) :=
  (ioctl_keeps name).bind fun _ _ => Keeps.pure_true

/-- `DeviceMapper::GetDeviceString` makes no effect. Reference: `dm.cpp:399`. -/
theorem getDeviceString_keeps (name : String) : Keeps S (fun _ => True) (getDeviceString name) :=
  (ioctl_keeps name).bind fun _ _ => Keeps.pure_true

/-- Modelled from the spec: fs_mgr's `WaitForFile` only reads the clock and waits. Reference:
none. -/
theorem waitForFile_keeps (path : String) (timeout_ms : Int) :
    Keeps S (fun _ => True) (waitForFile path timeout_ms) :=
  Keeps.now.bind fun _ _ => Keeps.waitCall.bind fun _ _ => Keeps.now.bind fun _ _ => Keeps.pure_true

/-- `DeviceMapper::CreateDevice(name, table, path, timeout_ms)` changes only the kernel, the
`DeleteDevice` of its failure paths included. Reference: `dm.cpp:116`. -/
theorem createDeviceTable_keeps (name : String) (table : List DmTarget) (path : String)
    (timeout_ms : Int) : Keeps S (fun _ => True) (createDeviceTable name table path timeout_ms) := by
  dsimp only [createDeviceTable]
  refine (createDevice_keeps _ _).bind fun _ _ => Keeps.early trivial <|
    (loadTableAndActivate_keeps _ _).bind fun _ _ =>
      Keeps.ite_bind (getDeviceUniquePath_keeps _) Keeps.pure_true fun unique_path _ =>
        Keeps.ite_bind (getDmDevicePathByName_keeps _) Keeps.pure_true fun dm_path _ => ?_
  split
  · exact Keeps.early trivial <| (waitForFile_keeps _ _).bind fun _ _ => Keeps.ite
      ((deleteDevice_keeps name).bind fun _ _ => Keeps.pure_true)
      (Keeps.pure_true.bind fun _ _ => Keeps.pure_true)
  · exact (deleteDevice_keeps name).bind fun _ _ => Keeps.pure_true

/-- `DeviceMapper::GetTable` makes no effect. Reference: `dm.cpp:417`. -/
theorem getTable_keeps (name : String) : Keeps S (fun _ => True) (getTable name) :=
  (ioctl_keeps name).bind fun _ _ => Keeps.pure_true

/-! ## The image manager and the partition metadata -/

/-- Modelled from the spec: `IImageManager::BackingImageExists` makes no effect. Reference: none. -/
theorem backingImageExists_keeps (name : String) :
    Keeps S (fun _ => True) (ImageManager.backingImageExists name) :=
  Keeps.extCall.bind fun _ _ => Keeps.sys.bind fun _ _ => Keeps.pure_true

/-- Modelled from the spec: `IImageManager::MapImageDevice` changes only the kernel. Reference:
none. -/
theorem mapImage_keeps (name : String) : Keeps S (fun _ => True) (ImageManager.mapImage name) := by
  refine Keeps.waitCall.bind fun ok _ => Keeps.sys.bind fun s _ => ?_
  dsimp only
  split
  · exact (setDevice_keeps _ _).bind fun _ _ => Keeps.pure_true
  · exact Keeps.pure_true

/-- Modelled from the spec: `IImageManager::UnmapImageIfExists` changes only the kernel. Reference:
none. -/
theorem unmapImageIfExists_keeps (name : String) :
    Keeps S (fun _ => True) (ImageManager.unmapImageIfExists name) :=
  Keeps.extCall.bind fun _ _ => Keeps.ite Keeps.pure_true
    ((eraseDevice_keeps name).bind fun _ _ => Keeps.pure_true)

/-- Modelled from the spec: liblp's `ReadMetadata` makes no effect. Reference: none. -/
theorem readMetadata_keeps (slot : String) : Keeps S (fun _ => True) (readMetadata slot) :=
  Keeps.extCall.bind fun _ _ => Keeps.sys.bind fun _ _ => Keeps.pure_true

/-- Modelled from the spec: `CreateLogicalPartitionParams::InitDefaults` makes no effect, whether it
reads the metadata or is given it. Reference: none. -/
theorem initDefaults_keeps (p : CreateLogicalPartitionParams) :
    Keeps S (fun _ => True) p.initDefaults := by
  dsimp only [CreateLogicalPartitionParams.initDefaults]
  -- the metadata is the one given or the slot's; the same code follows both
  split <;> refine Keeps.bind (by first | exact Keeps.pure_true | exact readMetadata_keeps _)
    fun metadata _ => ?_
  all_goals
    rcases metadata with _ | metadata
    · exact Keeps.pure_true
    dsimp only
    split <;> exact Keeps.pure_true

/-- Modelled from the spec: fs_mgr's `CreateDmTable` makes no effect. Reference: none. -/
theorem createDmTable_keeps (params : CreateLogicalPartitionParams) :
    Keeps S (fun _ => True) (createDmTable params) :=
  (initDefaults_keeps params).bind fun p _ => by cases p <;> exact Keeps.pure_true

/-- Modelled from the spec: fs_mgr's `CreateLogicalPartition` changes only the kernel. Reference:
none. -/
theorem createLogicalPartition_keeps (params : CreateLogicalPartitionParams) :
    Keeps S (fun _ => True) (createLogicalPartition params) :=
  (initDefaults_keeps params).bind fun p _ => by
    cases p
    · exact Keeps.pure_true
    · refine (createDmTable_keeps _).bind fun table _ => ?_
      cases table
      · exact Keeps.pure_true
      · exact createDeviceTable_keeps _ _ _ _

/-! ## The manager's readers -/

/-- `ReadUpdateState` makes no effect. Reference: `snapshot.cpp:1519`. -/
theorem readUpdateState_keeps (file : LockedFile) :
    Keeps S (fun _ => True) (readUpdateState file) :=
  Keeps.ioCall.bind fun _ _ => Keeps.early trivial <| Keeps.ioCall.bind fun _ _ =>
    Keeps.early trivial (Keeps.sys.bind fun _ _ => Keeps.pure_true)

/-- `ReadSnapshotStatus` makes no effect, whether the status file is there or not. Reference:
`snapshot.cpp:1593`. -/
theorem readSnapshotStatus_keeps (lock : LockedFile) (name : String) :
    Keeps S (fun _ => True) (readSnapshotStatus lock name) :=
  Keeps.ioCall.bind fun _ _ => Keeps.sys.bind fun s _ => by
    cases lookup s.records name
    · exact Keeps.pure_true
    · exact Keeps.early trivial <| Keeps.ioCall.bind fun _ _ => Keeps.early trivial Keeps.pure_true

/-- `ListSnapshots` makes no effect. Reference: `snapshot.cpp:1130`. -/
theorem listSnapshots_keeps (lock : LockedFile) :
    Keeps S (fun _ => True) (listSnapshots lock) :=
  Keeps.ioCall.bind fun _ _ => Keeps.early trivial (Keeps.sys.bind fun _ _ => Keeps.pure_true)

/-- The read of the boot indicator makes no effect. Reference: `snapshot.cpp:1057`. -/
theorem readBootIndicator_keeps : Keeps S (fun _ => True) readBootIndicator :=
  Keeps.ioCall.bind fun _ _ => Keeps.sys.bind fun _ _ => Keeps.pure_true

/-- `EnsureImageManager` only opens the image manager. Reference: `snapshot.cpp:1722`. -/
theorem ensureImageManager_keeps : Keeps S (fun _ => True) ensureImageManager :=
  Keeps.get.bind fun _ _ => Keeps.early trivial <| Keeps.extCall.bind fun _ _ =>
    Keeps.early trivial (Keeps.openImages.bind fun _ _ => Keeps.pure_true)

/-! ## Mapping and unmapping a stack -/

/-- `MapCowImage` changes only the kernel, through either mapping call. Reference:
`snapshot.cpp:415`. -/
theorem mapCowImage_keeps (name : String) (timeout_ms : Int) :
    Keeps S (fun _ => True) (mapCowImage name timeout_ms) :=
  ensureImageManager_keeps.bind fun _ _ => Keeps.early trivial <| Keeps.get.bind fun _ _ =>
    Keeps.ite_bind (mapImage_keeps _) (mapImage_keeps _) fun _ _ => Keeps.pure_true

/-- `UnmapSnapshot` changes only the kernel. Reference: `snapshot.cpp:439`. -/
theorem unmapSnapshot_keeps (lock : LockedFile) (name : String) :
    Keeps S (fun _ => True) (unmapSnapshot lock name) :=
  (deleteDeviceIfExists_keeps _).bind fun _ _ => Keeps.early trivial <|
    (deleteDeviceIfExists_keeps _).bind fun _ _ => Keeps.early trivial Keeps.pure_true

/-- `UnmapCowDevices` changes only the kernel. Reference: `snapshot.cpp:1459`. -/
theorem unmapCowDevices_keeps (lock : LockedFile) (name : String) :
    Keeps S (fun _ => True) (unmapCowDevices lock name) :=
  ensureImageManager_keeps.bind fun _ _ => Keeps.early trivial <|
    (deleteDeviceIfExists_keeps _).bind fun _ _ => Keeps.early trivial <|
      (unmapImageIfExists_keeps _).bind fun _ _ => Keeps.early trivial Keeps.pure_true

/-- `UnmapPartitionWithSnapshot` changes only the kernel. Reference: `snapshot.cpp:1363`. -/
theorem unmapPartitionWithSnapshot_keeps (lock : LockedFile) (name : String) :
    Keeps S (fun _ => True) (unmapPartitionWithSnapshot lock name) :=
  (unmapSnapshot_keeps lock name).bind fun _ _ => Keeps.early trivial <|
    (unmapCowDevices_keeps lock name).bind fun _ _ => Keeps.early trivial <|
      (deleteDeviceIfExists_keeps _).bind fun _ _ => Keeps.early trivial Keeps.pure_true

/-- An empty cleanup list only unmaps. Reference: none. -/
theorem unmaps_nil : ∀ d ∈ ([] : List AutoDevice), d.Unmaps := fun _ h => absurd h (List.not_mem_nil _)

/-- A cleanup list gets an unmapping entry and still only unmaps. Reference: none. -/
theorem unmaps_cons {d : AutoDevice} {ds : List AutoDevice} (hd : d.Unmaps)
    (h : ∀ d ∈ ds, d.Unmaps) : ∀ x ∈ d :: ds, x.Unmaps :=
  List.forall_mem_cons.2 ⟨hd, h⟩

/-- An `AutoUnmapDevice` entry only unmaps. Reference: `utility.cpp:45`. -/
theorem unmapDevice_unmaps (name : String) : (AutoDevice.AutoUnmapDevice name).Unmaps := trivial

/-- An `AutoUnmapImage` entry only unmaps. Reference: `utility.cpp:45`. -/
theorem unmapImage_unmaps (name : String) : (AutoDevice.AutoUnmapImage name).Unmaps := trivial

/-- The destructor of an unmapping entry changes only the kernel. Reference: `utility.cpp:45`. -/
theorem destroy_keeps_of_unmaps {d : AutoDevice} (h : d.Unmaps) :
    Keeps S (fun _ => True) d.destroy := by
  cases d with
  | AutoUnmapDevice name => exact (deleteDeviceIfExists_keeps name).bind fun _ _ => Keeps.pure_true
  | AutoUnmapImage name => exact (unmapImageIfExists_keeps name).bind fun _ _ => Keeps.pure_true
  | AutoDeleteSnapshot => exact absurd h id

/-- `~AutoDeviceList` over unmapping entries changes only the kernel. Reference:
`utility.cpp:31`. -/
theorem destroyAll_keeps_of_unmaps :
    ∀ {ds : List AutoDevice}, (∀ d ∈ ds, d.Unmaps) → Keeps S (fun _ => True) (destroyAll ds)
  | [], _ => Keeps.pure_true
  | d :: _, h =>
    (destroy_keeps_of_unmaps (h d (.head _))).bind fun _ _ =>
      destroyAll_keeps_of_unmaps fun d' hd' => h d' (.tail _ hd')

/-- A cleanup list whose entries only unmap keeps whatever its body keeps. Reference:
`utility.cpp:31`. -/
theorem withAutoDeviceList_keeps_of_unmaps {α : Type} {P : α → Prop}
    {body : List AutoDevice → SM (α × List AutoDevice)}
    (h : Keeps S (fun r => P r.1 ∧ ∀ d ∈ r.2, d.Unmaps) (body [])) :
    Keeps S P (withAutoDeviceList body) :=
  h.bind fun _ hr => (destroyAll_keeps_of_unmaps hr.2).bind fun _ _ => Keeps.pure hr.1

/-- `GetRemainingTime` only reads the clock. Reference: `snapshot.cpp:1225`. -/
theorem getRemainingTime_keeps (timeout begin : Int) :
    Keeps S (fun _ => True) (getRemainingTime timeout begin) :=
  Keeps.early trivial <| Keeps.now.bind fun _ _ => Keeps.early trivial Keeps.pure_true

/-- `MapCowDevices` adds only unmapping entries to the cleanup list. Both branches of its
`if (cow_file_size > 0)` go on with the same code, each over its own list. Reference:
`snapshot.cpp:1387`. -/
theorem mapCowDevices_keeps (lock : LockedFile) (params : CreateLogicalPartitionParams)
    (status : SnapshotStatus) {created : List AutoDevice} (h : ∀ d ∈ created, d.Unmaps) :
    Keeps S (fun r => ∀ d ∈ r.2.1, d.Unmaps) (mapCowDevices lock params status created) := by
  dsimp only [mapCowDevices]
  refine ensureImageManager_keeps.bind fun _ _ => Keeps.early h <|
    (Keeps.CHECK (.inr (by decide))).bind fun _ _ => Keeps.now.bind fun _ _ => ?_
  by_cases hf : status.cow_file_size > 0
  · simp only [hf, if_true]
    refine (getRemainingTime_keeps _ _).bind fun _ _ => Keeps.early h <|
      (mapCowImage_keeps _ _).bind fun _ _ => Keeps.early h <|
        Keeps.early (unmaps_cons trivial h) ?_
    have hc := unmaps_cons (unmapImage_unmaps (getCowImageDeviceName params.getPartitionName)) h
    exact (getRemainingTime_keeps _ _).bind fun _ _ => Keeps.early hc <|
      (Keeps.CHECK (.inr (by decide))).bind fun _ _ => (createDmTable_keeps _).bind fun table _ =>
        match table with
        | none => Keeps.pure hc
        | some _ => (getDeviceString_keeps _).bind fun device _ =>
          match device with
          | none => Keeps.pure hc
          | some _ => Keeps.pure_true.bind fun _ _ => (createDeviceTable_keeps _ _ _ _).bind
              fun _ _ => Keeps.early hc (Keeps.pure (unmaps_cons (unmapDevice_unmaps _) hc))
  · simp only [hf, if_false]
    exact Keeps.pure_true.bind fun _ _ => (getRemainingTime_keeps _ _).bind fun _ _ =>
      Keeps.early h <| (Keeps.CHECK (.inr (by decide))).bind fun _ _ =>
        (createDmTable_keeps _).bind fun table _ =>
          match table with
          | none => Keeps.pure h
          | some _ => Keeps.pure_true.bind fun _ _ => (createDeviceTable_keeps _ _ _ _).bind
              fun _ _ => Keeps.early h (Keeps.pure (unmaps_cons (unmapDevice_unmaps _) h))

/-- `MapSnapshot` changes only the kernel: the snapshot device, and the inner device of a two-level
stack. Reference: `snapshot.cpp:301`. -/
theorem mapSnapshot_keeps (lock : LockedFile) (name base cow : String) (timeout_ms : Int) :
    Keeps S (fun _ => True) (mapSnapshot lock name base cow timeout_ms) := by
  dsimp only [mapSnapshot]
  refine ensureImageManager_keeps.bind fun _ _ => Keeps.early trivial <|
    (readSnapshotStatus_keeps _ _).bind fun status _ => ?_
  rcases status with _ | status
  · exact Keeps.pure_true
  refine Keeps.early trivial <| Keeps.early trivial <| Keeps.early trivial <|
    (readUpdateState_keeps _).bind fun state _ => ?_
  exact match storageModeFor state with
  | none => Keeps.pure_true
  | some _ => (createDeviceTable_keeps _ _ _ _).bind fun _ _ => Keeps.early trivial <| Keeps.ite
      ((getDeviceString_keeps _).bind fun snap_dev _ =>
        match snap_dev with
        | none => Keeps.pure_true
        | some _ => (createDeviceTable_keeps _ _ _ _).bind fun _ _ => Keeps.ite
            ((deleteDevice_keeps _).bind fun _ _ => Keeps.pure_true)
            (Keeps.pure_true.bind fun _ _ => Keeps.pure_true))
      (Keeps.pure_true.bind fun _ _ => Keeps.pure_true)

/-- The `do { ... } while (0)` of `MapPartitionWithSnapshot` makes no effect. Reference:
`snapshot.cpp:1272`. -/
theorem liveSnapshotStatus_keeps (lock : LockedFile) (partition : Partition) :
    Keeps S (fun _ => True) (liveSnapshotStatus lock partition) :=
  Keeps.early trivial <| Keeps.ioCall.bind fun _ _ => Keeps.early trivial <|
    Keeps.sys.bind fun _ _ => Keeps.early trivial <| (readSnapshotStatus_keeps _ _).bind
      fun status _ =>
        match status with
        | none => Keeps.pure_true
        | some _ => Keeps.early trivial Keeps.pure_true

/-- The devices it creates go on its cleanup list only as `AutoUnmapDevice` and
`AutoUnmapImage` entries. Reference: `snapshot.cpp:1242`. -/
theorem mapPartitionWithSnapshot_keeps (lock : LockedFile) (params : CreateLogicalPartitionParams) :
    Keeps S (fun _ => True) (mapPartitionWithSnapshot lock params) := by
  dsimp only [mapPartitionWithSnapshot]
  refine Keeps.now.bind fun _ _ => Keeps.early trivial <| (initDefaults_keeps _).bind fun p _ => ?_
  rcases p with _ | params
  · exact Keeps.pure_true
  dsimp only
  cases params.partition with
  | none => exact Keeps.pure_true
  | some partition => ?_
  refine Keeps.early trivial <| (liveSnapshotStatus_keeps _ _).bind fun live _ => ?_
  rcases live with _ | live
  · exact Keeps.pure_true
  dsimp only
  have hbase (n : String) : ∀ d ∈ [AutoDevice.AutoUnmapDevice n], d.Unmaps :=
    unmaps_cons (unmapDevice_unmaps n) unmaps_nil
  refine withAutoDeviceList_keeps_of_unmaps <| (createLogicalPartition_keeps _).bind fun _ _ =>
    Keeps.early ⟨trivial, unmaps_nil⟩ ?_
  exact match live with
  | none => Keeps.pure ⟨trivial, unmaps_nil⟩
  | some _ => (getDeviceString_keeps _).bind fun base _ =>
    match base with
    | none => Keeps.pure ⟨trivial, hbase _⟩
    | some _ => (getRemainingTime_keeps _ _).bind fun _ _ => Keeps.early ⟨trivial, hbase _⟩ <|
        (mapCowDevices_keeps _ _ _ (hbase _)).bind fun _ hcow => Keeps.early ⟨trivial, hcow⟩ <|
          (getDeviceString_keeps _).bind fun cow _ =>
            match cow with
            | none => Keeps.pure ⟨trivial, hcow⟩
            | some _ => (getRemainingTime_keeps _ _).bind fun _ _ => Keeps.early ⟨trivial, hcow⟩ <|
                (mapSnapshot_keeps _ _ _ _ _).bind fun _ _ =>
                  Keeps.early ⟨trivial, hcow⟩ (Keeps.pure ⟨trivial, unmaps_nil⟩)

/-! ## Querying, collapsing, and the first-stage loop -/

/-- `DeviceMapper::GetTableStatus` makes no effect. Reference: `dm.cpp:408`. -/
theorem getTableStatus_keeps (name : String) : Keeps S (fun _ => True) (getTableStatus name) :=
  getTable_keeps name

/-- `DeviceMapper::GetTableInfo` makes no effect. Reference: `dm.cpp:412`. -/
theorem getTableInfo_keeps (name : String) : Keeps S (fun _ => True) (getTableInfo name) :=
  getTable_keeps name

/-- `GetSingleTarget` makes no effect, through either table query. Reference: `snapshot.cpp:620`. -/
theorem getSingleTarget_keeps (dm_name : String) (query : TableQuery) :
    Keeps S (fun _ => True) (getSingleTarget dm_name query) :=
  (getState_keeps _).bind fun _ _ => Keeps.early trivial <|
    (Keeps.ite (getTableStatus_keeps _) (getTableInfo_keeps _)).bind fun targets _ => by
      rcases targets with _ | targets
      · exact Keeps.pure_true
      · dsimp only
        split <;> exact Keeps.pure_true

/-- `IsSnapshotDevice` makes no effect. Reference: `snapshot.cpp:646`. -/
theorem isSnapshotDevice_keeps (dm_name : String) :
    Keeps S (fun _ => True) (isSnapshotDevice dm_name) :=
  (getSingleTarget_keeps _ _).bind fun target _ =>
    match target with
    | none => Keeps.pure_true
    | some _ => Keeps.early trivial Keeps.pure_true

/-- `QuerySnapshotStatus` makes no effect. Reference: `snapshot.cpp:661`. -/
theorem querySnapshotStatus_keeps (dm_name : String) :
    Keeps S (fun _ => True) (querySnapshotStatus dm_name) :=
  (isSnapshotDevice_keeps _).bind fun target _ => by
    rcases target with _ | target
    · exact Keeps.pure_true
    · dsimp only
      split <;> exact Keeps.pure_true

/-- `RewriteSnapshotDeviceTable` changes only the kernel. Reference: `snapshot.cpp:585`. -/
theorem rewriteSnapshotDeviceTable_keeps (dm_name : String) :
    Keeps S (fun _ => True) (rewriteSnapshotDeviceTable dm_name) :=
  (getTableInfo_keeps _).bind fun old_targets _ => by
    rcases old_targets with _ | old_targets
    · exact Keeps.pure_true
    dsimp only
    split
    · refine Keeps.early trivial ?_
      split
      · exact loadTableAndActivate_keeps _ _
      · exact Keeps.pure_true
    · exact Keeps.pure_true

/-- `CollapseSnapshotDevice` changes only the kernel, on the one-level and the two-level stack
alike. Reference: `snapshot.cpp:949`. -/
theorem collapseSnapshotDevice_keeps (name : String) (status : SnapshotStatus) :
    Keeps S (fun _ => True) (collapseSnapshotDevice name status) := by
  dsimp only [collapseSnapshotDevice]
  refine (getSingleTarget_keeps _ _).bind fun target _ => ?_
  rcases target with _ | target
  · exact Keeps.pure_true
  refine Keeps.early trivial ?_
  dsimp only
  split
  · refine Keeps.early trivial <| Keeps.ite ?_ <| Keeps.pure_true.bind fun _ _ =>
      Keeps.sys.bind fun _ _ => (createDmTable_keeps _).bind fun table _ => ?_
    · -- the outer linear table over an inner snapshot device
      refine (getTableInfo_keeps _).bind fun outer_table _ => ?_
      rcases outer_table with _ | outer_table
      · exact Keeps.pure_true
      dsimp only
      split
      · refine Keeps.early trivial <| Keeps.early trivial <| Keeps.early trivial <|
          Keeps.sys.bind fun _ _ => (createDmTable_keeps _).bind fun table _ => ?_
        rcases table with _ | table
        · exact Keeps.pure_true
        · exact (loadTableAndActivate_keeps _ _).bind fun _ _ => Keeps.early trivial <| Keeps.ite
            ((deleteDeviceIfExists_keeps _).bind fun _ _ => Keeps.early trivial <|
              (deleteDeviceIfExists_keeps _).bind fun _ _ => Keeps.pure_true)
            (Keeps.pure_true.bind fun _ _ => (deleteDeviceIfExists_keeps _).bind fun _ _ =>
              Keeps.pure_true)
      · exact Keeps.pure_true
    · rcases table with _ | table
      · exact Keeps.pure_true
      · exact (loadTableAndActivate_keeps _ _).bind fun _ _ => Keeps.early trivial <| Keeps.ite
          ((deleteDeviceIfExists_keeps _).bind fun _ _ => Keeps.early trivial <|
            (deleteDeviceIfExists_keeps _).bind fun _ _ => Keeps.pure_true)
          (Keeps.pure_true.bind fun _ _ => (deleteDeviceIfExists_keeps _).bind fun _ _ =>
            Keeps.pure_true)
  · exact Keeps.pure_true

/-- `IsCancelledSnapshot` makes no effect. Reference: `snapshot.cpp:1078`. -/
theorem isCancelledSnapshot_keeps (name : String) :
    Keeps S (fun _ => True) (isCancelledSnapshot name) :=
  Keeps.sys.bind fun _ _ => (readMetadata_keeps _).bind fun metadata _ => by
    rcases metadata with _ | metadata
    · exact Keeps.pure_true
    · dsimp only
      split <;> exact Keeps.pure_true

/-- The check loop of `InitiateMerge` makes no effect. Reference: `snapshot.cpp:516`. -/
theorem allMapped_keeps : ∀ snapshots, Keeps S (fun _ => True) (allMapped snapshots)
  | [] => Keeps.pure_true
  | _ :: snapshots =>
    (getState_keeps _).bind fun _ _ => Keeps.early trivial (allMapped_keeps snapshots)

/-- The loop of `CreateLogicalAndSnapshotPartitions` changes only the kernel. Reference:
`snapshot.cpp:1202`. -/
theorem mapAllPartitions_keeps (lock : LockedFile) (super_device : String)
    (metadata : List Partition) :
    ∀ partitions, Keeps S (fun _ => True) (mapAllPartitions lock super_device metadata partitions)
  | [] => Keeps.pure_true
  | _ :: partitions =>
    have ih := mapAllPartitions_keeps lock super_device metadata partitions
    Keeps.ite (ih.bind fun _ _ => Keeps.pure_true) <| Keeps.pure_true.bind fun _ _ =>
      (mapPartitionWithSnapshot_keeps _ _).bind fun _ _ => Keeps.early trivial ih

/-- The per-snapshot loop of `Dump` makes no effect. Reference: `snapshot.cpp:1982`. -/
theorem readAll_keeps (lock : LockedFile) : ∀ names, Keeps S (fun _ => True) (readAll lock names)
  | [] => Keeps.pure_true
  | _ :: names =>
    (readSnapshotStatus_keeps _ _).map.bind fun _ _ =>
      (readAll_keeps lock names).bind fun _ _ => Keeps.pure_true

end Quiet

/-! ## Functions that write

The exclusive lock these need is the hypothesis `hlock`; it keeps each
`CHECK(lock->lock_mode() == LOCK_EX)` from failing. -/

section Exclusive

variable {S : Event → Prop} {lock : LockedFile}

/-- Under the exclusive lock, `CHECK(lock->lock_mode() == LOCK_EX)` passes. Reference:
`snapshot.cpp:464`. -/
theorem lock_check_ok (hlock : lock.lock_mode = .exclusive) :
    decide (lock.lock_mode = .exclusive) = true ∨ "lock->lock_mode() == LOCK_EX" ≠
      "lock->lock_mode() == LOCK_EX" :=
  .inl (decide_eq_true hlock)

/-- Modelled from the spec: `IImageManager::CreateBackingImage` makes one untracked effect at most.
Reference: none. -/
theorem createBackingImage_keeps (hS : ∀ e : Event, e.op.Untracked → S e) (name : String) (size : UInt64) :
    Keeps S (fun _ => True) (ImageManager.createBackingImage name size) :=
  Keeps.extCall.bind fun _ _ => Keeps.sys.bind fun _ _ =>
    Keeps.ite ((Keeps.effect fun _ => hS _ trivial).bind fun _ _ => Keeps.pure_true) Keeps.pure_true

/-- Modelled from the spec: `IImageManager::DeleteBackingImage` makes at most the deletion of its
own image. Reference: none. -/
theorem deleteBackingImage_keeps {name : String} (hS : ∀ e : Event, e.op = .deleteImage name → S e) :
    Keeps S (fun _ => True) (ImageManager.deleteBackingImage name) :=
  Keeps.extCall.bind fun _ _ => Keeps.sys.bind fun _ _ =>
    Keeps.ite ((Keeps.effect fun _ => hS _ rfl).bind fun _ _ => Keeps.pure_true) Keeps.pure_true

/-- `WriteUpdateState` keeps the oracle and the lock, under the kind that allows every effect.
Reference: `snapshot.cpp:1574`. -/
theorem writeUpdateState_keeps (file : LockedFile) (state : UpdateState) :
    Keeps (fun _ => True) (fun _ => True) (writeUpdateState file state) :=
  Keeps.early trivial (Keeps.persist fun _ => trivial)

/-- `WriteSnapshotStatus` under the exclusive lock passes its `CHECK`. Reference:
`snapshot.cpp:1671`. -/
theorem writeSnapshotStatus_keeps (hlock : lock.lock_mode = .exclusive) (name : String)
    (status : SnapshotStatus) :
    Keeps (fun _ => True) (fun _ => True) (writeSnapshotStatus lock name status) :=
  (Keeps.CHECK (lock_check_ok hlock)).bind fun _ _ => Keeps.ioCall.bind fun _ _ =>
    Keeps.early trivial <| (Keeps.effect fun _ => trivial).bind fun _ _ =>
      Keeps.persist fun _ => trivial

/-- The removal of a status file makes only that removal. Reference: `snapshot.cpp:480`. -/
theorem removeStatusFileIfExists_keeps {name : String} (hS : ∀ e : Event, e.op = .removeStatus name → S e) :
    Keeps S (fun _ => True) (removeStatusFileIfExists name) :=
  Keeps.sys.bind fun _ _ => Keeps.early trivial (Keeps.persist fun _ => hS _ rfl)

/-- The write of the boot indicator is one untracked effect. Reference: `snapshot.cpp:230`. -/
theorem writeBootIndicator_keeps (hS : ∀ e : Event, e.op.Untracked → S e) (contents : String) :
    Keeps S (fun _ => True) (writeBootIndicator contents) :=
  Keeps.persist fun _ => hS _ trivial

/-- `RemoveSnapshotBootIndicator` is one untracked effect. Reference: `snapshot.cpp:881`. -/
theorem removeSnapshotBootIndicator_keeps (hS : ∀ e : Event, e.op.Untracked → S e) :
    Keeps S (fun _ => True) removeSnapshotBootIndicator :=
  (Keeps.persist fun _ => hS _ trivial).bind fun _ _ => Keeps.pure_true

/-- `DeleteSnapshot` of `name`, under the exclusive lock, makes only the removals of its COW image
and of its status file. Reference: `snapshot.cpp:462`. -/
theorem deleteSnapshot_keeps {name : String} (hS : ∀ e : Event, e.op.RemovesSnapshot name → S e)
    (hlock : lock.lock_mode = .exclusive) :
    Keeps S (fun _ => True) (deleteSnapshot lock name) :=
  have hremove := removeStatusFileIfExists_keeps fun e h => hS e (.inr h)
  (Keeps.CHECK (lock_check_ok hlock)).bind fun _ _ => ensureImageManager_keeps.bind fun _ _ =>
    Keeps.early trivial <| (unmapCowDevices_keeps _ _).bind fun _ _ => Keeps.early trivial <|
      (backingImageExists_keeps _).bind fun _ _ => Keeps.ite
        ((deleteBackingImage_keeps fun e h => hS e (.inl h)).bind fun _ _ =>
          Keeps.early trivial hremove)
        (Keeps.pure_true.bind fun _ _ => hremove)

/-- The destructor of an entry whose `AutoDeleteSnapshot` holds the exclusive lock makes only
untracked effects. Reference: `utility.cpp:45`. -/
theorem destroy_keeps (hS : ∀ e : Event, e.op.Untracked → S e) {d : AutoDevice} (h : d.Exclusive) :
    Keeps S (fun _ => True) d.destroy := by
  cases d with
  | AutoUnmapDevice name => exact (deleteDeviceIfExists_keeps name).bind fun _ _ => Keeps.pure_true
  | AutoUnmapImage name => exact (unmapImageIfExists_keeps name).bind fun _ _ => Keeps.pure_true
  | AutoDeleteSnapshot lock name =>
    exact (deleteSnapshot_keeps (fun e h => hS e h.untracked) h).bind fun _ _ => Keeps.pure_true

/-- `~AutoDeviceList` over such entries makes only untracked effects. Reference:
`utility.cpp:31`. -/
theorem destroyAll_keeps (hS : ∀ e : Event, e.op.Untracked → S e) :
    ∀ {ds : List AutoDevice}, (∀ d ∈ ds, d.Exclusive) →
      Keeps S (fun _ => True) (destroyAll ds)
  | [], _ => Keeps.pure_true
  | d :: _, h =>
    (destroy_keeps hS (h d (.head _))).bind fun _ _ => destroyAll_keeps hS fun d' hd' => h d' (.tail _ hd')

/-- A cleanup list whose `AutoDeleteSnapshot` entries hold the exclusive lock keeps whatever its
body keeps. Reference: `utility.cpp:31`. -/
theorem withAutoDeviceList_keeps (hS : ∀ e : Event, e.op.Untracked → S e) {α : Type} {P : α → Prop}
    {body : List AutoDevice → SM (α × List AutoDevice)}
    (h : Keeps S (fun r => P r.1 ∧ ∀ d ∈ r.2, d.Exclusive) (body [])) :
    Keeps S P (withAutoDeviceList body) :=
  h.bind fun _ hr => (destroyAll_keeps hS hr.2).bind fun _ _ => Keeps.pure hr.1

/-- The loop of `RemoveAllSnapshots` makes only untracked effects. Reference:
`snapshot.cpp:1100`. -/
theorem removeEach_keeps (hS : ∀ e : Event, e.op.Untracked → S e) (hlock : lock.lock_mode = .exclusive) :
    ∀ names, Keeps S (fun _ => True) (removeEach lock names)
  | [] => Keeps.pure_true
  | _ :: names => by
    dsimp only [removeEach]
    exact (unmapPartitionWithSnapshot_keeps _ _).bind fun _ _ => Keeps.ite_bind Keeps.pure_true
      (deleteSnapshot_keeps (fun e h => hS e h.untracked) hlock) fun _ _ =>
        (removeEach_keeps hS hlock names).bind fun _ _ => Keeps.pure_true

/-- `RemoveAllSnapshots` makes only untracked effects. Reference: `snapshot.cpp:1092`. -/
theorem removeAllSnapshots_keeps (hS : ∀ e : Event, e.op.Untracked → S e) (hlock : lock.lock_mode = .exclusive) :
    Keeps S (fun _ => True) (removeAllSnapshots lock) :=
  (listSnapshots_keeps _).bind fun snapshots _ =>
    match snapshots with
    | none => Keeps.pure_true
    | some _ => removeEach_keeps hS hlock _

/-- `RemoveAllUpdateState` under the exclusive lock keeps the oracle and the lock. Reference:
`snapshot.cpp:197`. -/
theorem removeAllUpdateState_keeps (hlock : lock.lock_mode = .exclusive) :
    Keeps (fun _ => True) (fun _ => True) (removeAllUpdateState lock) :=
  (removeAllSnapshots_keeps (fun _ _ => trivial) hlock).bind fun _ _ => Keeps.early trivial <|
    (removeSnapshotBootIndicator_keeps fun _ _ => trivial).bind fun _ _ => writeUpdateState_keeps _ _

/-! ### Creating snapshots -/

/-- `CreateSnapshot` under the exclusive lock keeps the oracle and the lock. Reference:
`snapshot.cpp:237`. -/
theorem createSnapshot_keeps (hlock : lock.lock_mode = .exclusive) (name : String)
    (status : SnapshotStatus) :
    Keeps (fun _ => True) (fun _ => True) (createSnapshot lock name status) :=
  (Keeps.CHECK (lock_check_ok hlock)).bind fun _ _ => Keeps.early trivial <| Keeps.early trivial <|
    Keeps.early trivial <| Keeps.early trivial (writeSnapshotStatus_keeps hlock _ _)

/-- `CreateCowImage` under the exclusive lock makes only untracked effects. Reference:
`snapshot.cpp:278`. -/
theorem createCowImage_keeps (hS : ∀ e : Event, e.op.Untracked → S e) (hlock : lock.lock_mode = .exclusive) (name : String) :
    Keeps S (fun _ => True) (createCowImage lock name) :=
  (Keeps.CHECK (lock_check_ok hlock)).bind fun _ _ => ensureImageManager_keeps.bind fun _ _ =>
    Keeps.early trivial <| (readSnapshotStatus_keeps _ _).bind fun status _ =>
      match status with
      | none => Keeps.pure_true
      | some _ => Keeps.early trivial (createBackingImage_keeps hS _ _)

/-- `InitializeCow` is one untracked effect. Reference: `utility.cpp:79`. -/
theorem initializeCow_keeps (hS : ∀ e : Event, e.op.Untracked → S e) (device : String) :
    Keeps S (fun _ => True) (initializeCow device) :=
  Keeps.ioCall.bind fun _ _ => Keeps.early trivial (Keeps.persist fun _ => hS _ trivial)

/-- A cleanup list gets an entry that holds the exclusive lock and its entries still all hold it.
Reference: none. -/
theorem exclusive_cons {d : AutoDevice} {ds : List AutoDevice} (hd : d.Exclusive)
    (h : ∀ d ∈ ds, d.Exclusive) : ∀ x ∈ d :: ds, x.Exclusive :=
  List.forall_mem_cons.2 ⟨hd, h⟩

/-- An `AutoDeleteSnapshot` made under the exclusive lock holds it. Reference:
`snapshot.cpp:1853`. -/
theorem deleteSnapshot_exclusive (hlock : lock.lock_mode = .exclusive) (name : String) :
    (AutoDevice.AutoDeleteSnapshot lock name).Exclusive := hlock

/-- The cleanup list of `CreateUpdateSnapshots` gets only entries that hold its lock. Reference:
`snapshot.cpp:1806`. -/
theorem createPartitionSnapshot_keeps (hlock : lock.lock_mode = .exclusive)
    (ext : UpdateCollaborators) (target_metadata : MetadataBuilder) {created : List AutoDevice}
    (h : ∀ d ∈ created, d.Exclusive) (target_partition : Partition) :
    Keeps (fun _ => True) (fun r => ∀ d ∈ r.2, d.Exclusive)
      (createPartitionSnapshot lock ext target_metadata created target_partition) := by
  dsimp only [createPartitionSnapshot]
  split
  · refine (deleteSnapshot_keeps (fun _ _ => trivial) hlock).bind fun _ _ => Keeps.early h <|
      (Keeps.CHECK (.inr (by decide))).bind fun _ _ => Keeps.early h <|
        (createSnapshot_keeps hlock _ _).bind fun _ _ => Keeps.early h ?_
    have hd := exclusive_cons (deleteSnapshot_exclusive hlock target_partition.name) h
    -- the COW partition, then the COW image; both paths end in the same image step
    refine Keeps.ite ((Keeps.CHECK (.inr (by decide))).bind fun _ _ => Keeps.early hd ?_)
      (Keeps.pure_true.bind fun _ _ => ?_)
    · split
      · refine Keeps.extCall.bind fun _ _ => Keeps.early hd <| Keeps.pure_true.bind fun _ _ => ?_
        exact Keeps.ite ((createCowImage_keeps (fun _ _ => trivial) hlock _).bind fun _ _ =>
          Keeps.early hd (Keeps.pure hd)) (Keeps.pure_true.bind fun _ _ => Keeps.pure hd)
      · exact Keeps.pure hd
    · exact Keeps.ite ((createCowImage_keeps (fun _ _ => trivial) hlock _).bind fun _ _ =>
        Keeps.early hd (Keeps.pure hd)) (Keeps.pure_true.bind fun _ _ => Keeps.pure hd)
  · exact Keeps.pure h

/-- The first loop of `CreateUpdateSnapshots` adds only entries that hold its lock. Reference:
`snapshot.cpp:1806`. -/
theorem createAll_keeps (hlock : lock.lock_mode = .exclusive) (ext : UpdateCollaborators) :
    ∀ (target_metadata : MetadataBuilder) (all_snapshot_status : List (String × SnapshotStatus))
      {created : List AutoDevice}, (∀ d ∈ created, d.Exclusive) → ∀ partitions,
      Keeps (fun _ => True) (fun r => ∀ d ∈ r.2, d.Exclusive)
        (createAll lock ext target_metadata all_snapshot_status created partitions)
  | _, _, _, h, [] => Keeps.pure h
  | target_metadata, _, _, h, p :: partitions => by
    dsimp only [createAll]
    refine (createPartitionSnapshot_keeps hlock ext target_metadata h p).bind fun r hr => ?_
    rcases r with ⟨_ | ⟨_, _ | _⟩, _⟩
    · exact Keeps.pure hr
    · exact createAll_keeps hlock ext _ _ hr partitions
    · exact createAll_keeps hlock ext _ _ hr partitions

/-- The zero-fill of one COW device makes only untracked effects, and its own cleanup list only
unmaps. Reference: `snapshot.cpp:1903`. -/
theorem zeroFillCow_keeps (hS : ∀ e : Event, e.op.Untracked → S e)
    (cow_params : CreateLogicalPartitionParams) (all_snapshot_status : List (String × SnapshotStatus))
    (target_partition : Partition) :
    Keeps S (fun _ => True)
      (zeroFillCow lock cow_params all_snapshot_status target_partition) :=
  withAutoDeviceList_keeps_of_unmaps <| (unmapPartitionWithSnapshot_keeps _ _).bind fun _ _ =>
    Keeps.early ⟨trivial, unmaps_nil⟩ <| (Keeps.CHECK (.inr (by decide))).bind fun _ _ =>
      match lookup all_snapshot_status target_partition.name with
      | none => Keeps.pure ⟨trivial, unmaps_nil⟩
      | some _ => (mapCowDevices_keeps _ _ _ unmaps_nil).bind fun _ hcow =>
        Keeps.early ⟨trivial, hcow⟩ <| (getDmDevicePathByName_keeps _).bind fun cow_path _ =>
          match cow_path with
          | none => Keeps.pure ⟨trivial, hcow⟩
          | some _ => (initializeCow_keeps hS _).bind fun _ _ =>
              Keeps.early ⟨trivial, hcow⟩ (Keeps.pure ⟨trivial, hcow⟩)

/-- The zero-fill loop of `CreateUpdateSnapshots` makes only untracked effects. Reference:
`snapshot.cpp:1903`. -/
theorem zeroFillAll_keeps (hS : ∀ e : Event, e.op.Untracked → S e)
    (cow_params : CreateLogicalPartitionParams) (all_snapshot_status : List (String × SnapshotStatus)) :
    ∀ partitions, Keeps S (fun _ => True)
      (zeroFillAll lock cow_params all_snapshot_status partitions)
  | [] => Keeps.pure_true
  | _ :: partitions => (zeroFillCow_keeps hS _ _ _).bind fun _ _ =>
    Keeps.early trivial (zeroFillAll_keeps hS cow_params all_snapshot_status partitions)

/-! ### Merging -/

/-- `SwitchSnapshotToMerge` under the exclusive lock keeps the oracle and the lock. Reference:
`snapshot.cpp:555`. -/
theorem switchSnapshotToMerge_keeps (hlock : lock.lock_mode = .exclusive) (name : String) :
    Keeps (fun _ => True) (fun _ => True) (switchSnapshotToMerge lock name) :=
  (readSnapshotStatus_keeps _ _).bind fun status _ =>
    match status with
    | none => Keeps.pure_true
    | some _ => (rewriteSnapshotDeviceTable_keeps _).bind fun _ _ => Keeps.early trivial <|
        Keeps.get.bind fun _ _ => (querySnapshotStatus_keeps _).bind fun _ _ =>
          (writeSnapshotStatus_keeps hlock _ _).bind fun _ _ => Keeps.pure_true

/-- The rewrite loop of `InitiateMerge` keeps the oracle and the lock. Reference:
`snapshot.cpp:534`. -/
theorem switchAll_keeps (hlock : lock.lock_mode = .exclusive) :
    ∀ snapshots, Keeps (fun _ => True) (fun _ => True) (switchAll lock snapshots)
  | [] => Keeps.pure_true
  | _ :: snapshots => (switchSnapshotToMerge_keeps hlock _).bind fun _ _ =>
    (switchAll_keeps hlock snapshots).bind fun _ _ => Keeps.pure_true

/-- `OnSnapshotMergeComplete` of `name` makes only the removals of `DeleteSnapshot`. Reference:
`snapshot.cpp:915`. -/
theorem onSnapshotMergeComplete_keeps {name : String}
    (hS : ∀ e : Event, e.op.RemovesSnapshot name → S e) (hlock : lock.lock_mode = .exclusive)
    (status : SnapshotStatus) :
    Keeps S (fun _ => True) (onSnapshotMergeComplete lock name status) := by
  dsimp only [onSnapshotMergeComplete]
  refine (isSnapshotDevice_keeps _).bind fun _ _ =>
    Keeps.ite ((querySnapshotStatus_keeps _).bind fun dm_status _ => ?_)
      (Keeps.pure_true.bind fun _ _ => deleteSnapshot_keeps hS hlock)
  rcases dm_status with _ | ⟨_, _, _⟩
  · exact Keeps.pure_true
  · exact Keeps.early trivial <| Keeps.early trivial <| (collapseSnapshotDevice_keeps _ _).bind
      fun _ _ => Keeps.early trivial (deleteSnapshot_keeps hS hlock)

/-- The results `CheckTargetMergeState` returns. -/
def pollResults : List UpdateState :=
  [.Merging, .MergeFailed, .MergeNeedsReboot, .Cancelled, .MergeCompleted]

/-- `CheckTargetMergeState` returns one of the five results of `pollResults`. Reference:
`snapshot.cpp:805`. -/
theorem checkTargetMergeState_keeps (hlock : lock.lock_mode = .exclusive) (name : String) :
    Keeps (fun _ => True) (· ∈ pollResults) (checkTargetMergeState lock name) := by
  dsimp only [checkTargetMergeState]
  refine (readSnapshotStatus_keeps _ _).bind fun status _ => ?_
  rcases status with _ | status
  · exact Keeps.pure (by decide)
  dsimp only
  refine (isSnapshotDevice_keeps _).bind fun _ _ => Keeps.ite
    ((isCancelledSnapshot_keeps _).bind fun _ _ => Keeps.ite
      ((deleteSnapshot_keeps (fun _ _ => trivial) hlock).bind fun _ _ => Keeps.pure (by decide))
      (Keeps.pure_true.bind fun _ _ => Keeps.ite
        ((onSnapshotMergeComplete_keeps (fun _ _ => trivial) hlock _).bind fun _ _ =>
          Keeps.pure (by decide))
        (Keeps.pure_true.bind fun _ _ => Keeps.pure (by decide))))
    (Keeps.pure_true.bind fun _ _ => (querySnapshotStatus_keeps _).bind fun dm_status _ => ?_)
  rcases dm_status with _ | ⟨_, _, _⟩
  · exact Keeps.pure (by decide)
  · exact Keeps.early (by decide) <| Keeps.ite (Keeps.early (by decide) (Keeps.pure (by decide))) <|
      Keeps.pure_true.bind fun _ _ => (writeSnapshotStatus_keeps hlock _ _).bind fun _ _ =>
        Keeps.early (by decide) <| (onSnapshotMergeComplete_keeps (fun _ _ => trivial) hlock _).bind
          fun _ _ => Keeps.early (by decide) (Keeps.pure (by decide))

/-- The loop of `CheckMergeState` keeps the oracle and the lock. Reference: `snapshot.cpp:755`. -/
theorem checkEach_keeps (hlock : lock.lock_mode = .exclusive) :
    ∀ (flags : MergeFlags) snapshots,
      Keeps (fun _ => True) (fun _ => True) (checkEach lock flags snapshots)
  | _, [] => Keeps.pure_true
  | _, _ :: snapshots =>
    (checkTargetMergeState_keeps hlock _).bind fun _ _ => checkEach_keeps hlock _ snapshots

/-- `HandleCancelledUpdate` under the exclusive lock keeps the oracle and the lock. Reference:
`snapshot.cpp:1054`. -/
theorem handleCancelledUpdate_keeps (hlock : lock.lock_mode = .exclusive) :
    Keeps (fun _ => True) (fun _ => True) (handleCancelledUpdate lock) :=
  readBootIndicator_keeps.bind fun old_slot _ =>
    match old_slot with
    | none => Keeps.pure_true
    | some _ => Keeps.sys.bind fun _ _ => Keeps.early trivial <|
        (removeAllUpdateState_keeps hlock).bind fun _ _ => Keeps.pure_true

/-- `CheckMergeState(LockedFile*)` under the exclusive lock keeps the oracle and the lock.
Reference: `snapshot.cpp:716`. -/
theorem checkMergeStateLocked_keeps (hlock : lock.lock_mode = .exclusive) :
    Keeps (fun _ => True) (fun _ => True) (checkMergeStateLocked lock) := by
  dsimp only [checkMergeStateLocked]
  refine (readUpdateState_keeps _).bind fun state _ => ?_
  split
  case h_3 | h_4 | h_5 =>
    exact (listSnapshots_keeps _).bind fun snapshots _ =>
      match snapshots with
      | none => Keeps.pure_true
      | some _ => (checkEach_keeps hlock _ _).bind fun _ _ => Keeps.early trivial <|
          Keeps.early trivial <| Keeps.ite ((writeUpdateState_keeps _ _).bind fun _ _ => Keeps.pure_true)
            (Keeps.pure_true.bind fun _ _ => Keeps.early trivial Keeps.pure_true)
  case h_6 => exact (handleCancelledUpdate_keeps hlock).bind fun _ _ => Keeps.early trivial Keeps.pure_true
  all_goals exact Keeps.pure_true

/-- `AcknowledgeMergeSuccess` under the exclusive lock keeps the oracle and the lock. Reference:
`snapshot.cpp:891`. -/
theorem acknowledgeMergeSuccess_keeps (hlock : lock.lock_mode = .exclusive) :
    Keeps (fun _ => True) (fun _ => True) (acknowledgeMergeSuccess lock) :=
  (removeAllUpdateState_keeps hlock).bind fun _ _ => Keeps.pure_true

end Exclusive

end LibSnapshot
