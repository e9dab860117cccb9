import LibSnapshot.Proof.Poll

/-!
# Runs in which every call succeeds

`Sure o s m post`: from every faultless world (`World.Faultless`: every call succeeds and the
power stays on) with the oracle `o` and the system `s`, the run of `m` returns, and its value and
the system it leaves satisfy `post`. Unlike `Runs`, which says what holds *if* a run returns,
this is total: a faultless run always returns, and the operations built on it are specified by
what they compute.

Each call gets one lemma giving its value and the system it leaves as functions of the system it
starts from (`ioctl_sure`, `loadTableAndActivate_sure`, `writeSnapshotStatus_sure`, ...); the
proofs of the operations chain them with `Sure.bind_eq` and never unfold a callee.
-/

namespace LibSnapshot

open SM DeviceMapper SnapshotManager

/-- From every faultless world with the oracle `o` and the system `s`, `m` returns, in a world
that is still faultless, a value and a system that satisfy `post`. -/
def Sure {α : Type} (o : Oracle) (s : Sys) (m : SM α) (post : α → Sys → Prop) : Prop :=
  ∀ w : World, w.oracle = o → w.sys = s → w.Faultless →
    ∃ a w', m w = .ok a w' ∧ w'.oracle = o ∧ w'.Faultless ∧ post a w'.sys

namespace Sure

variable {α β : Type} {o : Oracle} {s : Sys} {m : SM α} {post post' : α → Sys → Prop}

/-- `pure a` returns `a` and leaves the system alone. Reference: none. -/
theorem pure {a : α} (h : post a s) : Sure o s (Pure.pure a : SM α) post :=
  fun w ho hs hw => ⟨a, w, rfl, ho, hw, hs ▸ h⟩

/-- A faultless sequence returns, through some middle value and system. Reference: none. -/
theorem bind {f : α → SM β} {mid : α → Sys → Prop} {R : β → Sys → Prop} (hm : Sure o s m mid)
    (hf : ∀ a s', mid a s' → Sure o s' (f a) R) : Sure o s (m >>= f) R := fun w ho hs hw => by
  obtain ⟨a, w₁, e₁, o₁, h₁, p₁⟩ := hm w ho hs hw
  obtain ⟨b, w₂, e₂, o₂, h₂, p₂⟩ := hf a _ p₁ w₁ o₁ rfl h₁
  exact ⟨b, w₂, by rw [bind_apply, e₁]; exact e₂, o₂, h₂, p₂⟩

/-- A step whose value and system are known, then the rest from there. Reference: none. -/
theorem bind_eq {f : α → SM β} {R : β → Sys → Prop} {a : α} {s' : Sys}
    (hm : Sure o s m fun b t => b = a ∧ t = s') (hf : Sure o s' (f a) R) : Sure o s (m >>= f) R :=
  hm.bind fun _ _ h => h.1 ▸ h.2 ▸ hf

/-- A postcondition of a faultless run may be weakened. Reference: none. -/
theorem mono (h : Sure o s m post) (hp : ∀ a t, post a t → post' a t) : Sure o s m post' :=
  fun w ho hs hw => (h w ho hs hw).imp fun _ ⟨w', e, ho', hw', hp'⟩ => ⟨w', e, ho', hw', hp _ _ hp'⟩

/-- The system may be replaced by an equal one. Reference: none. -/
theorem congr {t : Sys} (h : Sure o t m post) (hst : s = t) : Sure o s m post := hst ▸ h

/-- A faultless `if` is the faultless branch its condition picks. Reference: none. -/
theorem ite {c : Prop} [Decidable c] {a b : SM α} (ha : c → Sure o s a post)
    (hb : ¬c → Sure o s b post) : Sure o s (if c then a else b) post := by
  split
  · exact ha ‹_›
  · exact hb ‹_›

/-- A step that counts and returns `a`, leaving the system alone. Reference: none. -/
theorem of_tick {a : α} (hm : ∀ w : World, w.Faultless →
    m w = .ok a { w with tick := w.tick + 1 }) : Sure o s m fun b t => b = a ∧ t = s :=
  fun w ho hs hw => ⟨a, _, hm w hw, ho, hw.later rfl (Nat.le_succ _), rfl, hs⟩

/-- A faultless I/O call succeeds. Reference: none. -/
theorem ioCall : Sure o s SM.ioCall fun b t => b = true ∧ t = s := of_tick fun _ hw => hw.ioCall

/-- A faultless call of a collaborator succeeds. Reference: none. -/
theorem extCall : Sure o s SM.extCall fun b t => b = true ∧ t = s := of_tick fun _ hw => hw.extCall

/-- `sys` returns the system it runs on. Reference: none. -/
theorem sys : Sure o s SM.sys fun a t => a = s ∧ t = s :=
  fun w ho hs hw => ⟨_, w, rfl, ho, hw, hs, hs⟩

/-- `get` returns a world with the run's oracle. Reference: none. -/
theorem get : Sure o s SM.get fun a t => a.oracle = o ∧ t = s :=
  fun w ho hs hw => ⟨_, w, rfl, ho, hw, ho, hs⟩

/-- `modifySys f` applies `f` to the system. Reference: none. -/
theorem modifySys (f : Sys → Sys) : Sure o s (SM.modifySys f) fun a t => a = () ∧ t = f s :=
  fun w ho hs hw => ⟨_, _, modifySys_apply f w, ho, hw, rfl, by rw [← hs]⟩

/-- Taking or dropping the flock leaves the system alone. Reference: none. -/
theorem setHeld (mode : LockMode) : Sure o s (SM.setHeld mode) fun a t => a = () ∧ t = s :=
  fun w ho hs hw => ⟨_, _, setHeld_apply mode w, ho, hw, rfl, hs⟩

/-- Opening the image manager leaves the system alone. Reference: none. -/
theorem openImages : Sure o s SM.openImages fun a t => a = () ∧ t = s :=
  fun w ho hs hw => ⟨_, _, openImages_apply w, ho, hw, rfl, hs⟩

/-- An effect applies its operation to the system. Reference: none. -/
theorem effect (op : FileOp) : Sure o s (SM.effect op) fun a t => a = () ∧ t = op.apply s :=
  fun w ho hs hw => ⟨_, _, effect_apply op w, ho, hw, rfl, by rw [← hs]⟩

/-- A `CHECK` whose condition holds passes. Reference: none. -/
theorem CHECK {c : Bool} {condition : String} (hc : c = true) :
    Sure o s (SM.CHECK c condition) fun a t => a = () ∧ t = s :=
  fun w ho hs hw => ⟨_, w, by rw [CHECK_apply, if_pos hc], ho, hw, rfl, hs⟩

/-- A faultless write succeeds and applies its operation. Reference: none. -/
theorem persist (op : FileOp) : Sure o s (SM.persist op) fun b t => b = true ∧ t = op.apply s :=
  ioCall.bind_eq ((effect op).bind_eq (pure ⟨rfl, rfl⟩))

end Sure

/-! ## The device mapper -/

section DeviceMapper

variable {o : Oracle} {s : Sys}

/-- The state `GetState` reports for what the kernel holds under a name. -/
def stateOf : Option Device → DmDeviceState
  | none => .INVALID
  | some d => if d.table = [] then .SUSPENDED else .ACTIVE

/-- `GetState` reports `INVALID` exactly for a missing device. Reference: `dm.cpp:169`. -/
theorem stateOf_eq_invalid {d : Option Device} : stateOf d = .INVALID ↔ d = none := by
  cases d with
  | none => simp [stateOf]
  | some d => simp only [stateOf, reduceCtorEq, iff_false]; split <;> simp

/-- A faultless ioctl returns the device the kernel holds under its name. Reference: none (each
`ioctl` of `dm.cpp`). -/
theorem ioctl_sure (name : String) :
    Sure o s (ioctl name) fun r t => r = lookup s.devices name ∧ t = s :=
  Sure.extCall.bind_eq (Sure.sys.bind_eq (Sure.pure ⟨if_pos rfl, rfl⟩))

/-- A faultless `DeviceMapper::GetState` returns the state of the device it finds. Reference:
`dm.cpp:169`. -/
theorem getState_sure (name : String) :
    Sure o s (getState name) fun r t => r = stateOf (lookup s.devices name) ∧ t = s :=
  (ioctl_sure name).bind_eq (by cases lookup s.devices name <;> exact Sure.pure ⟨rfl, rfl⟩)

/-- Setting a device stores it under its name. Reference: none. -/
theorem setDevice_sure (name : String) (d : Device) :
    Sure o s (setDevice name d) fun a t => a = () ∧ t = { s with devices := insert s.devices name d } :=
  Sure.modifySys _

/-- A faultless `DeviceMapper::GetTable` returns the device's table, each target with the device's
status. Reference: `dm.cpp:417`. -/
theorem getTable_sure (name : String) :
    Sure o s (getTable name) fun r t =>
      r = (lookup s.devices name).map (fun d => d.table.map fun t => ⟨t, d.status⟩) ∧ t = s :=
  (ioctl_sure name).bind_eq (Sure.pure ⟨rfl, rfl⟩)

/-- `LoadTableAndActivate` of an existing device: the table becomes its active one. Reference:
`dm.cpp:207`. -/
theorem loadTableAndActivate_sure {name : String} {d : Device} (hd : lookup s.devices name = some d)
    (table : List DmTarget) :
    Sure o s (loadTableAndActivate name table) fun r t => r = true ∧
      t = { s with devices := (insert (insert s.devices name { d with inactive := some table }) name
        { d with table := table, inactive := none }) } := by
  refine (ioctl_sure name).bind_eq ?_
  rw [hd]
  refine (setDevice_sure _ _).bind_eq ((ioctl_sure name).bind_eq ?_)
  simp only [lookup_insert, if_true]
  exact (setDevice_sure _ _).bind_eq (Sure.pure ⟨rfl, rfl⟩)

/-- A faultless `DeviceMapper::DeleteDevice` of an existing device removes it. Reference:
`dm.cpp:89`. -/
theorem deleteDevice_sure {name : String} {d : Device} (hd : lookup s.devices name = some d) :
    Sure o s (deleteDevice name) fun r t => r = true ∧
      t = { s with devices := erase s.devices name } := by
  refine (ioctl_sure name).bind_eq ?_
  rw [hd]
  exact (Sure.modifySys _).bind_eq (Sure.pure ⟨rfl, rfl⟩)

/-- The kernel without the device `name`, as `DeleteDeviceIfExists` leaves it. -/
def Sys.dropDevice (s : Sys) (name : String) : Sys :=
  if (lookup s.devices name).isSome then { s with devices := erase s.devices name } else s

@[simp] theorem Sys.lookup_dropDevice (s : Sys) (name k : String) :
    lookup (s.dropDevice name).devices k = if name = k then none else lookup s.devices k := by
  unfold Sys.dropDevice
  split
  · exact lookup_erase _ _ _
  · split
    · subst ‹name = k›; simp_all
    · rfl

@[simp] theorem Sys.dropDevice_records (s : Sys) (name : String) :
    (s.dropDevice name).records = s.records := by
  unfold Sys.dropDevice; split <;> rfl

@[simp] theorem Sys.dropDevice_images (s : Sys) (name : String) :
    (s.dropDevice name).images = s.images := by
  unfold Sys.dropDevice; split <;> rfl

@[simp] theorem Sys.dropDevice_shell (s : Sys) (name : String) :
    (s.dropDevice name).shell = s.shell := by
  unfold Sys.dropDevice; split <;> rfl

/-- `DeleteDeviceIfExists`: the device is gone, whether it was there or not. Reference:
`dm.cpp:82`. -/
theorem deleteDeviceIfExists_sure (name : String) :
    Sure o s (deleteDeviceIfExists name) fun r t => r = true ∧ t = s.dropDevice name := by
  refine (getState_sure name).bind_eq ?_
  unfold Sys.dropDevice
  cases hd : lookup s.devices name with
  | none => exact Sure.pure ⟨rfl, rfl⟩
  | some d =>
    rw [if_neg (by rw [stateOf_eq_invalid]; exact Option.noConfusion)]
    exact deleteDevice_sure hd

end DeviceMapper

/-! ## Snapshot devices -/

section Query

variable {o : Oracle} {s : Sys}

/-- The one target of a device's table, as `GetSingleTarget` reads it. -/
def singleTarget : Option Device → Option TargetInfo
  | some d => match d.table with
    | [t] => some ⟨t, d.status⟩
    | _ => none
  | none => none

/-- The snapshot target of a device, as `IsSnapshotDevice` reads it. -/
def snapshotTargetOf (d : Option Device) : Option TargetInfo :=
  (singleTarget d).filter fun t =>
    getTargetType t.spec = "snapshot" ∨ getTargetType t.spec = "snapshot-merge"

/-- The target type and counters of a snapshot device, as `QuerySnapshotStatus` reads them. -/
def snapshotStatusOf (d : Option Device) : Option (String × UInt64 × UInt64) :=
  (snapshotTargetOf d).bind fun t => t.status.map fun c => (getTargetType t.spec, c.1, c.2)

/-- A faultless `GetSingleTarget` returns the one target of the device, through either query.
Reference: `snapshot.cpp:620`. -/
theorem getSingleTarget_sure (dm_name : String) (query : TableQuery) :
    Sure o s (getSingleTarget dm_name query) fun r t =>
      r = singleTarget (lookup s.devices dm_name) ∧ t = s := by
  refine (getState_sure dm_name).bind_eq ?_
  cases hd : lookup s.devices dm_name with
  | none => exact Sure.pure ⟨rfl, rfl⟩
  | some d =>
    rw [if_neg (by rw [stateOf_eq_invalid]; exact Option.noConfusion)]
    have ht : Sure o s (if query = .Status then getTableStatus dm_name else getTableInfo dm_name)
        fun r t => r = (lookup s.devices dm_name).map
          (fun d => d.table.map fun t => ⟨t, d.status⟩) ∧ t = s := by
      split <;> exact getTable_sure dm_name
    refine ht.bind_eq ?_
    obtain ⟨uuid, table, inactive, status⟩ := d
    rw [hd]
    rcases table with _ | ⟨t, _ | ⟨t', table⟩⟩ <;> exact Sure.pure ⟨rfl, rfl⟩

/-- A faultless `IsSnapshotDevice` returns the device's target when it is a `snapshot` or
`snapshot-merge` one. Reference: `snapshot.cpp:646`. -/
theorem isSnapshotDevice_sure (dm_name : String) :
    Sure o s (isSnapshotDevice dm_name) fun r t =>
      r = snapshotTargetOf (lookup s.devices dm_name) ∧ t = s := by
  refine (getSingleTarget_sure dm_name .Status).bind_eq ?_
  simp only [snapshotTargetOf]
  cases singleTarget (lookup s.devices dm_name) with
  | none => exact Sure.pure ⟨rfl, rfl⟩
  | some t =>
    dsimp only
    by_cases h : getTargetType t.spec = "snapshot" ∨ getTargetType t.spec = "snapshot-merge"
    · rw [if_neg (by tauto)]
      exact Sure.pure ⟨by simp [Option.filter, h], rfl⟩
    · rw [if_pos (by tauto)]
      exact Sure.pure ⟨by simp [Option.filter, h], rfl⟩

/-- A faultless `QuerySnapshotStatus` returns the type and the counters of a snapshot device.
Reference: `snapshot.cpp:661`. -/
theorem querySnapshotStatus_sure (dm_name : String) :
    Sure o s (querySnapshotStatus dm_name) fun r t =>
      r = snapshotStatusOf (lookup s.devices dm_name) ∧ t = s := by
  refine (isSnapshotDevice_sure dm_name).bind_eq ?_
  simp only [snapshotStatusOf]
  cases snapshotTargetOf (lookup s.devices dm_name) with
  | none => exact Sure.pure ⟨rfl, rfl⟩
  | some t =>
    dsimp only
    cases h : t.status <;> exact Sure.pure ⟨by simp [h], rfl⟩

end Query

/-! ## The manager's files -/

section Files

variable {o : Oracle} {s : Sys}

/-- A faultless `LockExclusive` returns the state file under the exclusive flock. Reference:
`snapshot.cpp:1515`. -/
theorem lockExclusive_sure :
    Sure o s lockExclusive fun r t => r = some ⟨"/metadata/ota/state", .exclusive⟩ ∧ t = s := by
  refine Sure.ioCall.bind_eq ?_
  simp only [ne_eq, reduceCtorEq, not_false_eq_true, if_true, Bool.not_true, Bool.false_eq_true,
    if_false, SM.pure_bind]
  refine Sure.ioCall.bind_eq ?_
  simp only [Bool.not_true, Bool.false_eq_true, if_false, SM.pure_bind]
  exact (Sure.setHeld _).bind_eq (Sure.pure ⟨rfl, rfl⟩)

/-- A locked section whose lock is taken runs its body, and the release changes no file. Reference:
`snapshot.cpp:1495`. -/
theorem locked_sure {α : Type} {acquire : SM (Option LockedFile)} {dflt : α}
    {body : LockedFile → SM α} {lock : LockedFile} {post : α → Sys → Prop}
    (ha : Sure o s acquire fun r t => r = some lock ∧ t = s) (hb : Sure o s (body lock) post) :
    Sure o s (locked acquire dflt body) post :=
  ha.bind_eq (hb.bind fun _ _ h => (Sure.setHeld _).bind_eq (Sure.pure h))

/-- A faultless `ReadUpdateState` returns the state the file holds. Reference:
`snapshot.cpp:1519`. -/
theorem readUpdateState_sure (file : LockedFile) :
    Sure o s (readUpdateState file) fun r t => r = s.updateState ∧ t = s := by
  refine Sure.ioCall.bind_eq ?_
  simp only [Bool.not_true, Bool.false_eq_true, if_false, SM.pure_bind]
  refine Sure.ioCall.bind_eq ?_
  simp only [Bool.not_true, Bool.false_eq_true, if_false, SM.pure_bind]
  exact Sure.sys.bind_eq (Sure.pure ⟨rfl, rfl⟩)

/-- A faultless `WriteUpdateState` of a state with a nonempty name writes that name over the file.
Reference: `snapshot.cpp:1574`. -/
theorem writeUpdateState_sure (file : LockedFile) {state : UpdateState}
    (h : state.toString.isEmpty = false) :
    Sure o s (writeUpdateState file state) fun r t =>
      r = true ∧ t = { s with state := state.toString } := by
  simp only [writeUpdateState, h, Bool.false_eq_true, if_false, SM.pure_bind]
  exact Sure.persist _

/-- The one atomic step in which the model writes the state file is the run of `Truncate` and
`WriteStringToFd` whose every system call succeeds, from any offset. Reference:
`snapshot.cpp:1574`. -/
theorem writeUpdateState_refines (file : LockedFile) {state : UpdateState}
    (h : state.toString.isEmpty = false) (offset : Nat) :
    Sure o s (writeUpdateState file state) fun r t =>
      (some r, (⟨t.state.data, t.state.length⟩ : StateFile)) =
        writeUpdateStateSys state [.ok, .ok, .ok] ⟨s.state.data, offset⟩ := by
  have hne : state.toString.data ≠ [] := fun e => by
    rw [show state.toString = "" from String.ext e] at h
    exact absurd h (by decide)
  refine (writeUpdateState_sure file h).mono fun r t ⟨hr, ht⟩ => ?_
  rw [writeUpdateStateSys_ok state _ hne, hr, ht]
  rfl

/-- A faultless read of the boot indicator returns what it holds. Reference: `snapshot.cpp:1057`. -/
theorem readBootIndicator_sure : Sure o s readBootIndicator fun r t => r = s.indicator ∧ t = s :=
  Sure.ioCall.bind_eq (Sure.sys.bind_eq (Sure.pure ⟨if_pos rfl, rfl⟩))

/-- A faultless `ListSnapshots` returns the names of the status files. Reference:
`snapshot.cpp:1130`. -/
theorem listSnapshots_sure (lock : LockedFile) :
    Sure o s (listSnapshots lock) fun r t => r = some (keys s.records) ∧ t = s := by
  refine Sure.ioCall.bind_eq ?_
  simp only [Bool.not_true, Bool.false_eq_true, if_false, SM.pure_bind]
  exact Sure.sys.bind_eq (Sure.pure ⟨rfl, rfl⟩)

/-- A faultless `ReadSnapshotStatus` returns the parse of the status file, `none` for a missing one.
Reference: `snapshot.cpp:1593`. -/
theorem readSnapshotStatus_sure (lock : LockedFile) (name : String) :
    Sure o s (readSnapshotStatus lock name) fun r t =>
      r = (lookup s.records name).bind parseStatusLine ∧ t = s := by
  refine Sure.ioCall.bind_eq (Sure.sys.bind_eq ?_)
  cases lookup s.records name with
  | none => exact Sure.pure ⟨rfl, rfl⟩
  | some c =>
    simp only [Bool.not_true, Bool.false_eq_true, if_false, SM.pure_bind]
    refine Sure.ioCall.bind_eq ?_
    simp only [Bool.not_true, Bool.false_eq_true, if_false, SM.pure_bind]
    exact Sure.pure ⟨rfl, rfl⟩

/-- A faultless `WriteSnapshotStatus` under the exclusive lock creates the status file and writes
the line of `status`. Reference: `snapshot.cpp:1671`. -/
theorem writeSnapshotStatus_sure {lock : LockedFile} (hlock : lock.lock_mode = .exclusive)
    (name : String) (status : SnapshotStatus) :
    Sure o s (writeSnapshotStatus lock name status) fun r t => r = true ∧
      t = (FileOp.writeStatus name (statusLine status)).apply ((FileOp.createStatus name).apply s) := by
  refine (Sure.CHECK (by simp [hlock])).bind_eq ?_
  refine Sure.ioCall.bind_eq ?_
  simp only [Bool.not_true, Bool.false_eq_true, if_false, SM.pure_bind]
  exact (Sure.effect _).bind_eq (Sure.persist _)

/-- A faultless `RemoveFileIfExists` of a status file removes it when it is there. Reference:
`snapshot.cpp:480`. -/
theorem removeStatusFileIfExists_sure (name : String) :
    Sure o s (removeStatusFileIfExists name) fun r t => r = true ∧
      t = if (lookup s.records name).isSome then (FileOp.removeStatus name).apply s else s := by
  refine Sure.sys.bind_eq ?_
  cases h : lookup s.records name with
  | none => exact Sure.pure ⟨rfl, rfl⟩
  | some c => exact Sure.persist _

/-- A faultless `RemoveSnapshotBootIndicator` removes the indicator. Reference:
`snapshot.cpp:881`. -/
theorem removeSnapshotBootIndicator_sure :
    Sure o s removeSnapshotBootIndicator fun a t => a = () ∧ t = FileOp.removeIndicator.apply s :=
  (Sure.persist _).bind_eq (Sure.pure ⟨rfl, rfl⟩)

/-- A faultless `EnsureImageManager` succeeds, whether the manager was open or not. Reference:
`snapshot.cpp:1722`. -/
theorem ensureImageManager_sure : Sure o s ensureImageManager fun r t => r = true ∧ t = s := by
  refine Sure.get.bind fun a t ⟨_, ht⟩ => ht ▸ ?_
  cases a.images_
  · simp only [Bool.false_eq_true, if_false, SM.pure_bind]
    refine Sure.extCall.bind_eq ?_
    simp only [Bool.not_true, Bool.false_eq_true, if_false, SM.pure_bind]
    exact Sure.openImages.bind_eq (Sure.pure ⟨rfl, rfl⟩)
  · exact Sure.pure ⟨rfl, rfl⟩

end Files

/-! ## The image manager and the partition metadata -/

section External

variable {o : Oracle} {s : Sys}

/-- Modelled from the spec: a faultless `IImageManager::UnmapImageIfExists` removes the image's
device. Reference: none. -/
theorem unmapImageIfExists_sure (name : String) :
    Sure o s (ImageManager.unmapImageIfExists name) fun r t => r = true ∧
      t = { s with devices := erase s.devices name } := by
  refine Sure.extCall.bind_eq ?_
  simp only [Bool.not_true, Bool.false_eq_true, if_false, SM.pure_bind]
  exact (Sure.modifySys _).bind_eq (Sure.pure ⟨rfl, rfl⟩)

/-- Modelled from the spec: a faultless `IImageManager::BackingImageExists` says whether the image
is there. Reference: none. -/
theorem backingImageExists_sure (name : String) :
    Sure o s (ImageManager.backingImageExists name) fun r t =>
      r = (lookup s.images name).isSome ∧ t = s :=
  Sure.extCall.bind_eq (Sure.sys.bind_eq (Sure.pure ⟨Bool.true_and _, rfl⟩))

/-- Modelled from the spec: a faultless `IImageManager::DeleteBackingImage` of an existing image
deletes it. Reference: none. -/
theorem deleteBackingImage_sure {name : String} (h : (lookup s.images name).isSome) :
    Sure o s (ImageManager.deleteBackingImage name) fun r t =>
      r = true ∧ t = (FileOp.deleteImage name).apply s := by
  refine Sure.extCall.bind_eq (Sure.sys.bind_eq ?_)
  rw [if_pos ⟨rfl, h⟩]
  exact (Sure.effect _).bind_eq (Sure.pure ⟨rfl, rfl⟩)

/-- Modelled from the spec: a faultless liblp `ReadMetadata` returns the slot's metadata. Reference:
none. -/
theorem readMetadata_sure (slot : String) :
    Sure o s (readMetadata slot) fun r t => r = some (s.metadata slot) ∧ t = s :=
  Sure.extCall.bind_eq (Sure.sys.bind_eq (Sure.pure ⟨if_pos rfl, rfl⟩))

/-- Modelled from the spec: a faultless `InitDefaults` of a name finds the partition in the slot's
metadata. Reference: none. -/
theorem initDefaults_sure (slot name : String) :
    Sure o s (CreateLogicalPartitionParams.initDefaults
        { metadata_slot := slot, partition_name := name }) fun r t =>
      r = (findPartition (s.metadata slot) name).map (fun p =>
        { metadata_slot := slot, partition_name := p.name, metadata := some (s.metadata slot),
          partition := some p }) ∧ t = s := by
  refine (readMetadata_sure slot).bind_eq ?_
  dsimp only
  cases findPartition (s.metadata slot) name <;> exact Sure.pure ⟨rfl, rfl⟩

/-- `CreateDmTable` of a partition found by name in a slot's metadata: the linear table of its
extents in super. Reference: none (fs_mgr's `CreateDmTable`, modelled from the spec). -/
theorem createDmTable_sure (slot name : String) :
    Sure o s (createDmTable { metadata_slot := slot, partition_name := name }) fun r t =>
      r = (findPartition (s.metadata slot) name).map
        (fun p => linearTargets LP_METADATA_DEFAULT_PARTITION_NAME 0 p.extents) ∧ t = s := by
  refine (initDefaults_sure slot name).bind_eq ?_
  cases findPartition (s.metadata slot) name <;> exact Sure.pure ⟨rfl, rfl⟩

end External

end LibSnapshot
