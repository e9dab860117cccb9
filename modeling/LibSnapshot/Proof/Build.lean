import Mathlib.Data.String.Basic
import LibSnapshot.Proof.Faultless

/-!
# Building a partition's stack when every call succeeds

`MapPartitionWithSnapshot` (`snapshot.cpp:1242`) maps a logical partition. Without a live
snapshot it maps the partition's extents in super as `P`; with one it maps them as `P-base`, then
the COW devices (`MapCowDevices`, `snapshot.cpp:1387`: the COW image as `P-cow-img`, the COW
partition, followed by the image, as `P-cow`), then the snapshot device (`MapSnapshot`,
`snapshot.cpp:301`: the snapshot target on `P`, or on `P-inner` under an outer `P` that passes the
rest of the partition through). Every device it creates before the snapshot device goes on an
`AutoDeviceList`, released only on success.

`stackPlan` says what that comes to, from the system, the super device and the metadata alone:
the devices the code maps, or `none` when it gives up (a status file that does not parse, a
missing COW image or COW partition, sizes `MapSnapshot` refuses, a merge that has completed
globally). `mapPartitionWithSnapshot_sure`: when every call succeeds and the stack's names are
free, the code maps exactly the plan's devices and returns `true`, or returns `false` and leaves
the system as it found it, its cleanup list having deleted every device it had created
(`Restores`).
-/

namespace LibSnapshot

open SM DeviceMapper SnapshotManager

/-! ## Maps by name -/

section Maps

variable {α : Type} {l : List (String × α)} {k : String}

/-- Erasing a name the map lacks changes nothing. Reference: none. -/
theorem erase_of_lookup_none (h : lookup l k = none) : erase l k = l := by
  induction l with
  | nil => rfl
  | cons p l ih =>
    obtain ⟨j, v⟩ := p
    simp only [lookup] at h
    split at h
    · exact absurd h Option.noConfusion
    · simp only [erase, if_neg ‹¬j = k›, ih h]

/-- Inserting under a name the map lacks puts the entry in front. Reference: none. -/
theorem insert_of_lookup_none (h : lookup l k = none) (v : α) : insert l k v = (k, v) :: l := by
  rw [insert, erase_of_lookup_none h]

/-- A second insertion under a name replaces the first. Reference: none. -/
theorem insert_insert (l : List (String × α)) (k : String) (v v' : α) :
    insert (insert l k v) k v' = insert l k v' := by
  simp only [insert, erase, if_true, erase_of_lookup_none (by simp : lookup (erase l k) k = none)]

/-- A lookup in two maps, one after the other, finds the first's entry first. Reference: none. -/
theorem lookup_append (l l' : List (String × α)) (k : String) :
    lookup (l ++ l') k = (lookup l k).or (lookup l' k) := by
  induction l with
  | nil => rfl
  | cons p l ih =>
    obtain ⟨j, v⟩ := p
    simp only [List.cons_append, lookup]
    split
    · rfl
    · exact ih

end Maps

/-! ## The names of a stack -/

/-- A name followed by two suffixes gives two equal names only for equal suffixes. Reference:
none. -/
theorem append_right_cancel {name u v : String} (h : name ++ u = name ++ v) : u = v :=
  String.ext (List.append_cancel_left (by simpa only [String.data_append] using congrArg String.data h))

/-- Names of one stack with different suffixes differ. Reference: `snapshot.cpp:117`. -/
theorem stackName_ne {name u v : String} (h : u ≠ v) : name ++ u ≠ name ++ v :=
  fun e => h (append_right_cancel e)

/-- No name of a stack but `P` itself is `P`. Reference: `snapshot.cpp:117`. -/
theorem ne_stackName {name u : String} (h : u ≠ "") : name ≠ name ++ u :=
  fun e => h (append_right_cancel ((String.append_empty name).trans e)).symm

/-- The five names of a stack are pairwise distinct. Reference: `snapshot.cpp:117`. -/
theorem stackNames_distinct (name : String) :
    name ≠ getSnapshotExtraDeviceName name ∧ name ≠ getCowName name ∧
      name ≠ getCowImageDeviceName name ∧ name ≠ getBaseDeviceName name ∧
      getSnapshotExtraDeviceName name ≠ getCowName name ∧
      getSnapshotExtraDeviceName name ≠ getCowImageDeviceName name ∧
      getSnapshotExtraDeviceName name ≠ getBaseDeviceName name ∧
      getCowName name ≠ getCowImageDeviceName name ∧ getCowName name ≠ getBaseDeviceName name ∧
      getCowImageDeviceName name ≠ getBaseDeviceName name :=
  ⟨ne_stackName (by decide), ne_stackName (by decide), ne_stackName (by decide),
    ne_stackName (by decide), stackName_ne (by decide), stackName_ne (by decide),
    stackName_ne (by decide), stackName_ne (by decide), stackName_ne (by decide),
    stackName_ne (by decide)⟩

/-! ## Mapped devices -/

/-- The device `CreateDevice(name, table, path, timeout)` (`dm.cpp:116`) leaves when every call
succeeds: a fresh uuid, `table` active and nothing loaded behind it. -/
def mappedDevice (name : String) (table : List DmTarget) : Device :=
  { uuid := generateUuid name, table := table }

/-- The device the image manager maps for the backing image `name` of `size` bytes. -/
def imageDevice (name : String) (size : UInt64) : Device :=
  { uuid := generateUuid name,
    table := [⟨0, size.toNat / 512, .linear ("/data/gsi/ota/" ++ name ++ ".img") 0⟩] }

/-- The system with the devices `ds` mapped, the latest first, over those it had. -/
def Sys.addDevices (s : Sys) (ds : List (String × Device)) : Sys :=
  { s with devices := ds ++ s.devices }

namespace Sys

variable {s : Sys} {ds ds' : List (String × Device)}

@[simp] theorem addDevices_nil (s : Sys) : s.addDevices [] = s := rfl

@[simp] theorem addDevices_addDevices (s : Sys) (ds ds' : List (String × Device)) :
    (s.addDevices ds).addDevices ds' = s.addDevices (ds' ++ ds) := by
  simp only [addDevices, List.append_assoc]

@[simp] theorem addDevices_records : (s.addDevices ds).records = s.records := rfl

@[simp] theorem addDevices_images : (s.addDevices ds).images = s.images := rfl

@[simp] theorem addDevices_state : (s.addDevices ds).state = s.state := rfl

@[simp] theorem addDevices_shell : (s.addDevices ds).shell = s.shell := rfl

@[simp] theorem addDevices_updateState : (s.addDevices ds).updateState = s.updateState := rfl

/-- A lookup after adding devices finds an added one first. Reference: none. -/
theorem lookup_addDevices (k : String) :
    lookup (s.addDevices ds).devices k = (lookup ds k).or (lookup s.devices k) :=
  lookup_append ds s.devices k

@[simp] theorem lookup_addDevices_self (k : String) (d : Device) :
    lookup (s.addDevices [(k, d)]).devices k = some d := by
  simp only [addDevices, List.singleton_append, lookup, if_true]

/-- Adding a device leaves every other name alone. Reference: none. -/
theorem lookup_addDevices_of_ne {n k : String} (h : n ≠ k) (d : Device) :
    lookup (s.addDevices [(n, d)]).devices k = lookup s.devices k := by
  simp only [addDevices, List.singleton_append, lookup, if_neg h, List.append_eq, List.nil_append]

/-- Adding devices leaves every name they do not hold alone. Reference: none. -/
theorem lookup_addDevices_of_not_mem {k : String} (h : k ∉ keys ds) :
    lookup (s.addDevices ds).devices k = lookup s.devices k := by
  rw [lookup_addDevices, show lookup ds k = none from
    Option.not_isSome_iff_eq_none.1 fun h' => h (mem_keys_iff_lookup.2 h')]
  rfl

/-- Loading a device mapped under a free name replaces it in place. Reference: none. -/
theorem insert_addDevices {k : String} (hfree : lookup s.devices k = none) (d d' : Device) :
    insert (s.addDevices [(k, d)]).devices k d' = (s.addDevices [(k, d')]).devices := by
  simp only [addDevices, List.singleton_append, insert, erase, if_true, List.append_eq, List.nil_append,
    erase_of_lookup_none hfree]

end Sys

/-! ## The device-mapper calls that create -/

section Create

variable {o : Oracle} {s : Sys}

/-- A faultless wait succeeds and leaves the system alone. Reference: none. -/
theorem Sure.waitCall : Sure o s SM.waitCall fun b t => b = true ∧ t = s := fun w ho hs hw =>
  ⟨true, { w with tick := w.tick + 1, clock := w.clock + w.oracle.wait w.tick },
    by rw [waitCall_apply, if_neg (hw.2 _ le_rfl).2, (hw.2 _ le_rfl).1], ho,
    hw.later rfl (Nat.le_succ _), rfl, hs⟩

/-- Reading the clock leaves the system alone. Reference: none. -/
theorem Sure.now : Sure o s SM.now fun _ t => t = s := fun w ho hs hw => ⟨_, w, rfl, ho, hw, hs⟩

/-- `WaitForFile` finds the node when the oracle's every wait stays within the timeout. Reference:
none (fs_mgr's `WaitForFile`, modelled from the spec). -/
theorem waitForFile_sure {path : String} {timeout_ms : Int}
    (hwait : ∀ k, (o.wait k : Int) ≤ timeout_ms) :
    Sure o s (waitForFile path timeout_ms) fun b t => b = true ∧ t = s := fun w ho hs hw =>
  ⟨true, { w with tick := w.tick + 1, clock := w.clock + w.oracle.wait w.tick }, by
    have hin : w.clock + (w.oracle.wait w.tick : Int) - w.clock ≤ timeout_ms := by
      rw [add_sub_cancel_left, ho]
      exact hwait w.tick
    simp only [waitForFile, bind_apply, now, waitCall_apply, if_neg (hw.2 _ le_rfl).2,
      (hw.2 _ le_rfl).1, decide_eq_true hin, Bool.and_self]
    rfl, ho, hw.later rfl (Nat.le_succ _), rfl, hs⟩

/-- A faultless `DeviceMapper::GetDeviceString` answers for an existing device only. Reference:
`dm.cpp:399`. -/
theorem getDeviceString_sure (name : String) :
    Sure o s (getDeviceString name) fun r t => r = (lookup s.devices name).map (fun _ => name) ∧
      t = s :=
  (ioctl_sure name).bind_eq (Sure.pure ⟨rfl, rfl⟩)

/-- A faultless `DeviceMapper::GetDeviceUniquePath` returns the by-uuid path of a device with a
uuid. Reference: `dm.cpp:144`. -/
theorem getDeviceUniquePath_sure (name : String) :
    Sure o s (getDeviceUniquePath name) fun r t => r = (lookup s.devices name).bind (fun d =>
      if d.uuid.isEmpty then none else some ("/dev/block/mapper/by-uuid/" ++ d.uuid)) ∧ t = s :=
  (ioctl_sure name).bind_eq (by cases lookup s.devices name <;> exact Sure.pure ⟨rfl, rfl⟩)

/-- A faultless `DeviceMapper::GetDmDevicePathByName` returns the `dm-N` node of an existing device.
Reference: `dm.cpp:375`. -/
theorem getDmDevicePathByName_sure (name : String) :
    Sure o s (getDmDevicePathByName name) fun r t =>
      r = (lookup s.devices name).map (fun _ => "/dev/block/dm-" ++ name) ∧ t = s :=
  (ioctl_sure name).bind_eq (Sure.pure ⟨rfl, rfl⟩)

/-- A name `CreateDevice(name, uuid)` (`dm.cpp:52`) accepts: nonempty and shorter than
`DM_NAME_LEN`. -/
def DmName (name : String) : Prop := 0 < name.length ∧ name.length < DM_NAME_LEN

instance : DecidablePred DmName := fun _ => inferInstanceAs (Decidable (_ ∧ _))

/-- A name of positive length is not empty. Reference: none. -/
theorem isEmpty_of_length_pos {name : String} (h : 0 < name.length) : name.isEmpty = false :=
  Bool.eq_false_iff.2 fun e => by rw [(String.isEmpty_iff name).1 e] at h; exact absurd h (by decide)

/-- A faultless `DeviceMapper::CreateDevice(name, uuid)` of a valid, free name maps an empty device.
Reference: `dm.cpp:52`. -/
theorem createDevice_sure {name : String} (hname : DmName name)
    (hfree : lookup s.devices name = none) (uuid : String) :
    Sure o s (createDevice name uuid) fun r t =>
      r = true ∧ t = s.addDevices [(name, { uuid := uuid })] := by
  simp only [createDevice, isEmpty_of_length_pos hname.1, Bool.false_eq_true, if_false, SM.pure_bind,
    if_neg (Nat.not_le.2 hname.2)]
  refine Sure.extCall.bind_eq (Sure.sys.bind_eq ?_)
  rw [if_pos ⟨rfl, hfree⟩]
  refine (setDevice_sure _ _).bind_eq (Sure.pure ⟨rfl, ?_⟩)
  rw [insert_of_lookup_none hfree]
  rfl

/-- `CreateDevice(name, table, path, timeout)` (`dm.cpp:116`) under a free name, with no timeout or
every wait within it: the device is mapped with `table` active, and its `dm-N` path returned.
Reference: `dm.cpp:116`. -/
theorem createDeviceTable_sure {name : String} (hname : DmName name)
    (hfree : lookup s.devices name = none) (table : List DmTarget) (path : String) {timeout_ms : Int}
    (ht : timeout_ms ≤ 0 ∨ ∀ k, (o.wait k : Int) ≤ timeout_ms) :
    Sure o s (createDeviceTable name table path timeout_ms) fun r t =>
      r = (true, "/dev/block/dm-" ++ name) ∧ t = s.addDevices [(name, mappedDevice name table)] := by
  refine (createDevice_sure hname hfree _).bind_eq ?_
  simp only [Bool.not_true, Bool.false_eq_true, if_false, SM.pure_bind]
  have hd : lookup (s.addDevices [(name, { uuid := generateUuid name })]).devices name =
      some { uuid := generateUuid name } := by
    simp [Sys.lookup_addDevices, lookup]
  refine (loadTableAndActivate_sure hd table).bind_eq ?_
  simp only [if_true, insert_insert]
  refine (getDeviceUniquePath_sure name).bind_eq ?_
  have hu : (generateUuid name).isEmpty = false :=
    isEmpty_of_length_pos (by rw [generateUuid, String.length_append]; exact Nat.add_pos_left (by decide) _)
  simp only [lookup_insert, if_true, Option.some_bind, hu, Bool.false_eq_true, if_false]
  refine (getDmDevicePathByName_sure name).bind_eq ?_
  simp only [lookup_insert, if_true, Option.map_some']
  by_cases h₀ : timeout_ms ≤ 0
  · rw [if_pos h₀]
    refine Sure.pure ⟨rfl, ?_⟩
    rw [Sys.insert_addDevices hfree]
    rfl
  rw [if_neg h₀]
  refine (waitForFile_sure (ht.resolve_left h₀)).bind_eq (Sure.pure ⟨rfl, ?_⟩)
  rw [Sys.insert_addDevices hfree]
  rfl

end Create

/-! ## The image manager's mapping -/

section Image

variable {o : Oracle} {s : Sys}

/-- Mapping a backing image under a free name maps its device when the image exists. Reference: none
(libfiemap's `MapImageDevice`, modelled from the spec). -/
theorem mapImage_sure {name : String} (hfree : lookup s.devices name = none) :
    Sure o s (ImageManager.mapImage name) fun r t =>
      r = (lookup s.images name).map (fun _ => "/dev/block/dm-" ++ name) ∧
        t = s.addDevices ((lookup s.images name).map fun size => (name, imageDevice name size)).toList := by
  refine Sure.waitCall.bind_eq (Sure.sys.bind_eq ?_)
  rw [hfree]
  cases lookup s.images name with
  | none => exact Sure.pure ⟨rfl, rfl⟩
  | some size =>
    refine (setDevice_sure _ _).bind_eq (Sure.pure ⟨rfl, ?_⟩)
    rw [insert_of_lookup_none hfree]
    rfl

/-- `MapCowImage` (`snapshot.cpp:415`) maps `P-cow-img`, in first-stage init or not. Reference:
`snapshot.cpp:415`. -/
theorem mapCowImage_sure {name : String} (timeout_ms : Int)
    (hfree : lookup s.devices (getCowImageDeviceName name) = none) :
    Sure o s (mapCowImage name timeout_ms) fun r t =>
      r = (lookup s.images (getCowImageDeviceName name)).isSome ∧
        t = s.addDevices ((lookup s.images (getCowImageDeviceName name)).map fun size =>
          (getCowImageDeviceName name, imageDevice (getCowImageDeviceName name) size)).toList := by
  refine ensureImageManager_sure.bind_eq ?_
  simp only [Bool.not_true, Bool.false_eq_true, if_false, SM.pure_bind]
  refine Sure.get.bind fun a t ⟨_, ht⟩ => ?_
  subst ht
  simp only [ImageManager.mapImageWithDeviceMapper, ImageManager.mapImageDevice, ite_self]
  exact (mapImage_sure hfree).bind_eq (Sure.pure ⟨by rw [Option.isSome_map'], rfl⟩)

end Image

/-! ## What mapping a partition's stack comes to -/

/-- What `MapCowDevices` (`snapshot.cpp:1387`) maps for the snapshot `name` when every call
succeeds, with the name of the device the snapshot then reads as its COW: the COW image as
`P-cow-img` when `cow_file_size > 0`, and, when `cow_partition_size > 0`, `P-cow` over the COW
partition's extents in `metadata` followed by the image. `none` when the image or the COW
partition is missing. -/
def cowPlan (s : Sys) (block_device : String) (metadata : List Partition) (name : String)
    (status : SnapshotStatus) : Option (String × List (String × Device)) :=
  let cow_image_name := getCowImageDeviceName name
  let cow_name := getCowName name
  let cow (image : List (String × Device)) (tail : List DmTarget) :=
    (findPartition metadata cow_name).map fun p =>
      (cow_name, (cow_name, mappedDevice cow_name (linearTargets block_device 0 p.extents ++ tail)) ::
        image)
  if status.cow_file_size > 0 then
    (lookup s.images cow_image_name).bind fun size =>
      let image := [(cow_image_name, imageDevice cow_image_name size)]
      if status.cow_partition_size = 0 then some (cow_image_name, image)
      else cow image [⟨(status.cow_partition_size / kSectorSize).toNat,
        (status.cow_file_size / kSectorSize).toNat, .linear cow_image_name 0⟩]
  else cow [] []

/-- What `MapSnapshot` (`snapshot.cpp:301`) maps for the snapshot `name` over `base_device` and
`cow_device` when every call succeeds: the snapshot target, in the mode the update state asks
for, on `P` when the whole partition is snapshotted, else on `P-inner` under an outer `P` whose
second linear target passes the rest of the base device through. `none` when a size check fails
or the merge has completed globally. -/
def snapshotPlan (state : UpdateState) (name base_device cow_device : String)
    (status : SnapshotStatus) : Option (List (String × Device)) :=
  if status.device_size % kSectorSize ≠ 0 ∨ status.snapshot_size % kSectorSize ≠ 0 ∨
      status.snapshot_size > status.device_size then none
  else (storageModeFor state).map fun mode =>
    let snapshot_sectors := (status.snapshot_size / kSectorSize).toNat
    let linear_sectors := ((status.device_size - status.snapshot_size) / kSectorSize).toNat
    let snap_name := if linear_sectors > 0 then getSnapshotExtraDeviceName name else name
    let snap := (snap_name, mappedDevice snap_name
      [⟨0, snapshot_sectors, .snapshot base_device cow_device mode kSnapshotChunkSize⟩])
    if linear_sectors > 0 then
      [(name, mappedDevice name [⟨0, snapshot_sectors, .linear snap_name 0⟩,
        ⟨snapshot_sectors, linear_sectors, .linear base_device snapshot_sectors⟩]), snap]
    else [snap]

/-- The live snapshot `MapPartitionWithSnapshot` finds for `partition` when every call succeeds
(`snapshot.cpp:1272`): none for a reflashed partition, a missing status file or a completed
merge; `.error` for a status file that does not parse. -/
def liveSnapshot (s : Sys) (partition : Partition) : Except Unit (Option SnapshotStatus) :=
  if !partition.updated then .ok none
  else match lookup s.records partition.name with
    | none => .ok none
    | some contents => match parseStatusLine contents with
      | none => .error ()
      | some status => .ok (if status.state = .MergeCompleted then none else some status)

/-- What `MapPartitionWithSnapshot` maps for `partition` of `metadata` on `super_device` when
every call succeeds: nothing for an empty partition; the partition as `P` without a live
snapshot; with one, the snapshot's devices over the COW devices over the partition as `P-base`.
`none` when it gives up. -/
def stackPlan (s : Sys) (super_device : String) (metadata : List Partition)
    (partition : Partition) : Option (List (String × Device)) :=
  let name := partition.name
  let table := linearTargets super_device 0 partition.extents
  if partition.extents = [] then some []
  else match liveSnapshot s partition with
    | .error _ => none
    | .ok none => some [(name, mappedDevice name table)]
    | .ok (some status) =>
      let base_device := getBaseDeviceName name
      (cowPlan s super_device metadata name status).bind fun (cow_device, cow) =>
        (snapshotPlan s.updateState name base_device cow_device status).map fun snap =>
          snap ++ cow ++ [(base_device, mappedDevice base_device table)]

section Plans

variable {s : Sys} {partition : Partition} {status : SnapshotStatus}

/-- A COW plan reads the images, never the mapped devices. -/
@[simp] theorem cowPlan_addDevices (ds : List (String × Device)) (block_device : String)
    (metadata : List Partition) (name : String) :
    cowPlan (s.addDevices ds) block_device metadata name status =
      cowPlan s block_device metadata name status := rfl

/-- A live snapshot is the parse of the partition's status file, not yet merged. Reference:
`snapshot.cpp:1272`. -/
theorem liveSnapshot_eq_some (h : liveSnapshot s partition = .ok (some status)) :
    (lookup s.records partition.name).bind parseStatusLine = some status ∧
      status.state ≠ .MergeCompleted := by
  unfold liveSnapshot at h
  cases hu : partition.updated
  · simp [hu] at h
  cases hr : lookup s.records partition.name with
  | none => simp [hu, hr] at h
  | some c =>
    cases hp : parseStatusLine c with
    | none => simp [hu, hr, hp] at h
    | some st =>
      by_cases hs : st.state = .MergeCompleted
      · simp [hu, hr, hp, hs] at h
      · simp only [hu, hr, hp, hs, Bool.not_true, Bool.false_eq_true, if_false, Except.ok.injEq,
          Option.some.injEq] at h
        subst h
        exact ⟨hp, hs⟩

/-- The COW devices of a plan are `P-cow` and `P-cow-img`, and the snapshot's COW is one of them.
Reference: `snapshot.cpp:1387`. -/
theorem cowPlan_spec {block_device : String} {metadata : List Partition} {name cow_name : String}
    {cow : List (String × Device)} (h : cowPlan s block_device metadata name status = some (cow_name, cow)) :
    (lookup cow cow_name).isSome ∧ ∀ k ∈ keys cow, k = getCowName name ∨ k = getCowImageDeviceName name := by
  simp only [cowPlan] at h
  split_ifs at h
  · obtain ⟨size, -, h⟩ := Option.bind_eq_some.1 h
    cases h
    simp [lookup, keys]
  · obtain ⟨size, -, h⟩ := Option.bind_eq_some.1 h
    obtain ⟨p, -, h⟩ := Option.map_eq_some'.1 h
    cases h
    simp [lookup, keys]
  · obtain ⟨p, -, h⟩ := Option.map_eq_some'.1 h
    cases h
    simp [lookup, keys]

/-- The devices of a snapshot plan are `P` and `P-inner`. Reference: `snapshot.cpp:301`. -/
theorem snapshotPlan_keys {state : UpdateState} {name base_device cow_device : String}
    {snap : List (String × Device)}
    (h : snapshotPlan state name base_device cow_device status = some snap) :
    ∀ k ∈ keys snap, k = name ∨ k = getSnapshotExtraDeviceName name := by
  simp only [snapshotPlan] at h
  split_ifs at h <;> obtain ⟨mode, -, rfl⟩ := Option.map_eq_some'.1 h <;> simp [keys]

/-- A stack plan reads the status files, the images and the update state, never the mapped
devices. -/
@[simp] theorem stackPlan_addDevices (ds : List (String × Device)) (super_device : String)
    (metadata : List Partition) :
    stackPlan (s.addDevices ds) super_device metadata partition =
      stackPlan s super_device metadata partition := rfl

/-- A stack plan maps only names of the partition's stack. Reference: `snapshot.cpp:1242`. -/
theorem stackPlan_keys {super_device : String} {metadata : List Partition}
    {ds : List (String × Device)} (h : stackPlan s super_device metadata partition = some ds) :
    ∀ k ∈ keys ds, k ∈ stackNames partition.name := by
  obtain ⟨hP, hinner, hcow, himage, hbase⟩ := mem_stackNames partition.name
  simp only [stackPlan] at h
  split_ifs at h
  · cases h
    simp [keys]
  split at h
  · cases h
  · cases h
    simpa [keys] using hP
  · obtain ⟨⟨cow_name, cow⟩, hc, h⟩ := Option.bind_eq_some.1 h
    obtain ⟨snap, hs, rfl⟩ := Option.map_eq_some'.1 h
    intro k hk
    simp only [keys, List.map_append, List.mem_append, List.map_cons, List.map_nil,
      List.mem_singleton] at hk
    rcases hk with (hk | hk) | rfl
    · rcases snapshotPlan_keys hs k hk with rfl | rfl <;> assumption
    · rcases (cowPlan_spec hc).2 k hk with rfl | rfl <;> assumption
    · exact hbase

end Plans

/-! ## Cleanup lists -/

/-- From `t`, running the cleanup list `entries` leaves `s`. -/
def Restores (o : Oracle) (t : Sys) (entries : List AutoDevice) (s : Sys) : Prop :=
  Sure o t (destroyAll entries) fun _ u => u = s

namespace Restores

variable {o : Oracle} {s t : Sys} {entries : List AutoDevice} {name : String}

/-- An empty cleanup list leaves the system as it is. Reference: `utility.cpp:31`. -/
theorem nil (o : Oracle) (s : Sys) : Restores o s [] s := Sure.pure rfl

/-- Erasing a device added under a free name gives back the system before it. Reference: none. -/
theorem erase_addDevices (hfree : lookup t.devices name = none) (d : Device) :
    { t.addDevices [(name, d)] with devices := erase (t.addDevices [(name, d)]).devices name } = t := by
  simp only [Sys.addDevices, List.singleton_append, erase, if_true, List.append_eq, List.nil_append,
    erase_of_lookup_none hfree]

/-- A device mapped on top of what the list already undoes is undone by its unmapping entry.
Reference: `utility.cpp:45`. -/
theorem device (h : Restores o t entries s) (hfree : lookup t.devices name = none) (d : Device) :
    Restores o (t.addDevices [(name, d)]) (.AutoUnmapDevice name :: entries) s := by
  simp only [Restores, destroyAll, AutoDevice.destroy, SM.bind_assoc, SM.pure_bind]
  refine (deleteDeviceIfExists_sure name).bind_eq ?_
  rw [Sys.dropDevice, if_pos (by simp [Sys.lookup_addDevices, lookup]), erase_addDevices hfree]
  exact h

/-- The same for a mapped image and its `AutoUnmapImage` entry. Reference: `utility.cpp:45`. -/
theorem image (h : Restores o t entries s) (hfree : lookup t.devices name = none) (d : Device) :
    Restores o (t.addDevices [(name, d)]) (.AutoUnmapImage name :: entries) s := by
  simp only [Restores, destroyAll, AutoDevice.destroy, SM.bind_assoc, SM.pure_bind]
  refine (unmapImageIfExists_sure name).bind_eq ?_
  rw [erase_addDevices hfree]
  exact h

end Restores

section Cleanup

variable {o : Oracle} {s : Sys}

/-- The scope of a cleanup list: the body's result, and the system its list then leaves. Reference:
`utility.cpp:31`. -/
theorem withAutoDeviceList_sure {α : Type} {body : List AutoDevice → SM (α × List AutoDevice)}
    {post : α → Sys → Prop} (h : Sure o s (body []) fun r t => ∃ u, Restores o t r.2 u ∧ post r.1 u) :
    Sure o s (withAutoDeviceList body) post :=
  h.bind fun _ _ ⟨_, hu, hp⟩ => hu.bind fun _ _ e => e ▸ Sure.pure hp

end Cleanup

section Cow

variable {o : Oracle} {s : Sys}

/-- A `uint64_t` is positive exactly when it is not zero. Reference: none. -/
theorem uint64_pos_iff (x : UInt64) : 0 < x ↔ x ≠ 0 := by
  rw [UInt64.lt_def, BitVec.lt_def]
  exact ⟨fun h e => by simp [e] at h, fun h => Nat.pos_of_ne_zero fun e => h (UInt64.toNat.inj e)⟩

/-- `GetRemainingTime` without a timeout: `0`, whatever the clock says. Reference:
`snapshot.cpp:1225`. -/
theorem getRemainingTime_zero (begin : Int) : getRemainingTime 0 begin = pure 0 := rfl

/-- `CreateDmTable` of a partition looked up by name in metadata already read reads nothing.
Reference: none (fs_mgr's `CreateDmTable`, modelled from the spec). -/
theorem createDmTable_of_metadata (block_device : String) (metadata : List Partition)
    (metadata_slot partition_name device_name : String) (force_writable : Bool) (timeout_ms : Int) :
    createDmTable ⟨block_device, some metadata, metadata_slot, none, partition_name, device_name,
      force_writable, timeout_ms⟩ = pure ((findPartition metadata partition_name).map fun p =>
        linearTargets block_device 0 p.extents) := by
  simp only [createDmTable, CreateLogicalPartitionParams.initDefaults, SM.pure_bind]
  cases findPartition metadata partition_name <;> rfl

/-- A faultless `MapCowDevices` without a timeout maps the COW devices `cowPlan` says, or fails when
it says none, and its cleanup list undoes them. Reference: `snapshot.cpp:1387`. -/
theorem mapCowDevices_sure {lock : LockedFile} {params : CreateLogicalPartitionParams}
    {metadata : List Partition} {status : SnapshotStatus} {created : List AutoDevice}
    (hmeta : params.metadata = some metadata) (ht : params.timeout_ms = 0)
    (hcow : lookup s.devices (getCowName params.getPartitionName) = none)
    (himage : lookup s.devices (getCowImageDeviceName params.getPartitionName) = none)
    (hname : DmName (getCowName params.getPartitionName))
    (hcheck : status.cow_partition_size + status.cow_file_size > 0) :
    Sure o s (mapCowDevices lock params status created) fun r t =>
      (∀ u, Restores o s created u → Restores o t r.2.1 u) ∧
      match cowPlan s params.block_device metadata params.getPartitionName status with
      | some (cow_name, cow) => r.1 = true ∧ r.2.2 = cow_name ∧ t = s.addDevices cow
      | none => r.1 = false := by
  refine ensureImageManager_sure.bind_eq ?_
  simp only [Bool.not_true, Bool.false_eq_true, if_false, SM.pure_bind]
  refine (Sure.CHECK (by simpa using hcheck)).bind_eq ?_
  refine Sure.now.bind fun begin t ht' => ?_
  subst ht'
  simp only [ht, hmeta, getRemainingTime_zero, SM.pure_bind, lt_self_iff_false, if_false,
    createDmTable_of_metadata]
  have hne : getCowImageDeviceName params.getPartitionName ≠ getCowName params.getPartitionName :=
    stackName_ne (by decide)
  by_cases hf : status.cow_file_size > 0
  · rw [if_pos hf]
    refine (mapCowImage_sure 0 himage).bind_eq ?_
    cases hi : lookup t.images (getCowImageDeviceName params.getPartitionName) with
    | none =>
      refine Sure.pure ⟨fun _ h => h, ?_⟩
      simp only [cowPlan, if_pos hf, hi, Option.none_bind]
    | some size =>
      simp only [Option.isSome_some, Bool.not_true, Bool.false_eq_true, if_false, Option.map_some',
        Option.toList_some]
      have hr : ∀ u, Restores o t created u → Restores o (t.addDevices
          [(getCowImageDeviceName params.getPartitionName,
            imageDevice (getCowImageDeviceName params.getPartitionName) size)])
          (.AutoUnmapImage (getCowImageDeviceName params.getPartitionName) :: created) u :=
        fun _ h => h.image himage _
      by_cases hp : status.cow_partition_size = 0
      · rw [if_pos hp]
        refine Sure.pure ⟨hr, ?_⟩
        simp only [cowPlan, if_pos hf, hi, if_pos hp, Option.some_bind, and_self]
      · rw [if_neg hp]
        refine (Sure.CHECK (by simpa using (uint64_pos_iff _).2 hp)).bind_eq ?_
        cases hpart : findPartition metadata (getCowName params.getPartitionName) with
        | none =>
          refine Sure.pure ⟨hr, ?_⟩
          simp only [cowPlan, if_pos hf, hi, if_neg hp, hpart, Option.some_bind, Option.map_none']
        | some cp =>
          simp only [Option.map_some', if_pos hf]
          refine (getDeviceString_sure _).bind_eq ?_
          simp only [Sys.lookup_addDevices, lookup, if_true, Option.map_some']
          have hfree' : lookup (t.addDevices [(getCowImageDeviceName params.getPartitionName,
              imageDevice (getCowImageDeviceName params.getPartitionName) size)]).devices
              (getCowName params.getPartitionName) = none := by
            rw [Sys.lookup_addDevices_of_ne hne, hcow]
          refine (createDeviceTable_sure hname hfree' _ _ (.inl le_rfl)).bind_eq ?_
          refine Sure.pure ⟨fun u h => (hr u h).device hfree' _, ?_⟩
          simp only [cowPlan, if_pos hf, hi, if_neg hp, hpart, Option.some_bind, Option.map_some',
            Sys.addDevices_addDevices, List.singleton_append, and_self]
  · rw [if_neg hf]
    have hz : status.cow_file_size = 0 := by simpa [uint64_pos_iff] using hf
    refine (Sure.CHECK (by simpa [hz, UInt64.add_def] using hcheck)).bind_eq ?_
    cases hpart : findPartition metadata (getCowName params.getPartitionName) with
    | none =>
      refine Sure.pure ⟨fun _ h => h, ?_⟩
      simp only [cowPlan, if_neg hf, hpart, Option.map_none']
    | some cp =>
      simp only [Option.map_some', if_neg hf]
      refine (createDeviceTable_sure hname hcow _ _ (.inl le_rfl)).bind_eq ?_
      refine Sure.pure ⟨fun u h => h.device hcow _, ?_⟩
      simp only [cowPlan, if_neg hf, hpart, Option.map_some', List.append_nil, and_self]

end Cow

section Snapshot

variable {o : Oracle} {s : Sys}

/-- `MapSnapshot` (`snapshot.cpp:301`) with no timeout or every wait within it, for a live snapshot
whose names are free: the devices of `snapshotPlan`, or nothing. Reference: `snapshot.cpp:301`. -/
theorem mapSnapshot_sure {lock : LockedFile} {name base_device cow_device : String}
    {status : SnapshotStatus} (hstatus : (lookup s.records name).bind parseStatusLine = some status)
    (hstate : status.state ≠ .MergeCompleted) (hname : DmName name)
    (hinner : DmName (getSnapshotExtraDeviceName name)) (hfree : lookup s.devices name = none)
    (hfree' : lookup s.devices (getSnapshotExtraDeviceName name) = none) {timeout_ms : Int}
    (htime : timeout_ms ≤ 0 ∨ ∀ k, (o.wait k : Int) ≤ timeout_ms) :
    Sure o s (mapSnapshot lock name base_device cow_device timeout_ms) fun r t =>
      match snapshotPlan s.updateState name base_device cow_device status with
      | some snap => r.1 = true ∧ t = s.addDevices snap
      | none => r.1 = false ∧ t = s := by
  refine ensureImageManager_sure.bind_eq ?_
  simp only [Bool.not_true, Bool.false_eq_true, if_false, SM.pure_bind]
  refine (readSnapshotStatus_sure lock name).bind_eq ?_
  rw [hstatus]
  dsimp only
  rw [if_neg hstate]
  by_cases h₁ : status.device_size % kSectorSize ≠ 0
  · rw [if_pos h₁]
    exact Sure.pure (by rw [snapshotPlan, if_pos (Or.inl h₁)]; exact ⟨rfl, rfl⟩)
  rw [if_neg h₁]
  by_cases h₂ : status.snapshot_size % kSectorSize ≠ 0 ∨ status.snapshot_size > status.device_size
  · rw [if_pos h₂]
    exact Sure.pure (by rw [snapshotPlan, if_pos (Or.inr h₂)]; exact ⟨rfl, rfl⟩)
  rw [if_neg h₂]
  refine (readUpdateState_sure lock).bind_eq ?_
  have hc : ¬(status.device_size % kSectorSize ≠ 0 ∨ status.snapshot_size % kSectorSize ≠ 0 ∨
      status.snapshot_size > status.device_size) := by tauto
  simp only [snapshotPlan, if_neg hc]
  cases storageModeFor s.updateState with
  | none => exact Sure.pure ⟨rfl, rfl⟩
  | some mode =>
    dsimp only [Option.map_some']
    by_cases hl : ((status.device_size - status.snapshot_size) / kSectorSize).toNat > 0
    · simp only [if_pos hl]
      refine (createDeviceTable_sure hinner hfree' _ _ htime).bind_eq ?_
      simp only [Bool.not_true, Bool.false_eq_true, if_false]
      refine (getDeviceString_sure _).bind_eq ?_
      simp only [Sys.lookup_addDevices_self, Option.map_some']
      have hne : getSnapshotExtraDeviceName name ≠ name := (ne_stackName (by decide)).symm
      refine (createDeviceTable_sure hname (by rw [Sys.lookup_addDevices_of_ne hne, hfree])
        _ _ htime).bind_eq ?_
      exact Sure.pure ⟨rfl, by simp only [Sys.addDevices_addDevices, List.singleton_append]⟩
    · simp only [if_neg hl]
      refine (createDeviceTable_sure hname hfree _ _ htime).bind_eq ?_
      exact Sure.pure ⟨rfl, rfl⟩

end Snapshot

section Partition

variable {o : Oracle} {s : Sys}

/-- A faultless `do { ... } while (0)` of `MapPartitionWithSnapshot` returns the partition's live
snapshot. Reference: `snapshot.cpp:1272`. -/
theorem liveSnapshotStatus_sure (lock : LockedFile) (partition : Partition) :
    Sure o s (liveSnapshotStatus lock partition) fun r t => r = liveSnapshot s partition ∧ t = s := by
  unfold liveSnapshotStatus liveSnapshot
  cases partition.updated
  · exact Sure.pure ⟨rfl, rfl⟩
  refine Sure.ioCall.bind_eq ?_
  simp only [Bool.not_true, Bool.false_eq_true, if_false, SM.pure_bind]
  refine Sure.sys.bind_eq ?_
  cases hr : lookup s.records partition.name with
  | none => exact Sure.pure ⟨rfl, rfl⟩
  | some contents =>
    simp only [Option.isNone_some, Bool.false_eq_true, if_false, SM.pure_bind]
    refine (readSnapshotStatus_sure lock _).bind_eq ?_
    rw [hr, Option.some_bind]
    cases parseStatusLine contents with
    | none => exact Sure.pure ⟨rfl, rfl⟩
    | some status =>
      dsimp only
      split <;> exact Sure.pure ⟨by simp only [*, if_true, if_false], rfl⟩

section Params

/-- `InitDefaults` of parameters that carry the metadata and the partition reads nothing. Reference:
none (`InitDefaults`, modelled from the spec). -/
theorem initDefaults_mk (block_device : String) (metadata : List Partition)
    (metadata_slot : String) (partition : Partition) (partition_name device_name : String)
    (force_writable : Bool) (timeout_ms : Int) :
    CreateLogicalPartitionParams.initDefaults ⟨block_device, some metadata, metadata_slot,
      some partition, partition_name, device_name, force_writable, timeout_ms⟩ =
    pure (some ⟨block_device, some metadata, metadata_slot, some partition, partition.name,
      device_name, force_writable, timeout_ms⟩) := rfl

/-- `CreateDmTable` of such parameters: the linear table of the partition's extents. Reference: none
(fs_mgr's `CreateDmTable`, modelled from the spec). -/
theorem createDmTable_mk (block_device : String) (metadata : List Partition)
    (metadata_slot : String) (partition : Partition) (partition_name device_name : String)
    (force_writable : Bool) (timeout_ms : Int) :
    createDmTable ⟨block_device, some metadata, metadata_slot, some partition, partition_name,
      device_name, force_writable, timeout_ms⟩ =
    pure (some (linearTargets block_device 0 partition.extents)) := rfl

variable {p : CreateLogicalPartitionParams} {metadata : List Partition} {partition : Partition}

/-- `CreateLogicalPartition` (fs_mgr) of a partition already found, without a timeout, under a free
name: the partition's extents in super are mapped as `GetDeviceName()`. Reference: none (fs_mgr's
`CreateLogicalPartition`, modelled from the spec). -/
theorem createLogicalPartition_sure {o : Oracle} {s : Sys} (hmeta : p.metadata = some metadata)
    (hpart : p.partition = some partition) (ht : p.timeout_ms ≤ 0) (hname : DmName p.getDeviceName)
    (hfree : lookup s.devices p.getDeviceName = none) :
    Sure o s (createLogicalPartition p) fun r t => r.1 = true ∧
      t = s.addDevices [(p.getDeviceName,
        mappedDevice p.getDeviceName (linearTargets p.block_device 0 partition.extents))] := by
  obtain ⟨_, _, _, _, _, _, _, _⟩ := p
  cases hmeta
  cases hpart
  simp only [createLogicalPartition, initDefaults_mk, createDmTable_mk, SM.pure_bind]
  exact (createDeviceTable_sure hname hfree _ _ (.inl ht)).mono fun r t h => ⟨by rw [h.1], h.2⟩

end Params

/-- A faultless `MapPartitionWithSnapshot` without a timeout maps the stack `stackPlan` says, or
fails and leaves the system as it was. Reference: `snapshot.cpp:1242`. -/
theorem mapPartitionWithSnapshot_sure {lock : LockedFile} {super_device : String}
    {metadata : List Partition} {partition : Partition} (hpos : 0 < partition.name.length)
    (hlen : partition.name.length + 6 < DM_NAME_LEN)
    (hfree : ∀ n ∈ stackNames partition.name, lookup s.devices n = none)
    (hcheck : ∀ status, liveSnapshot s partition = .ok (some status) →
      status.cow_partition_size + status.cow_file_size > 0) :
    Sure o s (mapPartitionWithSnapshot lock
        { block_device := super_device, metadata := some metadata, partition := some partition })
      fun r t => r.1 = (stackPlan s super_device metadata partition).isSome ∧
        t = s.addDevices ((stackPlan s super_device metadata partition).getD []) := by
  refine Sure.now.bind fun begin t ht => ?_
  subst ht
  have hdev : CreateLogicalPartitionParams.getDeviceName
      { block_device := super_device, metadata := some metadata, partition := some partition } =
      partition.name := rfl
  dsimp only
  simp only [hdev, CreateLogicalPartitionParams.getPartitionName, ne_eq, not_true_eq_false,
    if_false, initDefaults_mk, SM.pure_bind]
  by_cases he : partition.extents = []
  · rw [if_pos he]
    exact Sure.pure (by simp [stackPlan, he])
  rw [if_neg he]
  obtain ⟨hP, hinner, hcow, himage, hbase⟩ := mem_stackNames partition.name
  refine (liveSnapshotStatus_sure lock partition).bind_eq ?_
  cases hl : liveSnapshot t partition with
  | error e => exact Sure.pure (by simp [stackPlan, he, hl])
  | ok live =>
    refine withAutoDeviceList_sure ?_
    have hd := stackNames_distinct partition.name
    cases live with
    | none =>
      dsimp only
      have hname : DmName partition.name := ⟨hpos, by omega⟩
      refine (createLogicalPartition_sure rfl rfl le_rfl (by exact hname)
        (by exact hfree _ hP)).bind fun r u ⟨hr, hu⟩ => ?_
      rw [hr]
      exact Sure.pure ⟨u, Restores.nil o u, by simp [stackPlan, he, hl], by
        rw [hu]
        simp only [stackPlan, he, hl, if_false, Option.getD_some]
        rfl⟩
    | some status =>
      dsimp only
      have hbaseName : DmName (getBaseDeviceName partition.name) := by
        have h5 : "-base".length = 5 := rfl
        constructor <;> simp only [getBaseDeviceName, String.length_append, h5] <;> omega
      have hdevB : CreateLogicalPartitionParams.getDeviceName
          { block_device := super_device, metadata := some metadata, partition := some partition,
            partition_name := partition.name, device_name := getBaseDeviceName partition.name,
            force_writable := true } = getBaseDeviceName partition.name := by
        simp only [CreateLogicalPartitionParams.getDeviceName,
          isEmpty_of_length_pos hbaseName.1, Bool.false_eq_true, if_false]
      refine (createLogicalPartition_sure rfl rfl le_rfl (by rw [hdevB]; exact hbaseName)
        (by rw [hdevB]; exact hfree _ hbase)).bind fun r t₁ ⟨hr, ht₁⟩ => ?_
      rw [hdevB] at ht₁
      subst ht₁
      simp only [hr, hdevB, Bool.not_true, Bool.false_eq_true, if_false]
      refine (getDeviceString_sure _).bind_eq ?_
      simp only [Sys.lookup_addDevices_self, Option.map_some', getRemainingTime_zero, SM.pure_bind,
        lt_self_iff_false, if_false]
      obtain ⟨hst, hstate⟩ := liveSnapshot_eq_some hl
      obtain ⟨-, hPC, hPI, hPB, hIC, hII, hIB', -, hCB, hIB⟩ := hd
      have hR : Restores o (t.addDevices [(getBaseDeviceName partition.name,
          mappedDevice (getBaseDeviceName partition.name) (linearTargets super_device 0 partition.extents))])
          [.AutoUnmapDevice (getBaseDeviceName partition.name)] t :=
        (Restores.nil o t).device (hfree _ hbase) _
      have hcowName : DmName (getCowName partition.name) := by
        have h4 : "-cow".length = 4 := rfl
        constructor <;> simp only [getCowName, String.length_append, h4] <;> omega
      refine (mapCowDevices_sure rfl rfl
        (by exact (Sys.lookup_addDevices_of_ne hCB.symm _).trans (hfree _ hcow))
        (by exact (Sys.lookup_addDevices_of_ne hIB.symm _).trans (hfree _ himage))
        (by exact hcowName) (hcheck status hl)).bind fun r t₂ ⟨hres, hplan⟩ => ?_
      simp only [cowPlan_addDevices, CreateLogicalPartitionParams.getPartitionName] at hplan
      obtain ⟨ok, created, cow_name⟩ := r
      cases hcp : cowPlan t super_device metadata partition.name status with
      | none =>
        rw [hcp] at hplan
        dsimp only at hplan ⊢
        subst hplan
        exact Sure.pure ⟨t, hres t hR, by simp [stackPlan, he, hl, hcp], by simp [stackPlan, he, hl, hcp]⟩
      | some pc =>
        obtain ⟨cow_name', cow⟩ := pc
        rw [hcp] at hplan
        obtain ⟨hok, hcn, ht₂⟩ := hplan
        dsimp only at hok hcn ⊢
        subst hok hcn ht₂
        simp only [Bool.not_true, Bool.false_eq_true, if_false]
        obtain ⟨hsome, hkeys⟩ := cowPlan_spec hcp
        obtain ⟨d, hdc⟩ := Option.isSome_iff_exists.1 hsome
        refine (getDeviceString_sure _).bind_eq ?_
        simp only [Sys.lookup_addDevices, hdc, Option.or_some, Option.map_some', getRemainingTime_zero,
          SM.pure_bind, lt_self_iff_false, if_false]
        have hout : ∀ n, n ≠ getCowName partition.name → n ≠ getCowImageDeviceName partition.name →
            n ∉ keys cow := fun n h₁ h₂ h => (hkeys n h).elim h₁ h₂
        have hinnerName : DmName (getSnapshotExtraDeviceName partition.name) := by
          have h6 : "-inner".length = 6 := rfl
          constructor <;> simp only [getSnapshotExtraDeviceName, String.length_append, h6] <;> omega
        refine (mapSnapshot_sure (by exact hst) hstate ⟨hpos, by omega⟩ hinnerName ?_ ?_
          (.inl le_rfl)).bind
          fun r t₃ hsnap => ?_
        · rw [Sys.lookup_addDevices_of_not_mem (hout _ hPC hPI), Sys.lookup_addDevices_of_ne hPB.symm,
            hfree _ hP]
        · rw [Sys.lookup_addDevices_of_not_mem (hout _ hIC hII), Sys.lookup_addDevices_of_ne hIB'.symm,
            hfree _ hinner]
        simp only [Sys.addDevices_updateState] at hsnap
        obtain ⟨ok, path⟩ := r
        cases hsp : snapshotPlan t.updateState partition.name (getBaseDeviceName partition.name) cow_name
          status with
        | none =>
          rw [hsp] at hsnap
          obtain ⟨hok, ht₃⟩ := hsnap
          dsimp only at hok ⊢
          subst hok ht₃
          exact Sure.pure ⟨t, hres t hR, by simp [stackPlan, he, hl, hcp, hsp],
            by simp [stackPlan, he, hl, hcp, hsp]⟩
        | some snap =>
          rw [hsp] at hsnap
          obtain ⟨hok, ht₃⟩ := hsnap
          dsimp only at hok ⊢
          subst hok ht₃
          exact Sure.pure ⟨_, Restores.nil o _, by simp [stackPlan, he, hl, hcp, hsp],
            by simp [stackPlan, he, hl, hcp, hsp, List.append_assoc]⟩


/-! ## Every partition of the slot -/

/-- What `MapPartitionWithSnapshot` needs of a partition to build its stack in `s` when every
call succeeds: a name `CreateDevice` accepts with each of its suffixes, a free stack, and a COW
for its live snapshot (`MapCowDevices` checks one). -/
structure Mappable (s : Sys) (partition : Partition) : Prop where
  pos : 0 < partition.name.length
  len : partition.name.length + 6 < DM_NAME_LEN
  free : ∀ n ∈ stackNames partition.name, lookup s.devices n = none
  cow : ∀ status, liveSnapshot s partition = .ok (some status) →
    status.cow_partition_size + status.cow_file_size > 0

/-- Devices mapped outside a partition's stack leave it mappable. Reference: none. -/
theorem Mappable.addDevices {partition : Partition} {ds : List (String × Device)}
    (h : Mappable s partition) (hout : ∀ k ∈ keys ds, k ∉ stackNames partition.name) :
    Mappable (s.addDevices ds) partition :=
  ⟨h.pos, h.len, fun n hn => by
    rw [Sys.lookup_addDevices_of_not_mem fun hk => hout n hk hn, h.free n hn], h.cow⟩

/-- What the loop of `CreateLogicalAndSnapshotPartitions` (`snapshot.cpp:1202`) maps when every
call succeeds: the stack of each partition outside the COW group in turn, and whether it got to
the end. At the first partition whose plan fails it stops, that partition's devices gone and those
of the partitions before it still mapped. -/
def allPlan (s : Sys) (super_device : String) (metadata : List Partition) :
    List Partition → Bool × List (String × Device)
  | [] => (true, [])
  | partition :: partitions =>
    if partition.group = kCowGroupName then allPlan s super_device metadata partitions
    else match stackPlan s super_device metadata partition with
      | none => (false, [])
      | some ds =>
        let rest := allPlan s super_device metadata partitions
        (rest.1, rest.2 ++ ds)

@[simp] theorem allPlan_addDevices (ds : List (String × Device)) (super_device : String)
    (metadata partitions : List Partition) :
    allPlan (s.addDevices ds) super_device metadata partitions =
      allPlan s super_device metadata partitions := by
  induction partitions with
  | nil => rfl
  | cons partition partitions ih => simp only [allPlan, stackPlan_addDevices, ih]

/-- Two partitions the loop maps have separate stacks. -/
def StacksApart (p q : Partition) : Prop :=
  p.group ≠ kCowGroupName → q.group ≠ kCowGroupName → Separate p.name q.name

/-- The loop of `CreateLogicalAndSnapshotPartitions` maps the partitions' stacks in turn, as
`allPlan` says. Reference: `snapshot.cpp:1202`. -/
theorem mapAllPartitions_sure (lock : LockedFile) (super_device : String)
    (metadata : List Partition) :
    ∀ {partitions : List Partition} {s : Sys}, partitions.Pairwise StacksApart →
      (∀ p ∈ partitions, p.group ≠ kCowGroupName → Mappable s p) →
      Sure o s (mapAllPartitions lock super_device metadata partitions) fun r t =>
        r = (allPlan s super_device metadata partitions).1 ∧
          t = s.addDevices (allPlan s super_device metadata partitions).2
  | [], _, _, _ => Sure.pure ⟨rfl, rfl⟩
  | partition :: partitions, s, hsep, hmap => by
    obtain ⟨hhead, htail⟩ := List.pairwise_cons.1 hsep
    have hrest := fun {t : Sys} (ht : ∀ p ∈ partitions, p.group ≠ kCowGroupName → Mappable t p) =>
      mapAllPartitions_sure lock super_device metadata (s := t) htail ht
    simp only [mapAllPartitions, allPlan]
    by_cases hg : partition.group = kCowGroupName
    · simp only [if_pos hg]
      exact (hrest fun p hp => hmap p (.tail _ hp)).bind fun _ _ h => Sure.pure h
    simp only [if_neg hg]
    have ⟨hpos, hlen, hfree, hcow⟩ := hmap partition (.head _) hg
    refine (mapPartitionWithSnapshot_sure hpos hlen hfree hcow).bind fun r t ⟨hr, ht⟩ => ?_
    obtain ⟨ok, path⟩ := r
    dsimp only at hr ⊢
    cases hs : stackPlan s super_device metadata partition with
    | none =>
      rw [hs] at hr ht
      subst hr ht
      exact Sure.pure ⟨rfl, rfl⟩
    | some ds =>
      rw [hs] at hr ht
      subst hr ht
      simp only [Option.isSome_some, Option.getD_some, Bool.not_true, Bool.false_eq_true, if_false]
      refine (hrest fun p hp hpg => (hmap p (.tail _ hp) hpg).addDevices fun k hk hkp =>
        hhead p hp hg hpg k (stackPlan_keys hs k hk) hkp).mono fun r t ⟨hr, ht⟩ => ?_
      rw [allPlan_addDevices] at hr ht
      exact ⟨hr, by rw [ht, Sys.addDevices_addDevices]⟩

/-- `CreateLogicalAndSnapshotPartitions` (`snapshot.cpp:1188`), when every call succeeds, over a
slot whose partitions have distinct names, each ending in a slot suffix: it maps the stacks of
`allPlan`, every one of them on success, and on failure those of the partitions before the one that
failed. Reference: `snapshot.cpp:1188`. -/
theorem createLogicalAndSnapshotPartitions_maps_plans {super_device : String}
    (hnodup : ((s.metadata s.slot).map (·.name)).Nodup)
    (hnames : ∀ p ∈ s.metadata s.slot, p.group ≠ kCowGroupName →
      ∃ q, ∃ suffix ∈ ["_a", "_b"], p.name = q ++ suffix)
    (hmap : ∀ p ∈ s.metadata s.slot, p.group ≠ kCowGroupName → Mappable s p) :
    Sure o s (createLogicalAndSnapshotPartitions super_device) fun r t =>
      r = (allPlan s super_device (s.metadata s.slot) (s.metadata s.slot)).1 ∧
        t = s.addDevices (allPlan s super_device (s.metadata s.slot) (s.metadata s.slot)).2 := by
  have hsep : (s.metadata s.slot).Pairwise StacksApart :=
    (List.pairwise_map.1 hnodup).imp_of_mem fun {p q} hp hq hne hpg hqg => by
      obtain ⟨p', u, hu, hpu⟩ := hnames p hp hpg
      obtain ⟨q', v, hv, hqv⟩ := hnames q hq hqg
      exact stackNames_separate ⟨p', hpu⟩ ⟨q', hqv⟩ hu hv hne
  refine locked_sure lockExclusive_sure ?_
  refine Sure.sys.bind fun _ t ⟨ha, ht⟩ => ?_
  subst ha ht
  exact (readMetadata_sure _).bind_eq (mapAllPartitions_sure _ _ _ hsep hmap)

/-- `system_b`, whose snapshot is live, is the only partition of slot `_b` in `snapshotWorld`.
Reference: `snapshot.cpp:1188`. -/
theorem snapshotWorld_maps_plans :
    Mappable (snapshotWorld {}).sys snapshotPartition ∧
    (allPlan (snapshotWorld {}).sys "super" [snapshotPartition] [snapshotPartition]).1 = true ∧
    Sure {} (snapshotWorld {}).sys (createLogicalAndSnapshotPartitions "super") fun r t =>
      r = (allPlan (snapshotWorld {}).sys "super" [snapshotPartition] [snapshotPartition]).1 ∧
        t = (snapshotWorld {}).sys.addDevices
          (allPlan (snapshotWorld {}).sys "super" [snapshotPartition] [snapshotPartition]).2 :=
  have hmap : Mappable (snapshotWorld {}).sys snapshotPartition :=
    ⟨by decide, by decide, fun _ _ => rfl, fun status h => by
      simp [liveSnapshot, snapshotWorld, snapshotPartition, lookup] at h
      obtain ⟨-, rfl⟩ := h
      decide⟩
  ⟨hmap, by decide, createLogicalAndSnapshotPartitions_maps_plans (by decide)
    (fun p hp _ => ⟨"system", "_b", by decide, by simp [snapshotWorld] at hp; subst hp; rfl⟩)
    (fun p hp _ => by simp [snapshotWorld] at hp; subst hp; exact hmap)⟩

end Partition

end LibSnapshot
