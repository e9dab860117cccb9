import LibSnapshot.Proof.Initiate

/-!
# Completing the merge when every call succeeds

Once the kernel has drained a `snapshot-merge` target, the poll `CheckTargetMergeState`
(`snapshot.cpp:805`) records `MergeCompleted` and `OnSnapshotMergeComplete` (`snapshot.cpp:915`)
collapses the partition's stack: `CollapseSnapshotDevice` (`snapshot.cpp:949`) loads the
partition's linear table from the live slot's metadata into `P` and deletes `P-inner` and
`P-base`, and `DeleteSnapshot` (`snapshot.cpp:462`) unmaps the COW devices, deletes the COW
image and the status file.

`drainedTarget` is what the code checks on that path, and `completeMerge` what it then does to
the system: `P` becomes the plain linear device of its partition, and nothing else of the
snapshot remains.

`checkTargetMergeState_sure`: when every call succeeds, the check of a drained snapshot whose
stack can be collapsed returns `MergeCompleted` and leaves the snapshot completed. Like a switch,
a completion stays within its snapshot's stack (`completeMerge_stackLocal`), which the poll of
every snapshot builds on.
-/

namespace LibSnapshot

open SM DeviceMapper SnapshotManager

/-! ## What completing a snapshot does -/

/-- A device holding a single `snapshot-merge` target whose merge has drained: the kernel reports
as many sectors allocated as metadata sectors (`snapshot.cpp:851`). -/
def Device.drained (d : Device) : Bool :=
  match d.table, d.status with
  | [t], some (sectors_allocated, metadata_sectors) =>
    getTargetType t == "snapshot-merge" && sectors_allocated == metadata_sectors
  | _, _ => false

/-- The outer table of a partition snapshotted only in part, as `CollapseSnapshotDevice` checks
it (`snapshot.cpp:979`): two linear targets, the first over the snapshot's sectors, together over
the partition's. -/
def outerTableOk (status : SnapshotStatus) (outer : Device) : Bool :=
  match outer.table with
  | [t0, t1] => getTargetType t0 == "linear" && getTargetType t1 == "linear" &&
      t0.length == (status.snapshot_size / kSectorSize).toNat &&
      (status.device_size / kSectorSize).toNat == t0.length + t1.length
  | _ => false

/-- What `CollapseSnapshotDevice(name, status)` (`snapshot.cpp:949`) checks beyond the drained
target: the snapshot's sectors are whole, the outer table of a partition snapshotted only in part
is sound, and the live slot's metadata has the partition. It gives the device `P` and the linear
table that replaces the snapshot. -/
def collapsePlan (s : Sys) (name : String) (status : SnapshotStatus) :
    Option (Device × List DmTarget) :=
  if status.snapshot_size / kSectorSize * kSectorSize = status.snapshot_size ∧
      (getSnapshotDeviceName name status ≠ name →
        (lookup s.devices name).map (outerTableOk status) = some true) then
    (lookup s.devices name).bind fun dP =>
      (findPartition (s.metadata s.slot) name).map fun p =>
        (dP, linearTargets LP_METADATA_DEFAULT_PARTITION_NAME 0 p.extents)
  else none

/-- What the poll finds for a snapshot whose merge has drained and whose stack can be collapsed:
its status, the device `P`, and the linear table of the partition in the live slot's metadata
that replaces the snapshot. -/
def drainedTarget (s : Sys) (name : String) : Option (SnapshotStatus × Device × List DmTarget) :=
  ((lookup s.records name).bind parseStatusLine).bind fun status =>
    if (lookup s.devices (getSnapshotDeviceName name status)).map Device.drained = some true then
      (collapsePlan s name status).map fun (dP, table) => (status, dP, table)
    else none

/-- A drained snapshot completed: `P` holds its partition's linear table; `P-inner` when it held
the snapshot, `P-base`, `P-cow` and `P-cow-img` are gone, and so are the COW image and the status
file. Any other snapshot is left as it was. -/
def completeMerge (s : Sys) (name : String) : Sys :=
  match drainedTarget s name with
  | none => s
  | some (status, dP, table) =>
    let dm_name := getSnapshotDeviceName name status
    let devices := insert s.devices name { dP with table := table, inactive := none }
    let devices := if dm_name ≠ name then erase devices dm_name else devices
    { s with
      devices := (erase (erase (erase devices (getBaseDeviceName name)) (getCowName name))
        (getCowImageDeviceName name))
      images := (erase s.images (getCowImageDeviceName name))
      records := (erase s.records name) }

/-! ## A completion stays within its snapshot's stack -/

section Stack

variable {s t : Sys} {name : String}

/-- The collapse plan of `name` depends only on `P`, the live slot and the metadata. Reference:
`snapshot.cpp:949`. -/
theorem collapsePlan_congr (status : SnapshotStatus)
    (hP : lookup s.devices name = lookup t.devices name) (hslot : s.slot = t.slot)
    (hm : s.metadata = t.metadata) : collapsePlan s name status = collapsePlan t name status := by
  simp only [collapsePlan, hP, hslot, hm]

/-- What the poll finds for a drained snapshot depends only on its stack. Reference: none. -/
theorem drainedTarget_congr (h : s.AgreeOn (· ∈ stackNames name) t) :
    drainedTarget s name = drainedTarget t name := by
  have hdm := fun status => h.devices (getSnapshotDeviceName_mem name status)
  have hplan := fun status =>
    collapsePlan_congr status (h.devices (mem_stackNames name).1) h.slot h.metadata
  simp only [drainedTarget, h.records (mem_stackNames name).1, hdm, hplan]

/-- A completion changes nothing outside its snapshot's stack. Reference: none. -/
theorem completeMerge_outside (s : Sys) (name : String) :
    s.Outside (· ∈ stackNames name) (completeMerge s name) := by
  unfold completeMerge
  split
  · exact .refl s
  · rename_i status dP table _
    refine ⟨rfl, fun n hn => ?_⟩
    have hne : ∀ m ∈ stackNames name, m ≠ n := fun m hm e => hn (e ▸ hm)
    obtain ⟨h₀, h₁, h₂, h₃, h₄⟩ := mem_stackNames name
    simp only [Sys.entry, lookup_erase, if_neg (hne _ h₀), if_neg (hne _ h₂), if_neg (hne _ h₃),
      if_neg (hne _ h₄)]
    split_ifs <;>
      simp only [lookup_erase, lookup_insert, if_neg (hne _ h₀),
        if_neg (hne _ (getSnapshotDeviceName_mem name status)), if_false]

/-- On the snapshot's stack, a completion's result depends only on what the stack held. Reference:
none. -/
theorem completeMerge_here (h : s.AgreeOn (· ∈ stackNames name) t) :
    ∀ n ∈ stackNames name, (completeMerge s name).entry n = (completeMerge t name).entry n := by
  intro n hn
  have hentry := h.entry n hn
  simp only [Sys.entry, Prod.mk.injEq] at hentry ⊢
  unfold completeMerge
  rw [drainedTarget_congr h]
  split
  · exact hentry
  · dsimp only
    split_ifs <;> simp only [lookup_erase, lookup_insert, hentry, and_self]

/-- A completion is stack-local. Reference: none. -/
theorem completeMerge_stackLocal : StackLocal completeMerge :=
  ⟨completeMerge_outside, completeMerge_here⟩

/-- A completion removes the snapshot's status file, and no other. Reference: none. -/
theorem lookup_completeMerge_records (s : Sys) (name k : String) :
    lookup (completeMerge s name).records k =
      if (drainedTarget s name).isSome ∧ name = k then none else lookup s.records k := by
  unfold completeMerge
  split <;> rename_i h <;> simp only [h, Option.isSome_none, Option.isSome_some, Bool.false_eq_true,
    false_and, true_and, if_false, lookup_erase]

end Stack

/-! ## The calls on a drained snapshot -/

section Drained

variable {o : Oracle} {s : Sys}

/-- A drained device holds one `snapshot-merge` target whose two counters are equal. Reference:
`snapshot.cpp:851`. -/
theorem Device.drained_spec {d : Device} (h : d.drained = true) :
    ∃ t c, d.table = [t] ∧ getTargetType t = "snapshot-merge" ∧ d.status = some (c, c) := by
  unfold Device.drained at h
  split at h
  · rename_i t a m htab hst
    simp only [Bool.and_eq_true, beq_iff_eq] at h
    exact ⟨t, a, htab, h.1, by rw [hst, h.2]⟩
  · exact absurd h Bool.false_ne_true

/-- A `snapshot-merge` target is a snapshot target, whose devices its parameters give. Reference:
none (libdm's `GetDevicesFromParams`, modelled from the spec). -/
theorem getDevicesFromParams_of_merge {t : DmTarget} (h : getTargetType t = "snapshot-merge") :
    ∃ base_device cow_device, getDevicesFromParams t = some (base_device, cow_device) := by
  obtain ⟨start, length, kind⟩ := t
  cases kind with
  | linear =>
    have hne : ("linear" : String) ≠ "snapshot-merge" := by decide
    exact absurd h hne
  | snapshot base_device cow_device => exact ⟨base_device, cow_device, rfl⟩

/-- `QuerySnapshotStatus` reports a drained device as a `snapshot-merge` target with equal counters.
Reference: `snapshot.cpp:661`. -/
theorem Device.drained_query {d : Device} (h : d.drained = true) :
    ∃ c, snapshotStatusOf (some d) = some ("snapshot-merge", c, c) := by
  obtain ⟨t, c, htab, htype, hst⟩ := Device.drained_spec h
  refine ⟨c, ?_⟩
  simp [snapshotStatusOf, snapshotTargetOf, singleTarget, htab, Option.filter, htype, hst]

/-- A drained device is one `IsSnapshotDevice` recognises. Reference: `snapshot.cpp:646`. -/
theorem Device.drained_target {d : Device} (h : d.drained = true) :
    (snapshotTargetOf (some d)).isSome := by
  obtain ⟨c, hq⟩ := Device.drained_query h
  cases ht : snapshotTargetOf (some d) with
  | none => simp only [snapshotStatusOf, ht, Option.none_bind, reduceCtorEq] at hq
  | some _ => rfl

/-- An outer table that passes the checks of `CollapseSnapshotDevice`: two linear targets, the first
of the snapshot's sectors, the device's sectors in all. Reference: `snapshot.cpp:988`. -/
theorem outerTableOk_spec {status : SnapshotStatus} {outer : Device}
    (h : outerTableOk status outer = true) :
    ∃ t0 t1, outer.table = [t0, t1] ∧ getTargetType t0 = "linear" ∧ getTargetType t1 = "linear" ∧
      t0.length = (status.snapshot_size / kSectorSize).toNat ∧
      (status.device_size / kSectorSize).toNat = t0.length + t1.length := by
  unfold outerTableOk at h
  split at h
  · rename_i t0 t1 htab
    simp only [Bool.and_eq_true, beq_iff_eq] at h
    exact ⟨t0, t1, htab, h.1.1.1, h.1.1.2, h.1.2, h.2⟩
  · exact absurd h Bool.false_ne_true

/-- The system `CollapseSnapshotDevice` leaves: `P` loaded with the partition's linear table,
then `P-inner` deleted when it held the snapshot, then `P-base` deleted. -/
def collapsed (s : Sys) (name dm_name : String) (dP : Device) (table : List DmTarget) : Sys :=
  let loaded : Sys := { s with devices := (insert (insert s.devices name
    { dP with inactive := some table }) name { dP with table := table, inactive := none }) }
  (if dm_name ≠ name then loaded.dropDevice dm_name else loaded).dropDevice (getBaseDeviceName name)

@[simp] theorem collapsed_shell (s : Sys) (name dm_name : String) (dP : Device)
    (table : List DmTarget) : (collapsed s name dm_name dP table).shell = s.shell := by
  unfold collapsed
  split <;> simp only [Sys.dropDevice_shell] <;> rfl

@[simp] theorem collapsed_records (s : Sys) (name dm_name : String) (dP : Device)
    (table : List DmTarget) : (collapsed s name dm_name dP table).records = s.records := by
  unfold collapsed
  split <;> simp only [Sys.dropDevice_records]

@[simp] theorem collapsed_images (s : Sys) (name dm_name : String) (dP : Device)
    (table : List DmTarget) : (collapsed s name dm_name dP table).images = s.images := by
  unfold collapsed
  split <;> simp only [Sys.dropDevice_images]

@[simp] theorem lookup_collapsed (s : Sys) (name dm_name : String) (dP : Device)
    (table : List DmTarget) (k : String) :
    lookup (collapsed s name dm_name dP table).devices k =
      if getBaseDeviceName name = k then none else if dm_name ≠ name ∧ dm_name = k then none
      else if name = k then some { dP with table := table, inactive := none }
      else lookup s.devices k := by
  unfold collapsed
  by_cases hdm : dm_name = name <;>
    simp only [hdm, ne_eq, not_true_eq_false, not_false_eq_true, if_true, if_false, false_and,
      true_and, Sys.lookup_dropDevice, lookup_insert] <;> split_ifs <;> rfl

/-- The checks of `collapsePlan`, one by one. Reference: `snapshot.cpp:949`. -/
theorem collapsePlan_spec {name : String} {status : SnapshotStatus} {dP : Device}
    {table : List DmTarget} (h : collapsePlan s name status = some (dP, table)) :
    status.snapshot_size / kSectorSize * kSectorSize = status.snapshot_size ∧
    (getSnapshotDeviceName name status ≠ name →
      (lookup s.devices name).map (outerTableOk status) = some true) ∧
    lookup s.devices name = some dP ∧
    (findPartition (s.metadata s.slot) name).map
      (fun p => linearTargets LP_METADATA_DEFAULT_PARTITION_NAME 0 p.extents) = some table := by
  unfold collapsePlan at h
  split_ifs at h with hc
  obtain ⟨dP', hP, hm⟩ := Option.bind_eq_some.1 h
  obtain ⟨p, hp, he⟩ := Option.map_eq_some'.1 hm
  obtain ⟨rfl, rfl⟩ := Prod.mk.inj he
  exact ⟨hc.1, hc.2, hP, by rw [hp]; rfl⟩

/-- A faultless `CollapseSnapshotDevice` of a drained snapshot with a collapse plan leaves the
collapsed stack. Reference: `snapshot.cpp:949`. -/
theorem collapseSnapshotDevice_sure {name : String} {status : SnapshotStatus} {d dP : Device}
    {table : List DmTarget}
    (hd : lookup s.devices (getSnapshotDeviceName name status) = some d) (hdr : d.drained = true)
    (hplan : collapsePlan s name status = some (dP, table)) :
    Sure o s (collapseSnapshotDevice name status) fun r t => r = true ∧
      t = collapsed s name (getSnapshotDeviceName name status) dP table := by
  obtain ⟨hsz, hout, hP, ht⟩ := collapsePlan_spec hplan
  obtain ⟨t, c, htab, htype, hst⟩ := Device.drained_spec hdr
  obtain ⟨base_device, cow_device, hp⟩ := getDevicesFromParams_of_merge htype
  refine (getSingleTarget_sure _ _).bind_eq ?_
  simp only [hd, singleTarget, htab, htype, ne_eq, not_true_eq_false, if_false, hp, hsz,
    SM.pure_bind]
  by_cases hdm : getSnapshotDeviceName name status = name
  · simp only [hdm, not_true_eq_false, if_false, SM.pure_bind]
    refine Sure.sys.bind_eq ((createDmTable_sure _ _).bind_eq ?_)
    rw [ht]
    refine (loadTableAndActivate_sure hP table).bind_eq ?_
    simp only [Bool.not_true, Bool.false_eq_true, if_false, SM.pure_bind]
    refine (deleteDeviceIfExists_sure _).bind_eq (Sure.pure ⟨rfl, ?_⟩)
    simp only [collapsed, hdm, ne_eq, not_true_eq_false, if_false]
  · obtain ⟨t0, t1, houter, h0, h1, hlen, hsum⟩ := outerTableOk_spec (by simpa [hP] using hout hdm)
    simp only [hdm, not_false_eq_true, if_true]
    refine (getTable_sure name).bind_eq ?_
    simp only [hP, houter, Option.map_some', List.map_cons, List.map_nil, h0, h1, hlen, hsum,
      not_true_eq_false, or_self, if_false, SM.pure_bind]
    refine Sure.sys.bind_eq ((createDmTable_sure _ _).bind_eq ?_)
    rw [ht]
    refine (loadTableAndActivate_sure hP table).bind_eq ?_
    simp only [Bool.not_true, Bool.false_eq_true, if_false, SM.pure_bind, hdm, not_false_eq_true,
      if_true]
    refine (deleteDeviceIfExists_sure _).bind_eq ?_
    simp only [Bool.not_true, Bool.false_eq_true, if_false, SM.pure_bind]
    refine (deleteDeviceIfExists_sure _).bind_eq (Sure.pure ⟨rfl, ?_⟩)
    simp only [collapsed, ne_eq, hdm, not_false_eq_true, if_true]

/-- A faultless `UnmapCowDevices` removes `P-cow` and `P-cow-img`. Reference:
`snapshot.cpp:1459`. -/
theorem unmapCowDevices_sure (lock : LockedFile) (name : String) :
    Sure o s (unmapCowDevices lock name) fun r t => r = true ∧
      t = { s.dropDevice (getCowName name) with
        devices := erase (s.dropDevice (getCowName name)).devices (getCowImageDeviceName name) } := by
  refine ensureImageManager_sure.bind_eq ?_
  simp only [Bool.not_true, Bool.false_eq_true, if_false, SM.pure_bind]
  refine (deleteDeviceIfExists_sure _).bind_eq ?_
  simp only [Bool.not_true, Bool.false_eq_true, if_false, SM.pure_bind]
  refine (unmapImageIfExists_sure _).bind_eq ?_
  exact Sure.pure ⟨rfl, rfl⟩

/-- The system without a snapshot's COW devices, COW image and status file, as `DeleteSnapshot`
leaves it. -/
def Sys.snapshotDeleted (s : Sys) (name : String) : Sys :=
  { s with
    devices := (erase (erase s.devices (getCowName name)) (getCowImageDeviceName name))
    images := (erase s.images (getCowImageDeviceName name))
    records := (erase s.records name) }

@[simp] theorem Sys.snapshotDeleted_shell (s : Sys) (name : String) :
    (s.snapshotDeleted name).shell = s.shell := rfl

/-- `DeleteSnapshot` when every call succeeds: the COW devices, the COW image and the status file
are gone. Reference: `snapshot.cpp:462`. -/
theorem deleteSnapshot_sure {lock : LockedFile} (hlock : lock.lock_mode = .exclusive)
    (name : String) :
    Sure o s (deleteSnapshot lock name) fun r t => r = true ∧
      t.Equiv (s.snapshotDeleted name) := by
  refine (Sure.CHECK (by simp [hlock])).bind_eq ?_
  refine ensureImageManager_sure.bind_eq ?_
  simp only [Bool.not_true, Bool.false_eq_true, if_false, SM.pure_bind]
  refine (unmapCowDevices_sure lock name).bind_eq ?_
  simp only [Bool.not_true, Bool.false_eq_true, if_false, SM.pure_bind]
  refine (backingImageExists_sure _).bind_eq ?_
  have hdone : ∀ u : Sys, u.shell = s.shell → u.records = s.records →
      (∀ k, lookup u.images k = lookup (erase s.images (getCowImageDeviceName name)) k) →
      (∀ k, lookup u.devices k =
        lookup (erase (erase s.devices (getCowName name)) (getCowImageDeviceName name)) k) →
      Sure o u (removeStatusFileIfExists name) fun r t => r = true ∧
        t.Equiv (s.snapshotDeleted name) := fun u hsh hr hi hd =>
    (removeStatusFileIfExists_sure name).mono fun _ t ⟨h, ht⟩ => ⟨h, by
      subst ht
      split
      · exact ⟨hsh.symm, fun k _ => by
          simp only [Sys.entry, Sys.snapshotDeleted, FileOp.apply, hi, hd, hr]⟩
      · refine ⟨hsh.symm, fun k _ => ?_⟩
        simp only [Sys.entry, Sys.snapshotDeleted, hi, hd, hr, lookup_erase]
        split
        · simp_all
        · rfl⟩
  cases hi : lookup s.images (getCowImageDeviceName name) with
  | none =>
    simp only [Sys.dropDevice_images, hi, Option.isSome_none, Bool.false_eq_true, if_false,
      SM.pure_bind]
    refine hdone _ (Sys.dropDevice_shell s _) (by simp) (fun k => ?_) (fun k => ?_)
    · simp only [Sys.dropDevice_images, lookup_erase]
      split
      · subst ‹_ = k›; exact hi
      · rfl
    · simp only [lookup_erase, Sys.lookup_dropDevice]
  | some size =>
    simp only [Sys.dropDevice_images, hi, Option.isSome_some, if_true]
    refine (deleteBackingImage_sure (by simp [hi])).bind_eq ?_
    simp only [Bool.not_true, Bool.false_eq_true, if_false, SM.pure_bind]
    refine hdone _ (Sys.dropDevice_shell s _) (by simp [FileOp.apply]) (fun k => ?_) (fun k => ?_)
    · simp only [FileOp.apply, Sys.dropDevice_images]
    · simp only [FileOp.apply, lookup_erase, Sys.lookup_dropDevice]

/-- A faultless `OnSnapshotMergeComplete` of a drained snapshot with a collapse plan collapses the
stack, then deletes the snapshot. Reference: `snapshot.cpp:915`. -/
theorem onSnapshotMergeComplete_sure {lock : LockedFile} (hlock : lock.lock_mode = .exclusive)
    {name : String} {status : SnapshotStatus} {d dP : Device} {table : List DmTarget}
    (hd : lookup s.devices (getSnapshotDeviceName name status) = some d) (hdr : d.drained = true)
    (hplan : collapsePlan s name status = some (dP, table)) :
    Sure o s (onSnapshotMergeComplete lock name status) fun r t => r = true ∧
      t.Equiv ((collapsed s name (getSnapshotDeviceName name status) dP table).snapshotDeleted
        name) := by
  obtain ⟨c, hq⟩ := Device.drained_query hdr
  have htgt := Device.drained_target hdr
  refine (isSnapshotDevice_sure _).bind_eq ?_
  simp only [hd, htgt, if_true]
  refine (querySnapshotStatus_sure _).bind_eq ?_
  simp only [hd, hq, ne_eq, not_true_eq_false, if_false, SM.pure_bind]
  refine (collapseSnapshotDevice_sure hd hdr hplan).bind_eq ?_
  simp only [Bool.not_true, Bool.false_eq_true, if_false, SM.pure_bind]
  exact deleteSnapshot_sure hlock name

/-- The checks of `drainedTarget`, one by one. Reference: none. -/
theorem drainedTarget_spec {name : String} {status : SnapshotStatus} {dP : Device}
    {table : List DmTarget} (h : drainedTarget s name = some (status, dP, table)) :
    (lookup s.records name).bind parseStatusLine = some status ∧
    (∃ d, lookup s.devices (getSnapshotDeviceName name status) = some d ∧ d.drained = true) ∧
    collapsePlan s name status = some (dP, table) := by
  obtain ⟨status', hst, hrest⟩ := Option.bind_eq_some.1 h
  split_ifs at hrest with hdr
  obtain ⟨⟨dP', table'⟩, hplan, he⟩ := Option.map_eq_some'.1 hrest
  simp only [Prod.mk.injEq] at he
  obtain ⟨rfl, rfl, rfl⟩ := he
  obtain ⟨d, hd, hd'⟩ := Option.map_eq_some'.1 hdr
  exact ⟨hst, ⟨d, hd, hd'⟩, hplan⟩

/-- Creating and writing a snapshot's status file changes nothing but that file. Reference:
`snapshot.cpp:1671`. -/
theorem writeStatus_createStatus (name c : String) (s : Sys) :
    let u := (FileOp.writeStatus name c).apply ((FileOp.createStatus name).apply s)
    u.shell = s.shell ∧ u.slot = s.slot ∧ u.metadata = s.metadata ∧ u.devices = s.devices ∧
      u.images = s.images ∧ ∀ k, name ≠ k → lookup u.records k = lookup s.records k := by
  simp only [FileOp.apply]
  split <;> exact ⟨rfl, rfl, rfl, rfl, rfl, fun k hk => by simp only [lookup_insert, if_neg hk]⟩

/-- What the check of a drained snapshot leaves, its status file rewritten, the stack collapsed and
the snapshot deleted, is the completed snapshot. Reference: `snapshot.cpp:805`. -/
theorem collapsed_snapshotDeleted_equiv {name : String} {status : SnapshotStatus} {dP : Device}
    {table : List DmTarget} (h : drainedTarget s name = some (status, dP, table)) (c : String) :
    ((collapsed ((FileOp.writeStatus name c).apply ((FileOp.createStatus name).apply s)) name
      (getSnapshotDeviceName name status) dP table).snapshotDeleted name).Equiv
        (completeMerge s name) := by
  obtain ⟨hsh, -, -, hdev, himg, hrec⟩ := writeStatus_createStatus name c s
  generalize (FileOp.writeStatus name c).apply ((FileOp.createStatus name).apply s) = u
    at hsh hdev himg hrec
  refine ⟨(completeMerge_outside s name).shell.trans
    ((Sys.snapshotDeleted_shell _ _).trans ((collapsed_shell u _ _ _ _).trans hsh)).symm,
    fun k _ => ?_⟩
  unfold completeMerge
  rw [h]
  simp only [Sys.entry, Sys.snapshotDeleted, Prod.mk.injEq, collapsed_records, collapsed_images,
    himg, lookup_erase, true_and]
  refine ⟨by split <;> [rfl; exact (hrec k ‹_›).symm], ?_⟩
  by_cases hdm : getSnapshotDeviceName name status = name <;>
    simp only [lookup_collapsed, hdev, hdm, ne_eq, not_true_eq_false, not_false_eq_true, if_true,
      if_false, false_and, true_and, lookup_erase, lookup_insert]

/-- On a drained snapshot whose stack can be collapsed, `CheckTargetMergeState` completes the merge:
it returns `MergeCompleted` and leaves the snapshot completed. Reference: `snapshot.cpp:805`. -/
theorem checkTargetMergeState_sure {lock : LockedFile} (hlock : lock.lock_mode = .exclusive)
    {name : String} (h : (drainedTarget s name).isSome) :
    Sure o s (checkTargetMergeState lock name) fun r t =>
      r = .MergeCompleted ∧ t.Equiv (completeMerge s name) := by
  obtain ⟨⟨status, dP, table⟩, hdt⟩ := Option.isSome_iff_exists.1 h
  obtain ⟨hst, ⟨d, hd, hdr⟩, hplan⟩ := drainedTarget_spec hdt
  obtain ⟨c, hq⟩ := Device.drained_query hdr
  have htgt := Device.drained_target hdr
  refine (readSnapshotStatus_sure lock name).bind_eq ?_
  rw [hst]
  dsimp only
  refine (isSnapshotDevice_sure _).bind_eq ?_
  simp only [hd, Option.isNone_iff_eq_none, Option.ne_none_iff_isSome.2 htgt, if_false,
    SM.pure_bind]
  refine (querySnapshotStatus_sure _).bind_eq ?_
  simp only [hd, hq, ne_eq, not_true_eq_false, if_false, SM.pure_bind]
  refine (writeSnapshotStatus_sure hlock name _).bind_eq ?_
  simp only [Bool.not_true, Bool.false_eq_true, if_false, SM.pure_bind]
  obtain ⟨-, hslot, hm, hdev, -⟩ := writeStatus_createStatus name
    (statusLine { status with state := .MergeCompleted }) s
  refine (@onSnapshotMergeComplete_sure _ _ _ hlock _ _ d dP table (by rw [hdev]; exact hd) hdr
    ((collapsePlan_congr _ (by rw [hdev]) hslot hm).trans hplan)).bind fun r t ⟨hr, ht'⟩ => ?_
  subst hr
  simp only [Bool.not_true, Bool.false_eq_true, if_false, SM.pure_bind]
  exact Sure.pure ⟨rfl, ht'.trans (collapsed_snapshotDeleted_equiv hdt _)⟩

end Drained

/-! ## The end of the update -/

section Poll

variable {o : Oracle} {s : Sys}

/-- Completing one snapshot leaves every separate snapshot drained as it was. Reference: none. -/
theorem drainedTarget_completeMerge {name : String} {rest : List String}
    (hsep : ∀ m ∈ rest, Separate name m) (hdr : ∀ m ∈ rest, (drainedTarget s m).isSome) :
    ∀ m ∈ rest, (drainedTarget (completeMerge s name) m).isSome := fun m hm => by
  rw [completeMerge_stackLocal.read_separate drainedTarget_congr (hsep m hm)]
  exact hdr m hm

/-- A map in which every lookup fails is empty. Reference: none. -/
theorem eq_nil_of_lookup_none {α : Type} {l : List (String × α)} (h : ∀ k, lookup l k = none) :
    l = [] := by
  cases l with
  | nil => rfl
  | cons p l =>
    have := h p.1
    simp only [lookup, if_true, reduceCtorEq] at this

/-- Writing the same state and indicator over equivalent systems keeps them equivalent. Reference:
none. -/
theorem Sys.Equiv.setStateIndicator {s t : Sys} (h : s.Equiv t) (c : String)
    (i : Option String) :
    Sys.Equiv { s with state := c, indicator := i } { t with state := c, indicator := i } :=
  ⟨congrArg (fun x : Sys => { x with state := c, indicator := i }) h.shell, h.entry⟩

/-- `RemoveAllUpdateState` with no snapshot left: the boot indicator is removed and the state
becomes `None`. Reference: `snapshot.cpp:197`. -/
theorem removeAllUpdateState_sure {lock : LockedFile} (h : s.records = []) :
    Sure o s (removeAllUpdateState lock) fun r t =>
      r = true ∧ t = { s with state := UpdateState.None.toString, indicator := none } := by
  have hnone : Sure o s (removeAllSnapshots lock) fun r t => r = true ∧ t = s := by
    refine (listSnapshots_sure lock).bind_eq ?_
    rw [h]
    exact Sure.pure ⟨rfl, rfl⟩
  refine hnone.bind_eq ?_
  simp only [Bool.not_true, Bool.false_eq_true, if_false, SM.pure_bind]
  exact removeSnapshotBootIndicator_sure.bind_eq (writeUpdateState_sure lock (by decide))

end Poll

end LibSnapshot
