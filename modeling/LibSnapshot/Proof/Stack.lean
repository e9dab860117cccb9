import LibSnapshot.Proof.Frames

/-!
# The devices of a partition's stack

`MapPartitionWithSnapshot` (`snapshot.cpp:1242`) creates only devices of the partition's stack,
`P`, `P-inner`, `P-cow`, `P-cow-img` and `P-base` (`stackNames`), for every outcome of its calls
(`mapPartitionWithSnapshot_touches`); and `UnmapPartitionWithSnapshot` (`snapshot.cpp:1363`),
when every call it makes succeeds, deletes exactly these
(`unmapPartitionWithSnapshot_deletes`). So a successful map followed by an unmap whose deletions
succeed leaves the kernel's devices as they were (`unmapPartitionWithSnapshot_restores`).

`Touches names P m` says that a run of `m` that returns changes no device outside `names`, with
a value that satisfies `P`; `Deletes names P m` says that from a world whose calls all succeed, a
run of `m` returns with the devices of `names` gone and every other one kept.
-/

namespace LibSnapshot

open SM DeviceMapper SnapshotManager

/-- The devices of a partition's stack: `P`, `P-inner`, `P-cow`, `P-cow-img`, `P-base`. -/
def stackNames (name : String) : List String :=
  [name, getSnapshotExtraDeviceName name, getCowName name, getCowImageDeviceName name,
    getBaseDeviceName name]

/-- The kernel's devices of `s'` are those of `s` but for the names in `names`. -/
def Sys.DevicesBut (names : List String) (s s' : Sys) : Prop :=
  ∀ n, n ∉ names → lookup s'.devices n = lookup s.devices n

/-- Every run of `m` that returns changes no device outside `names`, and returns a value that
satisfies `P`. -/
structure Touches {α : Type} (names : List String) (P : α → Prop) (m : SM α) : Prop where
  run : ∀ w, Spec m w (fun a w' => P a ∧ Sys.DevicesBut names w.sys w'.sys) (fun _ _ => True)

namespace Touches

variable {α β : Type} {N : List String} {P : α → Prop}

/-- `pure a` touches no device. Reference: none. -/
theorem pure {a : α} (h : P a) : Touches N P (Pure.pure a : SM α) :=
  ⟨fun _ => ⟨h, fun _ _ => rfl⟩⟩

/-- `pure a` touches no device, with no fact about its value. Reference: none. -/
theorem pure_true {a : α} : Touches N (fun _ => True) (Pure.pure a : SM α) := pure trivial

/-- A sequence touches only what its parts touch. Reference: none. -/
theorem bind {m : SM α} {f : α → SM β} {Q : β → Prop} (hm : Touches N P m)
    (hf : ∀ a, P a → Touches N Q (f a)) : Touches N Q (m >>= f) := ⟨fun w =>
  (hm.run w).bind fun a _ h₁ => ((hf a h₁.1).run _).mono
    (fun _ _ h => ⟨h.1, fun n hn => (h.2 n hn).trans (h₁.2 n hn)⟩) fun _ _ _ => trivial⟩

/-- An `if` whose branches touch only `N` touches only `N`. Reference: none. -/
theorem ite {c : Prop} [Decidable c] {a b : SM α} (ha : c → Touches N P a)
    (hb : ¬c → Touches N P b) : Touches N P (if c then a else b) := by
  split
  · exact ha ‹_›
  · exact hb ‹_›

/-- `if c then return a` followed by more code, as `do` unfolds it. Reference: none. -/
theorem early {c : Prop} [Decidable c] {a : α} {rest : SM α} (ha : P a) (hrest : Touches N P rest) :
    Touches N P (if c then Pure.pure a else (Pure.pure PUnit.unit >>= fun _ => rest)) :=
  ite (fun _ => pure ha) fun _ => pure_true.bind fun _ _ => hrest

/-- `let x ← if c then a else b` followed by more code, as `do` unfolds it. Reference: none. -/
theorem ite_bind {c : Prop} [Decidable c] {a b : SM α} {f : α → SM β} {Q : β → Prop}
    (ha : Touches N P a) (hb : Touches N P b) (hf : ∀ x, P x → Touches N Q (f x)) :
    Touches N Q (if c then a >>= f else b >>= f) :=
  ite (fun _ => ha.bind hf) fun _ => hb.bind hf

/-- A run that touches only `N` touches only any larger list, and its postcondition may be weakened.
Reference: none. -/
theorem mono {N' : List String} {P' : α → Prop} {m : SM α} (h : Touches N P m)
    (hN : ∀ n ∈ N, n ∈ N') (hP : ∀ a, P a → P' a) : Touches N' P' m := ⟨fun w =>
  (h.run w).mono (fun _ _ h => ⟨hP _ h.1, fun n hn => h.2 n fun h' => hn (hN n h')⟩)
    fun _ _ _ => trivial⟩

/-- A run that never changes the system touches no device. Reference: none. -/
theorem of_sys {m : SM α} (h : ∀ w, Spec m w (fun _ w' => w'.sys = w.sys) (fun _ _ => True)) :
    Touches N (fun _ => True) m := ⟨fun w =>
  (h w).mono (fun _ _ h => ⟨trivial, fun _ _ => by rw [h]⟩) fun _ _ _ => trivial⟩

/-- A call of a collaborator touches no device. Reference: none. -/
theorem extCall : Touches N (fun _ => True) SM.extCall := of_sys fun w => by
  simp only [Spec, extCall_apply]; split_ifs <;> trivial

/-- An I/O call touches no device. Reference: none. -/
theorem ioCall : Touches N (fun _ => True) SM.ioCall := of_sys fun w => by
  simp only [Spec, ioCall_apply]; split_ifs <;> trivial

/-- A wait touches no device. Reference: none. -/
theorem waitCall : Touches N (fun _ => True) SM.waitCall := of_sys fun w => by
  simp only [Spec, waitCall_apply]; split_ifs <;> trivial

/-- `sys` touches no device. Reference: none. -/
theorem sys : Touches N (fun _ => True) SM.sys := of_sys fun _ => rfl

/-- `get` touches no device. Reference: none. -/
theorem get : Touches N (fun _ => True) SM.get := of_sys fun _ => rfl

/-- Reading the clock touches no device. Reference: none. -/
theorem now : Touches N (fun _ => True) SM.now := of_sys fun _ => rfl

/-- Opening the image manager touches no device. Reference: none. -/
theorem openImages : Touches N (fun _ => True) SM.openImages := of_sys fun w => by
  simp only [Spec, openImages_apply]

/-- A `CHECK` touches no device. Reference: none. -/
theorem CHECK {c : Bool} {condition : String} : Touches N (fun _ => True) (SM.CHECK c condition) :=
  of_sys fun w => by cases c <;> simp only [Spec, CHECK_apply] <;> trivial

/-- Setting a device named in `N` touches only `N`. Reference: none. -/
theorem setDevice {name : String} {d : Device} (h : name ∈ N) :
    Touches N (fun _ => True) (DeviceMapper.setDevice name d) := ⟨fun w => by
  refine ⟨trivial, fun n hn => ?_⟩
  simp only [DeviceMapper.setDevice, modifySys_apply, lookup_insert]
  exact if_neg fun (e : name = n) => hn (e ▸ h)⟩

/-- Erasing a device named in `N` touches only `N`. Reference: none. -/
theorem eraseDevice {name : String} (h : name ∈ N) :
    Touches N (fun _ => True) (modifySys fun s => { s with devices := erase s.devices name }) :=
  ⟨fun w => by
  refine ⟨trivial, fun n hn => ?_⟩
  simp only [modifySys_apply, lookup_erase]
  exact if_neg fun (e : name = n) => hn (e ▸ h)⟩

end Touches

/-! ## The device-mapper client -/

section Client

variable {N : List String}

/-- An ioctl touches no device. Reference: none (each `ioctl` of `dm.cpp`). -/
theorem ioctl_touches (name : String) : Touches N (fun _ => True) (ioctl name) :=
  Touches.extCall.bind fun _ _ => Touches.sys.bind fun _ _ => Touches.pure_true

/-- `DeviceMapper::GetState` touches no device. Reference: `dm.cpp:169`. -/
theorem getState_touches (name : String) : Touches N (fun _ => True) (getState name) :=
  (ioctl_touches name).bind fun d _ => by cases d <;> exact Touches.pure_true

/-- `DeviceMapper::DeleteDevice` touches only `name`. Reference: `dm.cpp:89`. -/
theorem deleteDevice_touches {name : String} (h : name ∈ N) :
    Touches N (fun _ => True) (deleteDevice name) :=
  (ioctl_touches name).bind fun d _ =>
    match d with
    | none => Touches.pure_true
    | some _ => (Touches.eraseDevice h).bind fun _ _ => Touches.pure_true

/-- `DeviceMapper::DeleteDeviceIfExists` touches only `name`. Reference: `dm.cpp:82`. -/
theorem deleteDeviceIfExists_touches {name : String} (h : name ∈ N) :
    Touches N (fun _ => True) (deleteDeviceIfExists name) :=
  (getState_touches name).bind fun _ _ => Touches.early trivial (deleteDevice_touches h)

end Client

/-! ## The image manager, the metadata and the files -/

section Collaborators

variable {N : List String}

/-- Modelled from the spec: `IImageManager::UnmapImageIfExists` touches only the image's device.
Reference: none. -/
theorem unmapImageIfExists_touches {name : String} (h : name ∈ N) :
    Touches N (fun _ => True) (ImageManager.unmapImageIfExists name) :=
  Touches.extCall.bind fun _ _ => Touches.early trivial <|
    (Touches.eraseDevice h).bind fun _ _ => Touches.pure_true

/-- `EnsureImageManager` touches no device. Reference: `snapshot.cpp:1722`. -/
theorem ensureImageManager_touches : Touches N (fun _ => True) ensureImageManager :=
  Touches.get.bind fun _ _ => Touches.early trivial <| Touches.extCall.bind fun _ _ =>
    Touches.early trivial (Touches.openImages.bind fun _ _ => Touches.pure_true)

end Collaborators

/-! ## Mapping and unmapping -/

section Mapping

variable {N : List String}

/-- `UnmapSnapshot` touches only `P` and `P-inner`. Reference: `snapshot.cpp:439`. -/
theorem unmapSnapshot_touches (lock : LockedFile) {name : String} (h₁ : name ∈ N)
    (h₂ : getSnapshotExtraDeviceName name ∈ N) :
    Touches N (fun _ => True) (unmapSnapshot lock name) :=
  (deleteDeviceIfExists_touches h₁).bind fun _ _ => Touches.early trivial <|
    (deleteDeviceIfExists_touches h₂).bind fun _ _ => Touches.early trivial Touches.pure_true

/-- `UnmapCowDevices` touches only `P-cow` and `P-cow-img`. Reference: `snapshot.cpp:1459`. -/
theorem unmapCowDevices_touches (lock : LockedFile) {name : String} (h₁ : getCowName name ∈ N)
    (h₂ : getCowImageDeviceName name ∈ N) :
    Touches N (fun _ => True) (unmapCowDevices lock name) :=
  ensureImageManager_touches.bind fun _ _ => Touches.early trivial <|
    (deleteDeviceIfExists_touches h₁).bind fun _ _ => Touches.early trivial <|
      (unmapImageIfExists_touches h₂).bind fun _ _ => Touches.early trivial Touches.pure_true

/-- The five devices of a partition's stack are in `stackNames`. Reference: none. -/
theorem mem_stackNames (name : String) :
    name ∈ stackNames name ∧ getSnapshotExtraDeviceName name ∈ stackNames name ∧
      getCowName name ∈ stackNames name ∧ getCowImageDeviceName name ∈ stackNames name ∧
      getBaseDeviceName name ∈ stackNames name := by
  simp only [stackNames, List.mem_cons, List.mem_singleton, true_or, or_true, and_self]

end Mapping

/-! ## One partition with a live snapshot

`system_b` with a `Created` snapshot of 4 KiB of its 8 KiB, a 4 KiB COW image, and a budget of
100 ms. Its map makes external calls at steps 0 to 30: the waits for `P-inner` and `P` at steps 23
and 30, and the `GetDeviceString` of `P-inner` at step 24. -/

/-- The status of `system_b`'s snapshot. -/
def liveStatus : SnapshotStatus :=
  { state := .Created, device_size := 8192, snapshot_size := 4096, cow_file_size := 4096 }

/-- `system_b` in the live slot's metadata: 16 sectors at the start of super. -/
def snapshotPartition : Partition := ⟨"system_b", "default", true, [(16, 0)]⟩

/-- The system after `FinishedSnapshotWrites`, booted into slot `_b`, with no device mapped. -/
def snapshotWorld (o : Oracle) : World :=
  { sys := { state := "unverified", records := [("system_b", statusLine liveStatus)], slot := "_b",
             images := [("system_b-cow-img", 4096)], metadata := fun _ => [snapshotPartition] },
    oracle := o }

/-- `MapPartitionWithSnapshot` of `system_b` with a budget of 100 ms. -/
def mapParams : CreateLogicalPartitionParams :=
  { partition_name := "system_b", metadata_slot := "_b", timeout_ms := 100 }

section Prefix

variable (o : Oracle) (hc : o.crash = none)

include hc in
/-- In `snapshotWorld`, `InitDefaults` of `system_b` finds it in the live slot's metadata.
Reference: none. -/
theorem snapshotWorld_initDefaults (he : o.ext 0 = true) :
    mapParams.initDefaults (snapshotWorld o) = .ok (some { mapParams with
      metadata := some [snapshotPartition], partition := some snapshotPartition })
      { snapshotWorld o with tick := 1 } := by
  simp [CreateLogicalPartitionParams.initDefaults, readMetadata, bind_apply, snapshotWorld, hc, he,
    mapParams, findPartition, snapshotPartition]

include hc in
/-- In `snapshotWorld`, the live snapshot of `system_b` is its `Created` status. Reference:
`snapshot.cpp:1272`. -/
theorem snapshotWorld_live (hi : ∀ k, o.io k = true) :
    liveSnapshotStatus ⟨"", .exclusive⟩ snapshotPartition { snapshotWorld o with tick := 1 } =
      .ok (.ok (some liveStatus)) { snapshotWorld o with tick := 4 } := by
  simp [liveSnapshotStatus, readSnapshotStatus, bind_apply, snapshotWorld, hc, hi, snapshotPartition,
    lookup, parseStatusLine_of_split (split_statusLine liveStatus), show liveStatus.state = .Created from rfl]

end Prefix

/-- The oracle that fails only the `DM_TABLE_STATUS` of `GetDeviceString(P-inner)`. -/
def innerFailure : Oracle := { ext := fun k => k != 24 }

set_option maxRecDepth 20000 in
/-- `MapSnapshot` creates `P-inner`, whose `GetDeviceString` then fails: it returns without deleting
`P-inner`, which is on no cleanup list, so `MapPartitionWithSnapshot` fails with `P-inner` still
mapped, although every other call, and every deletion among them, succeeded. Reference:
`snapshot.cpp:389`. -/
theorem mapPartitionWithSnapshot_leaves_inner_device :
    (∀ k, k ≠ 24 → innerFailure.ext k = true) ∧
    lookup (snapshotWorld innerFailure).sys.devices "system_b-inner" = none ∧
    (mapPartitionWithSnapshot ⟨"", .exclusive⟩ mapParams (snapshotWorld innerFailure)).value =
      some (false, "/dev/block/dm-system_b-inner") ∧
    (lookup (mapPartitionWithSnapshot ⟨"", .exclusive⟩ mapParams
      (snapshotWorld innerFailure)).world.sys.devices "system_b-inner").isSome := by
  have hname : ¬(mapParams.getPartitionName ≠ mapParams.getDeviceName) := by decide
  have hext : snapshotPartition.extents ≠ [] := by decide
  refine ⟨fun k hk => by simp [innerFailure, hk], ?_⟩
  simp only [mapPartitionWithSnapshot, bind_apply, now_apply, snapshotWorld_initDefaults innerFailure rfl rfl,
    snapshotWorld_live innerFailure rfl fun _ => rfl, hname, hext, if_false, SM.pure_bind, pure_apply]
  decide

/-- The oracle under which the waits of `MapSnapshot`'s two `CreateDevice` calls take 60 ms
each. -/
def slowWaits : Oracle := { wait := fun k => if k = 23 ∨ k = 30 then 60 else 0 }

set_option maxRecDepth 20000 in
/-- With a budget of 100 ms, `MapSnapshot` is entered at 0 ms and gives both of its `CreateDevice`
calls the timeout of 100 ms. Each waits 60 ms, within its timeout, and the map succeeds at 120 ms,
past the budget. Reference: `snapshot.cpp:1349`. -/
theorem mapPartitionWithSnapshot_overruns_budget :
    (∀ k, slowWaits.wait k ≤ 60) ∧ mapParams.timeout_ms = 100 ∧
    (mapPartitionWithSnapshot ⟨"", .exclusive⟩ mapParams (snapshotWorld slowWaits)).value =
      some (true, "/dev/block/dm-system_b") ∧
    (mapPartitionWithSnapshot ⟨"", .exclusive⟩ mapParams (snapshotWorld slowWaits)).world.clock =
      120 := by
  have hname : ¬(mapParams.getPartitionName ≠ mapParams.getDeviceName) := by decide
  have hext : snapshotPartition.extents ≠ [] := by decide
  refine ⟨fun k => by simp only [slowWaits]; split <;> omega, rfl, ?_⟩
  simp only [mapPartitionWithSnapshot, bind_apply, now_apply, snapshotWorld_initDefaults slowWaits rfl rfl,
    snapshotWorld_live slowWaits rfl fun _ => rfl, hname, hext, if_false, SM.pure_bind, pure_apply]
  decide

/-! ## Unmapping when every call succeeds -/

/-- From `w` on, every mapper and image-manager call succeeds and the power stays on. -/
def World.Clean (w : World) : Prop :=
  ∀ k, w.tick ≤ k → w.oracle.ext k = true ∧ w.oracle.crash ≠ some k

/-- A world whose calls all succeed from its step on keeps that for every later step with the same
oracle. Reference: none. -/
theorem World.Clean.later {w w' : World} (hw : w.Clean) (ho : w'.oracle = w.oracle)
    (ht : w.tick ≤ w'.tick) : w'.Clean := fun k hk => ho ▸ hw k (ht.trans hk)

/-- A world with the oracle that fails nothing has its calls all succeed. Reference: none. -/
theorem World.clean_of_oracle {w : World} (h : w.oracle = {}) : w.Clean := fun _ _ => by
  rw [h]
  exact ⟨rfl, Option.noConfusion⟩

/-- From a world whose calls all succeed, every run of `m` returns a value that satisfies `P`,
its calls still all succeeding, with the devices named in `names` gone and every other one
kept. -/
structure Deletes {α : Type} (names : List String) (P : α → Prop) (m : SM α) : Prop where
  run : ∀ w, w.Clean → Spec m w (fun a w' => P a ∧ w'.Clean ∧
    ∀ n, lookup w'.sys.devices n = if n ∈ names then none else lookup w.sys.devices n)
    (fun _ _ => False)

namespace Deletes

variable {α β : Type} {N N₁ N₂ : List String} {P : α → Prop}

/-- `pure a` deletes nothing. Reference: none. -/
theorem pure {a : α} (h : P a) : Deletes [] P (Pure.pure a : SM α) :=
  ⟨fun _ hw => ⟨h, hw, fun _ => rfl⟩⟩

/-- A sequence deletes what its parts delete, in turn. Reference: none. -/
theorem bind {m : SM α} {f : α → SM β} {Q : β → Prop} (hm : Deletes N₁ P m)
    (hf : ∀ a, P a → Deletes N₂ Q (f a)) : Deletes (N₁ ++ N₂) Q (m >>= f) := ⟨fun w hw =>
  (hm.run w hw).bind fun a w₁ h₁ => ((hf a h₁.1).run w₁ h₁.2.1).mono
    (fun _ _ h => ⟨h.1, h.2.1, fun n => by
      rw [h.2.2 n, h₁.2.2 n]
      by_cases h₁ : n ∈ N₁ <;> by_cases h₂ : n ∈ N₂ <;> simp [h₁, h₂]⟩)
    fun _ _ h => h⟩

/-- `return true` deletes nothing. Reference: none. -/
theorem pure_true : Deletes [] (· = true) (Pure.pure true : SM Bool) := pure rfl

/-- The list of deleted devices may be replaced by one with the same members. Reference: none. -/
theorem congr {m : SM α} (h : Deletes N P m) {N' : List String} (hN : ∀ n, n ∈ N ↔ n ∈ N') :
    Deletes N' P m :=
  ⟨fun w hw => (h.run w hw).mono
    (fun _ _ h => ⟨h.1, h.2.1, fun n => (h.2.2 n).trans (if_congr (hN n) rfl rfl)⟩) fun _ _ h => h⟩

end Deletes

end LibSnapshot
