import LibSnapshot.Proof.Calls

/-!
# Removing an update

What the removals guarantee when they report success, for every outcome of the calls they make:
`DeleteSnapshot` returns `true` only once the status file is gone (`deleteSnapshot_runs`), the loop
of `RemoveAllSnapshots` only once every listed file is gone, and `RemoveAllUpdateState` only once
no status file is left and the state file says `None` (`removeAllUpdateState_runs`). Removals
never create a status file, so what one iteration removed stays removed. The loop tries every
listed snapshot whatever the earlier ones returned, and the state file is written, with `None`,
only once it has succeeded (`removeAllUpdateState_cleanup`). Success says nothing of the devices
and images: `DeleteDeviceIfExists` takes a failed `GetState` for a missing device, and
`DeleteSnapshot` a failed `BackingImageExists` for a missing image
(`removeAllUpdateState_leaves_device_and_image`).

`CheckMergeState()` does not look at that result: `AcknowledgeMergeSuccess` drops it, and so does
the cleanup of a cancelled update. When a removal fails, `ProcessUpdateState` still reports
`MergeCompleted` with the merge's state and records left on disk
(`checkMergeState_keeps_merged_record`). And a merged snapshot whose status file survived a failed
`DeleteSnapshot` is not skipped by `RemoveAllSnapshots`: it unmaps the partition's stack, whose top
device `P` is by then the plain linear partition the system uses
(`checkMergeState_deletes_merged_partition`).
-/

namespace LibSnapshot

open SM DeviceMapper SnapshotManager

/-- An effect of some `DeleteSnapshot`. -/
@[reducible] def FileOp.Removal (op : FileOp) : Prop := ∃ name, op.RemovesSnapshot name

/-- A removal creates no status file. Reference: none. -/
theorem FileOp.Removal.lookup_none {op : FileOp} (h : op.Removal) {s : Sys} {name : String}
    (hs : lookup s.records name = none) : lookup (op.apply s).records name = none := by
  obtain ⟨_, rfl | rfl⟩ := h <;> simp [FileOp.apply, hs]

/-- A removal removes names only. Reference: none. -/
theorem FileOp.Removal.keys_subset {op : FileOp} (h : op.Removal) (s : Sys) :
    keys (op.apply s).records ⊆ keys s.records := by
  obtain ⟨_, rfl | rfl⟩ := h
  · exact fun _ h => h
  · exact (keys_erase_sublist _ _).subset

/-- A removal leaves the state file alone. Reference: none. -/
theorem FileOp.Removal.state {op : FileOp} (h : op.Removal) (s : Sys) :
    (op.apply s).state = s.state := by
  obtain ⟨_, rfl | rfl⟩ := h <;> rfl

section Removal

variable {O : Oracle → Prop} {S : Event → Prop} {lock : LockedFile}

/-- `RemoveFileIfExists` of a status file that returns `true` leaves it absent. Reference:
`snapshot.cpp:480`. -/
theorem removeStatusFileIfExists_runs {name : String} {pre : Sys → Prop}
    (hS : ∀ e : Event, e.op = .removeStatus name → S e) :
    Runs O S pre (removeStatusFileIfExists name)
      (fun r s => r = true → lookup s.records name = none) :=
  Runs.sys.bind fun s₀ => Runs.ite
    (fun h => Runs.pure fun s hs _ => by rw [← hs.1]; simpa using h)
    fun _ => (Runs.persist fun _ _ _ => hS _ rfl).post_mono fun r s h hr => by
      subst hr
      obtain ⟨s', -, rfl⟩ := h
      simp [FileOp.apply]

/-- `DeleteSnapshot` returns `true` only once the status file is gone. Reference:
`snapshot.cpp:462`. -/
theorem deleteSnapshot_runs {name : String} (hS : ∀ e : Event, e.op.RemovesSnapshot name → S e)
    (hlock : lock.lock_mode = .exclusive) :
    Runs O S (fun _ => True) (deleteSnapshot lock name)
      (fun r s => r = true → lookup s.records name = none) := by
  have hfalse (pre : Sys → Prop) : Runs O S pre (pure false)
      (fun r s => r = true → lookup s.records name = none) :=
    Runs.pure fun _ _ h => absurd h Bool.false_ne_true
  have hremove (pre : Sys → Prop) : Runs O S pre (removeStatusFileIfExists name)
      (fun r s => r = true → lookup s.records name = none) :=
    removeStatusFileIfExists_runs fun e h => hS e (.inr h)
  simp only [deleteSnapshot, SM.pure_bind]
  exact (Runs.keeps (Keeps.CHECK (lock_check_ok hlock)) fun _ h => h).bind fun _ =>
    (Runs.keeps ensureImageManager_keeps fun _ h => h).bind fun _ =>
      Runs.ite (fun _ => hfalse _) fun _ => (Runs.keeps (unmapCowDevices_keeps _ _) fun _ h => h).bind
        fun _ => Runs.ite (fun _ => hfalse _) fun _ =>
          (Runs.keeps (backingImageExists_keeps _) fun _ h => h).bind fun _ => Runs.ite
            (fun _ => (Runs.keeps (deleteBackingImage_keeps fun e h => hS e (.inl h)) fun _ h => h).bind
              fun _ => Runs.ite (fun _ => hfalse _) fun _ => hremove _)
            fun _ => hremove _

/-- A fact of the status files that removals keep holds across a run of removals. Reference:
none. -/
theorem Runs.frame_records {α : Type} {m : SM α} {pre : Sys → Prop} {post : α → Sys → Prop}
    (h : Runs O (fun e => e.op.Removal) pre m post) (I : List (String × String) → Prop)
    (hI : ∀ op : FileOp, op.Removal → ∀ s, I s.records → I (op.apply s).records) :
    Runs O (fun e => e.op.Removal) (fun s => pre s ∧ I s.records) m
      (fun a s => post a s ∧ I s.records) :=
  h.frame (fun s => I s.records) (fun _ _ hf h => by simpa only [Sys.records_of_files hf])
    fun e he => hI e.op he e.pre

/-- The loop of `RemoveAllSnapshots` returns `true` only once every listed status file is gone.
Reference: `snapshot.cpp:1100`. -/
theorem removeEach_runs (hlock : lock.lock_mode = .exclusive) :
    ∀ names, Runs O (fun e => e.op.Removal) (fun _ => True) (removeEach lock names)
      (fun r s => r = true → ∀ name ∈ names, lookup s.records name = none)
  | [] => Runs.pure fun _ _ _ _ h => absurd h (List.not_mem_nil _)
  | name :: names => by
    have tail : ∀ ok, Runs O (fun e => e.op.Removal)
        (fun s => ok = true → lookup s.records name = none)
        (removeEach lock names >>= fun rest => pure (ok && rest))
        (fun r s => r = true → ∀ n ∈ name :: names, lookup s.records n = none) := fun ok =>
      (((removeEach_runs hlock names).frame_records (fun r => ok = true → lookup r name = none)
        fun _ hop _ h hok => hop.lookup_none (h hok)).conseq (fun _ h => ⟨trivial, h⟩)
        fun _ _ h => h).bind fun rest => Runs.pure fun s ⟨hrest, hok⟩ hr n hn => by
          rw [Bool.and_eq_true] at hr
          rcases List.mem_cons.mp hn with rfl | hn
          · exact hok hr.1
          · exact hrest hr.2 n hn
    dsimp only [removeEach]
    exact Runs.bind (Runs.keeps (unmapPartitionWithSnapshot_keeps _ _) fun _ h => h) fun _ =>
      Runs.ite (fun _ => Runs.bind (Runs.pure fun _ _ h => absurd h Bool.false_ne_true) tail)
        fun _ => Runs.bind ((deleteSnapshot_runs (fun e h => ⟨name, h⟩) hlock).conseq
          (fun _ _ => trivial) fun _ _ h => h) tail

/-- `RemoveAllSnapshots` returns `true` only once no status file is left. Reference:
`snapshot.cpp:1092`. -/
theorem removeAllSnapshots_runs (hlock : lock.lock_mode = .exclusive) :
    Runs O (fun e => e.op.Removal) (fun _ => True) (removeAllSnapshots lock)
      (fun r s => r = true → s.records = []) := by
  dsimp only [removeAllSnapshots]
  refine (listSnapshots_reads lock).runs.bind fun o => ?_
  split
  · rename_i names
    refine ((removeEach_runs hlock names).frame_records (fun r => keys r ⊆ names)
      fun op hop s h => (hop.keys_subset s).trans h).conseq
      (fun s h => ⟨trivial, (h.1 names rfl).symm ▸ List.Subset.refl _⟩) ?_
    rintro r s ⟨hgone, hsub⟩ hr
    cases hrec : s.records with
    | nil => rfl
    | cons p ps =>
      have hp : p.1 ∈ keys s.records := by simp [hrec, keys]
      have hsome := mem_keys_iff_lookup.mp hp
      rw [hgone hr p.1 (hsub hp)] at hsome
      exact absurd hsome (by decide)
  · exact Runs.pure fun _ _ h => absurd h Bool.false_ne_true

/-- The end of `RemoveAllUpdateState`, once every snapshot is removed: the boot indicator, then
`None`. Reference: `snapshot.cpp:203`. -/
theorem removeIndicator_writeNone_runs {S : Event → Prop} {P : Sys → Prop}
    (hP : ∀ s, P s → P (FileOp.removeIndicator.apply s))
    (hI : ∀ s h, s.records = [] → P s → S ⟨s, .removeIndicator, h⟩)
    (hW : ∀ s h, s.records = [] → P s → S ⟨s, .writeState UpdateState.None.toString, h⟩) :
    Runs O S (fun s => s.records = [] ∧ P s)
      (removeSnapshotBootIndicator >>= fun _ => writeUpdateState lock .None)
      (fun r s => r = true → s.records = [] ∧ s.updateState = .None) := by
  refine ((Runs.persist fun s h hs => hI s h hs.1 hs.2).bind fun r =>
    (Runs.pure ?_ : Runs O S _ (pure ()) fun _ s => s.records = [] ∧ P s)).bind
    fun _ => (writeUpdateState_runs lock .None fun s h hs => hW s h hs.1 hs.2).post_mono ?_
  · intro s h
    cases r
    · exact h
    · obtain ⟨s, hs, rfl⟩ := h
      exact ⟨hs.1, hP s hs.2⟩
  · rintro (_ | _) s h hr
    · exact absurd hr Bool.false_ne_true
    · obtain ⟨s, hs, rfl⟩ := h
      exact ⟨hs.1, rfl⟩

/-- `RemoveAllUpdateState` returns `true` only once no status file is left and the state file says
`None`. Reference: `snapshot.cpp:197`. -/
theorem removeAllUpdateState_runs {S : Event → Prop} (u : UpdateState)
    (hlock : lock.lock_mode = .exclusive) (hR : ∀ e : Event, e.op.Removal → S e)
    (hI : ∀ s h, s.records = [] → s.updateState = u → S ⟨s, .removeIndicator, h⟩)
    (hW : ∀ s h, s.records = [] → s.updateState = u →
      S ⟨s, .writeState UpdateState.None.toString, h⟩) :
    Runs O S (fun s => s.updateState = u) (removeAllUpdateState lock)
      (fun r s => r = true → s.records = [] ∧ s.updateState = .None) := by
  dsimp only [removeAllUpdateState, SM.pure_bind]
  refine (((removeAllSnapshots_runs hlock).frame (fun s => s.updateState = u)
    (fun _ _ hf h => (Sys.updateState_of_files hf).trans h)
    fun e he h => (congrArg parseUpdateState (congrArg String.data (he.state e.pre))).trans h).mono
    (fun _ h => h) hR).conseq (fun _ h => ⟨trivial, h⟩)
    (fun _ _ h => h) |>.bind fun ok => Runs.ite
      (fun _ => Runs.pure fun _ _ h => absurd h Bool.false_ne_true) fun hok => ?_
  have hgone : ok = true := by simpa using hok
  exact (removeIndicator_writeNone_runs (fun _ h => h) hI hW).conseq
    (fun _ h => ⟨h.1 hgone, h.2⟩) fun _ _ h => h

/-- The loop of `RemoveAllSnapshots` unmaps and deletes every listed snapshot in turn, whatever the
earlier ones returned, and reports whether all of them succeeded. Reference: `snapshot.cpp:1100`. -/
theorem removeEach_eq_mapM (lock : LockedFile) : ∀ names, removeEach lock names =
    (names.mapM fun name => do
      if !(← unmapPartitionWithSnapshot lock name) then pure false else deleteSnapshot lock name) >>=
      fun oks => pure (oks.all id)
  | [] => rfl
  | name :: names => by
    haveI := SM.lawfulMonad
    simp only [removeEach, List.mapM_cons, removeEach_eq_mapM lock names, SM.bind_assoc,
      SM.pure_bind, List.all_cons, id]
    congr 1
    funext ok
    split <;> rfl

/-- What a run of `RemoveAllUpdateState` from `w` may do to the files: an effect of some
`DeleteSnapshot`; or, if `RemoveAllSnapshots` from `w` returned `true`, and with no status file
left, the removal of the boot indicator or the write of `None`. -/
def CleanupEvent (lock : LockedFile) (w : World) (e : Event) : Prop :=
  e.op.Removal ∨ ((removeAllSnapshots lock w).value = some true ∧ e.pre.records = [] ∧
    (e.op = .removeIndicator ∨ e.op = .writeState UpdateState.None.toString))

/-- A run's specification by its own outcome. Reference: none. -/
theorem Spec.outcome {α : Type} (m : SM α) (w : World) :
    Spec m w (fun a w' => m w = .ok a w') (fun e w' => m w = .abort e w') := by
  unfold Spec
  split <;> assumption

/-- `RemoveAllUpdateState` tries every listed snapshot whatever the earlier ones returned, and
touches the state file only to write `None`, only once `RemoveAllSnapshots` has succeeded and no
status file is left; a run that returns `true` leaves no status file and the state `None`. Of the
devices and images it says nothing. Reference: `snapshot.cpp:197`. -/
theorem removeAllUpdateState_cleanup (hlock : lock.lock_mode = .exclusive) :
    (∀ names, removeEach lock names = (names.mapM fun name => do
        if !(← unmapPartitionWithSnapshot lock name) then pure false else deleteSnapshot lock name) >>=
      fun oks => pure (oks.all id)) ∧
    ∀ w, Spec (removeAllUpdateState lock) w
      (fun r w' => (r = true → w'.sys.records = [] ∧ w'.sys.updateState = .None) ∧
        Frame (CleanupEvent lock w) w w')
      (fun _ w' => Frame (CleanupEvent lock w) w w') := by
  refine ⟨removeEach_eq_mapM lock, fun w => ?_⟩
  have hA := ((removeAllSnapshots_runs hlock : Runs (fun _ => True) _ _ _ _).run w trivial trivial).and
    (Spec.outcome _ _)
  dsimp only [removeAllUpdateState, SM.pure_bind]
  refine (hA.mono (fun _ _ h => h) fun _ _ h => h.1.2.mono fun _ h => Or.inl h).bind
    fun ok w₁ ⟨⟨hgone, hf⟩, heq⟩ => ?_
  replace hf : Frame (CleanupEvent lock w) w w₁ := hf.mono fun _ h => Or.inl h
  cases ok
  · exact ⟨fun h => absurd h Bool.false_ne_true, hf⟩
  · have hv : (removeAllSnapshots lock w).value = some true := by rw [heq]; rfl
    have hrest : Runs (fun _ => True) (fun e => e.pre.records = [] ∧
        (e.op = .removeIndicator ∨ e.op = .writeState UpdateState.None.toString))
        (fun s => s.records = [] ∧ True)
        (removeSnapshotBootIndicator >>= fun _ => writeUpdateState lock .None)
        (fun r s => r = true → s.records = [] ∧ s.updateState = .None) :=
      removeIndicator_writeNone_runs (fun _ _ => trivial) (fun _ _ h _ => ⟨h, .inl rfl⟩)
        fun _ _ h _ => ⟨h, .inr rfl⟩
    exact (hrest.run w₁ trivial ⟨hgone rfl, trivial⟩).mono
      (fun _ _ h => ⟨h.1, hf.trans (h.2.mono fun _ h => Or.inr ⟨hv, h⟩)⟩)
      fun _ _ h => hf.trans (h.2.mono fun _ h => Or.inr ⟨hv, h⟩)

end Removal

/-- A snapshot of `system_b` of 4 KiB with a 4 KiB COW image, not yet written. -/
def cancelledStatus : SnapshotStatus :=
  { state := .Created, device_size := 4096, snapshot_size := 4096, cow_file_size := 4096 }

/-- An update being cancelled: the state file says `initiated`, and `system_b` has a status file,
its snapshot device and its COW image. The `DM_DEV_STATUS` ioctl of `GetState(system_b)`
(step 1) and `BackingImageExists(system_b-cow-img)` (step 9) fail; every other call succeeds. -/
def cancelledWorld : World :=
  { sys := { state := "initiated", records := [("system_b", statusLine cancelledStatus)],
             devices := [("system_b", { uuid := "uuid-system_b", table := [⟨0, 8, .linear "super" 0⟩] })],
             images := [("system_b-cow-img", 4096)] },
    oracle := { ext := fun k => k != 1 && k != 9 } }

set_option maxRecDepth 20000 in
/-- There every unmap and delete reports success and `RemoveAllUpdateState` writes `None`, with the
device `system_b` and the COW image still there: `DeleteDeviceIfExists` takes a failed `GetState`
for a missing device, and `DeleteSnapshot` a failed `BackingImageExists` for a missing image.
Reference: `dm.cpp:82`, `snapshot.cpp:462`. -/
theorem removeAllUpdateState_leaves_device_and_image :
    (removeAllSnapshots ⟨"", .exclusive⟩ cancelledWorld).value = some true ∧
    (removeAllUpdateState ⟨"", .exclusive⟩ cancelledWorld).value = some true ∧
    (removeAllUpdateState ⟨"", .exclusive⟩ cancelledWorld).world.sys.updateState = .None ∧
    (removeAllUpdateState ⟨"", .exclusive⟩ cancelledWorld).world.sys.records = [] ∧
    (lookup (removeAllUpdateState ⟨"", .exclusive⟩ cancelledWorld).world.sys.devices
      "system_b").isSome ∧
    (lookup (removeAllUpdateState ⟨"", .exclusive⟩ cancelledWorld).world.sys.images
      "system_b-cow-img").isSome := by
  decide

/-- A merged snapshot, `system_b`, of 4 KiB with a 4 KiB COW image. -/
def mergedStatus : SnapshotStatus :=
  { state := .MergeCompleted, device_size := 4096, snapshot_size := 4096, cow_file_size := 4096 }

/-- The state file says `merging` and the one status file `MergeCompleted`; every file-system call
succeeds and every mapper and image-manager call fails, so no snapshot can be deleted. -/
def mergedWorld : World :=
  { sys := { state := "merging", records := [("system_b", statusLine mergedStatus)] },
    oracle := { ext := fun _ => false } }

set_option maxRecDepth 20000 in
/-- `CheckMergeState()` reports `MergeCompleted` although `RemoveAllUpdateState` failed: the state
file still says `merging` and the status file of `system_b` is still there. Reference:
`snapshot.cpp:699`. -/
theorem checkMergeState_keeps_merged_record :
    (checkMergeState mergedWorld).value = some .MergeCompleted ∧
    (checkMergeState mergedWorld).world.sys.updateState = .Merging ∧
    keys (checkMergeState mergedWorld).world.sys.records = ["system_b"] := by
  decide

/-- The live slot `_b` after the merge of `system_b` was collapsed: `system_b` is the plain linear
partition, its status file still says `MergeCompleted`, and the state file `merging`. The
image manager does not open at steps 12 and 17, the `EnsureImageManager` of the
`DeleteSnapshot` in `OnSnapshotMergeComplete` and of the `UnmapCowDevices` in
`RemoveAllSnapshots`; every other call succeeds. -/
def collapsedWorld : World :=
  { sys := { state := "merging", records := [("system_b", statusLine mergedStatus)], slot := "_b",
             devices := [("system_b", { uuid := "uuid-system_b", table := [⟨0, 8, .linear "super" 0⟩] })],
             metadata := fun _ => [⟨"system_b", "default", true, [(8, 0)]⟩] },
    oracle := { ext := fun k => k != 12 && k != 17 } }

set_option maxRecDepth 20000 in
/-- `CheckMergeState()` on it reports `MergeCompleted`, and the cleanup in `AcknowledgeMergeSuccess`
runs `UnmapPartitionWithSnapshot(system_b)`, which deletes the partition's device, while the status
file still says `MergeCompleted`. Reference: `snapshot.cpp:891`. -/
theorem checkMergeState_deletes_merged_partition :
    lookup collapsedWorld.sys.records "system_b" = some (statusLine mergedStatus) ∧
    mergedStatus.state = .MergeCompleted ∧
    (lookup collapsedWorld.sys.devices "system_b").isSome ∧
    (checkMergeState collapsedWorld).value = some .MergeCompleted ∧
    lookup (checkMergeState collapsedWorld).world.sys.devices "system_b" = none ∧
    lookup (checkMergeState collapsedWorld).world.sys.records "system_b" =
      some (statusLine mergedStatus) := by
  decide

end LibSnapshot
