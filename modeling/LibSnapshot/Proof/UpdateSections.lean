import LibSnapshot.Proof.Cleanup
import LibSnapshot.Proof.Sound

/-!
# The sections of an update

Each exclusive section of `BeginUpdate`, `CancelUpdate`, `FinishedSnapshotWrites` and
`CreateUpdateSnapshots`, run on a reliable file system from a system `s0`, makes only effects that
`EventOk s0` accepts. The proofs follow the code: the guards each section reads (`Reads`) are what
make its writes edges of the state machine, and `CreateSnapshot` writes `Created` only over the
empty file it has just created, right after `DeleteSnapshot` reported the old one gone.
-/

namespace LibSnapshot

open SM DeviceMapper SnapshotManager

/-- An effect the invariant does not follow is always accepted. Reference: none. -/
theorem eventOk_of_untracked {s0 : Sys} {e : Event} (h : e.op.Untracked) : EventOk s0 e := by
  obtain ⟨pre, op, mode⟩ := e
  cases op <;> trivial

/-- Creating an empty status file is always accepted. Reference: `snapshot.cpp:1678`. -/
theorem eventOk_createStatus {s0 : Sys} {e : Event} {name : String}
    (h : e.op = .createStatus name) : EventOk s0 e := by
  obtain ⟨pre, op, mode⟩ := e
  subst h
  trivial

section Sections

variable {s0 : Sys} {lock : LockedFile}

/-! ## Beginning and finishing -/

/-- The last section of `BeginUpdate` writes `Initiated` only over `None`. Reference:
`snapshot.cpp:143`. -/
theorem beginUpdateLocked_sound : Sound (EventOk s0) (· = s0) beginUpdateLocked :=
  Sound.locked_exclusive fun lock _ => by
    simp only [SM.pure_bind]
    refine (readUpdateState_reads lock).runs.bind fun st => Runs.ite
      (fun _ => Runs.pure fun _ _ => trivial) fun hst => ?_
    refine (writeUpdateState_runs lock .Initiated fun s _ hs => ⟨.Initiated, rfl, ?_⟩).post_mono
      fun _ _ _ => trivial
    exact hs.1.symm.trans (not_not.mp hst)

/-- `FinishedSnapshotWrites` writes `Unverified` only over `Initiated`, after the indicator.
Reference: `snapshot.cpp:210`. -/
theorem finishedSnapshotWrites_sound : Sound (EventOk s0) (· = s0) finishedSnapshotWrites :=
  Sound.locked_exclusive fun lock _ => by
    simp only [SM.pure_bind]
    refine (readUpdateState_reads lock).runs.bind fun st => Runs.ite
      (fun _ => Runs.pure fun _ _ => trivial) fun _ => Runs.ite
      (fun _ => Runs.pure fun _ _ => trivial) fun hst => ?_
    refine Runs.sys.bind fun sl => (Runs.persist fun _ _ _ => trivial).bind fun ok =>
      Runs.ite (fun _ => Runs.pure fun _ _ => trivial) fun hok => ?_
    refine (writeUpdateState_runs lock .Unverified fun s _ hs => ⟨.Unverified, rfl, ?_⟩).post_mono
      fun _ _ _ => trivial
    have hok : ok = true := by simpa using hok
    subst hok
    obtain ⟨s₁, ⟨rfl, hst₁, -⟩, rfl⟩ := hs
    exact ⟨hst₁.symm.trans (not_not.mp hst), rfl⟩

/-! ## Cancelling -/

/-- `RemoveAllUpdateState` writes `None` only after every status file is gone, and over the state it
started from; from `Unverified`, the section must have read an indicator that is missing or names
the live slot. Reference: `snapshot.cpp:197`. -/
theorem removeAllUpdateState_checked (hlock : lock.lock_mode = .exclusive) :
    Runs Reliable (EventOk s0)
      (fun s => s.updateState = .Unverified → s0.indicator = none ∨ s0.indicator = some s0.slot)
      (removeAllUpdateState lock) (fun _ _ => True) :=
  Runs.ghost Sys.updateState fun u => Runs.assume (fun _ h hu => h.1 (h.2.trans hu)) fun hu =>
    (removeAllUpdateState_runs u hlock
      (fun _ ⟨_, h⟩ => eventOk_of_untracked h.untracked) (fun _ _ _ _ => eventOk_of_untracked trivial)
      fun _ _ hr hs => ⟨.None, rfl, hr, fun h => hu (hs.symm.trans h)⟩).conseq (fun _ h => h.2)
      fun _ _ _ => trivial

/-- `TryCancelUpdate` makes only checked effects. Reference: `snapshot.cpp:166`. -/
theorem tryCancelUpdate_sound : Sound (EventOk s0) (· = s0) tryCancelUpdate :=
  Sound.locked_exclusive fun lock hlock => by
    simp only [SM.pure_bind]
    refine (readUpdateState_reads lock).runs.bind fun st => Runs.assume
      (fun s (h : st = s.updateState ∧ s = s0) => h.2 ▸ h.1) fun hst => ?_
    refine Runs.ite (fun _ => Runs.pure fun _ _ => trivial) fun _ => Runs.ite
      (fun hi => ((removeAllUpdateState_checked hlock).conseq
        (fun s hs hu => absurd (hi.symm.trans (hs.1.trans hu)) (by decide)) fun _ _ h => h).bind fun _ =>
        Runs.pure fun _ _ => trivial) fun _ => Runs.ite
      (fun hu => readBootIndicator_reads.runs.bind fun o => ?_) fun _ => Runs.pure fun _ _ => trivial
    refine Runs.assume (fun s (h : o = s.indicator ∧ st = s.updateState ∧ s = s0) => h.2.2 ▸ h.1)
      fun hind => ?_
    have hcall : (s0.indicator = none ∨ s0.indicator = some s0.slot) →
        Runs Reliable (EventOk s0) (fun s => o = s.indicator ∧ st = s.updateState ∧ s = s0)
          (do let r ← removeAllUpdateState lock; pure (r, false)) (fun _ _ => True) := fun hi =>
      ((removeAllUpdateState_checked hlock).conseq (fun _ _ _ => hi) fun _ _ h => h).bind fun _ =>
        Runs.pure fun _ _ => trivial
    split
    · rename_i contents
      refine Runs.sys.bind fun sl => Runs.assume (fun s (h : sl = s ∧ _) => h.1 ▸ h.2.2.2) fun hsl => ?_
      subst hsl
      exact Runs.ite (fun h => (hcall (.inr (hind.symm.trans (congrArg some h.symm)))).conseq
        (fun _ h => h.2) fun _ _ h => h) fun _ => Runs.pure fun _ _ => trivial
    · rename_i hnone
      cases o with
      | none => exact hcall (.inl hind.symm)
      | some c => exact absurd rfl (hnone c)

/-! ## Creating snapshots -/

/-- `CreateSnapshot` writes a valid `Created` status over the file `WriteSnapshotStatus` creates,
when no status file of the snapshot is left. Reference: `snapshot.cpp:237`. -/
theorem createSnapshot_runs (hlock : lock.lock_mode = .exclusive) (name : String)
    (status : SnapshotStatus) (hsnap : 0 < status.snapshot_size)
    (hcow : 0 < status.cow_partition_size + status.cow_file_size) :
    Runs Reliable (EventOk s0) (fun s => lookup s.records name = none)
      (createSnapshot lock name status) (fun _ _ => True) := by
  simp only [createSnapshot, SM.pure_bind]
  refine ((Runs.CHECK (lock_check_ok hlock)).post_mono fun _ _ h => h.2).bind fun _ =>
    Runs.ite (fun _ => Runs.pure fun _ _ => trivial) fun hd =>
    Runs.ite (fun _ => Runs.pure fun _ _ => trivial) fun hs =>
    Runs.ite (fun _ => Runs.pure fun _ _ => trivial) fun hp =>
    Runs.ite (fun _ => Runs.pure fun _ _ => trivial) fun hf =>
    (writeSnapshotStatus_runs hlock name _ (fun _ _ _ => eventOk_createStatus rfl)
      fun s _ hnone => ⟨_, rfl, ?_⟩).post_mono fun _ _ _ => trivial
  refine ⟨⟨⟨not_not.mp hd, not_not.mp hs, not_not.mp hp, not_not.mp hf, hsnap, hcow⟩,
    (fun h => nomatch h), fun _ => ⟨rfl, rfl⟩⟩, .inl ⟨?_, rfl⟩, fun h => absurd rfl h,
    fun h => nomatch h⟩
  simp [FileOp.apply, hnone]

/-- One turn of the first loop of `CreateUpdateSnapshots` makes only checked effects and adds only
entries that hold its lock. Reference: `snapshot.cpp:1806`. -/
theorem createPartitionSnapshot_runs (hlock : lock.lock_mode = .exclusive)
    (ext : UpdateCollaborators) (target_metadata : MetadataBuilder) {created : List AutoDevice}
    (hcd : ∀ d ∈ created, d.Exclusive) (target_partition : Partition) :
    Runs Reliable (EventOk s0) (fun _ => True)
      (createPartitionSnapshot lock ext target_metadata created target_partition)
      (fun r _ => ∀ d ∈ r.2, d.Exclusive) := by
  simp only [createPartitionSnapshot, SM.pure_bind]
  split
  · rename_i ret _
    refine (deleteSnapshot_runs (fun e h => eventOk_of_untracked h.untracked) hlock).bind fun ok =>
      Runs.ite (fun _ => Runs.pure fun _ _ => ?_) fun hok => ?_
    · exact hcd
    refine (Runs.CHECK (.inr (by decide))).bind fun _ => Runs.assume (fun _ h => of_decide_eq_true h.1)
      fun hneeds => Runs.ite (fun _ => Runs.pure fun _ _ => ?_) fun hsnap => ?_
    · exact hcd
    have hsnap : 0 < ret.snapshot_status.snapshot_size := by simpa using hsnap
    refine ((createSnapshot_runs hlock _ _ hsnap (cast hneeds hsnap)).conseq
      (fun _ h => h.2 (by simpa using hok)) fun _ _ h => h).bind fun _ =>
      Runs.ite (fun _ => Runs.pure fun _ _ => ?_) fun _ => ?_
    · exact hcd
    -- the COW partition, then the COW image: both untracked, like the rest of the body
    have hd := exclusive_cons (deleteSnapshot_exclusive hlock target_partition.name) hcd
    have himage := Runs.keeps (S := EventOk s0) (O := Reliable) (Q := True)
      (createCowImage_keeps (fun e h => eventOk_of_untracked h) hlock target_partition.name)
      fun _ h => h
    refine Runs.ite (fun _ => (Runs.keeps (Keeps.CHECK (.inr (by decide))) fun _ h => h).bind fun _ =>
      Runs.ite (fun _ => Runs.pure fun _ _ => hd) fun _ => ?_) fun _ => ?_
    · split
      · refine (Runs.keeps Keeps.extCall fun _ h => h).bind fun _ =>
          Runs.ite (fun _ => Runs.pure fun _ _ => hd) fun _ => ?_
        exact Runs.ite (fun _ => (himage.conseq (fun _ _ => trivial) fun _ _ h => h).bind fun _ =>
          Runs.ite (fun _ => Runs.pure fun _ _ => hd) fun _ => Runs.pure fun _ _ => hd)
          fun _ => Runs.pure fun _ _ => hd
      · exact Runs.pure fun _ _ => hd
    · exact Runs.ite (fun _ => himage.bind fun _ =>
        Runs.ite (fun _ => Runs.pure fun _ _ => hd) fun _ => Runs.pure fun _ _ => hd)
        fun _ => Runs.pure fun _ _ => hd
  · refine Runs.pure fun _ _ => ?_
    exact hcd

/-- The first loop of `CreateUpdateSnapshots` makes only checked effects and adds only entries that
hold its lock. Reference: `snapshot.cpp:1806`. -/
theorem createAll_runs (hlock : lock.lock_mode = .exclusive) (ext : UpdateCollaborators) :
    ∀ target_metadata all_snapshot_status {created : List AutoDevice} targets,
      (∀ d ∈ created, d.Exclusive) →
      Runs Reliable (EventOk s0) (fun _ => True)
        (createAll lock ext target_metadata all_snapshot_status created targets)
        (fun r _ => ∀ d ∈ r.2, d.Exclusive)
  | _, _, _, [], hcd => Runs.pure fun _ _ => hcd
  | target_metadata, all_snapshot_status, created, p :: ps, hcd => by
    refine (createPartitionSnapshot_runs hlock ext target_metadata hcd p).bind fun x =>
      Runs.assume (fun _ h => h) fun hx => ?_
    obtain ⟨r, created'⟩ := x
    dsimp only
    split
    · exact Runs.pure fun _ _ => hx
    · exact (createAll_runs hlock ext _ _ ps hx).conseq (fun _ _ => trivial) fun _ _ h => h
    · exact (createAll_runs hlock ext _ _ ps hx).conseq (fun _ _ => trivial) fun _ _ h => h

/-- A cleanup list whose entries hold the exclusive lock: its destructors only remove. Reference:
`utility.cpp:31`. -/
theorem withAutoDeviceList_runs {α : Type} {body : List AutoDevice → SM (α × List AutoDevice)}
    {pre : Sys → Prop}
    (h : Runs Reliable (EventOk s0) pre (body []) (fun r _ => ∀ d ∈ r.2, d.Exclusive)) :
    Runs Reliable (EventOk s0) pre (withAutoDeviceList body) (fun _ _ => True) := by
  refine h.bind fun x => Runs.assume (fun _ h => h) fun hx => ?_
  obtain ⟨r, created⟩ := x
  exact (Runs.keeps (destroyAll_keeps (fun e h => eventOk_of_untracked h) hx) fun _ h => h).bind
    fun _ => Runs.pure fun _ _ => trivial

/-- `CreateUpdateSnapshots` makes only checked effects, its cleanup list's included. Reference:
`snapshot.cpp:1744`. -/
theorem createUpdateSnapshots_sound (manifest : DeltaArchiveManifest) (ext : UpdateCollaborators) :
    Sound (EventOk s0) (· = s0) (createUpdateSnapshots manifest ext) :=
  Sound.locked_exclusive fun lock hlock => by
    refine (?_ : Runs Reliable (EventOk s0) (fun _ => True) _ _).conseq (fun _ _ => trivial)
      fun _ _ h => h
    simp only [SM.pure_bind]
    refine (Runs.keeps Keeps.sys fun _ h => h).bind fun _ => ?_
    split
    case h_2 => exact Runs.pure fun _ _ => trivial
    refine Runs.ite (fun _ => Runs.pure fun _ _ => trivial) fun _ =>
      Runs.ite (fun _ => Runs.pure fun _ _ => trivial) fun _ =>
        (Runs.keeps Keeps.sys fun _ h => h).bind fun _ =>
          Runs.ite (fun _ => Runs.pure fun _ _ => trivial) fun _ =>
            (Runs.keeps (Keeps.CHECK (.inr (by decide))) fun _ h => h).bind fun _ =>
              withAutoDeviceList_runs <| ((createAll_runs hlock ext _ _ _ exclusive_nil).conseq
                (fun _ _ => trivial) fun _ _ h => h).bind fun r =>
                  Runs.assume (fun _ h => h) fun hr => ?_
    rcases r with ⟨_ | ⟨target_metadata, all_snapshot_status⟩, created⟩
    · exact Runs.pure fun _ _ => hr
    · exact (Runs.keeps Keeps.extCall fun _ h => h).bind fun _ =>
        Runs.ite (fun _ => Runs.pure fun _ _ => hr) fun _ =>
          (Runs.keeps (zeroFillAll_keeps (fun e h => eventOk_of_untracked h) _ _ _) fun _ h => h).bind
            fun _ => Runs.ite (fun _ => Runs.pure fun _ _ => hr) fun _ =>
              (Runs.keeps (Keeps.persist fun _ => trivial) fun _ h => h).bind fun _ =>
                Runs.ite (fun _ => Runs.pure fun _ _ => hr) fun _ => Runs.pure fun _ _ => exclusive_nil

/-- `CreateLogicalAndSnapshotPartitions` only maps. Reference: `snapshot.cpp:1188`. -/
theorem createLogicalAndSnapshotPartitions_sound (super_device : String) :
    Sound (EventOk s0) (· = s0) (createLogicalAndSnapshotPartitions super_device) :=
  Sound.locked_quiet fun _ => Keeps.sys.bind fun _ _ => (readMetadata_keeps _).bind fun metadata _ =>
    match metadata with
    | none => Keeps.pure_true
    | some _ => mapAllPartitions_keeps _ _ _ _

end Sections

end LibSnapshot
