import LibSnapshot.Proof.Frames

/-!
# The flock discipline

Every public operation of the manager, run by a process that holds no flock on the state file,
makes each of its effects (a write or truncation of the state file, a `WriteSnapshotStatus`, a
removal of a status file or a COW image, a write or unlink of the boot indicator, an
`InitializeCow`, a write of the target slot's metadata) while it holds the exclusive flock, never
stops on a `CHECK(lock->lock_mode() == LOCK_EX)`, and returns without a flock
(`publicOp_disciplined`).

The proof has one lemma per operation. A locked section (`locked`) is `Disciplined` when its body
keeps the frame that allows effects only under the exclusive lock (`Disciplined.locked`): the
body of an exclusive section may do anything, since every function it calls keeps
`Keeps (fun _ => True)` given the exclusive lock (`Proof.Frames`), and the body of a shared
section must be quiet.
-/

namespace LibSnapshot

open SM DeviceMapper SnapshotManager

/-! ## Taking the lock -/

/-- `OpenFile` changes neither the system, the oracle nor the history; it leaves the flock as it was
when it fails, and holds `lock_flags` when it returns a `LockedFile`, whose mode is `lock_flags`.
Reference: `snapshot.cpp:1478`. -/
theorem openStateFile_spec (mode : LockMode) (w : World) :
    Spec (openStateFile mode) w
      (fun r w' => w'.trace = w.trace ∧ w'.sys = w.sys ∧ w'.oracle = w.oracle ∧
        (r = none ∧ w'.held = w.held ∨ ∃ path, r = some ⟨path, mode⟩ ∧ w'.held = mode))
      (fun e w' => e ≠ lockCheck ∧ w'.trace = w.trace ∧ w'.sys = w.sys ∧ w'.oracle = w.oracle ∧
        w'.held = w.held) := by
  dsimp only [openStateFile]
  by_cases h₀ : w.oracle.crash = some w.tick <;> by_cases h₁ : w.oracle.crash = some (w.tick + 1) <;>
    cases h₂ : w.oracle.io w.tick <;> cases h₃ : w.oracle.io (w.tick + 1) <;>
    by_cases hm : mode = .none <;>
    simp [Spec, bind_apply, ioCall_apply, setHeld_apply, h₀, h₁, h₂, h₃, hm, lockCheck]

/-! ## Disciplined runs -/

/-- The effects a run logged after `w` were all made under the exclusive flock. -/
def Fresh (w w' : World) : Prop := ∃ t, w'.trace = t ++ w.trace ∧ ∀ e ∈ t, e.mode = .exclusive

namespace Fresh

variable {w w₁ w₂ : World}

/-- A run that logged nothing is fresh. Reference: none. -/
theorem of_trace_eq (h : w₁.trace = w.trace) : Fresh w w₁ := ⟨[], by simpa using h, by simp⟩

/-- Two fresh stretches of a run make one. Reference: none. -/
theorem trans (h₁ : Fresh w w₁) (h₂ : Fresh w₁ w₂) : Fresh w w₂ := by
  obtain ⟨t₁, ht₁, he₁⟩ := h₁
  obtain ⟨t₂, ht₂, he₂⟩ := h₂
  exact ⟨t₂ ++ t₁, by simp [ht₂, ht₁], fun e he => (List.mem_append.mp he).elim (he₂ e) (he₁ e)⟩

/-- A frame whose effects need the exclusive flock, from a world that holds it whenever it makes
one, is fresh. Reference: none. -/
theorem of_frame {S : Event → Prop} (h : Frame S w w₁) (hS : ∀ e, S e → w.held = .exclusive) :
    Fresh w w₁ := by
  obtain ⟨-, -, t, ht, -, he⟩ := h
  exact ⟨t, ht, fun e h => (he e h).1.trans (hS _ (he e h).2)⟩

end Fresh

/-- A run of `m` by a process that holds no flock makes its effects under the exclusive flock,
never stops on the `CHECK` of the exclusive lock, and, if it returns, holds no flock. -/
structure Disciplined {α : Type} (m : SM α) : Prop where
  run : ∀ w, w.held = .none → Spec m w (fun _ w' => w'.held = .none ∧ Fresh w w')
    (fun e w' => e ≠ lockCheck ∧ Fresh w w')

namespace Disciplined
variable {α β : Type}

/-- `pure a` is disciplined. Reference: none. -/
theorem pure {a : α} : Disciplined (Pure.pure a : SM α) := ⟨fun _ hw =>
  Spec.pure ⟨hw, Fresh.of_trace_eq rfl⟩⟩

/-- A sequence of disciplined code is disciplined. Reference: none. -/
theorem bind {m : SM α} {f : α → SM β} (hm : Disciplined m) (hf : ∀ a, Disciplined (f a)) :
    Disciplined (m >>= f) := ⟨fun w hw =>
  ((hm.run w hw).mono (fun _ _ h => h) fun _ _ h => h).bind fun a w₁ h₁ =>
    ((hf a).run w₁ h₁.1).mono (fun _ _ h => ⟨h.1, h₁.2.trans h.2⟩)
      fun _ _ h => ⟨h.1, h₁.2.trans h.2⟩⟩

/-- An `if` whose branches are disciplined is disciplined. Reference: none. -/
theorem ite {c : Prop} [Decidable c] {a b : SM α} (ha : Disciplined a) (hb : Disciplined b) :
    Disciplined (if c then a else b) := by
  split
  · exact ha
  · exact hb

/-- `if c then return a` followed by more code, as `do` unfolds it. Reference: none. -/
theorem early {c : Prop} [Decidable c] {a : α} {rest : SM α} (hrest : Disciplined rest) :
    Disciplined (if c then Pure.pure a else (Pure.pure PUnit.unit >>= fun _ => rest)) :=
  ite pure (pure.bind fun _ => hrest)

/-- Code that makes no effect and takes no flock is disciplined. Reference: none. -/
theorem of_keeps {P : α → Prop} {m : SM α} (h : Keeps (fun _ => False) P m) : Disciplined m :=
  ⟨fun w hw => (h w).mono (fun _ _ h => ⟨h.2.held.trans hw, Fresh.of_frame h.2 fun _ => False.elim⟩)
    fun _ _ h => ⟨h.1, Fresh.of_frame h.2 fun _ => False.elim⟩⟩

/-- A locked section is disciplined when its body makes effects only under the exclusive flock;
`~LockedFile` drops the flock. Reference: `snapshot.cpp:1495`. -/
theorem locked {mode : LockMode} {dflt : α} {body : LockedFile → SM α}
    (h : ∀ lock : LockedFile, lock.lock_mode = mode →
      Keeps (fun _ => mode = .exclusive) (fun _ => True) (body lock)) :
    Disciplined (SnapshotManager.locked (openStateFile mode) dflt body) := ⟨fun w hw => by
  refine ((openStateFile_spec mode w).mono (fun _ _ h => h)
    fun _ _ h => ⟨h.1, Fresh.of_trace_eq h.2.1⟩).bind fun r w₁ h₁ => ?_
  obtain ⟨ht₁, -, -, ⟨rfl, hh₁⟩ | ⟨path, rfl, hh₁⟩⟩ := h₁
  · exact Spec.pure ⟨hh₁.trans hw, Fresh.of_trace_eq ht₁⟩
  · have hf₁ : Fresh w w₁ := Fresh.of_trace_eq ht₁
    refine ((h ⟨path, mode⟩ rfl w₁).mono (fun _ _ h => h) fun _ _ h₂ =>
      ⟨h₂.1, hf₁.trans (Fresh.of_frame h₂.2 fun _ hS => hh₁.trans hS)⟩).bind fun r w₂ h₂ => ?_
    have hf₂ : Fresh w w₂ := hf₁.trans (Fresh.of_frame h₂.2 fun _ hS => hh₁.trans hS)
    simp only [unlock, Spec, bind_apply, setHeld_apply]
    exact ⟨rfl, hf₂.trans (Fresh.of_trace_eq rfl)⟩⟩

/-- An exclusive section may call anything that needs the exclusive lock. Reference:
`snapshot.cpp:1515`. -/
theorem locked_exclusive {dflt : α} {body : LockedFile → SM α}
    (h : ∀ lock : LockedFile, lock.lock_mode = .exclusive →
      Keeps (fun _ => True) (fun _ => True) (body lock)) :
    Disciplined (SnapshotManager.locked lockExclusive dflt body) :=
  locked fun lock hl => (h lock hl).mono (fun _ _ => rfl) fun _ h => h

/-- A shared section must make no effect. Reference: `snapshot.cpp:1511`. -/
theorem locked_shared {dflt : α} {body : LockedFile → SM α}
    (h : ∀ lock : LockedFile, Keeps (fun _ => False) (fun _ => True) (body lock)) :
    Disciplined (SnapshotManager.locked lockShared dflt body) :=
  locked fun lock _ => (h lock).mono (fun _ h => h.elim) fun _ h => h

end Disciplined

/-- An empty cleanup list holds the exclusive lock in every entry. Reference: none. -/
theorem exclusive_nil : ∀ d ∈ ([] : List AutoDevice), d.Exclusive :=
  fun _ h => absurd h (List.not_mem_nil _)

/-! ## The operations -/

/-- `TryCancelUpdate` is disciplined. Reference: `snapshot.cpp:166`. -/
theorem tryCancelUpdate_disciplined : Disciplined tryCancelUpdate :=
  Disciplined.locked_exclusive fun file h => by
    have hremove : Keeps (fun _ => True) (fun _ => True)
        (removeAllUpdateState file >>= fun r => pure (r, false)) :=
      (removeAllUpdateState_keeps h).bind fun _ _ => Keeps.pure_true
    dsimp only
    refine (readUpdateState_keeps _).bind fun _ _ => Keeps.early trivial <| Keeps.ite hremove <|
      Keeps.pure_true.bind fun _ _ => Keeps.ite ?_ (Keeps.pure_true.bind fun _ _ => Keeps.pure_true)
    refine readBootIndicator_keeps.bind fun contents _ => ?_
    rcases contents with _ | contents
    · exact hremove
    · exact Keeps.sys.bind fun _ _ =>
        Keeps.ite hremove (Keeps.pure_true.bind fun _ _ => Keeps.pure_true)

/-- `CheckMergeState()` is disciplined. Reference: `snapshot.cpp:699`. -/
theorem checkMergeState_disciplined : Disciplined checkMergeState :=
  Disciplined.locked_exclusive fun _ h =>
    (checkMergeStateLocked_keeps h).bind fun _ _ =>
      Keeps.ite ((acknowledgeMergeSuccess_keeps h).bind fun _ _ => Keeps.pure_true) <|
        Keeps.ite ((removeAllUpdateState_keeps h).bind fun _ _ => Keeps.pure_true)
          (Keeps.pure_true.bind fun _ _ => Keeps.pure_true)

/-- `AcknowledgeMergeFailure` is disciplined. Reference: `snapshot.cpp:895`. -/
theorem acknowledgeMergeFailure_disciplined : Disciplined acknowledgeMergeFailure :=
  Disciplined.locked_exclusive fun _ _ => (readUpdateState_keeps _).bind fun _ _ =>
    Keeps.early trivial ((writeUpdateState_keeps _ _).bind fun _ _ => Keeps.pure_true)

/-- One poll of `ProcessUpdateState` is disciplined. Reference: `snapshot.cpp:683`. -/
theorem pollUpdateState_disciplined : Disciplined pollUpdateState :=
  checkMergeState_disciplined.bind fun _ =>
    Disciplined.ite (acknowledgeMergeFailure_disciplined.bind fun _ => Disciplined.pure)
      (Disciplined.pure.bind fun _ => Disciplined.pure)

/-- `ProcessUpdateState` is disciplined, however many polls it makes. Reference:
`snapshot.cpp:681`. -/
theorem processUpdateState_disciplined : ∀ fuel, Disciplined (processUpdateState fuel)
  | 0 => pollUpdateState_disciplined
  | fuel + 1 => pollUpdateState_disciplined.bind fun _ =>
    Disciplined.early (processUpdateState_disciplined fuel)

/-- The last locked section of `BeginUpdate` is disciplined. Reference: `snapshot.cpp:143`. -/
theorem beginUpdateLocked_disciplined : Disciplined beginUpdateLocked :=
  Disciplined.locked_exclusive fun _ _ => (readUpdateState_keeps _).bind fun _ _ =>
    Keeps.early trivial (writeUpdateState_keeps _ _)

/-- `BeginUpdate` is disciplined: each of its sections takes and drops its own flock. Reference:
`snapshot.cpp:133`. -/
theorem beginUpdate_disciplined (fuel : Nat) : Disciplined (beginUpdate fuel) :=
  tryCancelUpdate_disciplined.bind fun _ => Disciplined.early <|
    Disciplined.ite ((processUpdateState_disciplined fuel).bind fun _ => beginUpdateLocked_disciplined)
      (Disciplined.pure.bind fun _ => beginUpdateLocked_disciplined)

/-- `CancelUpdate` is disciplined. Reference: `snapshot.cpp:155`. -/
theorem cancelUpdate_disciplined : Disciplined cancelUpdate :=
  tryCancelUpdate_disciplined.bind fun _ => Disciplined.early Disciplined.pure

/-- `FinishedSnapshotWrites` is disciplined. Reference: `snapshot.cpp:210`. -/
theorem finishedSnapshotWrites_disciplined : Disciplined finishedSnapshotWrites :=
  Disciplined.locked_exclusive fun _ _ => (readUpdateState_keeps _).bind fun _ _ =>
    Keeps.early trivial <| Keeps.early trivial <| Keeps.sys.bind fun _ _ =>
      (writeBootIndicator_keeps (fun _ _ => trivial) _).bind fun _ _ =>
        Keeps.early trivial (writeUpdateState_keeps _ _)

/-- `CreateUpdateSnapshots` is disciplined, its cleanup list's `DeleteSnapshot` included. Reference:
`snapshot.cpp:1744`. -/
theorem createUpdateSnapshots_disciplined (manifest : DeltaArchiveManifest)
    (ext : UpdateCollaborators) : Disciplined (createUpdateSnapshots manifest ext) :=
  Disciplined.locked_exclusive fun _ h => by
    refine Keeps.sys.bind fun _ _ => ?_
    rcases ext.target_metadata with _ | target_metadata
    · exact Keeps.pure_true
    refine Keeps.early trivial <| Keeps.early trivial <| Keeps.sys.bind fun _ _ =>
      Keeps.early trivial <| (Keeps.CHECK (.inr (by decide))).bind fun _ _ =>
        withAutoDeviceList_keeps (fun _ _ => trivial) <|
          (createAll_keeps h _ _ _ exclusive_nil _).bind fun r hr => ?_
    rcases r with ⟨_ | ⟨target_metadata, all_snapshot_status⟩, created_devices⟩
    · exact Keeps.pure ⟨trivial, hr⟩
    · exact Keeps.extCall.bind fun _ _ => Keeps.early ⟨trivial, hr⟩ <|
        (zeroFillAll_keeps (fun _ _ => trivial) _ _ _).bind fun _ _ => Keeps.early ⟨trivial, hr⟩ <|
          (Keeps.persist fun _ => trivial).bind fun _ _ =>
            Keeps.early ⟨trivial, hr⟩ (Keeps.pure ⟨trivial, exclusive_nil⟩)

/-- `InitiateMerge` is disciplined. Reference: `snapshot.cpp:487`. -/
theorem initiateMerge_disciplined : Disciplined initiateMerge :=
  Disciplined.locked_exclusive fun _ h => by
    refine (readUpdateState_keeps _).bind fun _ _ => Keeps.early trivial <|
      readBootIndicator_keeps.bind fun old_slot _ => ?_
    rcases old_slot with _ | old_slot
    · exact Keeps.pure_true
    refine Keeps.sys.bind fun _ _ => Keeps.early trivial <|
      (listSnapshots_keeps _).bind fun snapshots _ => ?_
    rcases snapshots with _ | snapshots
    · exact Keeps.pure_true
    · exact (allMapped_keeps _).bind fun _ _ => Keeps.early trivial <|
        (writeUpdateState_keeps _ _).bind fun _ _ => Keeps.early trivial <|
          (switchAll_keeps h _).bind fun _ _ =>
            Keeps.ite ((writeUpdateState_keeps _ _).bind fun _ _ => Keeps.pure_true)
              (Keeps.pure_true.bind fun _ _ => Keeps.pure_true)

/-- `MapUpdateSnapshot` makes no effect under its shared flock. Reference: `snapshot.cpp:1947`. -/
theorem mapUpdateSnapshot_disciplined (params : CreateLogicalPartitionParams) :
    Disciplined (mapUpdateSnapshot params) :=
  Disciplined.locked_shared fun _ =>
    (unmapPartitionWithSnapshot_keeps _ _).bind fun _ _ =>
      Keeps.early trivial (mapPartitionWithSnapshot_keeps _ _)

/-- `UnmapUpdateSnapshot` makes no effect under its shared flock. Reference: `snapshot.cpp:1959`. -/
theorem unmapUpdateSnapshot_disciplined (target_partition_name : String) :
    Disciplined (unmapUpdateSnapshot target_partition_name) :=
  Disciplined.locked_shared fun _ => unmapPartitionWithSnapshot_keeps _ _

/-- `GetUpdateState` makes no effect under its shared flock. Reference: `snapshot.cpp:1106`. -/
theorem getUpdateState_disciplined : Disciplined getUpdateState :=
  (Disciplined.of_keeps Keeps.ioCall).bind fun _ => Disciplined.early <|
    Disciplined.locked_shared fun _ => (readUpdateState_keeps _).bind fun _ _ => Keeps.pure_true

/-- `IsSnapshotManagerNeeded` makes no effect and takes no flock. Reference: `snapshot.cpp:1148`. -/
theorem isSnapshotManagerNeeded_disciplined : Disciplined isSnapshotManagerNeeded :=
  Disciplined.of_keeps (Keeps.ioCall.bind fun _ _ => Keeps.sys.bind fun _ _ => Keeps.pure_true)

/-- `CreateLogicalAndSnapshotPartitions` is disciplined. Reference: `snapshot.cpp:1188`. -/
theorem createLogicalAndSnapshotPartitions_disciplined (super_device : String) :
    Disciplined (createLogicalAndSnapshotPartitions super_device) :=
  Disciplined.locked_exclusive fun _ _ => Keeps.sys.bind fun _ _ =>
    (readMetadata_keeps _).bind fun metadata _ =>
      match metadata with
      | none => Keeps.pure_true
      | some _ => mapAllPartitions_keeps _ _ _ _

/-- `OpenFile` without a lock, as `Dump` takes it. Reference: `snapshot.cpp:1965`. -/
theorem openStateFile_none_disciplined : Disciplined (openStateFile .none) :=
  ⟨fun w hw => (openStateFile_spec .none w).mono
    (fun _ _ h => ⟨by rcases h.2.2.2 with ⟨-, h'⟩ | ⟨-, -, h'⟩ <;> simp [h', hw], Fresh.of_trace_eq h.1⟩)
    fun _ _ h => ⟨h.1, Fresh.of_trace_eq h.2.1⟩⟩

/-- `Dump` makes no effect and drops the file it opened without a flock. Reference:
`snapshot.cpp:1965`. -/
theorem dump_disciplined : Disciplined dump :=
  openStateFile_none_disciplined.bind fun file =>
    match file with
    | none => Disciplined.pure
    | some _ => (Disciplined.of_keeps (readUpdateState_keeps _)).bind fun _ =>
      (Disciplined.of_keeps readBootIndicator_keeps).bind fun _ =>
        (Disciplined.of_keeps (listSnapshots_keeps _)).bind fun snapshots =>
          match snapshots with
          | none => Disciplined.pure
          | some _ => Disciplined.of_keeps (readAll_keeps _ _)

/-- `NeedSnapshotsInFirstStageMount` makes no effect under its shared flock. Reference:
`snapshot.cpp:1152`. -/
theorem needSnapshotsInFirstStageMount_disciplined : Disciplined needSnapshotsInFirstStageMount := by
  dsimp only [needSnapshotsInFirstStageMount]
  refine (Disciplined.of_keeps readBootIndicator_keeps).bind fun o => ?_
  rcases o with _ | old_slot
  · exact Disciplined.pure
  refine (Disciplined.of_keeps Keeps.sys).bind fun _ => Disciplined.ite Disciplined.pure ?_
  refine ⟨fun w hw => ((openStateFile_spec .shared w).mono (fun _ _ h => h)
    fun _ _ h => ⟨h.1, Fresh.of_trace_eq h.2.1⟩).bind fun r w₁ h₁ => ?_⟩
  obtain ⟨ht₁, -, -, ⟨rfl, -⟩ | ⟨path, rfl, hh₁⟩⟩ := h₁
  · exact ⟨by simp [lockCheck], Fresh.of_trace_eq ht₁⟩
  · have hq : Keeps (fun _ => False) (fun _ => True) (readUpdateState ⟨path, .shared⟩) :=
      readUpdateState_keeps _
    refine ((hq w₁).mono (fun _ _ h => h) fun _ _ h₂ =>
      ⟨h₂.1, (Fresh.of_trace_eq ht₁).trans (Fresh.of_frame h₂.2 fun _ => False.elim)⟩).bind
      fun _ w₂ h₂ => ?_
    simp only [unlock, Spec, bind_apply, setHeld_apply]
    exact ⟨rfl, ((Fresh.of_trace_eq ht₁).trans (Fresh.of_frame h₂.2 fun _ => False.elim)).trans
      (Fresh.of_trace_eq rfl)⟩

/-! ## Every public operation -/

/-- Every public operation, run by a process without a flock, makes each of its effects under the
exclusive flock, never fails the `CHECK` of the exclusive lock, and releases every flock it took.
Reference: `snapshot.h`. -/
theorem publicOp_disciplined (op : PublicOp) : Disciplined op.run := by
  have discard : ∀ {α : Type} {m : SM α}, Disciplined m → Disciplined (do let _ ← m) :=
    fun h => h.bind fun _ => Disciplined.pure
  cases op with
  | BeginUpdate fuel => exact discard (beginUpdate_disciplined fuel)
  | CancelUpdate => exact discard cancelUpdate_disciplined
  | CreateUpdateSnapshots manifest ext => exact discard (createUpdateSnapshots_disciplined manifest ext)
  | MapUpdateSnapshot params => exact discard (mapUpdateSnapshot_disciplined params)
  | UnmapUpdateSnapshot name => exact discard (unmapUpdateSnapshot_disciplined name)
  | FinishedSnapshotWrites => exact discard finishedSnapshotWrites_disciplined
  | InitiateMerge => exact discard initiateMerge_disciplined
  | ProcessUpdateState fuel => exact discard (processUpdateState_disciplined fuel)
  | GetUpdateState => exact discard getUpdateState_disciplined
  | NeedSnapshotsInFirstStageMount => exact discard needSnapshotsInFirstStageMount_disciplined
  | IsSnapshotManagerNeeded => exact discard isSnapshotManagerNeeded_disciplined
  | CreateLogicalAndSnapshotPartitions super_device =>
    exact discard (createLogicalAndSnapshotPartitions_disciplined super_device)
  | Dump => exact discard dump_disciplined

end LibSnapshot
