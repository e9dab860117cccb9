import LibSnapshot.Proof.Stack
import LibSnapshot.Proof.Reachable

/-!
# What a crash leaves behind

The power may be cut before any step of the manager's code (`Abort.crash`), and every file write
and every mapper, image-manager or metadata call is one step. `FinishedSnapshotWrites`,
`InitiateMerge` and `CheckTargetMergeState`, with the `OnSnapshotMergeComplete`,
`CollapseSnapshotDevice` and `DeleteSnapshot` it calls, keep the persisted files in step with what
the kernel has already done at every such point (`Consistent`):

* (a) a state file that says `Unverified` comes with a boot indicator naming the slot that was
  live when `FinishedSnapshotWrites` wrote it;
* (b) while a device has a `snapshot-merge` target, the state file makes `MapSnapshot` map every
  snapshot in merge mode (`storageModeFor`);
* (c) once the merge path has acted on a partition's stack (a device of it, or its COW image, is
  not as it was), the partition's status file is gone or says `MergeCompleted`, or the partition
  was flashed behind the update's back, so the next boot maps it as a plain linear device.

Each is a relation between the system the operation began on and the one at the crash: what held
then still holds, and what the operation did, it did in this order. `CrashSafe` says so of every
run whatever its oracle; since the oracle picks the step before which the power is cut, the abort
worlds of these runs are all the crash points. It is proved function by function, as the other
judgments are, from one lemma per kind of step.

(b) does not hold of every system these operations start from: `CheckMergeState` writes
`MergeNeedsReboot` when a collapse failed after the merge drained, and the failed collapse may
leave the `snapshot-merge` table in place (`checkMergeStateLocked_needs_reboot_keeps_merge_table`).
-/

namespace LibSnapshot

open SM DeviceMapper SnapshotManager

/-! ## What a crash must leave consistent -/

/-- Some device of the kernel has a `snapshot-merge` target in its active table. -/
def Sys.MergeTable (s : Sys) : Prop :=
  ∃ n d t, lookup s.devices n = some d ∧ t ∈ d.table ∧ getTargetType t = "snapshot-merge"

/-- (b): while a device has a `snapshot-merge` target, the persisted state makes `MapSnapshot`
map every snapshot in merge mode. -/
def Sys.MergeOk (s : Sys) : Prop := s.MergeTable → storageModeFor s.updateState = some .Merge

/-- A device of the stack of `name`, or its COW image, is not as it was in `s0`: the merge path
has collapsed the stack, unmapped the COW or deleted its image. -/
def Acted (s0 s : Sys) (name : String) : Prop :=
  (∃ n ∈ stackNames name, lookup s.devices n ≠ lookup s0.devices n) ∨
    lookup s.images (getCowImageDeviceName name) ≠ lookup s0.images (getCowImageDeviceName name)

/-- What a crash at `s`, in an operation that began on `s0`, leaves consistent; the merge path of
the operation acts on the stacks of the partitions `names`. -/
structure Consistent (names : List String) (s0 s : Sys) : Prop where
  slot : s.slot = s0.slot
  metadata : s.metadata = s0.metadata
  /-- (a), relative to the start: the indicator was written for the live slot before the state
  became `Unverified`, or the state was `Unverified` already and the indicator is untouched. -/
  indicator : s.updateState = .Unverified →
    s.indicator = some s0.slot ∨ s0.updateState = .Unverified ∧ s.indicator = s0.indicator
  /-- (b), relative to the start. -/
  merge : s0.MergeOk → s.MergeOk
  merged : ∀ n ∈ names, Merged s0 n → Merged s n
  /-- (c). -/
  acted : ∀ n ∈ names, Acted s0 s n → MergeDone s0 s n

/-- The partitions of `names` are merged or cancelled, so the merge path may act on their
stacks. -/
def Done (names : List String) (s : Sys) : Prop := ∀ n ∈ names, MergeDone s s n

/-- A stack acted on between `s₀` and `s₂` was acted on in one of the two stretches through `s₁`.
Reference: none. -/
theorem Acted.split {s₀ s₁ s₂ : Sys} {n : String} (h : Acted s₀ s₂ n) :
    Acted s₀ s₁ n ∨ Acted s₁ s₂ n := by
  by_contra hc
  simp only [Acted, not_or, not_exists, not_and, not_not] at hc
  obtain ⟨⟨hd₁, hi₁⟩, hd₂, hi₂⟩ := hc
  rcases h with ⟨m, hm, hne⟩ | hne
  · exact hne ((hd₂ m hm).trans (hd₁ m hm))
  · exact hne (hi₂.trans hi₁)

/-- A step that keeps the devices and the images acts on no stack. Reference: none. -/
theorem not_acted_of_kernel {s s' : Sys} {n : String} (hd : s'.devices = s.devices)
    (hi : s'.images = s.images) : ¬Acted s s' n := by
  simp [Acted, hd, hi]

namespace Consistent

variable {N : List String} {s s₀ s₁ s₂ : Sys}

/-- A crash before any step leaves the system consistent with itself. Reference: none. -/
theorem refl (N : List String) (s : Sys) : Consistent N s s :=
  ⟨rfl, rfl, fun h => .inr ⟨h, rfl⟩, id, fun _ _ => id,
    fun _ _ h => absurd h (not_acted_of_kernel rfl rfl)⟩

/-- A consistent step keeps which partitions are cancelled, since it keeps the slot and the
metadata. Reference: `snapshot.cpp:1078`. -/
theorem cancelled_iff (h : Consistent N s₀ s₁) {n : String} : Cancelled s₁ n ↔ Cancelled s₀ n := by
  simp only [Cancelled, h.slot, h.metadata]

/-- Two consistent stretches of a run make one. Reference: none. -/
theorem trans (h₁ : Consistent N s₀ s₁) (h₂ : Consistent N s₁ s₂) : Consistent N s₀ s₂ where
  slot := h₂.slot.trans h₁.slot
  metadata := h₂.metadata.trans h₁.metadata
  indicator hu := by
    rcases h₂.indicator hu with h | ⟨hu₁, h⟩
    · exact .inl (h.trans (congrArg some h₁.slot))
    · exact (h₁.indicator hu₁).imp h.trans fun h' => ⟨h'.1, h.trans h'.2⟩
  merge h := h₂.merge (h₁.merge h)
  merged n hn h := h₂.merged n hn (h₁.merged n hn h)
  acted n hn h := by
    rcases (h.split : Acted s₀ s₁ n ∨ Acted s₁ s₂ n) with h | h
    · exact (h₁.acted n hn h).imp (h₂.merged n hn) id
    · exact (h₂.acted n hn h).imp id h₁.cancelled_iff.mp

/-- A step consistent with the system before it keeps the partitions of `N` done. Reference:
none. -/
theorem done (h : Consistent N s₀ s₁) (hd : Done N s₀) : Done N s₁ :=
  fun n hn => (hd n hn).imp (h.merged n hn) h.cancelled_iff.mpr

/-! ## One lemma per kind of step -/

/-- A device loaded with a table: consistent with the system before it as long as a `snapshot-merge`
target comes only under merge mode and the partitions of `N` are done. Reference: none. -/
theorem setDevice {name : String} {d : Device} (hN : Done N s)
    (hm : s.MergeOk → ∀ t ∈ d.table, getTargetType t = "snapshot-merge" →
      storageModeFor s.updateState = some .Merge) :
    Consistent N s { s with devices := insert s.devices name d } where
  slot := rfl
  metadata := rfl
  indicator h := .inr ⟨h, rfl⟩
  merge hs := fun ⟨n, d', t, hd, ht, hty⟩ => by
    rw [lookup_insert] at hd
    split at hd
    · cases hd
      exact hm hs t ht hty
    · exact hs ⟨n, d', t, hd, ht, hty⟩
  merged _ _ := id
  acted n hn _ := hN n hn

/-- A device erased while the partitions of `N` are done: consistent with the system before it.
Reference: none. -/
theorem eraseDevice {name : String} (hN : Done N s) :
    Consistent N s { s with devices := erase s.devices name } where
  slot := rfl
  metadata := rfl
  indicator h := .inr ⟨h, rfl⟩
  merge hs := fun ⟨n, d, t, hd, ht, hty⟩ => by
    rw [lookup_erase] at hd
    split at hd
    · cases hd
    · exact hs ⟨n, d, t, hd, ht, hty⟩
  merged _ _ := id
  acted n hn _ := hN n hn

/-- A COW image deleted while the partitions of `N` are done: consistent with the system before it.
Reference: none. -/
theorem deleteImage {name : String} (hN : Done N s) :
    Consistent N s ((FileOp.deleteImage name).apply s) where
  slot := rfl
  metadata := rfl
  indicator h := .inr ⟨h, rfl⟩
  merge := id
  merged _ _ := id
  acted n hn _ := hN n hn

/-- A status file removed: consistent with the system before it, as a missing record counts as
merged. Reference: none. -/
theorem removeStatus (name : String) : Consistent N s ((FileOp.removeStatus name).apply s) where
  slot := rfl
  metadata := rfl
  indicator h := .inr ⟨h, rfl⟩
  merge := id
  merged n _ h := by
    simp only [Merged, FileOp.apply, lookup_erase] at h ⊢
    split
    · exact .inl rfl
    · exact h
  acted _ _ h := absurd h (not_acted_of_kernel rfl rfl)

/-- The `MergeCompleted` that `CheckTargetMergeState` writes over a status line. Reference:
`snapshot.cpp:868`. -/
theorem writeMerged {name : String} {st : SnapshotStatus}
    (hrec : lookup s.records name = some (statusLine st)) (hw : st.Written) :
    Consistent N s
      ((FileOp.writeStatus name (statusLine { st with state := .MergeCompleted })).apply s) where
  slot := rfl
  metadata := rfl
  indicator h := .inr ⟨h, rfl⟩
  merge := id
  merged n _ h := by
    by_cases hn : name = n
    · subst hn
      simpa only [createStatus_apply_of_lookup hrec] using merged_of_write hrec hw
    · exact Merged.of_lookup (by simp [FileOp.apply, hn]) h
  acted _ _ h := absurd h (not_acted_of_kernel rfl rfl)

/-- The boot indicator written while the state is not `Unverified`. Reference:
`snapshot.cpp:230`. -/
theorem writeIndicator {c : String} (h : s.updateState ≠ .Unverified) :
    Consistent N s ((FileOp.writeIndicator c).apply s) where
  slot := rfl
  metadata := rfl
  indicator hu := absurd hu h
  merge := id
  merged _ _ := id
  acted _ _ h := absurd h (not_acted_of_kernel rfl rfl)

/-- `Unverified` written over `Initiated` once the indicator names the live slot. Reference:
`snapshot.cpp:234`. -/
theorem writeUnverified (hst : s.updateState = .Initiated) (hind : s.indicator = some s.slot) :
    Consistent N s ((FileOp.writeState UpdateState.Unverified.toString).apply s) where
  slot := rfl
  metadata := rfl
  indicator _ := .inl hind
  merge hs ht := absurd (hs ht) (by rw [hst]; decide)
  merged _ _ := id
  acted _ _ h := absurd h (not_acted_of_kernel rfl rfl)

/-- A state that asks for merge mode, written over any. Reference: none. -/
theorem writeMergeMode {st : UpdateState} (h : storageModeFor st = some .Merge) :
    Consistent N s ((FileOp.writeState st.toString).apply s) := by
  have hst : ((FileOp.writeState st.toString).apply s).updateState = st :=
    parseUpdateState_toString st (by rintro rfl; cases h)
  refine ⟨rfl, rfl, fun hu => ?_, fun _ _ => by rw [hst]; exact h, fun _ _ => id,
    fun _ _ h => absurd h (not_acted_of_kernel rfl rfl)⟩
  rw [hst] at hu
  subst hu
  cases h

/-- Under merge mode, a step that keeps the slot and the metadata is consistent, when the operation
has no merge path. Reference: none. -/
theorem of_mergeMode {s' : Sys} (hm : storageModeFor s'.updateState = some .Merge)
    (hslot : s'.slot = s.slot) (hmeta : s'.metadata = s.metadata) : Consistent [] s s' where
  slot := hslot
  metadata := hmeta
  indicator hu := by rw [hu] at hm; cases hm
  merge _ _ := hm
  merged _ h := absurd h (List.not_mem_nil _)
  acted _ h := absurd h (List.not_mem_nil _)

end Consistent

/-! ## Runs that stay consistent at every crash -/

/-- Every run of `m` from a system that satisfies `P`, whatever its oracle, stops on a system
consistent with the one it began on: at its end, and at the step before which the oracle cuts the
power. If it returns, its value and last system satisfy `Q`. -/
def CrashSafe {α : Type} (N : List String) (P : Sys → Prop) (m : SM α) (Q : α → Sys → Prop) :
    Prop :=
  ∀ w, P w.sys → Spec m w (fun a w' => Consistent N w.sys w'.sys ∧ Q a w'.sys)
    (fun _ w' => Consistent N w.sys w'.sys)

namespace CrashSafe

variable {α β : Type} {N : List String} {P P' : Sys → Prop} {Q Q' : α → Sys → Prop}

/-- `pure a` stops where it began. Reference: none. -/
theorem pure {a : α} (h : ∀ s, P s → Q a s) : CrashSafe N P (Pure.pure a : SM α) Q :=
  fun w hw => ⟨.refl N w.sys, h _ hw⟩

/-- `pure a` keeps its precondition. Reference: none. -/
theorem pure_pre {a : α} : CrashSafe N P (Pure.pure a : SM α) (fun _ => P) := pure fun _ h => h

/-- A sequence of crash-safe code is crash-safe. Reference: none. -/
theorem bind {m : SM α} {f : α → SM β} {R : β → Sys → Prop} (hm : CrashSafe N P m Q)
    (hf : ∀ a, CrashSafe N (Q a) (f a) R) : CrashSafe N P (m >>= f) R :=
  fun w hw => (hm w hw).bind fun a _ h₁ => (hf a _ h₁.2).mono
    (fun _ _ h => ⟨h₁.1.trans h.1, h.2⟩) fun _ _ h => h₁.1.trans h

/-- An `if` whose branches are crash-safe is crash-safe. Reference: none. -/
theorem ite {c : Prop} [Decidable c] {a b : SM α} (ha : c → CrashSafe N P a Q)
    (hb : ¬c → CrashSafe N P b Q) : CrashSafe N P (if c then a else b) Q := by
  split
  · exact ha ‹_›
  · exact hb ‹_›

/-- `if c then return a` followed by more code, as `do` unfolds it. Reference: none. -/
theorem early {c : Prop} [Decidable c] {a : α} {rest : SM α} (ha : ∀ s, P s → Q a s)
    (hrest : CrashSafe N P rest Q) :
    CrashSafe N P (if c then Pure.pure a else (Pure.pure PUnit.unit >>= fun _ => rest)) Q :=
  ite (fun _ => pure ha) fun _ => pure_pre.bind fun _ => hrest

/-- `early` for a run that keeps its precondition. Reference: none. -/
theorem early_pre {c : Prop} [Decidable c] {a : α} {rest : SM α}
    (hrest : CrashSafe N P rest (fun _ => P)) :
    CrashSafe N P (if c then Pure.pure a else (Pure.pure PUnit.unit >>= fun _ => rest)) (fun _ => P) :=
  early (fun _ h => h) hrest

/-- A crash-safe run stays so under a stronger precondition and a weaker postcondition. Reference:
none. -/
theorem conseq {m : SM α} (h : CrashSafe N P m Q) (hP : ∀ s, P' s → P s)
    (hQ : ∀ a s, Q a s → Q' a s) : CrashSafe N P' m Q' :=
  fun w hw => (h w (hP _ hw)).mono (fun _ _ h => ⟨h.1, hQ _ _ h.2⟩) fun _ _ h => h

/-- A stronger precondition, given first so that it fixes the weaker one. Reference: none. -/
theorem strengthen {m : SM α} (hP : ∀ s, P' s → P s) (h : CrashSafe N P m Q) :
    CrashSafe N P' m Q :=
  h.conseq hP fun _ _ h => h

/-- A step that leaves the system alone. Reference: none. -/
theorem of_sys {m : SM α}
    (h : ∀ w, Spec m w (fun _ w' => w'.sys = w.sys) (fun _ w' => w'.sys = w.sys)) :
    CrashSafe N P m (fun _ => P) := fun w hw =>
  (h w).mono (fun _ _ h => by rw [h]; exact ⟨.refl N w.sys, hw⟩) fun _ _ h => by
    rw [h]; exact .refl N w.sys

/-- An I/O call leaves the system alone. Reference: none. -/
theorem ioCall : CrashSafe N P SM.ioCall (fun _ => P) := of_sys fun w => by
  simp only [Spec, ioCall_apply]; split_ifs <;> rfl

/-- A call of a collaborator, on its own, leaves the system alone. Reference: none. -/
theorem extCall : CrashSafe N P SM.extCall (fun _ => P) := of_sys fun w => by
  simp only [Spec, extCall_apply]; split_ifs <;> rfl

/-- `sys` leaves the system alone. Reference: none. -/
theorem sys : CrashSafe N P SM.sys (fun _ => P) := of_sys fun _ => rfl

/-- The system, as a value. Reference: none. -/
theorem sys_eq : CrashSafe N P SM.sys (fun a s => a = s ∧ P s) := fun w hw =>
  ⟨.refl N w.sys, rfl, hw⟩

/-- `get` leaves the system alone. Reference: none. -/
theorem get : CrashSafe N P SM.get (fun _ => P) := of_sys fun _ => rfl

/-- Taking or dropping the flock leaves the system alone. Reference: none. -/
theorem setHeld {mode : LockMode} : CrashSafe N P (SM.setHeld mode) (fun _ => P) :=
  of_sys fun w => by simp only [Spec, setHeld_apply]

/-- Opening the image manager leaves the system alone. Reference: none. -/
theorem openImages : CrashSafe N P SM.openImages (fun _ => P) :=
  of_sys fun w => by simp only [Spec, openImages_apply]

/-- A `CHECK` leaves the system alone, whether it passes or stops the run. Reference: none. -/
theorem CHECK {c : Bool} {condition : String} :
    CrashSafe N P (SM.CHECK c condition) (fun _ => P) :=
  of_sys fun w => by cases c <;> rfl

/-- A change of the kernel is crash-safe when it is consistent with the system before it. Reference:
none. -/
theorem modifySys {f : Sys → Sys} {Q : Unit → Sys → Prop}
    (h : ∀ s, P s → Consistent N s (f s) ∧ Q () (f s)) : CrashSafe N P (SM.modifySys f) Q :=
  fun w hw => by simpa only [Spec, modifySys_apply] using h _ hw

/-- An effect is crash-safe when it is consistent with the system before it. Reference: none. -/
theorem effect {op : FileOp} {Q : Unit → Sys → Prop}
    (h : ∀ s, P s → Consistent N s (op.apply s) ∧ Q () (op.apply s)) :
    CrashSafe N P (SM.effect op) Q :=
  fun w hw => by simpa only [Spec, effect_apply] using h _ hw

/-- `modifySys` with a postcondition on the system alone. Reference: none. -/
theorem modifySys_pre {f : Sys → Sys} (h : ∀ s, P s → Consistent N s (f s) ∧ P' (f s)) :
    CrashSafe N P (SM.modifySys f) (fun _ => P') := modifySys h

/-- `effect` with a postcondition on the system alone. Reference: none. -/
theorem effect_pre {op : FileOp} (h : ∀ s, P s → Consistent N s (op.apply s) ∧ P' (op.apply s)) :
    CrashSafe N P (SM.effect op) (fun _ => P') := effect h

/-- A write that may fail: if it returns `true`, its effect was made. Reference: none. -/
theorem persist {op : FileOp} {R : Sys → Prop}
    (h : ∀ s, P s → Consistent N s (op.apply s) ∧ R (op.apply s)) :
    CrashSafe N P (SM.persist op) (fun r s => if r then R s else P s) :=
  ioCall.bind fun _ => ite (fun _ => (effect h).bind fun _ => pure fun _ h => h)
    fun _ => pure fun _ h => h

/-- A write that may fail and keeps the precondition either way. Reference: none. -/
theorem persist_pre {op : FileOp} (h : ∀ s, P s → Consistent N s (op.apply s) ∧ P (op.apply s)) :
    CrashSafe N P (SM.persist op) (fun _ => P) :=
  (persist h).conseq (fun _ h => h) fun r _ h => by cases r <;> exact h

/-- A reader's answer, from its `Reads` lemma over every oracle. Reference: none. -/
theorem reads {m : SM α} {V : α → Sys → Prop} (h : CrashSafe N P m (fun _ => P))
    (hr : Reads (fun _ => True) m V) : CrashSafe N P m (fun a s => P s ∧ V a s) := fun w hw =>
  ((h w hw).and ((hr (fun _ => True) (fun _ => True)).run w trivial trivial)).mono
    (fun _ _ h => ⟨h.1.1, h.1.2, h.2.1.1⟩) fun _ _ h => h.1

/-- A locked section is crash-safe when taking the lock and its body are. Reference: none. -/
theorem locked {acquire : SM (Option LockedFile)} {dflt : α} {body : LockedFile → SM α}
    (ha : CrashSafe N P acquire (fun _ => P))
    (hb : ∀ lock, CrashSafe N P (body lock) (fun _ => P)) :
    CrashSafe N P (SnapshotManager.locked acquire dflt body) (fun _ => P) := by
  dsimp only [SnapshotManager.locked, unlock]
  refine ha.bind fun o => ?_
  rcases o with _ | lock
  · exact pure_pre
  · exact (hb lock).bind fun _ => setHeld.bind fun _ => pure_pre

end CrashSafe

/-! ## The readers change nothing -/

section Readers

variable {N : List String} {P : Sys → Prop}

/-- An ioctl leaves the system alone. Reference: none (each `ioctl` of `dm.cpp`). -/
theorem ioctl_crashSafe (name : String) : CrashSafe N P (ioctl name) (fun _ => P) :=
  CrashSafe.extCall.bind fun _ => CrashSafe.sys.bind fun _ => CrashSafe.pure_pre

/-- `DeviceMapper::GetState` leaves the system alone. Reference: `dm.cpp:169`. -/
theorem getState_crashSafe (name : String) : CrashSafe N P (getState name) (fun _ => P) :=
  (ioctl_crashSafe name).bind fun o => by rcases o with _ | _ <;> exact CrashSafe.pure_pre

/-- `DeviceMapper::GetTable` leaves the system alone. Reference: `dm.cpp:417`. -/
theorem getTable_crashSafe (name : String) : CrashSafe N P (getTable name) (fun _ => P) :=
  (ioctl_crashSafe name).bind fun _ => CrashSafe.pure_pre

/-- `GetSingleTarget` leaves the system alone. Reference: `snapshot.cpp:620`. -/
theorem getSingleTarget_crashSafe (dm_name : String) (query : TableQuery) :
    CrashSafe N P (getSingleTarget dm_name query) (fun _ => P) :=
  (getState_crashSafe _).bind fun _ => CrashSafe.early_pre <|
    (CrashSafe.ite (fun _ => getTable_crashSafe _) fun _ => getTable_crashSafe _).bind
      fun targets => by
        rcases targets with _ | targets
        · exact CrashSafe.pure_pre
        · dsimp only
          split <;> exact CrashSafe.pure_pre

/-- `IsSnapshotDevice` leaves the system alone. Reference: `snapshot.cpp:646`. -/
theorem isSnapshotDevice_crashSafe (dm_name : String) :
    CrashSafe N P (isSnapshotDevice dm_name) (fun _ => P) :=
  (getSingleTarget_crashSafe _ _).bind fun target =>
    match target with
    | none => CrashSafe.pure_pre
    | some _ => CrashSafe.early_pre CrashSafe.pure_pre

/-- `QuerySnapshotStatus` leaves the system alone. Reference: `snapshot.cpp:661`. -/
theorem querySnapshotStatus_crashSafe (dm_name : String) :
    CrashSafe N P (querySnapshotStatus dm_name) (fun _ => P) :=
  (isSnapshotDevice_crashSafe _).bind fun target => by
    rcases target with _ | target
    · exact CrashSafe.pure_pre
    · dsimp only
      split <;> exact CrashSafe.pure_pre

/-- Modelled from the spec: liblp's `ReadMetadata` leaves the system alone. Reference: none. -/
theorem readMetadata_crashSafe (slot : String) : CrashSafe N P (readMetadata slot) (fun _ => P) :=
  CrashSafe.extCall.bind fun _ => CrashSafe.sys.bind fun _ => CrashSafe.pure_pre

/-- `IsCancelledSnapshot` leaves the system alone. Reference: `snapshot.cpp:1078`. -/
theorem isCancelledSnapshot_crashSafe (name : String) :
    CrashSafe N P (isCancelledSnapshot name) (fun _ => P) :=
  CrashSafe.sys.bind fun _ => (readMetadata_crashSafe _).bind fun metadata => by
    rcases metadata with _ | metadata
    · exact CrashSafe.pure_pre
    · dsimp only
      split <;> exact CrashSafe.pure_pre

/-- Modelled from the spec: `InitDefaults` leaves the system alone. Reference: none. -/
theorem initDefaults_crashSafe (p : CreateLogicalPartitionParams) :
    CrashSafe N P p.initDefaults (fun _ => P) := by
  dsimp only [CreateLogicalPartitionParams.initDefaults]
  -- the metadata is the one given or the slot's; the same code follows both
  split <;> refine CrashSafe.bind
    (by first | exact CrashSafe.pure_pre | exact readMetadata_crashSafe _) fun metadata => ?_
  all_goals
    rcases metadata with _ | metadata
    · exact CrashSafe.pure_pre
    dsimp only
    split <;> exact CrashSafe.pure_pre

/-- `ReadUpdateState` leaves the system alone. Reference: `snapshot.cpp:1519`. -/
theorem readUpdateState_crashSafe (file : LockedFile) :
    CrashSafe N P (readUpdateState file) (fun _ => P) :=
  CrashSafe.ioCall.bind fun _ => CrashSafe.early_pre <| CrashSafe.ioCall.bind fun _ =>
    CrashSafe.early_pre (CrashSafe.sys.bind fun _ => CrashSafe.pure_pre)

/-- `ReadSnapshotStatus` leaves the system alone. Reference: `snapshot.cpp:1593`. -/
theorem readSnapshotStatus_crashSafe (lock : LockedFile) (name : String) :
    CrashSafe N P (readSnapshotStatus lock name) (fun _ => P) :=
  CrashSafe.ioCall.bind fun _ => CrashSafe.sys.bind fun s => by
    cases lookup s.records name
    · exact CrashSafe.pure_pre
    · exact CrashSafe.early_pre <| CrashSafe.ioCall.bind fun _ =>
        CrashSafe.early_pre CrashSafe.pure_pre

/-- `ListSnapshots` leaves the system alone. Reference: `snapshot.cpp:1130`. -/
theorem listSnapshots_crashSafe (lock : LockedFile) :
    CrashSafe N P (listSnapshots lock) (fun _ => P) :=
  CrashSafe.ioCall.bind fun _ => CrashSafe.early_pre (CrashSafe.sys.bind fun _ => CrashSafe.pure_pre)

/-- The read of the boot indicator leaves the system alone. Reference: `snapshot.cpp:1057`. -/
theorem readBootIndicator_crashSafe : CrashSafe N P readBootIndicator (fun _ => P) :=
  CrashSafe.ioCall.bind fun _ => CrashSafe.sys.bind fun _ => CrashSafe.pure_pre

/-- `EnsureImageManager` leaves the system alone. Reference: `snapshot.cpp:1722`. -/
theorem ensureImageManager_crashSafe : CrashSafe N P ensureImageManager (fun _ => P) :=
  CrashSafe.get.bind fun _ => CrashSafe.early_pre <| CrashSafe.extCall.bind fun _ =>
    CrashSafe.early_pre (CrashSafe.openImages.bind fun _ => CrashSafe.pure_pre)

/-- Modelled from the spec: `IImageManager::BackingImageExists` leaves the system alone. Reference:
none. -/
theorem backingImageExists_crashSafe (name : String) :
    CrashSafe N P (ImageManager.backingImageExists name) (fun _ => P) :=
  CrashSafe.extCall.bind fun _ => CrashSafe.sys.bind fun _ => CrashSafe.pure_pre

/-- The check loop of `InitiateMerge` leaves the system alone. Reference: `snapshot.cpp:516`. -/
theorem allMapped_crashSafe : ∀ names, CrashSafe N P (allMapped names) (fun _ => P)
  | [] => CrashSafe.pure_pre
  | _ :: names => (getState_crashSafe _).bind fun _ => CrashSafe.early_pre (allMapped_crashSafe names)

/-- `LockExclusive` leaves the system alone. Reference: `snapshot.cpp:1515`. -/
theorem lockExclusive_crashSafe : CrashSafe N P lockExclusive (fun _ => P) := by
  dsimp only [lockExclusive, openStateFile]
  exact CrashSafe.ioCall.bind fun _ => CrashSafe.early_pre <| CrashSafe.ite
    (fun _ => CrashSafe.ioCall.bind fun _ => CrashSafe.early_pre <|
      CrashSafe.setHeld.bind fun _ => CrashSafe.pure_pre)
    fun _ => CrashSafe.pure_pre.bind fun _ => CrashSafe.setHeld.bind fun _ => CrashSafe.pure_pre

end Readers

/-! ## What the readers return -/

section Reads

variable {O : Oracle → Prop}

/-- A device an ioctl returns is the device of that name. Reference: none (each `ioctl` of
`dm.cpp`). -/
theorem ioctl_reads (name : String) :
    Reads O (ioctl name) (fun r s => ∀ d, r = some d → lookup s.devices name = some d) := by
  refine fun S pre => ⟨fun w _ hw => ?_⟩
  by_cases c₀ : w.oracle.crash = some w.tick <;> cases e₀ : w.oracle.ext w.tick <;>
    simp [ioctl, Spec, bind_apply, c₀, e₀, lockCheck, hw]

/-- A status `ReadSnapshotStatus` returns is the parse of the status file. Reference:
`snapshot.cpp:1593`. -/
theorem readSnapshotStatus_reads_some (lock : LockedFile) (name : String) :
    Reads O (readSnapshotStatus lock name)
      (fun r s => ∀ status, r = some status →
        (lookup s.records name).bind parseStatusLine = some status) := by
  refine Reads.bind' Reads.ioCall_any fun ok => Reads.bind' Reads.sys fun s₀ => ?_
  split
  next contents hc =>
    refine Reads.ite (fun _ => Reads.pure_of fun _ => by simp) fun _ =>
      Reads.bind' (Reads.pure _) fun _ => Reads.bind' Reads.ioCall_any fun _ =>
        Reads.ite (fun _ => Reads.pure_of fun _ => by simp) fun _ => (Reads.pure _).post_mono ?_
    rintro r s rfl - - rfl - st hst
    rw [hc]
    exact hst
  next => exact Reads.pure_of fun _ => by simp

end Reads

/-! ## The writers -/

section Writers

variable {N : List String} {P : Sys → Prop}

/-- `LoadTableAndActivate` sets the device twice: first its inactive table, keeping the active one,
then `table` as the active one. Reference: `dm.cpp:207`. -/
theorem loadTableAndActivate_crashSafe {name : String} {table : List DmTarget}
    (h : ∀ s (d : Device), P s →
      (d.table = table ∨ (lookup s.devices name).map Device.table = some d.table) →
      Consistent N s { s with devices := insert s.devices name d } ∧
        P { s with devices := insert s.devices name d }) :
    CrashSafe N P (loadTableAndActivate name table) (fun _ => P) := by
  dsimp only [loadTableAndActivate, setDevice]
  refine ((ioctl_crashSafe name).reads (ioctl_reads name)).bind fun o => ?_
  rcases o with _ | d
  · exact CrashSafe.pure fun _ h => h.1
  refine (CrashSafe.modifySys_pre fun s hs => h s _ hs.1 (.inr (by rw [hs.2 d rfl]; rfl))).bind
    fun _ => ((ioctl_crashSafe name).reads (ioctl_reads name)).bind fun o => ?_
  rcases o with _ | d'
  · exact CrashSafe.pure fun _ h => h.1
  exact (CrashSafe.modifySys_pre fun s hs => h s _ hs.1 (.inl rfl)).bind fun _ => CrashSafe.pure_pre

section Erase

variable {name : String}
  (h : ∀ s, P s → Consistent N s { s with devices := erase s.devices name } ∧
    P { s with devices := erase s.devices name })
include h

/-- `DeviceMapper::DeleteDevice` is crash-safe when the erase of `name` is. Reference:
`dm.cpp:89`. -/
theorem deleteDevice_crashSafe : CrashSafe N P (deleteDevice name) (fun _ => P) :=
  (ioctl_crashSafe _).bind fun d =>
    match d with
    | none => CrashSafe.pure_pre
    | some _ => (CrashSafe.modifySys_pre h).bind fun _ => CrashSafe.pure_pre

/-- `DeviceMapper::DeleteDeviceIfExists` is crash-safe when the erase of `name` is. Reference:
`dm.cpp:82`. -/
theorem deleteDeviceIfExists_crashSafe : CrashSafe N P (deleteDeviceIfExists name) (fun _ => P) :=
  (getState_crashSafe name).bind fun _ => CrashSafe.early_pre (deleteDevice_crashSafe h)

/-- Modelled from the spec: `IImageManager::UnmapImageIfExists` is crash-safe when the erase of the
image's device is. Reference: none. -/
theorem unmapImageIfExists_crashSafe :
    CrashSafe N P (ImageManager.unmapImageIfExists name) (fun _ => P) :=
  CrashSafe.extCall.bind fun _ => CrashSafe.early_pre <|
    (CrashSafe.modifySys_pre h).bind fun _ => CrashSafe.pure_pre

end Erase

/-- Modelled from the spec: `IImageManager::DeleteBackingImage` is crash-safe when the deletion of
the image is. Reference: none. -/
theorem deleteBackingImage_crashSafe {name : String}
    (h : ∀ s, P s → Consistent N s ((FileOp.deleteImage name).apply s) ∧
      P ((FileOp.deleteImage name).apply s)) :
    CrashSafe N P (ImageManager.deleteBackingImage name) (fun _ => P) := by
  dsimp only [ImageManager.deleteBackingImage]
  exact CrashSafe.extCall.bind fun _ => CrashSafe.sys.bind fun _ => CrashSafe.ite
    (fun _ => (CrashSafe.effect_pre h).bind fun _ => CrashSafe.pure_pre) fun _ => CrashSafe.pure_pre

/-- The removal of a status file is crash-safe when the removal is consistent. Reference:
`snapshot.cpp:480`. -/
theorem removeStatusFileIfExists_crashSafe {name : String}
    (h : ∀ s, P s → Consistent N s ((FileOp.removeStatus name).apply s) ∧
      P ((FileOp.removeStatus name).apply s)) :
    CrashSafe N P (removeStatusFileIfExists name) (fun _ => P) :=
  CrashSafe.sys.bind fun _ => CrashSafe.early_pre (CrashSafe.persist_pre h)

/-- `WriteSnapshotStatus` creates the file if it is missing, then writes the line over it.
Reference: `snapshot.cpp:1671`. -/
theorem writeSnapshotStatus_crashSafe {lock : LockedFile} {name : String}
    {status : SnapshotStatus} {R : Sys → Prop}
    (hc : ∀ s, P s → Consistent N s ((FileOp.createStatus name).apply s) ∧
      P ((FileOp.createStatus name).apply s))
    (hw : ∀ s, P s → Consistent N s ((FileOp.writeStatus name (statusLine status)).apply s) ∧
      R ((FileOp.writeStatus name (statusLine status)).apply s)) :
    CrashSafe N P (writeSnapshotStatus lock name status) (fun r s => if r then R s else P s) := by
  dsimp only [writeSnapshotStatus]
  exact CrashSafe.CHECK.bind fun _ => CrashSafe.ioCall.bind fun _ =>
    CrashSafe.early (fun _ h => h) <| (CrashSafe.effect_pre hc).bind fun _ => CrashSafe.persist hw

/-- `WriteUpdateState` is crash-safe when its write is consistent, and a `true` return has made it.
Reference: `snapshot.cpp:1574`. -/
theorem writeUpdateState_crashSafe (file : LockedFile) (state : UpdateState) (R : Sys → Prop)
    (h : ∀ s, P s → Consistent N s ((FileOp.writeState state.toString).apply s) ∧
      R ((FileOp.writeState state.toString).apply s)) :
    CrashSafe N P (writeUpdateState file state) (fun r s => if r then R s else P s) := by
  dsimp only [writeUpdateState]
  exact CrashSafe.early (fun _ h => h) (CrashSafe.persist h)

end Writers

/-! ## The merge path, on done partitions -/

/-- Every target of a partition's linear table is `linear`. Reference: none. -/
theorem linearTargets_linear (block_device : String) :
    ∀ start es, ∀ t ∈ linearTargets block_device start es, getTargetType t = "linear"
  | _, [] => fun _ h => absurd h (List.not_mem_nil _)
  | _, _ :: es => by
    simp only [linearTargets, List.mem_cons, forall_eq_or_imp]
    exact ⟨rfl, linearTargets_linear block_device _ es⟩

section Done

variable {N : List String}

/-- A call whose answer satisfies `V` whatever the system: the rest of the run may assume it.
Reference: none. -/
theorem CrashSafe.bind_fact {α β : Type} {P : Sys → Prop} {m : SM α} {f : α → SM β}
    {V : α → Prop} {R : β → Sys → Prop} (hm : CrashSafe N P m (fun a s => P s ∧ V a))
    (hf : ∀ a, V a → CrashSafe N P (f a) R) : CrashSafe N P (m >>= f) R :=
  hm.bind fun a w hw => hf a hw.2 w hw.1

/-- `CreateDmTable` returns the linear table of the partition's extents. Reference: none (fs_mgr's
`CreateDmTable`, modelled from the spec). -/
theorem createDmTable_crashSafe {P : Sys → Prop} (params : CreateLogicalPartitionParams) :
    CrashSafe N P (createDmTable params) (fun r s => P s ∧
      ∀ table, r = some table → ∀ t ∈ table, getTargetType t = "linear") := by
  dsimp only [createDmTable]
  refine (initDefaults_crashSafe params).bind fun o => ?_
  rcases o with _ | p
  · exact CrashSafe.pure fun _ h => ⟨h, fun _ h => nomatch h⟩
  · refine CrashSafe.pure fun _ h => ⟨h, fun table ht => ?_⟩
    obtain ⟨part, -, rfl⟩ := Option.map_eq_some'.mp ht
    exact linearTargets_linear _ _ _

/-- A linear table loaded, or the active table kept: no new `snapshot-merge` target. Reference:
none. -/
theorem done_load {name : String} {table : List DmTarget}
    (htab : ∀ t ∈ table, getTargetType t = "linear") (s : Sys) (d : Device) (hs : Done N s)
    (hd : d.table = table ∨ (lookup s.devices name).map Device.table = some d.table) :
    Consistent N s { s with devices := insert s.devices name d } ∧
      Done N { s with devices := insert s.devices name d } := by
  have h : Consistent N s { s with devices := insert s.devices name d } :=
    Consistent.setDevice hs fun hok t ht hty => by
      rcases hd with rfl | hd
      · exact absurd ((htab t ht).symm.trans hty) (by decide)
      · obtain ⟨d₀, h₀, he⟩ := Option.map_eq_some'.mp hd
        exact hok ⟨name, d₀, t, h₀, he ▸ ht, hty⟩
  exact ⟨h, h.done hs⟩

/-- A device erased while the partitions of `N` are done keeps them done. Reference: none. -/
theorem done_erase {name : String} (s : Sys) (hs : Done N s) :
    Consistent N s { s with devices := erase s.devices name } ∧
      Done N { s with devices := erase s.devices name } :=
  have h : Consistent N s { s with devices := erase s.devices name } := Consistent.eraseDevice hs
  ⟨h, h.done hs⟩

/-- A COW image deleted while the partitions of `N` are done keeps them done. Reference: none. -/
theorem done_deleteImage {name : String} (s : Sys) (hs : Done N s) :
    Consistent N s ((FileOp.deleteImage name).apply s) ∧ Done N ((FileOp.deleteImage name).apply s) :=
  have h : Consistent N s ((FileOp.deleteImage name).apply s) := Consistent.deleteImage hs
  ⟨h, h.done hs⟩

/-- A status file removed while the partitions of `N` are done keeps them done. Reference: none. -/
theorem done_removeStatus {name : String} (s : Sys) (hs : Done N s) :
    Consistent N s ((FileOp.removeStatus name).apply s) ∧ Done N ((FileOp.removeStatus name).apply s) :=
  have h : Consistent N s ((FileOp.removeStatus name).apply s) := Consistent.removeStatus name
  ⟨h, h.done hs⟩

/-- `UnmapCowDevices` on done partitions is crash-safe. Reference: `snapshot.cpp:1459`. -/
theorem unmapCowDevices_crashSafe (lock : LockedFile) (name : String) :
    CrashSafe N (Done N) (unmapCowDevices lock name) (fun _ => Done N) :=
  ensureImageManager_crashSafe.bind fun _ => CrashSafe.early_pre <|
    (deleteDeviceIfExists_crashSafe done_erase).bind fun _ => CrashSafe.early_pre <|
      (unmapImageIfExists_crashSafe done_erase).bind fun _ => CrashSafe.early_pre CrashSafe.pure_pre

/-- `DeleteSnapshot` on done partitions is crash-safe. Reference: `snapshot.cpp:462`. -/
theorem deleteSnapshot_crashSafe (lock : LockedFile) (name : String) :
    CrashSafe N (Done N) (deleteSnapshot lock name) (fun _ => Done N) :=
  have hremove : CrashSafe N (Done N) (removeStatusFileIfExists name) (fun _ => Done N) :=
    removeStatusFileIfExists_crashSafe done_removeStatus
  CrashSafe.CHECK.bind fun _ => ensureImageManager_crashSafe.bind fun _ => CrashSafe.early_pre <|
    (unmapCowDevices_crashSafe _ _).bind fun _ => CrashSafe.early_pre <|
      (backingImageExists_crashSafe _).bind fun _ => CrashSafe.ite
        (fun _ => (deleteBackingImage_crashSafe done_deleteImage).bind fun _ =>
          CrashSafe.early_pre hremove)
        fun _ => CrashSafe.pure_pre.bind fun _ => hremove

/-- `CollapseSnapshotDevice` on done partitions is crash-safe: it loads only linear tables.
Reference: `snapshot.cpp:949`. -/
theorem collapseSnapshotDevice_crashSafe (name : String) (status : SnapshotStatus) :
    CrashSafe N (Done N) (collapseSnapshotDevice name status) (fun _ => Done N) := by
  dsimp only [collapseSnapshotDevice]
  refine (getSingleTarget_crashSafe _ _).bind fun target => ?_
  rcases target with _ | target
  · exact CrashSafe.pure_pre
  refine CrashSafe.early_pre ?_
  dsimp only
  split
  · refine CrashSafe.early_pre <| CrashSafe.ite (fun _ => ?_) fun _ => CrashSafe.pure_pre.bind
      fun _ => CrashSafe.sys.bind fun _ => CrashSafe.bind_fact (createDmTable_crashSafe _)
        fun table hlin => ?_
    · -- the outer linear table over an inner snapshot device
      refine (getTable_crashSafe _).bind fun outer_table => ?_
      rcases outer_table with _ | outer_table
      · exact CrashSafe.pure_pre
      dsimp only
      split
      · refine CrashSafe.early_pre <| CrashSafe.early_pre <| CrashSafe.early_pre <|
          CrashSafe.sys.bind fun _ => CrashSafe.bind_fact (createDmTable_crashSafe _)
            fun table hlin => ?_
        rcases table with _ | table
        · exact CrashSafe.pure_pre
        · exact (loadTableAndActivate_crashSafe (done_load (hlin _ rfl))).bind fun _ =>
            CrashSafe.early_pre <| CrashSafe.ite
              (fun _ => (deleteDeviceIfExists_crashSafe done_erase).bind fun _ =>
                CrashSafe.early_pre <| (deleteDeviceIfExists_crashSafe done_erase).bind fun _ =>
                  CrashSafe.pure_pre)
              fun _ => CrashSafe.pure_pre.bind fun _ =>
                (deleteDeviceIfExists_crashSafe done_erase).bind fun _ => CrashSafe.pure_pre
      · exact CrashSafe.pure_pre
    · rcases table with _ | table
      · exact CrashSafe.pure_pre
      · exact (loadTableAndActivate_crashSafe (done_load (hlin _ rfl))).bind fun _ =>
          CrashSafe.early_pre <| CrashSafe.ite
            (fun _ => (deleteDeviceIfExists_crashSafe done_erase).bind fun _ =>
              CrashSafe.early_pre <| (deleteDeviceIfExists_crashSafe done_erase).bind fun _ =>
                CrashSafe.pure_pre)
            fun _ => CrashSafe.pure_pre.bind fun _ =>
              (deleteDeviceIfExists_crashSafe done_erase).bind fun _ => CrashSafe.pure_pre
  · exact CrashSafe.pure_pre

/-- `OnSnapshotMergeComplete` on done partitions is crash-safe. Reference: `snapshot.cpp:915`. -/
theorem onSnapshotMergeComplete_crashSafe (lock : LockedFile) (name : String)
    (status : SnapshotStatus) :
    CrashSafe N (Done N) (onSnapshotMergeComplete lock name status) (fun _ => Done N) := by
  dsimp only [onSnapshotMergeComplete]
  refine (isSnapshotDevice_crashSafe _).bind fun _ => CrashSafe.ite
    (fun _ => (querySnapshotStatus_crashSafe _).bind fun dm_status => ?_)
    fun _ => CrashSafe.pure_pre.bind fun _ => deleteSnapshot_crashSafe lock name
  rcases dm_status with _ | ⟨_, _, _⟩
  · exact CrashSafe.pure_pre
  · exact CrashSafe.early_pre <| CrashSafe.early_pre <|
      (collapseSnapshotDevice_crashSafe _ _).bind fun _ =>
        CrashSafe.early_pre (deleteSnapshot_crashSafe lock name)

end Done

/-! ## Switching to merge under merge mode -/

section Switch

/-- Once the state says `Merging`, a step that keeps the state file, the slot and the metadata is
consistent and keeps it so. Reference: none. -/
theorem merging_step {s s' : Sys} (hs : s.updateState = .Merging) (hst : s'.state = s.state)
    (hslot : s'.slot = s.slot) (hmeta : s'.metadata = s.metadata) :
    Consistent [] s s' ∧ s'.updateState = .Merging := by
  have h : s'.updateState = .Merging := by
    show parseUpdateState s'.state.data = _
    rw [hst]
    exact hs
  exact ⟨Consistent.of_mergeMode (by rw [h]; rfl) hslot hmeta, h⟩

/-- Under `Merging`, the creation of a status file is consistent and keeps `Merging`. Reference:
none. -/
theorem merging_createStatus (name : String) (s : Sys) (hs : s.updateState = .Merging) :
    Consistent [] s ((FileOp.createStatus name).apply s) ∧
      ((FileOp.createStatus name).apply s).updateState = .Merging := by
  simp only [FileOp.apply]
  split
  · exact ⟨.refl _ _, hs⟩
  · exact merging_step hs rfl rfl rfl

/-- Under `Merging`, `RewriteSnapshotDeviceTable` is crash-safe. Reference: `snapshot.cpp:585`. -/
theorem rewriteSnapshotDeviceTable_crashSafe (dm_name : String) :
    CrashSafe [] (fun s => s.updateState = .Merging) (rewriteSnapshotDeviceTable dm_name)
      (fun _ s => s.updateState = .Merging) := by
  dsimp only [rewriteSnapshotDeviceTable]
  refine (getTable_crashSafe _).bind fun old_targets => ?_
  rcases old_targets with _ | old_targets
  · exact CrashSafe.pure_pre
  dsimp only
  split
  · refine CrashSafe.early_pre ?_
    split
    · exact loadTableAndActivate_crashSafe fun _ _ hs _ => merging_step hs rfl rfl rfl
    · exact CrashSafe.pure_pre
  · exact CrashSafe.pure_pre

/-- Under `Merging`, `WriteSnapshotStatus` is crash-safe. Reference: `snapshot.cpp:1671`. -/
theorem writeSnapshotStatus_merging (lock : LockedFile) (name : String)
    (status : SnapshotStatus) :
    CrashSafe [] (fun s => s.updateState = .Merging) (writeSnapshotStatus lock name status)
      (fun _ s => s.updateState = .Merging) :=
  (writeSnapshotStatus_crashSafe (merging_createStatus name) fun s hs =>
    (merging_step hs rfl rfl rfl : Consistent [] s
      ((FileOp.writeStatus name (statusLine status)).apply s) ∧ _)).conseq (fun _ h => h)
    fun r _ h => by cases r <;> exact h

/-- Under `Merging`, `SwitchSnapshotToMerge` is crash-safe. Reference: `snapshot.cpp:555`. -/
theorem switchSnapshotToMerge_crashSafe (lock : LockedFile) (name : String) :
    CrashSafe [] (fun s => s.updateState = .Merging) (switchSnapshotToMerge lock name)
      (fun _ s => s.updateState = .Merging) := by
  dsimp only [switchSnapshotToMerge]
  exact (readSnapshotStatus_crashSafe _ _).bind fun status =>
    match status with
    | none => CrashSafe.pure_pre
    | some _ => (rewriteSnapshotDeviceTable_crashSafe _).bind fun _ => CrashSafe.early_pre <|
        CrashSafe.get.bind fun _ => (querySnapshotStatus_crashSafe _).bind fun _ =>
          (writeSnapshotStatus_merging _ _ _).bind fun _ => CrashSafe.pure_pre

/-- Under `Merging`, the rewrite loop of `InitiateMerge` is crash-safe. Reference:
`snapshot.cpp:534`. -/
theorem switchAll_crashSafe (lock : LockedFile) :
    ∀ names, CrashSafe [] (fun s => s.updateState = .Merging) (switchAll lock names)
      (fun _ s => s.updateState = .Merging)
  | [] => CrashSafe.pure_pre
  | name :: names => (switchSnapshotToMerge_crashSafe lock name).bind fun _ =>
    (switchAll_crashSafe lock names).bind fun _ => CrashSafe.pure_pre

end Switch

/-! ## The three operations -/

/-- Whatever the oracle, the state `ReadUpdateState` returns, unless `None`, is the one on disk.
Reference: `snapshot.cpp:1519`. -/
theorem readUpdateState_reads_state {O : Oracle → Prop} (file : LockedFile) :
    Reads O (readUpdateState file) (fun r s => r ≠ .None → r = s.updateState) := by
  refine fun S pre => ⟨fun w _ hw => ?_⟩
  by_cases c₀ : w.oracle.crash = some w.tick <;> by_cases c₁ : w.oracle.crash = some (w.tick + 1) <;>
    cases e₀ : w.oracle.io w.tick <;> cases e₁ : w.oracle.io (w.tick + 1) <;>
    simp [readUpdateState, Spec, bind_apply, c₀, c₁, e₀, e₁, lockCheck, hw, Sys.updateState]

/-- The indicator write of `FinishedSnapshotWrites`, over `Initiated`. Reference:
`snapshot.cpp:230`. -/
theorem writeBootIndicator_initiated (s0 : Sys) :
    CrashSafe [] (fun s => s = s0 ∧ s.updateState = .Initiated) (writeBootIndicator s0.slot)
      (fun r s => if r then s.updateState = .Initiated ∧ s.indicator = some s.slot
        else s = s0 ∧ s.updateState = .Initiated) :=
  CrashSafe.persist fun s ⟨hs, hu⟩ =>
    ⟨Consistent.writeIndicator (by rw [hu]; decide), hu, by subst hs; rfl⟩

/-- `FinishedSnapshotWrites` writes the indicator while the state is `Initiated`, and `Unverified`
only once the indicator names the live slot. Reference: `snapshot.cpp:210`. -/
theorem finishedSnapshotWrites_crashSafe :
    CrashSafe [] (fun _ => True) finishedSnapshotWrites (fun _ _ => True) :=
  CrashSafe.locked lockExclusive_crashSafe fun lock => by
    refine ((readUpdateState_crashSafe lock).reads (readUpdateState_reads_state lock)).bind
      fun st => CrashSafe.ite (fun _ => CrashSafe.pure fun _ _ => trivial) fun _ =>
        CrashSafe.ite (fun _ => CrashSafe.pure fun _ _ => trivial) fun hst => ?_
    rw [not_not] at hst
    subst hst
    simp only [SM.pure_bind]
    refine CrashSafe.sys_eq.bind fun sl =>
      ((writeBootIndicator_initiated sl).conseq ?_ fun _ _ h => h).bind fun ok => ?_
    · exact fun _ ⟨h, _, hu⟩ => ⟨h.symm, (hu (by decide)).symm⟩
    refine CrashSafe.ite (fun _ => CrashSafe.pure fun _ _ => trivial) fun hok => ?_
    rw [Bool.not_eq_true', Bool.not_eq_false] at hok
    subst hok
    exact (writeUpdateState_crashSafe lock .Unverified (fun _ => True)
      fun s (hs : s.updateState = .Initiated ∧ s.indicator = some s.slot) =>
        ⟨Consistent.writeUnverified hs.1 hs.2, trivial⟩).conseq (fun _ h => h) fun _ _ _ => trivial

/-- `InitiateMerge` rewrites snapshot tables to `snapshot-merge` only once the state says `Merging`,
and the only other state it writes is `MergeFailed`. Reference: `snapshot.cpp:487`. -/
theorem initiateMerge_crashSafe :
    CrashSafe [] (fun _ => True) initiateMerge (fun _ _ => True) :=
  CrashSafe.locked lockExclusive_crashSafe fun lock => by
    simp only [SM.pure_bind]
    refine (readUpdateState_crashSafe lock).bind fun _ =>
      CrashSafe.ite (fun _ => CrashSafe.pure_pre) fun _ => readBootIndicator_crashSafe.bind fun o => ?_
    rcases o with _ | old_slot
    · exact CrashSafe.pure_pre
    refine CrashSafe.sys.bind fun _ => CrashSafe.ite (fun _ => CrashSafe.pure_pre) fun _ =>
      (listSnapshots_crashSafe lock).bind fun o => ?_
    rcases o with _ | snapshots
    · exact CrashSafe.pure_pre
    refine (allMapped_crashSafe snapshots).bind fun _ =>
      CrashSafe.ite (fun _ => CrashSafe.pure_pre) fun _ => ?_
    refine (writeUpdateState_crashSafe lock .Merging (fun s => s.updateState = .Merging)
      fun _ _ => ⟨Consistent.writeMergeMode rfl, parseUpdateState_toString _ (by decide)⟩).bind
      fun r => CrashSafe.ite (fun _ => CrashSafe.pure fun _ _ => trivial) fun hr => ?_
    rw [Bool.not_eq_true', Bool.not_eq_false] at hr
    subst hr
    refine (switchAll_crashSafe lock snapshots).bind fun _ => ?_
    refine CrashSafe.ite (fun _ => ?_) fun _ => CrashSafe.pure fun _ _ => trivial
    exact (writeUpdateState_crashSafe lock .MergeFailed (fun _ => True) fun _ _ =>
      ⟨Consistent.writeMergeMode rfl, trivial⟩).bind fun _ => CrashSafe.pure fun _ _ => trivial

/-- A partition whose merge is done makes the list of it alone done. Reference: none. -/
theorem done_singleton {s : Sys} {name : String} (h : MergeDone s s name) : Done [name] s :=
  fun _ hn => by rw [List.mem_singleton.mp hn]; exact h

/-- The `MergeCompleted` that `CheckTargetMergeState` writes over the status line it read: the file
exists, so it is not created again, and the new line is no shorter than the old one. Reference:
`snapshot.cpp:868`. -/
theorem writeSnapshotStatus_merged (lock : LockedFile) {name : String} {status : SnapshotStatus} :
    CrashSafe [name] (fun s => lookup s.records name = some (statusLine status) ∧ status.Written)
      (writeSnapshotStatus lock name { status with state := .MergeCompleted })
      (fun r s => if r then Done [name] s
        else lookup s.records name = some (statusLine status) ∧ status.Written) :=
  writeSnapshotStatus_crashSafe
    (fun s hs => by rw [createStatus_apply_of_lookup hs.1]; exact ⟨.refl _ _, hs⟩)
    fun s hs => ⟨Consistent.writeMerged hs.1 hs.2, done_singleton
      (.inl (by simpa only [createStatus_apply_of_lookup hs.1] using merged_of_write hs.1 hs.2))⟩

/-- `CheckTargetMergeState` acts on the stack of `name` only once its status file says
`MergeCompleted` or its partition was flashed behind the update's back. Reference:
`snapshot.cpp:805`. -/
theorem checkTargetMergeState_crashSafe (lock : LockedFile) (name : String) :
    CrashSafe [name] Sys.Ok (checkTargetMergeState lock name) (fun _ _ => True) := by
  simp only [checkTargetMergeState, SM.pure_bind]
  refine ((readSnapshotStatus_crashSafe lock name).reads
    (readSnapshotStatus_reads_some lock name)).bind fun o => ?_
  rcases o with _ | status
  · exact CrashSafe.pure fun _ _ => trivial
  refine CrashSafe.strengthen (fun s h => h.1.lookup_status (h.2 _ rfl)) ?_
  refine (isSnapshotDevice_crashSafe _).bind fun _ => CrashSafe.ite (fun _ => ?_) fun _ => ?_
  · refine ((isCancelledSnapshot_crashSafe name).reads (isCancelledSnapshot_reads name)).bind
      fun c => CrashSafe.ite (fun hc => ?_) fun _ => CrashSafe.ite (fun hmc => ?_) fun _ =>
        CrashSafe.pure fun _ _ => trivial
    · exact (CrashSafe.strengthen (fun _ h => done_singleton (.inr (h.2 hc)))
        (deleteSnapshot_crashSafe lock name)).bind fun _ => CrashSafe.pure fun _ _ => trivial
    · exact (CrashSafe.strengthen (fun _ h => done_singleton (.inl (.inr ⟨status, h.1.1, hmc⟩)))
        (onSnapshotMergeComplete_crashSafe lock name status)).bind fun _ =>
          CrashSafe.pure fun _ _ => trivial
  refine (querySnapshotStatus_crashSafe _).bind fun q => ?_
  rcases q with _ | ⟨target_type, a, b⟩
  · exact CrashSafe.pure fun _ _ => trivial
  refine CrashSafe.ite (fun _ => CrashSafe.pure fun _ _ => trivial) fun _ =>
    CrashSafe.ite (fun _ => CrashSafe.ite (fun _ => CrashSafe.pure fun _ _ => trivial) fun _ =>
      CrashSafe.pure fun _ _ => trivial) fun _ => ?_
  refine (writeSnapshotStatus_merged lock).bind fun r =>
    CrashSafe.ite (fun _ => CrashSafe.pure fun _ _ => trivial) fun hr => ?_
  rw [Bool.not_eq_true', Bool.not_eq_false] at hr
  subst hr
  exact (CrashSafe.strengthen (fun _ h => h) (onSnapshotMergeComplete_crashSafe lock name _)).bind
    fun _ => CrashSafe.ite (fun _ => CrashSafe.pure fun _ _ => trivial) fun _ =>
      CrashSafe.pure fun _ _ => trivial

/-- At every crash point of `FinishedSnapshotWrites` and `InitiateMerge` from any system, and of
`CheckTargetMergeState` of any snapshot from any system whose files keep their invariant, and at
their ends, the system is consistent with the one the operation began on: (a) a state that says
`Unverified` comes with an indicator naming the slot live when it was written; (b) if every
`snapshot-merge` target came with a state asking for merge mode at the start, it still does; (c) the
stack of the snapshot checked has been acted on only if its status file is gone or says
`MergeCompleted`, or its partition was cancelled. Reference: `snapshot.cpp:210`, `snapshot.cpp:487`,
`snapshot.cpp:805`. -/
theorem crash_points_consistent :
    (∀ w : World, Spec finishedSnapshotWrites w (fun _ w' => Consistent [] w.sys w'.sys)
      (fun _ w' => Consistent [] w.sys w'.sys)) ∧
    (∀ w : World, Spec initiateMerge w (fun _ w' => Consistent [] w.sys w'.sys)
      (fun _ w' => Consistent [] w.sys w'.sys)) ∧
    ∀ (lock : LockedFile) (name : String) (w : World), w.sys.Ok →
      Spec (checkTargetMergeState lock name) w (fun _ w' => Consistent [name] w.sys w'.sys)
        (fun _ w' => Consistent [name] w.sys w'.sys) :=
  ⟨fun w => (finishedSnapshotWrites_crashSafe w trivial).mono (fun _ _ h => h.1) fun _ _ h => h,
    fun w => (initiateMerge_crashSafe w trivial).mono (fun _ _ h => h.1) fun _ _ h => h,
    fun lock name w hw => (checkTargetMergeState_crashSafe lock name w hw).mono
      (fun _ _ h => h.1) fun _ _ h => h⟩

/-- The poll of `system_b` right after its snapshot was created, from a reachable system. Reference:
`snapshot.cpp:805`. -/
theorem createdUpdate_poll_consistent :
    createdUpdate.sys.Ok ∧
    Spec (checkTargetMergeState ⟨"", .exclusive⟩ "system_b") { sys := createdUpdate.sys }
      (fun _ w' => Consistent ["system_b"] createdUpdate.sys w'.sys)
      (fun _ w' => Consistent ["system_b"] createdUpdate.sys w'.sys) := by
  have h : createdUpdate.sys.Ok := createdUpdate_reachable.ok.sys
  generalize createdUpdate.sys = s at h ⊢
  exact ⟨h, crash_points_consistent.2.2 _ _ { sys := s } h⟩

/-! ## A state that does not ask for merge mode -/

/-- The status of `system_b` while its merge runs. -/
def drainingStatus : SnapshotStatus :=
  { state := .Merging, device_size := 4096, snapshot_size := 4096, cow_file_size := 4096,
    sectors_allocated := 16, metadata_sectors := 16 }

/-- `system_b` as `InitiateMerge` left it: a `snapshot-merge` target, drained. -/
def drainingDevice : Device :=
  { uuid := "uuid-system_b", table := [⟨0, 8, .snapshot "system_b-base" "system_b-cow" .Merge 8⟩],
    status := some (16, 16) }

/-- A merge in progress in the live slot `_b`: the state file says `merging`, `system_b` is a
drained `snapshot-merge` device and its status file says `Merging`. The `DM_DEV_STATUS` of the
`QuerySnapshotStatus` in `OnSnapshotMergeComplete` (step 13) fails; every other call
succeeds. -/
def drainingWorld : World :=
  { sys := { state := "merging", records := [("system_b", statusLine drainingStatus)],
             devices := [("system_b", drainingDevice)], slot := "_b",
             metadata := fun _ => [⟨"system_b", "default", true, [(8, 0)]⟩] },
    oracle := { ext := fun k => k != 13 } }

set_option maxRecDepth 20000 in
/-- There `CheckMergeState` writes `MergeNeedsReboot`, and `system_b` keeps its `snapshot-merge`
target: the next poll starts, and may crash, under a state that does not ask for merge mode.
Reference: `snapshot.cpp:791`. -/
theorem checkMergeStateLocked_needs_reboot_keeps_merge_table :
    drainingWorld.sys.MergeOk ∧
    (checkMergeStateLocked ⟨"", .exclusive⟩ drainingWorld).value = some .MergeNeedsReboot ∧
    (checkMergeStateLocked ⟨"", .exclusive⟩ drainingWorld).world.sys.MergeTable ∧
    ¬(checkMergeStateLocked ⟨"", .exclusive⟩ drainingWorld).world.sys.MergeOk := by
  have hdev : lookup (checkMergeStateLocked ⟨"", .exclusive⟩ drainingWorld).world.sys.devices
      "system_b" = some drainingDevice := by decide
  have hst : (checkMergeStateLocked ⟨"", .exclusive⟩ drainingWorld).world.sys.updateState =
      .MergeNeedsReboot := by decide
  have htab : (checkMergeStateLocked ⟨"", .exclusive⟩ drainingWorld).world.sys.MergeTable :=
    ⟨"system_b", _, _, hdev, List.mem_singleton_self _, rfl⟩
  refine ⟨fun _ => by decide, by decide, htab, fun h => ?_⟩
  have := h htab
  rw [hst] at this
  exact absurd this (by decide)

end LibSnapshot
