import LibSnapshot.Proof.UpdateSections

/-!
# The sections of a merge

`InitiateMerge`, `CheckMergeState()` and `AcknowledgeMergeFailure`, run on a reliable file system
from a system `s0` that keeps the invariant, make only effects that `EventOk s0` accepts.

`InitiateMerge` writes `Merging` after it has read `Unverified`, an indicator that names the old
slot and a mapped device for every status file, and then rewrites each status, `Created` since
the merge had not started, to `Merging`. `CheckMergeState` writes a snapshot's `MergeCompleted`
only over the status it read and only after the kernel reported the snapshot-merge target
drained (`checkTargetMergeState_runs`), and `MergeNeedsReboot` only when every status file left
is a completed merge or belongs to a cancelled partition. Each iteration of its loop touches only
its own snapshot's files (`FileOp.Touches`), so what the earlier iterations found still holds
when the loop ends (`checkEach_runs`).
-/

namespace LibSnapshot

open SM DeviceMapper SnapshotManager

/-! ## Effects on one snapshot -/

/-- An effect on the files of the snapshot `name` alone. -/
def FileOp.Touches (name : String) (op : FileOp) : Prop :=
  op.RemovesSnapshot name ∨ op = .createStatus name ∨ ∃ c, op = .writeStatus name c

/-- The files a merge's poll leaves alone: the state file, the live slot and the metadata. -/
structure Sys.SameUpdate (s s0 : Sys) : Prop where
  state : s.state = s0.state
  slot : s.slot = s0.slot
  metadata : s.metadata = s0.metadata

namespace Sys.SameUpdate

variable {s0 s s' : Sys}

/-- A poll that keeps the state file keeps the update state. Reference: none. -/
theorem updateState (h : s.SameUpdate s0) : s.updateState = s0.updateState := by
  simp only [Sys.updateState, h.state]

/-- A poll that keeps the slot and the metadata keeps which partitions are cancelled. Reference:
`snapshot.cpp:1078`. -/
theorem cancelled_iff (h : s.SameUpdate s0) {name : String} :
    Cancelled s name ↔ Cancelled s0 name := by
  simp only [Cancelled, h.slot, h.metadata]

/-- A system with the same files keeps what the poll keeps. Reference: none. -/
theorem of_files (h : s.SameUpdate s0) (hf : s'.files = s.files) : s'.SameUpdate s0 :=
  ⟨(Sys.state_of_files hf).trans h.state, (Sys.slot_of_files hf).trans h.slot,
    (Sys.metadata_of_files hf).trans h.metadata⟩

end Sys.SameUpdate

namespace FileOp.Touches

variable {name : String} {op : FileOp}

/-- An effect on the files of `name` leaves every other status file alone. Reference: none. -/
theorem lookup_ne (h : op.Touches name) (s : Sys) {n : String} (hn : n ≠ name) :
    lookup (op.apply s).records n = lookup s.records n := by
  have hn' : ¬name = n := fun h => hn h.symm
  obtain (rfl | rfl) | rfl | ⟨c, rfl⟩ := h
  · rfl
  · simp [FileOp.apply, hn']
  · simp only [FileOp.apply]
    split <;> simp [hn']
  · simp [FileOp.apply, hn']

/-- An effect on the files of one snapshot keeps what the poll keeps. Reference: none. -/
theorem sameUpdate (h : op.Touches name) {s0 s : Sys} (hs : s.SameUpdate s0) :
    (op.apply s).SameUpdate s0 := by
  obtain (rfl | rfl) | rfl | ⟨c, rfl⟩ := h
  · exact ⟨hs.1, hs.2, hs.3⟩
  · exact ⟨hs.1, hs.2, hs.3⟩
  · simp only [FileOp.apply]
    split
    · exact hs
    · exact ⟨hs.1, hs.2, hs.3⟩
  · exact ⟨hs.1, hs.2, hs.3⟩

end FileOp.Touches

/-- Creating a status file that exists changes nothing. Reference: `snapshot.cpp:1678`. -/
theorem createStatus_apply_of_lookup {s : Sys} {name c : String}
    (h : lookup s.records name = some c) : (FileOp.createStatus name).apply s = s := by
  simp [FileOp.apply, h]

/-! ## What the poll leaves behind -/

/-- The status file of a merged snapshot: gone, or saying `MergeCompleted`. -/
def Merged (s : Sys) (name : String) : Prop :=
  lookup s.records name = none ∨
    ∃ st, lookup s.records name = some (statusLine st) ∧ st.state = .MergeCompleted

/-- What the poll leaves of a snapshot it found merged, cancelled or waiting for a reboot. -/
def MergeDone (s0 s : Sys) (name : String) : Prop := Merged s name ∨ Cancelled s0 name

/-- A snapshot is merged in every system with the same status file. Reference: none. -/
theorem Merged.of_lookup {s s' : Sys} {name : String}
    (h : lookup s'.records name = lookup s.records name) (hm : Merged s name) : Merged s' name := by
  simpa only [Merged, h] using hm

/-- A snapshot's merge is done in every system with the same status file. Reference: none. -/
theorem MergeDone.of_lookup {s0 s s' : Sys} {name : String}
    (h : lookup s'.records name = lookup s.records name) (hm : MergeDone s0 s name) :
    MergeDone s0 s' name :=
  hm.imp_left (Merged.of_lookup h)

/-- Removing a snapshot keeps it merged. Reference: none. -/
theorem Merged.removes {op : FileOp} {name : String} (h : op.RemovesSnapshot name) {s : Sys}
    (hm : Merged s name) : Merged (op.apply s) name := by
  obtain rfl | rfl := h
  · exact hm
  · exact .inl (by simp [FileOp.apply])

/-- `OnSnapshotMergeComplete` only removes, so a merged snapshot stays merged. Reference:
`snapshot.cpp:915`. -/
theorem onSnapshotMergeComplete_merged {O : Oracle → Prop} {lock : LockedFile} {name : String}
    (hlock : lock.lock_mode = .exclusive) (status : SnapshotStatus) :
    Runs O (fun e => e.op.RemovesSnapshot name) (fun s => Merged s name)
      (onSnapshotMergeComplete lock name status) (fun _ s => Merged s name) :=
  ((Runs.keeps (onSnapshotMergeComplete_keeps (fun _ h => h) hlock status) fun _ h => h).frame
    (fun s => Merged s name) (fun _ _ hf => Merged.of_lookup (by rw [Sys.records_of_files hf]))
    fun e h => Merged.removes h).conseq (fun _ h => ⟨trivial, h⟩) fun _ _ h => h.2

/-- The status `CheckTargetMergeState` writes over the one it read, once the kernel reported the
merge drained. Reference: `snapshot.cpp:868`. -/
theorem StatusWrite.mergeCompleted {s : Sys} {name : String} {status : SnapshotStatus}
    (hrec : lookup s.records name = some (statusLine status)) (hw : status.Written)
    (hmerge : s.updateState.Merge) (hd : Drained s (getSnapshotDeviceName name status)) :
    StatusWrite ((FileOp.createStatus name).apply s) name { status with state := .MergeCompleted } := by
  rw [createStatus_apply_of_lookup hrec]
  exact ⟨⟨hw.valid.update _ _ _, (fun h => nomatch h), fun h => nomatch h⟩, .inr ⟨status, hrec, .inr rfl⟩,
    (fun _ => hmerge), fun _ => hd⟩

/-- After that write the status file says `MergeCompleted`: the new line is no shorter than the old
one. Reference: `snapshot.cpp:868`. -/
theorem merged_of_write {s : Sys} {name : String} {status : SnapshotStatus}
    (hrec : lookup s.records name = some (statusLine status)) (hw : status.Written) :
    Merged ((FileOp.writeStatus name (statusLine { status with state := .MergeCompleted })).apply
      ((FileOp.createStatus name).apply s)) name := by
  rw [createStatus_apply_of_lookup hrec]
  refine .inr ⟨{ status with state := .MergeCompleted }, ?_, rfl⟩
  simp only [FileOp.apply, lookup_insert, if_true, hrec,
    overwrite_of_le (Advance.length_le (.inr rfl) hw)]

/-- The flags after one more result are clean only if they were and the result was a merged, a
cancelled or a needs-reboot snapshot. Reference: `snapshot.cpp:757`. -/
theorem MergeFlags.clean_add {flags : MergeFlags} {r : UpdateState}
    (hm : (flags.add r).merging = false) (hf : (flags.add r).failed = false) :
    flags.merging = false ∧ flags.failed = false ∧
      (r = .MergeCompleted ∨ r = .Cancelled ∨ r = .MergeNeedsReboot) := by
  cases r <;> simp_all [MergeFlags.add]

/-- The loop of `CheckMergeState` from the flags `flags`, with the snapshots `todo` still to
check: what the section does not touch is as it found it, the snapshots still to check too,
and while no snapshot has reported `Merging` or `MergeFailed`, every other status file is
merged or belongs to a cancelled partition. -/
structure PollInv (s0 : Sys) (flags : MergeFlags) (todo : List String) (s : Sys) : Prop where
  same : s.SameUpdate s0
  pending : ∀ n ∈ todo, lookup s.records n = lookup s0.records n
  done : flags.merging = false → flags.failed = false → ∀ n ∉ todo, MergeDone s0 s n

/-! ## Acknowledging a failure -/

section Sections

variable {s0 : Sys} {lock : LockedFile}

/-- `AcknowledgeMergeFailure` writes `MergeFailed` only over a merge state. Reference:
`snapshot.cpp:895`. -/
theorem acknowledgeMergeFailure_sound : Sound (EventOk s0) (· = s0) acknowledgeMergeFailure :=
  Sound.locked_exclusive fun lock _ => by
    simp only [acknowledgeMergeFailure, SM.pure_bind]
    refine (readUpdateState_reads lock).runs.bind fun st => Runs.ite
      (fun _ => Runs.pure fun _ _ => trivial) fun hst => ?_
    refine ((writeUpdateState_runs lock .MergeFailed fun s _ hs => ⟨.MergeFailed, rfl,
      show s.updateState = _ ∨ s.updateState = _ from ?_⟩).bind fun _ => Runs.pure fun _ _ => trivial)
    rw [← hs.1]
    by_contra h
    exact hst ⟨fun h' => h (.inl h'), fun h' => h (.inr h')⟩

/-! ## Starting the merge -/

section Initiate

variable (hs0 : s0.Ok) (hbefore : s0.updateState = .Unverified)
include hs0 hbefore

/-- `SwitchSnapshotToMerge` rewrites a status that is still as the section found it, `Created` since
the merge had not started, to `Merging` with the same sizes. Reference: `snapshot.cpp:555`. -/
theorem switchSnapshotToMerge_runs (hlock : lock.lock_mode = .exclusive) (name : String) :
    Runs Reliable (fun e => EventOk s0 e ∧ e.op.Touches name)
      (fun s => s.updateState = .Merging ∧ lookup s.records name = lookup s0.records name)
      (switchSnapshotToMerge lock name) (fun _ _ => True) := by
  simp only [switchSnapshotToMerge, SM.pure_bind]
  refine (readSnapshotStatus_reads lock name).runs.bind fun o => ?_
  split
  · rename_i status
    refine Runs.assume (fun s h => hs0.lookup_status (h.2.2 ▸ h.1.symm)) fun ⟨hrec, hw⟩ => ?_
    have hcreated := hs0.before_merge (.inr (.inr hbefore)) name status hrec
    have hpre : ∀ s s' : Sys, s'.files = s.files →
        s.updateState = .Merging ∧ lookup s.records name = lookup s0.records name →
        s'.updateState = .Merging ∧ lookup s'.records name = lookup s0.records name :=
      fun _ _ hf h => ⟨(Sys.updateState_of_files hf).trans h.1, by rw [Sys.records_of_files hf, h.2]⟩
    have quiet : ∀ {α : Type} {m : SM α}, Keeps (fun _ => False) (fun _ => True) m →
        Runs Reliable (fun e => EventOk s0 e ∧ e.op.Touches name)
          (fun s => s.updateState = .Merging ∧ lookup s.records name = lookup s0.records name) m
          (fun _ s => s.updateState = .Merging ∧ lookup s.records name = lookup s0.records name) :=
      fun h => (Runs.of_quiet h hpre).post_mono fun _ _ h => h.2
    refine ((quiet (rewriteSnapshotDeviceTable_keeps _)).conseq (fun _ h => h.2) fun _ _ h => h).bind
      fun _ => Runs.ite (fun _ => Runs.pure fun _ _ => trivial) fun _ =>
      (quiet Keeps.get).bind fun _ => (quiet (querySnapshotStatus_keeps _)).bind fun _ =>
      Runs.bind (writeSnapshotStatus_runs hlock name _
        (fun _ _ _ => ⟨eventOk_createStatus rfl, .inr (.inl rfl)⟩)
        fun s _ hs => ⟨⟨_, rfl, ?_⟩, .inr (.inr ⟨_, rfl⟩)⟩) fun _ => Runs.pure fun _ _ => trivial
    obtain ⟨hst, hl⟩ := hs
    have hrec' := hl.trans hrec
    show StatusWrite ((FileOp.createStatus name).apply s) name _
    rw [createStatus_apply_of_lookup hrec']
    exact ⟨⟨hw.valid.update _ _ _, (fun h => nomatch h), fun h => nomatch h⟩,
      .inr ⟨status, hrec', .inl ⟨hcreated, _, _, rfl⟩⟩, (fun _ => .inl hst), fun h => nomatch h⟩
  · exact Runs.pure fun _ _ => trivial

/-- The loop of `InitiateMerge` keeps the update state at `Merging`, and each snapshot it has not
reached yet as the section found it. Reference: `snapshot.cpp:534`. -/
theorem switchAll_runs (hlock : lock.lock_mode = .exclusive) :
    ∀ names : List String, names.Nodup →
      Runs Reliable (EventOk s0)
        (fun s => s.updateState = .Merging ∧ ∀ n ∈ names, lookup s.records n = lookup s0.records n)
        (switchAll lock names) (fun _ s => s.updateState = .Merging)
  | [], _ => Runs.pure fun _ h => h.1
  | name :: names, hnd => by
    have hnot : name ∉ names := (List.nodup_cons.mp hnd).1
    refine ((((switchSnapshotToMerge_runs hs0 hbefore hlock name).frame
      (fun s => s.updateState = .Merging ∧ ∀ n ∈ names, lookup s.records n = lookup s0.records n)
      ?_ ?_).mono (fun _ h => h) fun _ h => h.1).conseq
      (fun _ h => ⟨⟨h.1, h.2 _ (.head _)⟩, h.1, fun n hn => h.2 n (.tail _ hn)⟩)
      fun _ _ h => h.2).bind fun _ =>
      (switchAll_runs hlock names (List.nodup_cons.mp hnd).2).bind fun _ =>
      Runs.pure fun _ h => h
    · intro s s' hf h
      exact ⟨(Sys.updateState_of_files hf).trans h.1, fun n hn => by
        rw [Sys.records_of_files hf, h.2 n hn]⟩
    · rintro ⟨pre, op, mode⟩ ⟨-, htouch⟩ ⟨hst, hrest⟩
      refine ⟨((htouch.sameUpdate ⟨rfl, rfl, rfl⟩).updateState).trans hst, fun n hn => ?_⟩
      rw [htouch.lookup_ne pre (fun h => hnot (h ▸ hn)), hrest n hn]

end Initiate

/-- `InitiateMerge` makes only checked effects. Reference: `snapshot.cpp:487`. -/
theorem initiateMerge_sound (hs0 : s0.Ok) : Sound (EventOk s0) (· = s0) initiateMerge :=
  Sound.locked_exclusive fun lock hlock => by
    simp only [initiateMerge, SM.pure_bind]
    refine (readUpdateState_reads lock).runs.bind fun st => Runs.ite
      (fun _ => Runs.pure fun _ _ => trivial) fun hst => ?_
    refine readBootIndicator_reads.runs.bind fun o => ?_
    split
    · rename_i old_slot
      refine Reads.sys.runs.bind fun sl => Runs.ite (fun _ => Runs.pure fun _ _ => trivial)
        fun hsl => (listSnapshots_reads lock).runs.bind fun o' => ?_
      split
      · rename_i names
        refine (allMapped_reads names).runs.bind fun ok => Runs.ite
          (fun _ => Runs.pure fun _ _ => trivial) fun hok => ?_
        have hok : ok = true := by simpa using hok
        subst hok
        refine Runs.assume (fun s h => ?_)
          fun (hP : s0.updateState = .Unverified ∧ names = keys s0.records) => ?_
        · obtain ⟨-, hkeys, -, -, hu, rfl⟩ := h
          exact ⟨hu.symm.trans (not_not.mp hst), hkeys names rfl⟩
        refine Runs.bind (writeUpdateState_runs lock .Merging fun s _ hs => ⟨.Merging, rfl, by
          obtain ⟨hmapped, hkeys, rfl, hind, hu, -⟩ := hs
          exact ⟨hu.symm.trans (not_not.mp hst), ⟨old_slot, hind.symm, fun h => hsl h.symm⟩,
            fun n hn => hmapped rfl n (hkeys names rfl ▸ hn)⟩⟩) fun r =>
          Runs.ite (fun _ => Runs.pure fun _ _ => trivial) fun hr => ?_
        obtain ⟨hbefore, hnames⟩ := hP
        have hr : r = true := by simpa using hr
        subst hr
        refine ((switchAll_runs hs0 hbefore hlock names (hnames ▸ hs0.nodup)).conseq ?_
          fun _ _ h => h).bind fun ok => Runs.ite (fun _ =>
            (writeUpdateState_runs lock .MergeFailed fun s _ hs => ⟨.MergeFailed, rfl, .inl hs⟩).bind
              fun _ => Runs.pure fun _ _ => trivial) fun _ => Runs.pure fun _ _ => trivial
        rintro _ ⟨s, ⟨-, -, -, -, -, rfl⟩, rfl⟩
        exact ⟨by simp [FileOp.apply, Sys.updateState], fun _ _ => rfl⟩
      · exact Runs.pure fun _ _ => trivial
    · exact Runs.pure fun _ _ => trivial

/-! ## Polling the merge -/

section Poll

variable (hs0 : s0.Ok) (hmerge : s0.updateState.Merge) (hlock : lock.lock_mode = .exclusive)
include hs0 hmerge hlock

/-- `CheckTargetMergeState` reports a snapshot merged, cancelled or needing a reboot only when its
status file is gone or says `MergeCompleted`, or its partition was cancelled; the one status it
writes is the `MergeCompleted` of a drained merge. Reference: `snapshot.cpp:805`. -/
theorem checkTargetMergeState_runs (name : String) :
    Runs Reliable (fun e => EventOk s0 e ∧ e.op.Touches name)
      (fun s => s.SameUpdate s0 ∧ lookup s.records name = lookup s0.records name)
      (checkTargetMergeState lock name)
      (fun r s => r = .MergeCompleted ∨ r = .Cancelled ∨ r = .MergeNeedsReboot →
        MergeDone s0 s name) := by
  have removes : ∀ e : Event, e.op.RemovesSnapshot name → EventOk s0 e ∧ e.op.Touches name :=
    fun _ h => ⟨eventOk_of_untracked h.untracked, .inl h⟩
  simp only [checkTargetMergeState, SM.pure_bind]
  refine (readSnapshotStatus_reads lock name).runs.bind fun o => ?_
  split
  · rename_i status
    refine Runs.assume (fun s h => hs0.lookup_status (h.2.2 ▸ h.1.symm)) fun ⟨hrec, hw⟩ => ?_
    refine (isSnapshotDevice_reads _).runs.bind fun t => Runs.ite (fun _ => ?_) fun _ => ?_
    · refine (isCancelledSnapshot_reads name).runs.bind fun c => Runs.ite (fun hc => ?_)
        fun _ => Runs.ite (fun hmc => ?_) fun _ => Runs.pure fun _ _ h => absurd h (by decide)
      · refine Runs.assume (fun s h => (h.2.2.2.1.cancelled_iff).mp (h.1 hc))
          fun hcan => ?_
        exact ((deleteSnapshot_runs removes hlock).conseq (fun _ _ => trivial)
          fun _ _ _ => trivial).bind fun _ => Runs.pure fun _ _ _ => .inr hcan
      · exact (((onSnapshotMergeComplete_merged hlock status).mono (fun _ h => h) removes).conseq
          (fun s h => .inr ⟨status, h.2.2.2.2.trans hrec, hmc⟩) fun _ _ h => h).bind fun _ =>
          Runs.pure fun _ h _ => .inl h
    · refine (querySnapshotStatus_reads _).runs.bind fun q => ?_
      split
      · rename_i target_type sectors_allocated metadata_sectors
        refine Runs.ite (fun _ => Runs.pure fun _ _ h => absurd h (by decide)) fun ht => Runs.ite
          (fun _ => Runs.ite (fun _ => Runs.pure fun _ _ h => absurd h (by decide))
            fun _ => Runs.pure fun _ _ h => absurd h (by decide)) fun hab => ?_
        refine Runs.bind (writeSnapshotStatus_runs hlock name _
          (fun _ _ _ => ⟨eventOk_createStatus rfl, .inr (.inl rfl)⟩)
          fun s _ hs => ⟨⟨_, rfl, ?_⟩, .inr (.inr ⟨_, rfl⟩)⟩) fun ok => Runs.ite
          (fun _ => Runs.pure fun _ _ h => absurd h (by decide)) fun hok => ?_
        · obtain ⟨hq, -, -, hsame, hl⟩ := hs
          obtain ⟨d, tgt, hd, htable, htype, hstatus⟩ := hq _ _ _ rfl
          refine StatusWrite.mergeCompleted (hl.trans hrec) hw (hsame.updateState ▸ hmerge)
            ⟨d, tgt, sectors_allocated, hd, htable, htype.trans (not_not.mp ht), ?_⟩
          rw [hstatus, not_not.mp hab]
        have hok : ok = true := by simpa using hok
        subst hok
        exact (((onSnapshotMergeComplete_merged hlock _).mono (fun _ h => h) removes).conseq
          (fun s h => by
            obtain ⟨s₁, ⟨-, -, -, -, hl⟩, rfl⟩ := h rfl
            exact merged_of_write (hl.trans hrec) hw) fun _ _ h => h).bind fun _ =>
          Runs.ite (fun _ => Runs.pure fun _ h _ => .inl h) fun _ => Runs.pure fun _ h _ => .inl h
      · exact Runs.pure fun _ _ h => absurd h (by decide)
  · exact Runs.pure fun _ _ h => absurd h (by decide)

/-- The loop of `CheckMergeState` keeps the poll's invariant over every snapshot it has checked.
Reference: `snapshot.cpp:755`. -/
theorem checkEach_runs :
    ∀ (flags : MergeFlags) (todo : List String), todo.Nodup →
      Runs Reliable (EventOk s0) (PollInv s0 flags todo) (checkEach lock flags todo)
        (fun r => PollInv s0 r [])
  | _, [], _ => Runs.pure fun _ h => h
  | flags, name :: rest, hnd => by
    have hnot : name ∉ rest := (List.nodup_cons.mp hnd).1
    let I : Sys → Prop := fun s => s.SameUpdate s0 ∧
      (∀ n ∈ rest, lookup s.records n = lookup s0.records n) ∧
      (flags.merging = false → flags.failed = false → ∀ n ∉ name :: rest, MergeDone s0 s n)
    have hI : ∀ s s' : Sys, s'.files = s.files → I s → I s' := fun s s' hf h =>
      ⟨h.1.of_files hf, fun n hn => by rw [Sys.records_of_files hf, h.2.1 n hn],
        fun hm hf' n hn => (h.2.2 hm hf' n hn).of_lookup (by rw [Sys.records_of_files hf])⟩
    have hS : ∀ e : Event, EventOk s0 e ∧ e.op.Touches name → I e.pre → I (e.op.apply e.pre) :=
      fun e he h => ⟨he.2.sameUpdate h.1,
        fun n hn => (he.2.lookup_ne _ fun h => hnot (h ▸ hn)).trans (h.2.1 n hn),
        fun hm hf n hn => (h.2.2 hm hf n hn).of_lookup
          (he.2.lookup_ne _ fun h => hn (h ▸ .head _))⟩
    refine ((((checkTargetMergeState_runs hs0 hmerge hlock name).frame I hI hS).mono
      (fun _ h => h) fun _ h => h.1).conseq
      (fun _ h => ⟨⟨h.same, h.pending _ (.head _)⟩, h.same, fun n hn => h.pending n (.tail _ hn), h.done⟩)
      ?_).bind fun r => checkEach_runs (flags.add r) rest (List.nodup_cons.mp hnd).2
    rintro r s ⟨hdone, hsame, htodo, hprev⟩
    refine ⟨hsame, htodo, fun hm hf n hn => ?_⟩
    obtain ⟨hm', hf', hr⟩ := MergeFlags.clean_add hm hf
    by_cases hname : n = name
    · exact hname ▸ hdone hr
    · exact hprev hm' hf' n fun h => (List.mem_cons.mp h).elim hname hn

end Poll

/-- `HandleCancelledUpdate` cleans up only when the indicator names the live slot. Reference:
`snapshot.cpp:1054`. -/
theorem handleCancelledUpdate_runs (hlock : lock.lock_mode = .exclusive) :
    Runs Reliable (EventOk s0) (· = s0) (handleCancelledUpdate lock)
      (fun r _ => r = true → s0.indicator = none ∨ s0.indicator = some s0.slot) := by
  simp only [handleCancelledUpdate, SM.pure_bind]
  refine readBootIndicator_reads.runs.bind fun o => ?_
  split
  · rename_i old_slot
    refine Reads.sys.runs.bind fun sl => Runs.ite
      (fun _ => Runs.pure fun _ _ h => absurd h Bool.false_ne_true) fun hsl => ?_
    refine Runs.assume (fun s h => ?_) fun (hind : s0.indicator = some s0.slot) => ?_
    · obtain ⟨rfl, hind, rfl⟩ := h
      rw [← hind, not_not.mp hsl]
    exact ((removeAllUpdateState_checked hlock).conseq (fun _ _ _ => .inr hind)
      fun _ _ h => h).bind fun _ => Runs.pure fun _ _ _ => .inr hind
  · exact Runs.pure fun _ _ h => absurd h Bool.false_ne_true

/-- `CheckMergeState(lock)`: every effect is checked, and a result that leads to a cleanup leaves
the state file as anything but `Unverified`, unless the indicator allowed the cleanup. Reference:
`snapshot.cpp:716`. -/
theorem checkMergeStateLocked_runs (hs0 : s0.Ok) (hlock : lock.lock_mode = .exclusive) :
    Runs Reliable (EventOk s0) (· = s0) (checkMergeStateLocked lock)
      (fun r s => r = .MergeCompleted ∨ r = .Cancelled → s.updateState = .Unverified →
        s0.indicator = none ∨ s0.indicator = some s0.slot) := by
  simp only [checkMergeStateLocked]
  refine (readUpdateState_reads lock).runs.bind fun st => Runs.assume
    (fun s (h : st = s.updateState ∧ s = s0) => h.2 ▸ h.1) fun hst => ?_
  have stays : ∀ {r : UpdateState}, st ≠ .Unverified →
      Runs Reliable (EventOk s0) (fun s => st = s.updateState ∧ s = s0) (pure r)
        (fun r s => r = .MergeCompleted ∨ r = .Cancelled → s.updateState = .Unverified →
          s0.indicator = none ∨ s0.indicator = some s0.slot) :=
    fun hne => Runs.pure fun _ h _ hu => absurd (h.1.trans hu) hne
  have merge : s0.updateState.Merge →
      Runs Reliable (EventOk s0) (fun s => st = s.updateState ∧ s = s0)
        (do
          let some snapshots ← listSnapshots lock | pure UpdateState.MergeFailed
          let flags ← checkEach lock {} snapshots
          if flags.merging = true then pure UpdateState.Merging
          else if flags.failed = true then pure UpdateState.MergeFailed
          else if flags.needs_reboot = true then do
            let _ ← writeUpdateState lock .MergeNeedsReboot
            pure UpdateState.MergeNeedsReboot
          else if flags.cancelled = true then pure UpdateState.Cancelled
          else pure UpdateState.MergeCompleted)
        (fun r s => r = .MergeCompleted ∨ r = .Cancelled → s.updateState = .Unverified →
          s0.indicator = none ∨ s0.indicator = some s0.slot) := fun hmerge => by
    have hne : s0.updateState ≠ .Unverified := by rcases hmerge with h | h | h <;> rw [h] <;> decide
    have settled : ∀ {flags : MergeFlags} (r : UpdateState),
        Runs Reliable (EventOk s0) (PollInv s0 flags []) (pure r)
          (fun r s => r = .MergeCompleted ∨ r = .Cancelled → s.updateState = .Unverified →
            s0.indicator = none ∨ s0.indicator = some s0.slot) :=
      fun _ => Runs.pure fun _ h _ hu => absurd (h.same.updateState.symm.trans hu) hne
    refine (listSnapshots_reads lock).runs.bind fun o => ?_
    split
    · rename_i names
      refine Runs.assume (fun s (h : _ ∧ st = s.updateState ∧ s = s0) => h.2.2 ▸ h.1 names rfl)
        fun hnames => ?_
      refine ((checkEach_runs hs0 hmerge hlock {} names (hnames ▸ hs0.nodup)).conseq ?_
        fun _ _ h => h).bind fun flags => Runs.ite (fun _ => settled _) fun hm => Runs.ite
        (fun _ => settled _) fun hf => Runs.ite (fun _ => ?_) fun _ => Runs.ite
        (fun _ => settled _) fun _ => settled _
      · rintro s ⟨-, -, rfl⟩
        refine ⟨⟨rfl, rfl, rfl⟩, fun _ _ => rfl, fun _ _ n hn => .inl (.inl ?_)⟩
        rw [hnames, mem_keys_iff_lookup] at hn
        simpa using hn
      refine Runs.bind (writeUpdateState_runs lock .MergeNeedsReboot fun s _ hs =>
        ⟨.MergeNeedsReboot, rfl, hs.same.updateState ▸ hmerge, fun n c hc => ?_⟩) fun _ =>
        Runs.pure fun _ _ h => absurd h (by decide)
      rcases hs.done (by simpa using hm) (by simpa using hf) n (List.not_mem_nil n) with
        (hgone | ⟨st', hst', hmc⟩) | hcan
      · exact absurd (hgone.symm.trans hc) (by simp)
      · exact .inl ⟨st', (Option.some.inj (hc.symm.trans hst')), hmc⟩
      · exact .inr (hs.same.cancelled_iff.mpr hcan)
    · exact Runs.pure fun _ _ h => absurd h (by decide)
  split
  · exact stays (by decide)
  · exact stays (by decide)
  · exact merge (hst ▸ .inl rfl)
  · exact merge (hst ▸ .inr (.inr rfl))
  · exact merge (hst ▸ .inr (.inl rfl))
  · simp only [SM.pure_bind]
    exact ((handleCancelledUpdate_runs hlock).conseq (fun _ h => h.2) fun _ _ h => h).bind fun c =>
      Runs.ite (fun hc => Runs.pure fun _ h _ _ => h hc) fun _ =>
        Runs.pure fun _ _ h => absurd h (by decide)
  · exact stays ‹_›

/-- `CheckMergeState()` makes only checked effects. Reference: `snapshot.cpp:699`. -/
theorem checkMergeState_sound (hs0 : s0.Ok) : Sound (EventOk s0) (· = s0) checkMergeState :=
  Sound.locked_exclusive fun lock hlock => by
    simp only [checkMergeState, acknowledgeMergeSuccess, SM.pure_bind]
    refine (checkMergeStateLocked_runs hs0 hlock).bind fun st => ?_
    have cleanup : st = .MergeCompleted ∨ st = .Cancelled →
        Runs Reliable (EventOk s0) (fun s => st = .MergeCompleted ∨ st = .Cancelled →
          s.updateState = .Unverified → s0.indicator = none ∨ s0.indicator = some s0.slot)
          (removeAllUpdateState lock) (fun _ _ => True) := fun h =>
      (removeAllUpdateState_checked hlock).conseq (fun _ hs => hs h) fun _ _ h => h
    have unit : Runs Reliable (EventOk s0) (fun _ => True) (pure ()) (fun _ _ => True) :=
      Runs.pure fun _ _ => trivial
    exact Runs.ite (fun h => Runs.bind (Runs.bind (cleanup (.inl h)) fun _ => unit) fun _ =>
        Runs.pure fun _ _ => trivial) fun _ =>
      Runs.ite (fun h => Runs.bind (cleanup (.inr h)) fun _ => Runs.pure fun _ _ => trivial)
        fun _ => Runs.pure fun _ _ => trivial

end Sections

end LibSnapshot
