import LibSnapshot.Proof.Frames
import LibSnapshot.Proof.Invariant

/-!
# What the calls return

The readers of the manager change nothing: they return a function of the system they ran on
(`Reads`). On a reliable file system the state file, the boot indicator, the status files and the
snapshot directory read back what they hold; the mapper's queries, when they answer, answer
about the device as it is. These are the facts the sections' guards rest on.

The writers of the two tracked files get their own triples: on a reliable file system
`WriteUpdateState` and `WriteSnapshotStatus` make their effect on the system they start from, and
`RemoveFileIfExists` of a status file leaves it absent when it returns `true`.
-/

namespace LibSnapshot

open SM DeviceMapper SnapshotManager

variable {O : Oracle → Prop}

/-! ## Readers -/

/-- Every run of `m` from a world whose oracle satisfies `O` keeps the system as it was and
returns a value that satisfies `R` on it. -/
def Reads {α : Type} (O : Oracle → Prop) (m : SM α) (R : α → Sys → Prop) : Prop :=
  ∀ (S : Event → Prop) (pre : Sys → Prop), Runs O S pre m (fun a s => R a s ∧ pre s)

namespace Reads

variable {α β : Type} {O : Oracle → Prop} {R : α → Sys → Prop}

/-- `pure a` reads nothing and returns `a`. Reference: none. -/
theorem pure (a : α) : Reads O (Pure.pure a : SM α) (fun b _ => b = a) :=
  fun _ _ => Runs.pure fun _ h => ⟨rfl, h⟩

/-- `pure a` reads, with any fact that holds of `a` on every system. Reference: none. -/
theorem pure_of {a : α} (h : ∀ s, R a s) : Reads O (Pure.pure a : SM α) R :=
  fun S pre => (Reads.pure a S pre).post_mono fun _ s hb => ⟨hb.1 ▸ h s, hb.2⟩

/-- A sequence of readers reads: its result is one its second part returns after some result of the
first. Reference: none. -/
theorem bind {m : SM α} {f : α → SM β} {R' : α → β → Sys → Prop} (hm : Reads O m R)
    (hf : ∀ a, Reads O (f a) (R' a)) :
    Reads O (m >>= f) (fun b s => ∃ a, R a s ∧ R' a b s) := fun S pre =>
  (hm S pre).bind fun a => (hf a S _).post_mono fun _ _ h => ⟨⟨a, h.2.1, h.1⟩, h.2.2⟩

/-- The rule for a call whose answer the rest of the code acts on: the continuation may assume what
the call said. Reference: none. -/
theorem bind' {m : SM α} {f : α → SM β} {R' : β → Sys → Prop} (hm : Reads O m R)
    (hf : ∀ a, Reads O (f a) (fun b s => R a s → R' b s)) : Reads O (m >>= f) R' :=
  fun S pre => ((hm S pre).bind fun a => (hf a S _).post_mono fun _ _ h => ⟨h.1 h.2.1, h.2.2⟩)

/-- A reader's postcondition may be weakened. Reference: none. -/
theorem post_mono {m : SM α} {R' : α → Sys → Prop} (h : Reads O m R)
    (hR : ∀ a s, R a s → R' a s) : Reads O m R' := fun S pre =>
  (h S pre).post_mono fun _ _ h => ⟨hR _ _ h.1, h.2⟩

/-- Both branches of an `if` read, so the `if` reads. Reference: none. -/
theorem ite {c : Prop} [Decidable c] {a b : SM α} (ha : c → Reads O a R) (hb : ¬c → Reads O b R) :
    Reads O (if c then a else b) R := by
  split
  · exact ha ‹_›
  · exact hb ‹_›

/-- `sys` returns the system it runs on. Reference: none. -/
theorem sys : Reads O SM.sys (fun a s => a = s) := fun _ _ => Runs.sys

/-- A function that makes no effect and leaves the system as it was reads, with no fact about its
result. Reference: none. -/
theorem of_step {m : SM α} (h : ∀ S, Keeps S (fun _ => True) m)
    (hsys : ∀ w a w', m w = .ok a w' → w'.sys = w.sys) : Reads O m (fun _ _ => True) :=
  fun S pre => ⟨fun w _ hw => by
    have := h S w
    unfold Spec at this ⊢
    split at this
    · exact ⟨⟨trivial, hsys _ _ _ ‹_› ▸ hw⟩, this.2⟩
    · exact this⟩

/-- A call of a collaborator reads. Reference: none. -/
theorem extCall : Reads O SM.extCall (fun _ _ => True) :=
  of_step (fun _ => Keeps.extCall) fun w a w' h => by
    simp only [extCall_apply] at h; split at h <;> cases h; rfl

/-- A file-system call reads, with no fact about its answer. Reference: none. -/
theorem ioCall_any : Reads O SM.ioCall (fun _ _ => True) :=
  fun _ _ => Runs.ioCall.post_mono fun _ _ h => ⟨trivial, h⟩

/-- On a reliable file system an I/O call succeeds. Reference: none. -/
theorem ioCall : Reads Reliable SM.ioCall (fun b _ => b = true) :=
  fun _ _ => Runs.ioCall_reliable

/-- A reader's triple with the precondition kept. Reference: none. -/
theorem runs {m : SM α} {S : Event → Prop} {pre : Sys → Prop} (h : Reads O m R) :
    Runs O S pre m (fun a s => R a s ∧ pre s) :=
  h S pre

end Reads

/-! ## The manager's readers on a reliable file system -/

/-- On a reliable file system `ReadUpdateState` returns the state the file holds. Reference:
`snapshot.cpp:1519`. -/
theorem readUpdateState_reads (file : LockedFile) :
    Reads Reliable (readUpdateState file) (fun r s => r = s.updateState) := by
  refine fun S pre => ⟨fun w ho hw => ?_⟩
  have h₀ := ho w.tick
  have h₁ := ho (w.tick + 1)
  by_cases c₀ : w.oracle.crash = some w.tick <;> by_cases c₁ : w.oracle.crash = some (w.tick + 1) <;>
    simp [readUpdateState, Spec, bind_apply, h₀, h₁, c₀, c₁, lockCheck, hw, Sys.updateState]

/-- On a reliable file system the read of the boot indicator returns what it holds. Reference:
`snapshot.cpp:1057`. -/
theorem readBootIndicator_reads :
    Reads Reliable readBootIndicator (fun r s => r = s.indicator) := by
  refine fun S pre => ⟨fun w ho hw => ?_⟩
  have h₀ := ho w.tick
  by_cases c₀ : w.oracle.crash = some w.tick <;>
    simp [readBootIndicator, Spec, bind_apply, h₀, c₀, lockCheck, hw]

/-- The snapshot directory, when it can be read, lists the status files. Reference:
`snapshot.cpp:1130`. -/
theorem listSnapshots_reads (lock : LockedFile) :
    Reads O (listSnapshots lock) (fun r s => ∀ names, r = some names → names = keys s.records) := by
  refine fun S pre => ⟨fun w _ hw => ?_⟩
  by_cases c₀ : w.oracle.crash = some w.tick <;> cases e₀ : w.oracle.io w.tick <;>
    simp [listSnapshots, Spec, bind_apply, e₀, c₀, lockCheck, hw, keys]

/-- On a reliable file system `ReadSnapshotStatus` returns the parse of the status file, `none` for
a missing one. Reference: `snapshot.cpp:1593`. -/
theorem readSnapshotStatus_reads (lock : LockedFile) (name : String) :
    Reads Reliable (readSnapshotStatus lock name)
      (fun r s => r = (lookup s.records name).bind parseStatusLine) := by
  refine fun S pre => ⟨fun w ho hw => ?_⟩
  have h₀ := ho w.tick
  have h₁ := ho (w.tick + 1)
  by_cases c₀ : w.oracle.crash = some w.tick <;> by_cases c₁ : w.oracle.crash = some (w.tick + 1) <;>
    cases hl : lookup w.sys.records name <;>
    simp [readSnapshotStatus, Spec, bind_apply, h₀, h₁, c₀, c₁, hl, lockCheck, hw]

/-! ## The mapper's and the metadata's answers -/

/-- `DeviceMapper::GetState` says a device is there only when it is. Reference: `dm.cpp:169`. -/
theorem getState_reads (name : String) :
    Reads O (getState name) (fun r s => r ≠ .INVALID → (lookup s.devices name).isSome) := by
  refine fun S pre => ⟨fun w _ hw => ?_⟩
  by_cases c₀ : w.oracle.crash = some w.tick <;> cases e₀ : w.oracle.ext w.tick <;>
    cases hl : lookup w.sys.devices name <;>
    simp [getState, ioctl, Spec, bind_apply, c₀, e₀, hl, lockCheck, hw]

/-- `DeviceMapper::GetTable` returns the table of the device, each target with the device's status.
Reference: `dm.cpp:417`. -/
theorem getTable_reads (name : String) :
    Reads O (getTable name) (fun r s => ∀ targets, r = some targets →
      ∃ d, lookup s.devices name = some d ∧ targets = d.table.map fun t => ⟨t, d.status⟩) := by
  refine fun S pre => ⟨fun w _ hw => ?_⟩
  by_cases c₀ : w.oracle.crash = some w.tick <;> cases e₀ : w.oracle.ext w.tick <;>
    cases hl : lookup w.sys.devices name <;>
    simp [getTable, ioctl, Spec, bind_apply, c₀, e₀, hl, lockCheck, hw]

/-- `GetSingleTarget` returns the one target of a device whose table has one target. Reference:
`snapshot.cpp:620`. -/
theorem getSingleTarget_reads (dm_name : String) (query : TableQuery) :
    Reads O (getSingleTarget dm_name query) (fun r s => ∀ target, r = some target →
      ∃ d, lookup s.devices dm_name = some d ∧ d.table = [target.spec] ∧
        target.status = d.status) := by
  simp only [getSingleTarget, getTableStatus, getTableInfo, ite_self, SM.pure_bind]
  refine Reads.bind' (getState_reads dm_name) fun _ => Reads.ite
    (fun _ => (Reads.pure _).post_mono fun _ _ h _ _ ht => by simp [h] at ht) fun _ => ?_
  refine Reads.bind' (getTable_reads dm_name) fun o => ?_
  split
  · split
    · refine (Reads.pure _).post_mono ?_
      rintro _ s rfl hget - _ ⟨⟩
      obtain ⟨d, hd, ht⟩ := hget _ rfl
      cases h : d.table with
      | nil => simp [h] at ht
      | cons t ts => cases ts <;> simp_all
    · exact (Reads.pure _).post_mono fun _ _ h _ _ _ ht => by simp [h] at ht
  · exact (Reads.pure _).post_mono fun _ _ h _ _ _ ht => by simp [h] at ht

/-- `IsSnapshotDevice` returns the one target of a device whose table has one target. Reference:
`snapshot.cpp:646`. -/
theorem isSnapshotDevice_reads (dm_name : String) :
    Reads O (isSnapshotDevice dm_name) (fun r s => ∀ target, r = some target →
      ∃ d, lookup s.devices dm_name = some d ∧ d.table = [target.spec] ∧
        target.status = d.status) := by
  refine Reads.bind' (getSingleTarget_reads dm_name .Status) fun o => ?_
  split
  · exact Reads.ite (fun _ => (Reads.pure _).post_mono fun _ _ h _ _ ht => by simp [h] at ht)
      fun _ => (Reads.pure _).post_mono fun _ _ h hget t ht => hget t (h.symm.trans ht)
  · exact (Reads.pure _).post_mono fun _ _ h _ _ ht => by simp [h] at ht

/-- `QuerySnapshotStatus` answers with the type and the sector counts of the one target of the
device. Reference: `snapshot.cpp:661`. -/
theorem querySnapshotStatus_reads (dm_name : String) :
    Reads O (querySnapshotStatus dm_name) (fun r s => ∀ t a b, r = some (t, a, b) →
      ∃ d tgt, lookup s.devices dm_name = some d ∧ d.table = [tgt] ∧ getTargetType tgt = t ∧
        d.status = some (a, b)) := by
  refine Reads.bind' (isSnapshotDevice_reads dm_name) fun o => ?_
  split
  · split
    · refine (Reads.pure _).post_mono ?_
      rintro _ s rfl htarget _ _ _ ⟨⟩
      obtain ⟨d, hd, ht, hst⟩ := htarget _ rfl
      exact ⟨d, _, hd, ht, rfl, hst ▸ ‹_ = some _›⟩
    · exact (Reads.pure _).post_mono fun _ _ h _ _ _ _ ht => by simp [h] at ht
  · exact (Reads.pure _).post_mono fun _ _ h _ _ _ _ ht => by simp [h] at ht

/-- `IsCancelledSnapshot` says `true` only for a partition missing from the live metadata.
Reference: `snapshot.cpp:1078`. -/
theorem isCancelledSnapshot_reads (name : String) :
    Reads O (isCancelledSnapshot name) (fun r s => r = true → Cancelled s name) := by
  refine fun S pre => ⟨fun w _ hw => ?_⟩
  by_cases c₀ : w.oracle.crash = some w.tick <;> cases e₀ : w.oracle.ext w.tick <;>
    cases hp : findPartition (w.sys.metadata w.sys.slot) name <;>
    simp [isCancelledSnapshot, readMetadata, Spec, bind_apply, c₀, e₀, hp, lockCheck, hw, Cancelled]

/-! ## Loops over the snapshots -/

/-- The check loop of `InitiateMerge` succeeds only when every snapshot device exists. Reference:
`snapshot.cpp:516`. -/
theorem allMapped_reads :
    ∀ names, Reads O (allMapped names) (fun r s => r = true → ∀ name ∈ names,
      (lookup s.devices name).isSome)
  | [] => (Reads.pure _).post_mono fun _ _ _ _ _ h => absurd h (List.not_mem_nil _)
  | name :: names => by
    simp only [allMapped, SM.pure_bind]
    refine Reads.bind' (getState_reads name) fun _ => Reads.ite
      (fun _ => (Reads.pure _).post_mono fun _ _ h _ hr => absurd (h.symm.trans hr) (by decide))
      fun hne => (allMapped_reads names).post_mono fun _ _ h hst hr n hn => ?_
    rcases List.mem_cons.mp hn with rfl | hn
    · exact hst hne
    · exact h hr n hn

/-! ## The writers of the tracked files -/

section Writers

variable {S : Event → Prop} {pre : Sys → Prop}

/-- `WriteUpdateState` that returns `true` has written its state over the system it started from.
Reference: `snapshot.cpp:1574`. -/
theorem writeUpdateState_runs (file : LockedFile) (state : UpdateState)
    (hS : ∀ s h, pre s → S ⟨s, .writeState state.toString, h⟩) :
    Runs O S pre (writeUpdateState file state) (fun r s' =>
      if r then ∃ s, pre s ∧ s' = (FileOp.writeState state.toString).apply s else pre s') := by
  simp only [writeUpdateState, SM.pure_bind]
  exact Runs.ite (fun _ => Runs.pure fun _ h => h) fun _ => Runs.persist hS

/-- `WriteSnapshotStatus` that returns `true` has created the status file and written the line of
`status` to it. Reference: `snapshot.cpp:1671`. -/
theorem writeSnapshotStatus_runs {lock : LockedFile} (hlock : lock.lock_mode = .exclusive)
    (name : String) (status : SnapshotStatus)
    (hC : ∀ s h, pre s → S ⟨s, .createStatus name, h⟩)
    (hS : ∀ s h, pre s →
      S ⟨(FileOp.createStatus name).apply s, .writeStatus name (statusLine status), h⟩) :
    Runs O S pre (writeSnapshotStatus lock name status) (fun r s' => r = true →
      ∃ s, pre s ∧ s' = (FileOp.writeStatus name (statusLine status)).apply
        ((FileOp.createStatus name).apply s)) := by
  simp only [writeSnapshotStatus, SM.pure_bind]
  refine ((Runs.CHECK (lock_check_ok hlock)).post_mono fun _ _ h => h.2).bind fun _ =>
    Runs.ioCall.bind fun _ => Runs.ite (fun _ => Runs.pure fun _ _ h => absurd h Bool.false_ne_true)
      fun _ => (Runs.effect hC).bind fun _ => (Runs.persist ?_).post_mono ?_
  · rintro _ h ⟨s, hs, rfl⟩
    exact hS s h hs
  · rintro (_ | _) _ h hr
    · exact absurd hr Bool.false_ne_true
    · obtain ⟨_, ⟨s, hs, rfl⟩, rfl⟩ := h
      exact ⟨s, hs, rfl⟩

end Writers

end LibSnapshot
