import LibSnapshot.Proof.Complete

/-!
# The merge poll when every call succeeds

`targetMergeState` is `CheckTargetMergeState` (`snapshot.cpp:805`) with every call succeeding: the
result it returns for one snapshot and what it does to the system (`TargetAction`), as functions
of the system alone. Its branches are the code's: no status file; a snapshot device that is gone,
for a partition flashed behind the update's back (`Cancelled`) or one whose merge had completed;
no status line; a target that is not `snapshot-merge`; a merge still running; a drained merge
whose stack collapses (`MergeCompleted`) or does not (`MergeNeedsReboot`, the status file
rewritten).

The module lands its results in this order:

* `checkTargetMergeState_refines`: a faultless check returns `targetMergeState`'s result and
  leaves the system its action describes, one lemma per branch of the code underneath
  (`isCancelledSnapshot_sure`, `onSnapshotMergeComplete_unmapped`,
  `collapseSnapshotDevice_fails`, `onSnapshotMergeComplete_fails`);
* `checkedTarget_stackLocal`: what a check decides reads only its snapshot's stack, and every
  action stays within that stack, so the loop of checks over snapshots with disjoint stacks
  finds and does for each what it would have on the system the poll began with
  (`checkEach_refines`);
* `checkMergeStateLocked_refines`: in a merge state, the poll returns the highest-priority
  result of the snapshots' checks (`mergeResult`), writing `MergeNeedsReboot` exactly when that
  is the result, and leaves every snapshot checked;
* `checkMergeState_refines`: the public `CheckMergeState` (`snapshot.cpp:699`) does the same,
  and when the result is `MergeCompleted` or `Cancelled` every check has deleted or completed its
  snapshot (`targetMergeState_finished`), so the cleanup in the same lock finds no status file and
  ends the update;
* `checkMergeState_completes_merge`: once every snapshot has drained and can be collapsed, that
  end is the completed update, every partition a linear device again.
-/

namespace LibSnapshot

open SM DeviceMapper SnapshotManager

/-! ## What one check decides and does -/

/-- `IsCancelledSnapshot(name)` (`snapshot.cpp:1078`) when every call succeeds: the live slot's
metadata has the partition, without `UPDATED`. -/
def snapshotCancelled (s : Sys) (name : String) : Bool :=
  match findPartition (s.metadata s.slot) name with
  | some partition => !partition.updated
  | none => false

/-- The system after `WriteSnapshotStatus(name, status)` (`snapshot.cpp:1671`). -/
def Sys.statusWritten (s : Sys) (name : String) (status : SnapshotStatus) : Sys :=
  (FileOp.writeStatus name (statusLine status)).apply ((FileOp.createStatus name).apply s)

/-- What the check of one snapshot does to the system. -/
inductive TargetAction
  /-- Nothing. -/
  | keep
  /-- `DeleteSnapshot`: the COW devices, the COW image and the status file go. -/
  | delete
  /-- The snapshot is completed: its stack collapsed into the partition, then deleted. -/
  | complete
  /-- The status file is rewritten with `status`; the collapse failed. -/
  | reboot (status : SnapshotStatus)

def TargetAction.apply : TargetAction → Sys → String → Sys
  | .keep, s, _ => s
  | .delete, s, name => s.snapshotDeleted name
  | .complete, s, name => completeMerge s name
  | .reboot status, s, name => s.statusWritten name status

/-- `CheckTargetMergeState(name)` (`snapshot.cpp:805`) when every call succeeds: the result and
what the check does. -/
def targetMergeState (s : Sys) (name : String) : UpdateState × TargetAction :=
  match (lookup s.records name).bind parseStatusLine with
  | none => (.MergeFailed, .keep)
  | some snapshot_status =>
    let dm_name := getSnapshotDeviceName name snapshot_status
    if (snapshotTargetOf (lookup s.devices dm_name)).isNone then
      if snapshotCancelled s name then (.Cancelled, .delete)
      else if snapshot_status.state = .MergeCompleted then (.MergeCompleted, .delete)
      else (.MergeFailed, .keep)
    else
      match snapshotStatusOf (lookup s.devices dm_name) with
      | none => (.MergeFailed, .keep)
      | some (target_type, sectors_allocated, metadata_sectors) =>
        if target_type ≠ "snapshot-merge" then (.MergeFailed, .keep)
        else if sectors_allocated ≠ metadata_sectors then
          (if snapshot_status.state = .MergeCompleted then .MergeFailed else .Merging, .keep)
        else if (collapsePlan s name snapshot_status).isSome then (.MergeCompleted, .complete)
        else (.MergeNeedsReboot, .reboot { snapshot_status with state := .MergeCompleted })

/-- The system the check of `name` leaves. -/
def checkedTarget (s : Sys) (name : String) : Sys :=
  (targetMergeState s name).2.apply s name

/-! ## The calls of a check -/

section Calls

variable {o : Oracle} {s : Sys}

/-- A faultless `IsCancelledSnapshot` says whether the partition is missing from the live metadata.
Reference: `snapshot.cpp:1078`. -/
theorem isCancelledSnapshot_sure (name : String) :
    Sure o s (isCancelledSnapshot name) fun r t => r = snapshotCancelled s name ∧ t = s := by
  refine Sure.sys.bind_eq ((readMetadata_sure _).bind_eq ?_)
  dsimp only
  cases h : findPartition (s.metadata s.slot) name <;>
    exact Sure.pure ⟨by simp only [snapshotCancelled, h], rfl⟩

/-- A drained `snapshot-merge` target is what `QuerySnapshotStatus` reports as one. Reference:
`snapshot.cpp:851`. -/
theorem Device.drained_of_query {d : Device} {c : UInt64}
    (h : snapshotStatusOf (some d) = some ("snapshot-merge", c, c)) : d.drained = true := by
  obtain ⟨uuid, table, inactive, status⟩ := d
  rcases table with _ | ⟨t, _ | ⟨t', table⟩⟩ <;>
    simp only [snapshotStatusOf, snapshotTargetOf, singleTarget, Option.filter, Option.none_bind,
      reduceCtorEq] at h
  split at h
  · rcases status with _ | ⟨a, m⟩ <;> simp only [Option.some_bind, Option.map_none',
      Option.map_some', reduceCtorEq, Option.some.injEq, Prod.mk.injEq] at h
    obtain ⟨htype, rfl, rfl⟩ := h
    simp [Device.drained, htype]
  · exact absurd h Option.noConfusion

/-- `OnSnapshotMergeComplete` once the snapshot device is gone: only `DeleteSnapshot`. Reference:
`snapshot.cpp:915`. -/
theorem onSnapshotMergeComplete_unmapped {lock : LockedFile} (hlock : lock.lock_mode = .exclusive)
    {name : String} {status : SnapshotStatus}
    (h : snapshotTargetOf (lookup s.devices (getSnapshotDeviceName name status)) = none) :
    Sure o s (onSnapshotMergeComplete lock name status) fun r t => r = true ∧
      t.Equiv (s.snapshotDeleted name) := by
  refine (isSnapshotDevice_sure _).bind_eq ?_
  simp only [h, Option.isSome_none, Bool.false_eq_true, if_false]
  exact deleteSnapshot_sure hlock name

/-- `CollapseSnapshotDevice` on a drained target whose stack cannot be collapsed fails before it
changes anything. Reference: `snapshot.cpp:949`. -/
theorem collapseSnapshotDevice_fails {name : String} {status : SnapshotStatus} {d : Device}
    (hd : lookup s.devices (getSnapshotDeviceName name status) = some d) (hdr : d.drained = true)
    (hplan : collapsePlan s name status = none) :
    Sure o s (collapseSnapshotDevice name status) fun r t => r = false ∧ t = s := by
  obtain ⟨t, c, htab, htype, hst⟩ := Device.drained_spec hdr
  obtain ⟨base_device, cow_device, hp⟩ := getDevicesFromParams_of_merge htype
  refine (getSingleTarget_sure _ _).bind_eq ?_
  simp only [hd, singleTarget, htab, htype, ne_eq, not_true_eq_false, if_false, hp, SM.pure_bind]
  unfold collapsePlan at hplan
  by_cases hsz : status.snapshot_size / kSectorSize * kSectorSize = status.snapshot_size
  swap
  · rw [if_pos hsz]
    exact Sure.pure ⟨rfl, rfl⟩
  rw [if_neg (not_not.2 hsz)]
  have hpart : ∀ dP, lookup s.devices name = some dP →
      (getSnapshotDeviceName name status ≠ name → outerTableOk status dP = true) →
      findPartition (s.metadata s.slot) name = none := fun dP hP hout => by
    rw [if_pos ⟨hsz, fun h => by rw [hP, Option.map_some', hout h]⟩, hP, Option.some_bind,
      Option.map_eq_none'] at hplan
    exact hplan
  by_cases hdm : getSnapshotDeviceName name status = name
  · rw [if_neg (not_not.2 hdm)]
    refine Sure.sys.bind_eq ((createDmTable_sure _ _).bind_eq ?_)
    rw [hpart d (hdm ▸ hd) fun h => absurd hdm h]
    exact Sure.pure ⟨rfl, rfl⟩
  rw [if_pos hdm]
  refine (getTable_sure name).bind_eq ?_
  cases hP : lookup s.devices name with
  | none => exact Sure.pure ⟨rfl, rfl⟩
  | some dP =>
    by_cases hout : outerTableOk status dP = true
    · obtain ⟨t0, t1, houter, h0, h1, hlen, hsum⟩ := outerTableOk_spec hout
      simp only [Option.map_some', houter, List.map_cons, List.map_nil, h0, h1, hlen, hsum,
        not_true_eq_false, or_self, if_false]
      refine Sure.sys.bind_eq ((createDmTable_sure _ _).bind_eq ?_)
      rw [hpart dP hP fun _ => hout]
      exact Sure.pure ⟨rfl, rfl⟩
    · simp only [Option.map_some']
      rcases hT : dP.table with _ | ⟨t0, _ | ⟨t1, _ | ⟨t2, l⟩⟩⟩ <;>
        simp only [List.map_nil, List.map_cons]
      · exact Sure.pure ⟨rfl, rfl⟩
      · exact Sure.pure ⟨rfl, rfl⟩
      · simp only [outerTableOk, hT, Bool.and_eq_true, beq_iff_eq, not_and] at hout
        exact Sure.ite (fun _ => Sure.pure ⟨rfl, rfl⟩) fun h₁ => Sure.ite (fun _ => Sure.pure ⟨rfl, rfl⟩)
          fun h₂ => Sure.ite (fun _ => Sure.pure ⟨rfl, rfl⟩) fun h₃ =>
            absurd (not_not.1 h₃) (hout ⟨(not_or.1 h₁).imp not_not.1 not_not.1, not_not.1 h₂⟩)
      · exact Sure.pure ⟨rfl, rfl⟩

/-- `OnSnapshotMergeComplete` on a drained target whose stack cannot be collapsed fails, and changes
nothing. Reference: `snapshot.cpp:915`. -/
theorem onSnapshotMergeComplete_fails {lock : LockedFile} {name : String}
    {status : SnapshotStatus} {d : Device}
    (hd : lookup s.devices (getSnapshotDeviceName name status) = some d) (hdr : d.drained = true)
    (hplan : collapsePlan s name status = none) :
    Sure o s (onSnapshotMergeComplete lock name status) fun r t => r = false ∧ t = s := by
  obtain ⟨c, hq⟩ := Device.drained_query hdr
  refine (isSnapshotDevice_sure _).bind_eq ?_
  simp only [hd, Device.drained_target hdr, if_true]
  refine (querySnapshotStatus_sure _).bind_eq ?_
  simp only [hd, hq, ne_eq, not_true_eq_false, if_false, SM.pure_bind]
  exact (collapseSnapshotDevice_fails hd hdr hplan).bind_eq (Sure.pure ⟨rfl, rfl⟩)

end Calls

/-! ## One check -/

section Check

variable {o : Oracle} {s : Sys}

/-- A drained snapshot whose stack can be collapsed is checked as `MergeCompleted`, and completed.
Reference: `snapshot.cpp:805`. -/
theorem targetMergeState_of_drainedTarget {name : String} {status : SnapshotStatus} {dP : Device}
    {table : List DmTarget} (h : drainedTarget s name = some (status, dP, table)) :
    targetMergeState s name = (.MergeCompleted, .complete) := by
  obtain ⟨hst, ⟨d, hd, hdr⟩, hplan⟩ := drainedTarget_spec h
  obtain ⟨c, hq⟩ := Device.drained_query hdr
  have htgt := Device.drained_target hdr
  simp only [targetMergeState, hst, hd, Option.isNone_iff_eq_none, Option.ne_none_iff_isSome.2 htgt,
    if_false, hq, ne_eq, not_true_eq_false, hplan, Option.isSome_some, if_true]

/-- When every call succeeds, `CheckTargetMergeState` returns what `targetMergeState` says and
leaves the system its action describes. Reference: `snapshot.cpp:805`. -/
theorem checkTargetMergeState_refines {lock : LockedFile} (hlock : lock.lock_mode = .exclusive)
    (name : String) :
    Sure o s (checkTargetMergeState lock name) fun r t =>
      r = (targetMergeState s name).1 ∧ t.Equiv (checkedTarget s name) := by
  cases hdt : drainedTarget s name with
  | some x =>
    obtain ⟨status, dP, table⟩ := x
    have h := targetMergeState_of_drainedTarget hdt
    simp only [checkedTarget, h, TargetAction.apply]
    exact checkTargetMergeState_sure hlock (by rw [hdt]; rfl)
  | none =>
  refine (readSnapshotStatus_sure lock name).bind_eq ?_
  cases hst : (lookup s.records name).bind parseStatusLine with
  | none =>
    have h : targetMergeState s name = (.MergeFailed, .keep) := by
      simp only [targetMergeState, hst]
    simp only [checkedTarget, h, TargetAction.apply]
    exact Sure.pure ⟨rfl, .refl s⟩
  | some status =>
  dsimp only
  refine (isSnapshotDevice_sure _).bind_eq ?_
  cases htgt : snapshotTargetOf (lookup s.devices (getSnapshotDeviceName name status)) with
  | none =>
    simp only [Option.isNone_none, if_true]
    refine (isCancelledSnapshot_sure name).bind_eq ?_
    have hts : targetMergeState s name = if snapshotCancelled s name then (.Cancelled, .delete)
        else if status.state = .MergeCompleted then (.MergeCompleted, .delete)
        else (.MergeFailed, .keep) := by
      simp only [targetMergeState, hst, htgt, Option.isNone_none, if_true]
    cases hc : snapshotCancelled s name with
    | true =>
      simp only [checkedTarget, hts, hc, if_true, TargetAction.apply]
      exact (deleteSnapshot_sure hlock name).bind fun _ t ⟨_, ht⟩ => Sure.pure ⟨rfl, ht⟩
    | false =>
      simp only [hts, hc, Bool.false_eq_true, if_false, SM.pure_bind]
      by_cases hmc : status.state = .MergeCompleted
      · simp only [checkedTarget, hts, hc, hmc, Bool.false_eq_true, if_true, if_false,
          TargetAction.apply]
        exact (onSnapshotMergeComplete_unmapped hlock htgt).bind fun _ t ⟨_, ht⟩ =>
          Sure.pure ⟨rfl, ht⟩
      · simp only [checkedTarget, hts, hc, hmc, Bool.false_eq_true, if_false, SM.pure_bind,
          TargetAction.apply]
        exact Sure.pure ⟨rfl, .refl s⟩
  | some tgt =>
    simp only [Option.isNone_some, Bool.false_eq_true, if_false]
    refine (querySnapshotStatus_sure _).bind_eq ?_
    cases hq : snapshotStatusOf (lookup s.devices (getSnapshotDeviceName name status)) with
    | none =>
      have hts : targetMergeState s name = (.MergeFailed, .keep) := by
        simp only [targetMergeState, hst, htgt, Option.isNone_some, Bool.false_eq_true, if_false, hq]
      simp only [checkedTarget, hts, TargetAction.apply]
      exact Sure.pure ⟨rfl, .refl s⟩
    | some x =>
    obtain ⟨target_type, sectors_allocated, metadata_sectors⟩ := x
    dsimp only
    have hts : targetMergeState s name = if target_type ≠ "snapshot-merge" then (.MergeFailed, .keep)
        else if sectors_allocated ≠ metadata_sectors then
          (if status.state = .MergeCompleted then .MergeFailed else .Merging, .keep)
        else if (collapsePlan s name status).isSome then (.MergeCompleted, .complete)
        else (.MergeNeedsReboot, .reboot { status with state := .MergeCompleted }) := by
      simp only [targetMergeState, hst, htgt, Option.isNone_some, Bool.false_eq_true, if_false, hq]
    by_cases htt : target_type = "snapshot-merge"
    swap
    · simp only [checkedTarget, hts, ne_eq, htt, not_false_eq_true, if_true, TargetAction.apply]
      exact Sure.pure ⟨rfl, .refl s⟩
    subst htt
    simp only [ne_eq, not_true_eq_false, if_false, SM.pure_bind] at hts ⊢
    by_cases ham : sectors_allocated = metadata_sectors
    swap
    · by_cases hmc : status.state = .MergeCompleted <;>
        simp only [checkedTarget, hts, ham, hmc, not_false_eq_true, if_true, if_false,
          TargetAction.apply, SM.pure_bind] <;>
        exact Sure.pure ⟨rfl, .refl s⟩
    subst ham
    obtain ⟨d, hd⟩ : ∃ d, lookup s.devices (getSnapshotDeviceName name status) = some d := by
      cases h : lookup s.devices (getSnapshotDeviceName name status) with
      | none => simp only [h, snapshotStatusOf, snapshotTargetOf, singleTarget] at hq; cases hq
      | some d => exact ⟨d, rfl⟩
    have hdr := Device.drained_of_query (hd ▸ hq)
    have hplan : collapsePlan s name status = none := by
      simpa [drainedTarget, hst, hd, hdr] using hdt
    simp only [checkedTarget, hts, hplan, Option.isSome_none, Bool.false_eq_true, if_false,
      not_true_eq_false, TargetAction.apply]
    refine (writeSnapshotStatus_sure hlock name _).bind_eq ?_
    simp only [Bool.not_true, Bool.false_eq_true, if_false, SM.pure_bind]
    obtain ⟨-, hslot, hm, hdev, -⟩ := writeStatus_createStatus name
      (statusLine { status with state := .MergeCompleted }) s
    refine (@onSnapshotMergeComplete_fails _ _ lock name _ d (by rw [hdev]; exact hd) hdr
      ((collapsePlan_congr _ (by rw [hdev]) hslot hm).trans hplan)).bind_eq ?_
    exact Sure.pure ⟨rfl, .refl _⟩

end Check

/-! ## A check stays within its snapshot's stack -/

section Stack

variable {s t : Sys} {name : String}

/-- Whether a snapshot is cancelled depends only on the live slot and the metadata. Reference:
`snapshot.cpp:1078`. -/
theorem snapshotCancelled_congr (h : s.AgreeOn (· ∈ stackNames name) t) :
    snapshotCancelled s name = snapshotCancelled t name := by
  simp only [snapshotCancelled, h.slot, h.metadata]

/-- What a check decides depends only on its snapshot's stack. Reference: `snapshot.cpp:805`. -/
theorem targetMergeState_congr (h : s.AgreeOn (· ∈ stackNames name) t) :
    targetMergeState s name = targetMergeState t name := by
  have hdm := fun status => h.devices (getSnapshotDeviceName_mem name status)
  have hplan := fun status =>
    collapsePlan_congr status (h.devices (mem_stackNames name).1) h.slot h.metadata
  simp only [targetMergeState, h.records (mem_stackNames name).1, hdm, hplan,
    snapshotCancelled_congr h]

/-- `DeleteSnapshot`'s removals are stack-local. Reference: `snapshot.cpp:462`. -/
theorem snapshotDeleted_stackLocal : StackLocal Sys.snapshotDeleted := by
  refine ⟨fun s name => ?_, fun {s t name} h => ?_⟩ <;>
    obtain ⟨h₀, -, h₂, h₃, -⟩ := mem_stackNames name
  · exact ((((Sys.Pointwise.eraseDevice _).outside h₂ s).trans
      ((Sys.Pointwise.eraseDevice _).outside h₃ _)).trans
      ((Sys.Pointwise.deleteImage _).outside h₃ _)).trans
      ((Sys.Pointwise.removeStatus _).outside h₀ _)
  · exact ((Sys.Pointwise.removeStatus _).agreeOn h₀ ((Sys.Pointwise.deleteImage _).agreeOn h₃
      ((Sys.Pointwise.eraseDevice _).agreeOn h₃ ((Sys.Pointwise.eraseDevice _).agreeOn h₂ h)))).entry

/-- A status write is stack-local. Reference: `snapshot.cpp:1671`. -/
theorem statusWritten_stackLocal (status : SnapshotStatus) :
    StackLocal fun s name => s.statusWritten name status := by
  refine ⟨fun s name => ?_, fun {s t name} h => ?_⟩ <;>
    have h₀ := (mem_stackNames name).1
  · exact ((Sys.Pointwise.createStatus _).outside h₀ s).trans
      ((Sys.Pointwise.writeStatus _ _).outside h₀ _)
  · exact ((Sys.Pointwise.writeStatus _ _).agreeOn h₀
      ((Sys.Pointwise.createStatus _).agreeOn h₀ h)).entry

/-- Each action a check may take is stack-local. Reference: none. -/
theorem TargetAction.stackLocal : ∀ a : TargetAction, StackLocal a.apply
  | .keep => ⟨fun s _ => .refl s, fun h n hn => h.entry n hn⟩
  | .delete => snapshotDeleted_stackLocal
  | .complete => completeMerge_stackLocal
  | .reboot status => statusWritten_stackLocal status

/-- A check's result reads only its snapshot's stack. Reference: `snapshot.cpp:805`. -/
theorem targetMergeState_result_read : StackRead fun s name => (targetMergeState s name).1 :=
  fun h => congrArg Prod.fst (targetMergeState_congr h)

/-- What a check decides reads only its snapshot's stack, and what it does stays there. Reference:
`snapshot.cpp:805`. -/
theorem checkedTarget_stackLocal : StackLocal checkedTarget :=
  StackLocal.select (fun h => congrArg Prod.snd (targetMergeState_congr h)) TargetAction.stackLocal

end Stack

/-! ## The poll -/

section Poll

variable {o : Oracle} {s : Sys}

/-- A check's result is one of the five of `pollResults`. Reference: `snapshot.cpp:805`. -/
theorem targetMergeState_polled (s : Sys) (name : String) :
    (targetMergeState s name).1 ∈ pollResults := by
  unfold targetMergeState
  split
  · simp [pollResults]
  · dsimp only
    split
    · split_ifs <;> simp [pollResults]
    · split
      · simp [pollResults]
      · split_ifs <;> simp [pollResults]

/-- The loop of checks, over snapshots with disjoint stacks, gives the flags of every snapshot's
check, and leaves every snapshot checked, as each was when the loop began. Reference:
`snapshot.cpp:755`. -/
theorem checkEach_refines {lock : LockedFile} (hlock : lock.lock_mode = .exclusive) :
    ∀ (snapshots : List String) (s : Sys) (flags : MergeFlags), snapshots.Pairwise Separate →
      Sure o s (checkEach lock flags snapshots) fun r t =>
        r = snapshots.foldl (fun f n => f.add (targetMergeState s n).1) flags ∧
          t.Equiv (snapshots.foldl checkedTarget s)
  | [], _, _, _ => Sure.pure ⟨rfl, .refl _⟩
  | n :: rest, s, flags, hsep => by
    obtain ⟨hn, hrest⟩ := List.pairwise_cons.1 hsep
    refine (checkTargetMergeState_refines hlock n).bind fun r t₁ ⟨hr, ht₁⟩ => hr ▸ ?_
    have hsame : ∀ m ∈ rest, (targetMergeState t₁ m).1 = (targetMergeState s m).1 := fun m hm =>
      (targetMergeState_result_read ht₁.agreeOn).trans
        (checkedTarget_stackLocal.read_separate targetMergeState_result_read (hn m hm))
    exact (checkEach_refines hlock rest t₁ _ hrest).mono fun r t ⟨hr, ht⟩ =>
      ⟨hr.trans (List.foldl_ext _ _ _ fun f m hm => by rw [hsame m hm]),
        ht.trans (checkedTarget_stackLocal.foldl_equiv rest ht₁.symm).symm⟩

/-- What `CheckMergeState(lock)` does with the flags of its loop: it returns their verdict, and
writes `MergeNeedsReboot` when that is the verdict. Reference: `snapshot.cpp:782`. -/
theorem verdict_sure {lock : LockedFile} (flags : MergeFlags) :
    Sure o s (if flags.merging then pure .Merging
      else if flags.failed then pure .MergeFailed
      else if flags.needs_reboot then
        writeUpdateState lock .MergeNeedsReboot >>= fun _ => pure .MergeNeedsReboot
      else if flags.cancelled then pure .Cancelled
      else pure .MergeCompleted) fun r t => r = flags.verdict ∧
        t = if r = .MergeNeedsReboot then { s with state := UpdateState.MergeNeedsReboot.toString }
          else s := by
  obtain ⟨_ | _, _ | _, _ | _, _ | _⟩ := flags <;> try exact Sure.pure ⟨rfl, rfl⟩
  all_goals exact (writeUpdateState_sure lock (by decide)).bind_eq (Sure.pure ⟨rfl, rfl⟩)

/-- When every call succeeds, `CheckMergeState(lock)` in a merge state, over snapshots with disjoint
stacks, returns the highest-priority result of the snapshots' checks, each as the poll found the
snapshot, leaves every snapshot checked, and writes `MergeNeedsReboot` exactly when that is the
result. Reference: `snapshot.cpp:716`. -/
theorem checkMergeStateLocked_refines {lock : LockedFile} (hlock : lock.lock_mode = .exclusive)
    (hnodup : (keys s.records).Nodup)
    (hnames : ∀ n ∈ keys s.records, ∃ p, ∃ suffix ∈ ["_a", "_b"], n = p ++ suffix)
    (hstate : s.updateState.Merge) :
    Sure o s (checkMergeStateLocked lock) fun r t =>
      r = mergeResult ((keys s.records).map fun n => (targetMergeState s n).1) ∧
        t.Equiv (if r = .MergeNeedsReboot then
          { (keys s.records).foldl checkedTarget s with
            state := UpdateState.MergeNeedsReboot.toString }
          else (keys s.records).foldl checkedTarget s) := by
  have hv : ((keys s.records).foldl (fun (f : MergeFlags) n => f.add (targetMergeState s n).1)
      {}).verdict = mergeResult ((keys s.records).map fun n => (targetMergeState s n).1) := by
    rw [← List.foldl_map (fun n => (targetMergeState s n).1) MergeFlags.add,
      MergeFlags.verdict_foldl fun r hr => by
        obtain ⟨n, -, rfl⟩ := List.mem_map.1 hr
        exact targetMergeState_polled s n]
    rfl
  refine (readUpdateState_sure lock).bind_eq ?_
  rcases hstate with h | h | h <;> rw [h] <;>
    exact (listSnapshots_sure lock).bind_eq ((checkEach_refines hlock _ s {}
      (suffixed_pairwise_separate hnodup hnames)).bind
      fun flags t ⟨hf, ht⟩ => (verdict_sure flags).mono fun r t' ⟨hr, ht'⟩ =>
        ⟨hr.trans (hf ▸ hv), by subst ht'; split_ifs <;> [exact ht.setState _; exact ht]⟩)

/-! ## Ending the update -/

/-- The higher of two results ranks as the higher of their ranks. Reference: none. -/
theorem mergePriority_mergeMax (best r : UpdateState) :
    mergePriority (mergeMax best r) = max (mergePriority best) (mergePriority r) := by
  unfold mergeMax
  split <;> omega

/-- The highest result ranks at least as high as every result. Reference: none. -/
theorem mergePriority_le_foldl : ∀ (results : List UpdateState) (best : UpdateState),
    mergePriority best ≤ mergePriority (results.foldl mergeMax best) ∧
      ∀ r ∈ results, mergePriority r ≤ mergePriority (results.foldl mergeMax best)
  | [], _ => ⟨le_rfl, fun _ h => absurd h (List.not_mem_nil _)⟩
  | r :: results, best => by
    obtain ⟨h₁, h₂⟩ := mergePriority_le_foldl results (mergeMax best r)
    rw [mergePriority_mergeMax] at h₁
    refine ⟨le_of_max_le_left h₁, fun r' hr' => ?_⟩
    rcases List.mem_cons.1 hr' with rfl | hr'
    · exact le_of_max_le_right h₁
    · exact h₂ r' hr'

/-- A poll whose result is `MergeCompleted` or `Cancelled` had only those results. Reference:
none. -/
theorem finished_of_mergeResult {results : List UpdateState} (hpoll : ∀ r ∈ results, r ∈ pollResults)
    (h : mergeResult results = .MergeCompleted ∨ mergeResult results = .Cancelled) :
    ∀ r ∈ results, r = .MergeCompleted ∨ r = .Cancelled := by
  have hle : mergePriority (mergeResult results) ≤ 1 := by rcases h with h | h <;> rw [h] <;> decide
  intro r hr
  have := ((mergePriority_le_foldl results .MergeCompleted).2 r hr).trans hle
  have hp := hpoll r hr
  simp only [pollResults, List.mem_cons, List.mem_singleton, List.not_mem_nil, or_false] at hp
  rcases hp with rfl | rfl | rfl | rfl | rfl <;> simp_all [mergePriority]

/-- A check that finds a snapshot completed or cancelled deletes it, or completes it when it has
drained. Reference: `snapshot.cpp:805`. -/
theorem targetMergeState_finished {s : Sys} {name : String}
    (h : (targetMergeState s name).1 = .MergeCompleted ∨
      (targetMergeState s name).1 = .Cancelled) :
    (targetMergeState s name).2 = .delete ∨
      ((targetMergeState s name).2 = .complete ∧ (drainedTarget s name).isSome) := by
  cases hst : (lookup s.records name).bind parseStatusLine with
  | none => simp [targetMergeState, hst] at h
  | some status =>
  have hun : (snapshotTargetOf (lookup s.devices (getSnapshotDeviceName name status))).isNone →
      (targetMergeState s name).2 = .delete := fun hn => by
    simp only [targetMergeState, hst, hn, if_true] at h ⊢
    split_ifs at h ⊢ <;> simp_all
  cases hd : lookup s.devices (getSnapshotDeviceName name status) with
  | none => exact .inl (hun (by rw [hd]; rfl))
  | some d =>
  cases htgt : (snapshotTargetOf (some d)).isNone with
  | true => exact .inl (hun (by rw [hd, htgt]))
  | false =>
  cases hq : snapshotStatusOf (some d) with
  | none => simp [targetMergeState, hst, hd, htgt, hq] at h
  | some x =>
  obtain ⟨target_type, sectors_allocated, metadata_sectors⟩ := x
  simp only [targetMergeState, hst, hd, hq, htgt, Bool.false_eq_true, if_false] at h ⊢
  split_ifs at h ⊢ with h₁ h₂ <;> simp only [reduceCtorEq, or_self, true_and] at h ⊢
  obtain rfl := not_not.1 h₁
  obtain rfl := not_not.1 h₂
  have hdr := Device.drained_of_query hq
  exact .inr (by simpa [drainedTarget, hst, hd, hdr] using ‹(collapsePlan s name status).isSome›)

/-- A check that finds a snapshot completed or cancelled removes its status file. Reference:
`snapshot.cpp:805`. -/
theorem checkedTarget_removes_record {s : Sys} {name : String}
    (h : (targetMergeState s name).1 = .MergeCompleted ∨
      (targetMergeState s name).1 = .Cancelled) :
    lookup (checkedTarget s name).records name = none := by
  unfold checkedTarget
  rcases targetMergeState_finished h with h' | ⟨h', hdt⟩ <;> rw [h']
  · exact (lookup_erase _ _ _).trans (if_pos rfl)
  · simp only [TargetAction.apply, lookup_completeMerge_records, hdt, true_and, if_true]

/-- A check changes no status file but its own. Reference: `snapshot.cpp:805`. -/
theorem lookup_checkedTarget_records {s : Sys} {name k : String} (hk : name ≠ k) :
    lookup (checkedTarget s name).records k = lookup s.records k := by
  unfold checkedTarget
  cases (targetMergeState s name).2 with
  | keep => rfl
  | delete => exact (lookup_erase _ _ _).trans (if_neg hk)
  | complete => exact (lookup_completeMerge_records s name k).trans (if_neg fun h => hk h.2)
  | reboot status => exact (writeStatus_createStatus name _ s).2.2.2.2.2 k hk

/-- A check that finds a snapshot completed or cancelled reads the same on the system the poll began
with, and the status files of such snapshots are all gone after the loop. Reference:
`snapshot.cpp:755`. -/
theorem lookup_foldl_checkedTarget_records : ∀ (snapshots : List String) (s : Sys),
    snapshots.Pairwise Separate →
    (∀ n ∈ snapshots, (targetMergeState s n).1 = .MergeCompleted ∨
      (targetMergeState s n).1 = .Cancelled) → ∀ k,
      lookup (snapshots.foldl checkedTarget s).records k =
        if k ∈ snapshots then none else lookup s.records k
  | [], _, _, _, k => by simp
  | n :: rest, s, hsep, hfin, k => by
    obtain ⟨hn, hrest⟩ := List.pairwise_cons.1 hsep
    have hfin₁ : ∀ m ∈ rest, (targetMergeState (checkedTarget s n) m).1 = .MergeCompleted ∨
        (targetMergeState (checkedTarget s n) m).1 = .Cancelled := fun m hm => by
      rw [checkedTarget_stackLocal.read_separate targetMergeState_result_read (hn m hm)]
      exact hfin m (List.mem_cons_of_mem _ hm)
    rw [List.foldl_cons, lookup_foldl_checkedTarget_records rest _ hrest hfin₁]
    by_cases hk : k = n
    · subst hk
      simp [checkedTarget_removes_record (hfin k (List.mem_cons_self _ _))]
    · simp [hk, lookup_checkedTarget_records (Ne.symm hk)]

/-- When every call succeeds, `CheckMergeState` in a merge state, over snapshots named with a slot
suffix, returns the highest-priority result of the snapshots' checks and leaves every snapshot
checked; when that result is `MergeCompleted` or `Cancelled` it ends the update in the same lock: no
status file is left, the boot indicator is gone and the state is `None`. Reference:
`snapshot.cpp:699`. -/
theorem checkMergeState_refines {o : Oracle} {s : Sys}
    (hnodup : (keys s.records).Nodup)
    (hnames : ∀ n ∈ keys s.records, ∃ p, ∃ suffix ∈ ["_a", "_b"], n = p ++ suffix)
    (hstate : s.updateState.Merge) :
    Sure o s checkMergeState fun r t =>
      r = mergeResult ((keys s.records).map fun n => (targetMergeState s n).1) ∧
        t.Equiv (if r = .MergeCompleted ∨ r = .Cancelled then
          { (keys s.records).foldl checkedTarget s with
            state := UpdateState.None.toString, indicator := none }
          else if r = .MergeNeedsReboot then
            { (keys s.records).foldl checkedTarget s with
              state := UpdateState.MergeNeedsReboot.toString }
          else (keys s.records).foldl checkedTarget s) ∧
        (r = .MergeCompleted ∨ r = .Cancelled → t.records = []) := by
  refine locked_sure lockExclusive_sure ?_
  refine (checkMergeStateLocked_refines rfl hnodup hnames hstate).bind fun r t ⟨hr, ht⟩ => ?_
  have hend : r = .MergeCompleted ∨ r = .Cancelled →
      t.Equiv ((keys s.records).foldl checkedTarget s) ∧ t.records = [] := fun hfin => by
    have hpoll : ∀ r ∈ (keys s.records).map fun n => (targetMergeState s n).1, r ∈ pollResults :=
      fun r hr => by
        obtain ⟨n, -, rfl⟩ := List.mem_map.1 hr
        exact targetMergeState_polled s n
    have hdone := finished_of_mergeResult hpoll (hr ▸ hfin)
    rw [if_neg (by rcases hfin with h | h <;> rw [h] <;> decide)] at ht
    refine ⟨ht, eq_nil_of_lookup_none fun k => ?_⟩
    have hk := congrArg Prod.fst (ht.entry k id)
    simp only [Sys.entry, lookup_foldl_checkedTarget_records _ s
      (suffixed_pairwise_separate hnodup hnames)
      (fun n hn => hdone _ (List.mem_map_of_mem _ hn)) k] at hk
    rw [← hk]
    split
    · rfl
    · exact Option.not_isSome_iff_eq_none.1 (mt mem_keys_iff_lookup.2 ‹_›)
  have hack : r = .MergeCompleted ∨ r = .Cancelled →
      Sure o t (removeAllUpdateState ⟨"/metadata/ota/state", .exclusive⟩) fun _ t' =>
        r = mergeResult ((keys s.records).map fun n => (targetMergeState s n).1) ∧
        t'.Equiv { (keys s.records).foldl checkedTarget s with
          state := UpdateState.None.toString, indicator := none } ∧ t'.records = [] :=
    fun hfin => (removeAllUpdateState_sure (hend hfin).2).mono fun _ t' ⟨_, ht'⟩ =>
      ⟨hr, by rw [ht']; exact (hend hfin).1.setStateIndicator _ _, by rw [ht']; exact (hend hfin).2⟩
  by_cases hc : r = .MergeCompleted
  · subst hc
    rw [if_pos rfl, acknowledgeMergeSuccess, SM.bind_assoc]
    exact (hack (.inl rfl)).bind fun _ t' ⟨h₁, h₂, h₃⟩ =>
      Sure.pure ⟨h₁, by rwa [if_pos (.inl rfl)], fun _ => h₃⟩
  rw [if_neg hc]
  by_cases hx : r = .Cancelled
  · subst hx
    rw [if_pos rfl]
    exact (hack (.inr rfl)).bind fun _ t' ⟨h₁, h₂, h₃⟩ =>
      Sure.pure ⟨h₁, by rwa [if_pos (.inr rfl)], fun _ => h₃⟩
  rw [if_neg hx]
  exact Sure.pure ⟨hr, by rwa [if_neg (by tauto)], fun h => absurd h (by tauto)⟩

/-- A `snapshot-merge` target of `name` with the kernel's counters `c`. -/
def mergeDevice (name : String) (c : UInt64 × UInt64) : Device :=
  { table := [⟨0, 8, .snapshot (name ++ "-base") (name ++ "-cow") .Merge 8⟩], status := some c }

/-- The status of a 4 KiB snapshot whose merge has started. -/
def mergingStatus : SnapshotStatus :=
  { state := .Merging, device_size := 4096, snapshot_size := 4096, cow_file_size := 4096 }

/-- A merge in the live slot `_b` with two snapshots: `system_b` has drained, `vendor_b` has
not. -/
def pollingUpdate : Sys :=
  { state := "merging", slot := "_b",
    records := [("system_b", statusLine mergingStatus), ("vendor_b", statusLine mergingStatus)],
    devices := [("system_b", mergeDevice "system_b" (16, 16)),
      ("vendor_b", mergeDevice "vendor_b" (8, 16))],
    metadata := fun _ => [⟨"system_b", "default", true, [(8, 0)]⟩,
      ⟨"vendor_b", "default", true, [(8, 8)]⟩] }

/-- On `pollingUpdate`, a faultless `CheckMergeState` returns the highest of its checks' results and
leaves the system they describe. Reference: `snapshot.cpp:699`. -/
theorem pollingUpdate_refines :
    (keys pollingUpdate.records).Nodup ∧
    (∀ n ∈ keys pollingUpdate.records, ∃ p, ∃ suffix ∈ ["_a", "_b"], n = p ++ suffix) ∧
    pollingUpdate.updateState.Merge ∧
    Sure {} pollingUpdate checkMergeState fun r t =>
      r = mergeResult ((keys pollingUpdate.records).map fun n =>
        (targetMergeState pollingUpdate n).1) ∧
        t.Equiv (if r = .MergeCompleted ∨ r = .Cancelled then
          { (keys pollingUpdate.records).foldl checkedTarget pollingUpdate with
            state := UpdateState.None.toString, indicator := none }
          else if r = .MergeNeedsReboot then
            { (keys pollingUpdate.records).foldl checkedTarget pollingUpdate with
              state := UpdateState.MergeNeedsReboot.toString }
          else (keys pollingUpdate.records).foldl checkedTarget pollingUpdate) ∧
        (r = .MergeCompleted ∨ r = .Cancelled → t.records = []) :=
  have hnames : ∀ n ∈ keys pollingUpdate.records, ∃ p, ∃ suffix ∈ ["_a", "_b"],
      n = p ++ suffix := fun n hn => by
    simp only [pollingUpdate, keys, List.map, List.mem_cons, List.mem_singleton,
      List.not_mem_nil, or_false] at hn
    rcases hn with rfl | rfl
    · exact ⟨"system", "_b", by decide, rfl⟩
    · exact ⟨"vendor", "_b", by decide, rfl⟩
  have hstate : pollingUpdate.updateState.Merge := .inl (by decide)
  ⟨by decide, hnames, hstate, checkMergeState_refines (by decide) hnames hstate⟩

end Poll

/-! ## A drained update -/

/-- On drained snapshots with disjoint stacks, the loop's checks are the completions. Reference:
`snapshot.cpp:755`. -/
theorem foldl_checkedTarget_drained : ∀ (snapshots : List String) (s : Sys),
    snapshots.Pairwise Separate → (∀ n ∈ snapshots, (drainedTarget s n).isSome) →
      snapshots.foldl checkedTarget s = snapshots.foldl completeMerge s
  | [], _, _, _ => rfl
  | n :: rest, s, hsep, hdr => by
    obtain ⟨hn, hrest⟩ := List.pairwise_cons.1 hsep
    obtain ⟨⟨status, dP, table⟩, hx⟩ := Option.isSome_iff_exists.1 (hdr n (List.mem_cons_self _ _))
    have h : checkedTarget s n = completeMerge s n := by
      simp only [checkedTarget, targetMergeState_of_drainedTarget hx, TargetAction.apply]
    rw [List.foldl_cons, List.foldl_cons, h]
    exact foldl_checkedTarget_drained rest _ hrest
      (drainedTarget_completeMerge hn fun m hm => hdr m (List.mem_cons_of_mem _ hm))

/-- Checks that all complete give `MergeCompleted`. Reference: none. -/
theorem foldl_mergeMax_completed : ∀ results : List UpdateState,
    (∀ r ∈ results, r = .MergeCompleted) → results.foldl mergeMax .MergeCompleted = .MergeCompleted
  | [], _ => rfl
  | r :: rest, h => by
    rw [h r (List.mem_cons_self _ _)]
    exact foldl_mergeMax_completed rest fun r hr => h r (List.mem_cons_of_mem _ hr)


/-- When every call succeeds, `CheckMergeState` on a merging system whose snapshots are named with a
slot suffix and have all drained and can be collapsed returns `MergeCompleted`, and, having
acknowledged the success under the same lock, leaves every snapshot completed as it was before the
call, no status file, no boot indicator and the state `None`. Reference: `snapshot.cpp:699`. -/
theorem checkMergeState_completes_merge {o : Oracle} {s : Sys}
    (hnodup : (keys s.records).Nodup)
    (hnames : ∀ n ∈ keys s.records, ∃ p, ∃ suffix ∈ ["_a", "_b"], n = p ++ suffix)
    (hstate : s.updateState.Merge) (hdr : ∀ n ∈ keys s.records, (drainedTarget s n).isSome) :
    Sure o s checkMergeState fun r t => r = .MergeCompleted ∧ t.records = [] ∧
      t.Equiv { (keys s.records).foldl completeMerge s with
        state := UpdateState.None.toString, indicator := none } := by
  have hsep := suffixed_pairwise_separate hnodup hnames
  have hres : mergeResult ((keys s.records).map fun n => (targetMergeState s n).1) =
      .MergeCompleted := foldl_mergeMax_completed _ fun r hr => by
    obtain ⟨n, hn, rfl⟩ := List.mem_map.1 hr
    obtain ⟨⟨status, dP, table⟩, hx⟩ := Option.isSome_iff_exists.1 (hdr n hn)
    rw [targetMergeState_of_drainedTarget hx]
  have hfin : ∀ n ∈ keys s.records, (targetMergeState s n).1 = .MergeCompleted ∨
      (targetMergeState s n).1 = .Cancelled := fun n hn => by
    obtain ⟨⟨status, dP, table⟩, hx⟩ := Option.isSome_iff_exists.1 (hdr n hn)
    exact .inl (by rw [targetMergeState_of_drainedTarget hx])
  rw [← foldl_checkedTarget_drained _ s hsep hdr]
  refine locked_sure lockExclusive_sure ?_
  refine (checkMergeStateLocked_refines rfl hnodup hnames hstate).bind fun r t ⟨hr, ht⟩ => ?_
  rw [hres] at hr
  subst hr
  rw [if_neg (by decide)] at ht
  have hempty : t.records = [] := eq_nil_of_lookup_none fun k => by
    have hk := congrArg Prod.fst (ht.entry k id)
    simp only [Sys.entry, lookup_foldl_checkedTarget_records _ s hsep hfin k] at hk
    rw [← hk]
    split
    · rfl
    · exact Option.not_isSome_iff_eq_none.1 (mt mem_keys_iff_lookup.2 ‹_›)
  rw [if_pos rfl, acknowledgeMergeSuccess, SM.bind_assoc]
  exact (removeAllUpdateState_sure hempty).bind fun _ t' ⟨_, ht'⟩ =>
    Sure.pure ⟨rfl, by rw [ht']; exact hempty, by rw [ht']; exact ht.setStateIndicator _ _⟩

/-- The status of `system_b` once its merge has drained. -/
def drainedStatus : SnapshotStatus :=
  { state := .Merging, device_size := 4096, snapshot_size := 4096, cow_file_size := 4096,
    sectors_allocated := 16, metadata_sectors := 16 }

/-- `system_b`'s `snapshot-merge` target, drained. -/
def drainedDevice : Device :=
  { table := [⟨0, 8, .snapshot "system_b-base" "system_b-cow" .Merge 8⟩], status := some (16, 16) }

/-- A merge in the live slot `_b` whose one snapshot, `system_b`, has drained. -/
def drainedUpdate : Sys :=
  { state := "merging", indicator := some "_a", slot := "_b",
    records := [("system_b", statusLine drainedStatus)], devices := [("system_b", drainedDevice)],
    metadata := fun _ => [⟨"system_b", "default", true, [(8, 0)]⟩] }

/-- On `drainedUpdate`, a faultless `CheckMergeState` completes the merge of `system_b` and ends the
update. Reference: `snapshot.cpp:699`. -/
theorem drainedUpdate_merge_completes :
    (keys drainedUpdate.records).Nodup ∧
    (∀ n ∈ keys drainedUpdate.records, ∃ p, ∃ suffix ∈ ["_a", "_b"], n = p ++ suffix) ∧
    drainedUpdate.updateState.Merge ∧
    (∀ n ∈ keys drainedUpdate.records, (drainedTarget drainedUpdate n).isSome) ∧
    Sure {} drainedUpdate checkMergeState fun r t => r = .MergeCompleted ∧ t.records = [] ∧
      t.Equiv { (keys drainedUpdate.records).foldl completeMerge drainedUpdate with
        state := UpdateState.None.toString, indicator := none } :=
  have hnames : ∀ n ∈ keys drainedUpdate.records, ∃ p, ∃ suffix ∈ ["_a", "_b"], n = p ++ suffix :=
    fun n hn => ⟨"system", "_b", by decide, by simpa [drainedUpdate, keys] using hn⟩
  have hstate : drainedUpdate.updateState.Merge := .inl (by decide)
  have hdr : ∀ n ∈ keys drainedUpdate.records, (drainedTarget drainedUpdate n).isSome := by
    decide
  ⟨by decide, hnames, hstate, hdr, checkMergeState_completes_merge (by decide) hnames hstate hdr⟩

end LibSnapshot
