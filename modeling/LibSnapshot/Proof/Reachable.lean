import LibSnapshot.Proof.MergeSections
import LibSnapshot.Manager.System

/-!
# The invariant of every run

Every section, run by a fresh process from a system `s0` that keeps `Sys.Ok`, is sound for
`EventOk s0` (`Section.run_sound`): its effects, wherever the run stops, are each checked against
the system just before them. A run of the system is a sequence of sections, reboots, flashes
and changes of the kernel's devices; none of the latter touches the state file or a status
file. So every reachable system keeps `Sys.Ok`, every effect in the log was checked, and every
status line on disk was written by a logged, checked `WriteSnapshotStatus` (`Global.Ok`,
`Reachable.ok`).

From it:

* every change of the update state is an edge of the state machine, with the guards the code
  checks (`step_state_edges`);
* a status says `MergeCompleted` only if its writer saw the kernel's merge drained, a status only
  advances, and no status has left `Created` before the merge starts
  (`reachable_status_history`);
* every status file holds exactly a status line of a valid status, or nothing: an empty file is
  what a crash between the creation of the file and its first write leaves
  (`reachable_records_valid`, `crashedCreate_leaves_empty_record`).
-/

namespace LibSnapshot

open SM DeviceMapper SnapshotManager

/-! ## Sections that change no file -/

section Quiet

variable {S : Event → Prop} {pre : Sys → Prop}

/-- `MapUpdateSnapshot` changes no file. Reference: `snapshot.cpp:1947`. -/
theorem mapUpdateSnapshot_sound (params : CreateLogicalPartitionParams) :
    Sound S pre (mapUpdateSnapshot params) :=
  Sound.locked_quiet fun _ => (unmapPartitionWithSnapshot_keeps _ _).bind fun _ _ =>
    Keeps.ite Keeps.pure_true (mapPartitionWithSnapshot_keeps _ _)

/-- `UnmapUpdateSnapshot` changes no file. Reference: `snapshot.cpp:1959`. -/
theorem unmapUpdateSnapshot_sound (target_partition_name : String) :
    Sound S pre (unmapUpdateSnapshot target_partition_name) :=
  Sound.locked_quiet fun _ => unmapPartitionWithSnapshot_keeps _ _

/-- `GetUpdateState` changes no file. Reference: `snapshot.cpp:1106`. -/
theorem getUpdateState_sound : Sound S pre getUpdateState :=
  (Sound.of_keeps Keeps.ioCall).bind fun _ => Sound.ite Sound.pure
    (Sound.locked_quiet fun _ => (readUpdateState_keeps _).bind fun _ _ => Keeps.pure_true)

/-- `IsSnapshotManagerNeeded` changes no file. Reference: `snapshot.cpp:1148`. -/
theorem isSnapshotManagerNeeded_sound : Sound S pre isSnapshotManagerNeeded :=
  Sound.of_keeps (Keeps.ioCall.bind fun _ _ => Keeps.sys.bind fun _ _ => Keeps.pure_true)

/-- `OpenFile` without a lock changes nothing and takes no flock. Reference: `snapshot.cpp:1478`. -/
theorem openStateFile_none_sound : Sound S pre (openStateFile .none) :=
  ⟨fun w _ hh _ => (openStateFile_spec .none w).mono
    (fun _ _ h => ⟨by rcases h.2.2.2 with ⟨-, h'⟩ | ⟨-, -, h'⟩ <;> simp [h', hh],
      Logged.of_eq h.2.2.1 h.1 (by rw [h.2.1])⟩)
    fun _ _ h => Logged.of_eq h.2.2.2.1 h.2.1 (by rw [h.2.2.1])⟩

/-- `Dump` changes no file. Reference: `snapshot.cpp:1965`. -/
theorem dump_sound : Sound S pre dump :=
  openStateFile_none_sound.bind fun file =>
    match file with
    | none => Sound.pure
    | some _ => (Sound.of_keeps (readUpdateState_keeps _)).bind fun _ =>
      (Sound.of_keeps readBootIndicator_keeps).bind fun _ =>
        (Sound.of_keeps (listSnapshots_keeps _)).bind fun snapshots =>
          match snapshots with
          | none => Sound.pure
          | some _ => Sound.of_keeps (readAll_keeps _ _)

/-- `NeedSnapshotsInFirstStageMount` reads the state under the shared lock it takes itself, and
stops with `LOG(FATAL)` when it cannot take it. Reference: `snapshot.cpp:1152`. -/
theorem needSnapshotsInFirstStageMount_sound : Sound S pre needSnapshotsInFirstStageMount := by
  dsimp only [needSnapshotsInFirstStageMount]
  refine (Sound.of_keeps readBootIndicator_keeps).bind fun o => ?_
  rcases o with _ | old_slot
  · exact Sound.pure
  refine (Sound.of_keeps Keeps.sys).bind fun _ => Sound.ite Sound.pure ?_
  refine ⟨fun w _ hh _ => ((openStateFile_spec .shared w).mono (fun _ _ h => h)
    fun _ _ h => Logged.of_eq h.2.2.2.1 h.2.1 (by rw [h.2.2.1])).bind fun r w₁ h₁ => ?_⟩
  obtain ⟨ht₁, hs₁, ho₁, ⟨rfl, hh₁⟩ | ⟨path, rfl, -⟩⟩ := h₁
  · exact Logged.of_eq ho₁ ht₁ (by rw [hs₁])
  · have hl₁ : Logged S w w₁ := Logged.of_eq ho₁ ht₁ (by rw [hs₁])
    refine (((readUpdateState_keeps ⟨path, .shared⟩ : Keeps (fun _ => False) (fun _ => True) _)
      w₁).mono (fun _ _ h => h) fun _ _ h₂ =>
        hl₁.trans (Logged.of_frame h₂.2 fun _ => False.elim)).bind fun _ w₂ h₂ => ?_
    simp only [unlock, Spec, bind_apply, setHeld_apply]
    exact ⟨rfl, (hl₁.trans (Logged.of_frame h₂.2 fun _ => False.elim)).trans
      (Logged.of_eq rfl rfl rfl)⟩

end Quiet

/-! ## Every section -/

/-- Every section, run from a system that keeps the invariant, makes only checked effects.
Reference: none. -/
theorem Section.run_sound {s0 : Sys} (hs0 : s0.Ok) :
    ∀ sec : Section, Sound (EventOk s0) (· = s0) sec.run := by
  have discard : ∀ {α : Type} {m : SM α}, Sound (EventOk s0) (· = s0) m →
      Sound (EventOk s0) (· = s0) (do let _ ← m) :=
    fun h => h.bind fun _ => Sound.pure
  intro sec
  cases sec with
  | TryCancelUpdate => exact discard tryCancelUpdate_sound
  | BeginUpdateLocked => exact discard beginUpdateLocked_sound
  | CreateUpdateSnapshots manifest ext => exact discard (createUpdateSnapshots_sound manifest ext)
  | MapUpdateSnapshot params => exact discard (mapUpdateSnapshot_sound params)
  | UnmapUpdateSnapshot name => exact discard (unmapUpdateSnapshot_sound name)
  | FinishedSnapshotWrites => exact discard finishedSnapshotWrites_sound
  | InitiateMerge => exact discard (initiateMerge_sound hs0)
  | CheckMergeState => exact discard (checkMergeState_sound hs0)
  | AcknowledgeMergeFailure => exact acknowledgeMergeFailure_sound
  | GetUpdateState => exact discard getUpdateState_sound
  | NeedSnapshotsInFirstStageMount => exact discard needSnapshotsInFirstStageMount_sound
  | IsSnapshotManagerNeeded => exact discard isSnapshotManagerNeeded_sound
  | CreateLogicalAndSnapshotPartitions super_device =>
    exact discard (createLogicalAndSnapshotPartitions_sound super_device)
  | Dump => exact discard dump_sound

/-! ## One effect, and a history of them -/

/-- A checked write of the state file writes the token of a state along an edge. Reference:
`snapshot.cpp:1574`. -/
theorem EventOk.writeState {s0 : Sys} {e : Event} {c : String} (he : EventOk s0 e)
    (hop : e.op = .writeState c) : ∃ st, c = st.toString ∧ StateEdge s0 e.pre st := by
  obtain ⟨pre, op, mode⟩ := e
  subst hop
  exact he

/-- A checked write of a status file writes the line of a status that advances. Reference:
`snapshot.cpp:1671`. -/
theorem EventOk.writeStatus {s0 : Sys} {e : Event} {name c : String} (he : EventOk s0 e)
    (hop : e.op = .writeStatus name c) : ∃ st, c = statusLine st ∧ StatusWrite e.pre name st := by
  obtain ⟨pre, op, mode⟩ := e
  subst hop
  exact he

/-- The invariant looks only at the status files and the state file. Reference: none. -/
theorem Sys.Ok.of_eq {s s' : Sys} (hs : s.Ok) (hr : s'.records = s.records)
    (hst : s'.state = s.state) : s'.Ok := by
  have hu : s'.updateState = s.updateState := by simp only [Sys.updateState, hst]
  exact ⟨hr ▸ hs.nodup, fun n c h => hs.records n c (hr ▸ h),
    fun hb n st h => hs.before_merge (hu ▸ hb) n st (hr ▸ h)⟩

/-- The invariant holds of every system with the same files. Reference: none. -/
theorem Sys.Ok.of_files {s s' : Sys} (hs : s.Ok) (h : s'.files = s.files) : s'.Ok :=
  hs.of_eq (Sys.records_of_files h) (Sys.state_of_files h)

/-- After a checked effect, a status line on disk is the one the effect wrote or was there before.
Reference: none. -/
theorem EventOk.lookup_statusLine {s0 : Sys} {e : Event} (he : EventOk s0 e) (hs : e.pre.Ok)
    {name : String} {st : SnapshotStatus}
    (h : lookup (e.op.apply e.pre).records name = some (statusLine st)) :
    e.op = .writeStatus name (statusLine st) ∨ lookup e.pre.records name = some (statusLine st) := by
  obtain ⟨pre, op, mode⟩ := e
  cases op with
  | writeStatus n c =>
    obtain ⟨st', rfl, hw⟩ := he
    simp only [FileOp.apply, lookup_insert] at h
    split at h
    · rename_i hn
      subst hn
      rw [hw.overwrite_eq hs] at h
      exact .inl (by rw [Option.some.inj h])
    · exact .inr h
  | createStatus n =>
    simp only [FileOp.apply] at h
    split at h
    · exact .inr h
    · simp only [lookup_insert] at h
      split at h
      · exact absurd (Option.some.inj h) (statusLine_ne_empty st).symm
      · exact .inr h
  | removeStatus n =>
    simp only [FileOp.apply, lookup_erase] at h
    split at h
    · exact absurd h (by simp)
    · exact .inr h
  | writeState | writeIndicator | removeIndicator | createImage | deleteImage | initializeCow
  | updateMetadata => exact .inr h

/-- A history of checked effects keeps the invariant, and every status line at its end was written
by one of its effects or was there at its start. Reference: none. -/
theorem Chain.ok_written {s0 s : Sys} (hs : s.Ok) :
    ∀ {t : List Event} {s' : Sys}, Chain s t s' → (∀ e ∈ t, EventOk s0 e) →
      s'.Ok ∧ ∀ name st, lookup s'.records name = some (statusLine st) →
        (∃ e ∈ t, e.op = .writeStatus name (statusLine st)) ∨
          lookup s.records name = some (statusLine st)
  | [], _, hc, _ => ⟨hs.of_files hc, fun _ _ h => .inr (Sys.records_of_files hc ▸ h)⟩
  | e :: t, _, hc, he => by
    obtain ⟨hok, hwr⟩ := Chain.ok_written hs hc.1 fun e' h => he e' (.tail _ h)
    have hev := he e (.head _)
    refine ⟨(hev.sys_ok hok).of_files hc.2, fun name st h => ?_⟩
    rw [Sys.records_of_files hc.2] at h
    rcases hev.lookup_statusLine hok h with hop | hprev
    · exact .inl ⟨e, .head _, hop⟩
    · rcases hwr name st hprev with ⟨e', he', hop⟩ | hstart
      · exact .inl ⟨e', .tail _ he', hop⟩
      · exact .inr hstart

/-! ## Every run -/

/-- What every reachable system and its log keep: the invariant of the files; every logged effect
was made under the exclusive flock and checked against the system just before it, by a section
that started from the system logged with it; every status line on disk was written by a logged
effect. -/
structure Global.Ok (g : Global) : Prop where
  sys : g.sys.Ok
  log : ∀ p ∈ g.log, p.2.mode = .exclusive ∧ EventOk p.1 p.2
  written : ∀ name st, lookup g.sys.records name = some (statusLine st) →
    ∃ p ∈ g.log, p.2.op = .writeStatus name (statusLine st)

/-- A section's run from a reachable system: its effects, logged with the system it started from,
lead from that system to the one it leaves, and each was checked. Reference: none. -/
theorem Global.Ok.run {g : Global} (hg : g.Ok) (sec : Section) {o : Oracle}
    (images_ has_local_image_manager_ : Bool) (hr : Reliable o) :
    ∃ t, (g.after (sec.run (World.start g.sys o images_ has_local_image_manager_))).log =
        t.map (g.sys, ·) ++ g.log ∧
      Chain g.sys t (g.after (sec.run (World.start g.sys o images_ has_local_image_manager_))).sys ∧
      ∀ e ∈ t, e.mode = .exclusive ∧ EventOk g.sys e := by
  obtain ⟨-, t, ht, hc, he⟩ := (Section.run_sound hg.sys sec).logged (w := World.start g.sys o
    images_ has_local_image_manager_) hr rfl rfl
  refine ⟨t, ?_, hc, he⟩
  rw [Global.after]
  dsimp only
  rw [ht]
  simp [World.start]

/-- Every step of the system, a section's run, a reboot, a flash or a change of the kernel, keeps
the invariant and the log's facts. Reference: none. -/
theorem Global.Ok.step {g g' : Global} (hg : g.Ok) (hs : Step g g') : g'.Ok := by
  cases hs with
  | run sec o images_ has_local_image_manager_ hr =>
    obtain ⟨t, hlog, hc, he⟩ := hg.run sec images_ has_local_image_manager_ hr
    obtain ⟨hok, hwr⟩ := Chain.ok_written hg.sys hc fun e h => (he e h).2
    refine ⟨hok, fun p hp => ?_, fun name st h => ?_⟩
    · rw [hlog, List.mem_append, List.mem_map] at hp
      rcases hp with ⟨e, he', rfl⟩ | hp
      · exact he e he'
      · exact hg.log p hp
    · rw [hlog]
      rcases hwr name st h with ⟨e, he', hop⟩ | hprev
      · exact ⟨(g.sys, e), List.mem_append_left _ (List.mem_map_of_mem _ he'), hop⟩
      · obtain ⟨p, hp, hop⟩ := hg.written name st hprev
        exact ⟨p, List.mem_append_right _ hp, hop⟩
  | reboot slot => exact ⟨hg.sys.of_eq rfl rfl, hg.log, hg.written⟩
  | flash slot partitions => exact ⟨hg.sys.of_eq rfl rfl, hg.log, hg.written⟩
  | kernel devices => exact ⟨hg.sys.of_eq rfl rfl, hg.log, hg.written⟩

/-- Every reachable system keeps the invariant. Reference: none. -/
theorem Reachable.ok {g : Global} (h : Reachable g) : g.Ok := by
  induction h with
  | init s hs =>
    obtain ⟨-, -, hr⟩ := hs
    refine ⟨⟨by simp [hr, keys], fun _ _ h => ?_, fun _ _ _ h => ?_⟩, fun _ h => ?_,
      fun _ _ h => ?_⟩ <;> simp [hr] at h
  | step _ hs ih => exact ih.step hs

/-- A fresh device after `TryCancelUpdate`, `BeginUpdate`'s own section and
`CreateUpdateSnapshots`, every call succeeding. -/
def createdUpdate : Global :=
  (((⟨{}, []⟩ : Global).exec .TryCancelUpdate).exec .BeginUpdateLocked).exec
    (.CreateUpdateSnapshots ⟨["system"]⟩ oneSnapshot)

/-- `createdUpdate` is reachable. Reference: none. -/
theorem createdUpdate_reachable : Reachable createdUpdate :=
  (((Reachable.init _ ⟨rfl, rfl, rfl⟩).exec _).exec _).exec _

/-- The status `CreateUpdateSnapshots` writes for `system_b` there. -/
def createdStatus : SnapshotStatus :=
  { state := .Created, device_size := 4096, snapshot_size := 4096, cow_file_size := 4096 }

/-! ## The update state -/

/-- A written status advances along `Created → Merging → MergeCompleted`, and only a `Created` one
is switched to `Merging`. Reference: none. -/
theorem Advance.rank_le {old st : SnapshotStatus} (h : Advance old st) :
    old.state.rank ≤ st.state.rank ∧ (st.state = .Merging → old.state = .Created) := by
  obtain ⟨hc, a, b, rfl⟩ | rfl := h
  · exact ⟨by simp [hc, SnapshotState.rank], fun _ => hc⟩
  · refine ⟨show old.state.rank ≤ SnapshotState.MergeCompleted.rank from ?_, fun h => nomatch h⟩
    cases old.state <;> decide

/-- In every reachable system: a status file says `MergeCompleted` only if the logged effect that
wrote it was made under the exclusive flock on a system whose kernel had the snapshot's device as a
drained `snapshot-merge` target; every status write is a `Created` over the empty file just created,
or advances the status the file held, and `Merging` is written only over `Created`; and before the
merge starts every status is `Created`. Reference: `snapshot.cpp:1671`. -/
theorem reachable_status_history {g : Global} (h : Reachable g) :
    (∀ name st, lookup g.sys.records name = some (statusLine st) → st.state = .MergeCompleted →
      ∃ p ∈ g.log, p.2.op = .writeStatus name (statusLine st) ∧ p.2.mode = .exclusive ∧
        Drained p.2.pre (getSnapshotDeviceName name st)) ∧
    (∀ p ∈ g.log, ∀ name c, p.2.op = .writeStatus name c → ∃ st, c = statusLine st ∧
      (lookup p.2.pre.records name = some "" ∧ st.state = .Created ∨
        ∃ old, lookup p.2.pre.records name = some (statusLine old) ∧
          old.state.rank ≤ st.state.rank ∧ (st.state = .Merging → old.state = .Created))) ∧
    (g.sys.updateState.BeforeMerge → ∀ name st,
      lookup g.sys.records name = some (statusLine st) → st.state = .Created) := by
  have hg := h.ok
  refine ⟨fun name st hr hmc => ?_, fun p hp name c hop => ?_, hg.sys.before_merge⟩
  · obtain ⟨p, hp, hop⟩ := hg.written name st hr
    obtain ⟨hmode, hev⟩ := hg.log p hp
    obtain ⟨st', hst', hw⟩ := hev.writeStatus hop
    cases statusLine_inj hst'
    exact ⟨p, hp, hop, hmode, hw.drained hmc⟩
  · obtain ⟨st, rfl, hw⟩ := (hg.log p hp).2.writeStatus hop
    refine ⟨st, rfl, hw.over.imp_right fun ⟨old, hold, hadv⟩ => ⟨old, hold, hadv.rank_le⟩⟩

set_option maxRecDepth 20000 in
/-- In `createdUpdate` the status of `system_b` is `Created`, before any merge. Reference:
`snapshot.cpp:1744`. -/
theorem createdUpdate_status_created :
    createdUpdate.sys.updateState.BeforeMerge ∧
      lookup createdUpdate.sys.records "system_b" = some (statusLine createdStatus) ∧
      createdStatus.state = .Created :=
  have hb : createdUpdate.sys.updateState.BeforeMerge := .inr (.inl (by decide))
  have hr : lookup createdUpdate.sys.records "system_b" = some (statusLine createdStatus) := by
    decide
  ⟨hb, hr, (reachable_status_history createdUpdate_reachable).2.2 hb "system_b" _ hr⟩

/-- In every reachable system every status file holds nothing, or exactly the status line of a valid
status, which `ReadSnapshotStatus` parses back; so a status read from disk always has
`cow_partition_size + cow_file_size > 0`. Reference: `snapshot.cpp:1593`. -/
theorem reachable_records_valid {g : Global} (h : Reachable g) :
    ∀ name c, lookup g.sys.records name = some c →
      c = "" ∨ ∃ st, c = statusLine st ∧ st.Valid ∧ parseStatusLine c = some st := by
  intro name c hc
  rcases h.ok.sys.records name c hc with rfl | ⟨st, rfl, hw⟩
  · exact .inl rfl
  · exact .inr ⟨st, rfl, hw.valid, parseStatusLine_of_split (split_statusLine st)⟩

set_option maxRecDepth 20000 in
/-- In `createdUpdate` the status file of `system_b` holds the line of a valid status. Reference:
`snapshot.cpp:1744`. -/
theorem createdUpdate_record_valid :
    lookup createdUpdate.sys.records "system_b" = some (statusLine createdStatus) ∧
      (statusLine createdStatus = "" ∨ ∃ st, statusLine createdStatus = statusLine st ∧ st.Valid ∧
        parseStatusLine (statusLine createdStatus) = some st) :=
  have hr : lookup createdUpdate.sys.records "system_b" = some (statusLine createdStatus) := by
    decide
  ⟨hr, reachable_records_valid createdUpdate_reachable "system_b" _ hr⟩

/-- `CreateUpdateSnapshots` on a fresh device with the power cut right after `WriteSnapshotStatus`
created the status file of `system_b`, before it wrote it. -/
def crashedCreate : Global :=
  (⟨{}, []⟩ : Global).after ((Section.CreateUpdateSnapshots ⟨["system"]⟩ oneSnapshot).run
    (World.start {} { crash := some 7 } false false))

set_option maxRecDepth 20000 in
/-- The empty status file it leaves is reachable, and holds no status line. Reference:
`snapshot.cpp:1678`. -/
theorem crashedCreate_leaves_empty_record :
    Reachable crashedCreate ∧ lookup crashedCreate.sys.records "system_b" = some "" ∧
      parseStatusLine "" = none :=
  ⟨(Reachable.init _ ⟨rfl, rfl, rfl⟩).step (.run _ _ _ _ _ fun _ => rfl), by decide, rfl⟩

end LibSnapshot
