import LibSnapshot.Manager.Files
import LibSnapshot.Core.Spec

/-!
# The invariant of the persisted files

What every reachable system keeps (`Sys.Ok`): each status file is empty or holds exactly a status
line `WriteSnapshotStatus` wrote, of a status with sector-aligned sizes and a nonempty snapshot and
COW (`SnapshotStatus.Written`); and while the update state is `None`, `Initiated` or `Unverified`
every status is `Created`.

The two writes the invariant follows are checked where they happen, against the system just
before them (`EventOk`): a write of the update state must be one of the edges of the state
machine (`StateEdge`), and a write of a status line must advance the snapshot's state over what
the file held, never shorten it, and, for `MergeCompleted`, follow a drained `snapshot-merge`
target (`StatusWrite`). Every other effect needs no check. `EventOk.sys_ok` shows that one
checked effect keeps `Sys.Ok`; the sections' proofs show that each effect they make is checked.
-/

namespace LibSnapshot

open SnapshotManager DeviceMapper

/-! ## Statuses on disk -/

/-- What `CreateSnapshot` checks of the sizes (`snapshot.cpp:245`) and what `CreateUpdateSnapshots`
makes sure of before it (`snapshot.cpp:1840`): four sector-aligned sizes, a nonempty snapshot and a
nonempty COW in `uint64_t` arithmetic. -/
structure SnapshotStatus.Valid (s : SnapshotStatus) : Prop where
  device_size : s.device_size % kSectorSize = 0
  snapshot_size : s.snapshot_size % kSectorSize = 0
  cow_partition_size : s.cow_partition_size % kSectorSize = 0
  cow_file_size : s.cow_file_size % kSectorSize = 0
  snapshot_pos : 0 < s.snapshot_size
  cow_pos : 0 < s.cow_partition_size + s.cow_file_size

/-- A status some writer of the manager writes: valid, in one of the three states the writers use,
and with zero counters while `Created`. -/
structure SnapshotStatus.Written (s : SnapshotStatus) : Prop where
  valid : s.Valid
  state_ne : s.state ≠ .None
  created : s.state = .Created → s.sectors_allocated = 0 ∧ s.metadata_sectors = 0

/-- The sizes stay valid when a writer changes the state and the counters. Reference: none. -/
theorem SnapshotStatus.Valid.update {s : SnapshotStatus} (h : s.Valid) (state : SnapshotState)
    (a b : UInt64) : { s with state, sectors_allocated := a, metadata_sectors := b }.Valid :=
  ⟨h.1, h.2, h.3, h.4, h.5, h.6⟩

/-- The order of a snapshot's states along a merge. -/
def SnapshotState.rank : SnapshotState → Nat
  | .None => 0
  | .Created => 1
  | .Merging => 2
  | .MergeCompleted => 3

/-! ## The update state on disk -/

/-- The update state the state file holds, as `ReadUpdateState` parses it. -/
def Sys.updateState (s : Sys) : UpdateState := parseUpdateState s.state.data

/-- Systems with the same files hold the same update state. Reference: `snapshot.cpp:1519`. -/
theorem Sys.updateState_of_files {s s' : Sys} (h : s'.files = s.files) :
    s'.updateState = s.updateState := by
  simp only [Sys.updateState, Sys.state_of_files h]

/-- The states before a merge starts. -/
def UpdateState.BeforeMerge (st : UpdateState) : Prop :=
  st = .None ∨ st = .Initiated ∨ st = .Unverified

/-- The states in which a merge has started and not been cleaned up. -/
def UpdateState.Merge (st : UpdateState) : Prop :=
  st = .Merging ∨ st = .MergeFailed ∨ st = .MergeNeedsReboot

/-! ## What the kernel and the metadata say of a snapshot -/

/-- The device `dm_name` is a single `snapshot-merge` target whose merge has drained:
`sectors_allocated == metadata_sectors` (`snapshot.cpp:848`). -/
def Drained (s : Sys) (dm_name : String) : Prop :=
  ∃ d t a, lookup s.devices dm_name = some d ∧ d.table = [t] ∧
    getTargetType t = "snapshot-merge" ∧ d.status = some (a, a)

/-- The snapshot's partition is in the live slot's metadata without `UPDATED`: it was flashed
behind the update's back (`IsCancelledSnapshot`, `snapshot.cpp:1078`). -/
def Cancelled (s : Sys) (name : String) : Prop :=
  ∃ p, findPartition (s.metadata s.slot) name = some p ∧ p.updated = false

/-! ## Checked effects -/

/-- How a written status may follow the one the file held: `Merging` over `Created` with the same
sizes (`SwitchSnapshotToMerge`, `snapshot.cpp:571`), or `MergeCompleted` over anything, all else
kept (`CheckTargetMergeState`, `snapshot.cpp:857`). -/
def Advance (old st : SnapshotStatus) : Prop :=
  (old.state = .Created ∧ ∃ a b,
    st = { old with state := .Merging, sectors_allocated := a, metadata_sectors := b }) ∨
  st = { old with state := .MergeCompleted }

/-- A write of the status line of `st` to the status file of `name`, made on the system `pre`:
over the empty file `WriteSnapshotStatus` has just created, only as `Created`; over a status line,
advancing it; `Merging` and `MergeCompleted` only during a merge; `MergeCompleted` only after
the kernel reported the snapshot's device drained. -/
structure StatusWrite (pre : Sys) (name : String) (st : SnapshotStatus) : Prop where
  written : st.Written
  over : lookup pre.records name = some "" ∧ st.state = .Created ∨
    ∃ old, lookup pre.records name = some (statusLine old) ∧ Advance old st
  merge : st.state ≠ .Created → pre.updateState.Merge
  drained : st.state = .MergeCompleted → Drained pre (getSnapshotDeviceName name st)

/-- A write of `st` to the state file, made on the system `pre` by a section that started from
`s0`: the edges of the state machine (`snapshot.h:61`) with the guards the code checks. -/
def StateEdge (s0 pre : Sys) : UpdateState → Prop
  | .None => pre.records = [] ∧
      (pre.updateState = .Unverified → s0.indicator = none ∨ s0.indicator = some s0.slot)
  | .Initiated => pre.updateState = .None
  | .Unverified => pre.updateState = .Initiated ∧ pre.indicator = some pre.slot
  | .Merging => pre.updateState = .Unverified ∧
      (∃ old_slot, pre.indicator = some old_slot ∧ old_slot ≠ pre.slot) ∧
      ∀ name ∈ keys pre.records, (lookup pre.devices name).isSome
  | .MergeFailed => pre.updateState = .Merging ∨ pre.updateState = .MergeNeedsReboot
  | .MergeNeedsReboot => pre.updateState.Merge ∧ ∀ name c, lookup pre.records name = some c →
      (∃ st, c = statusLine st ∧ st.state = .MergeCompleted) ∨ Cancelled pre name
  | _ => False

/-- An effect made by a section that started from `s0`, checked against the system just before
it. -/
def EventOk (s0 : Sys) (e : Event) : Prop :=
  match e.op with
  | .writeState contents => ∃ st, contents = st.toString ∧ StateEdge s0 e.pre st
  | .writeStatus name contents => ∃ st, contents = statusLine st ∧ StatusWrite e.pre name st
  | _ => True

/-! ## The invariant -/

/-- The persisted files of a reachable system. -/
structure Sys.Ok (s : Sys) : Prop where
  nodup : (keys s.records).Nodup
  records : ∀ name c, lookup s.records name = some c →
    c = "" ∨ ∃ st, c = statusLine st ∧ st.Written
  before_merge : s.updateState.BeforeMerge → ∀ name st,
    lookup s.records name = some (statusLine st) → st.state = .Created

/-! ## Status lines and their lengths -/

/-- A status line is never empty. Reference: `snapshot.cpp:1693`. -/
theorem statusLine_ne_empty (st : SnapshotStatus) : statusLine st ≠ "" := fun h => by
  have := congrArg String.data h
  cases hs : st.state <;> simp [statusLine, join, hs, SnapshotState.toString] at this

/-- Two statuses with the same line are the same status. Reference: `snapshot.cpp:1693`. -/
theorem statusLine_inj {st st' : SnapshotStatus} (h : statusLine st = statusLine st') : st = st' :=
  Option.some.inj ((parseStatusLine_of_split (split_statusLine st)).symm.trans
    ((congrArg parseStatusLine h).trans (parseStatusLine_of_split (split_statusLine st'))))

/-- The length of a status line: its seven pieces and the six spaces between them. Reference:
`snapshot.cpp:1693`. -/
theorem statusLine_length (st : SnapshotStatus) : (statusLine st).data.length =
    st.state.toString.length + (decimal st.device_size).length + (decimal st.snapshot_size).length +
      (decimal st.cow_partition_size).length + (decimal st.cow_file_size).length +
      (decimal st.sectors_allocated).length + (decimal st.metadata_sectors).length + 6 := by
  simp only [statusLine, join, List.length_append, List.length_cons, String.length]
  omega

/-- `std::to_string` of a number has at least one digit. Reference: none. -/
theorem decimal_length_pos (n : UInt64) : 0 < (decimal n).length :=
  List.length_pos.mpr (decimal_ne_nil n)

/-- No state's token is longer than `merge-completed`. Reference: `snapshot.cpp:1655`. -/
theorem toString_length_le (st : SnapshotState) :
    st.toString.length ≤ SnapshotState.MergeCompleted.toString.length := by
  cases st <;> decide

/-- An advancing write never shortens the file, so no byte of the old line survives. Reference:
`snapshot.cpp:1693`. -/
theorem Advance.length_le {old st : SnapshotStatus} (h : Advance old st) (hw : old.Written) :
    (statusLine old).data.length ≤ (statusLine st).data.length := by
  rw [statusLine_length, statusLine_length]
  obtain ⟨hc, a, b, rfl⟩ | rfl := h
  · obtain ⟨h₁, h₂⟩ := hw.created hc
    have ha := decimal_length_pos a
    have hb := decimal_length_pos b
    have htok : old.state.toString.length = SnapshotState.Merging.toString.length := by
      rw [hc]; rfl
    have h0 : (decimal 0).length = 1 := rfl
    simp only [h₁, h₂, h0]
    omega
  · have := toString_length_le old.state
    simp only
    omega

/-- A write at offset 0 of a line at least as long as the file replaces the file. Reference:
`snapshot.cpp:1695`. -/
theorem overwrite_of_le {old : String} {contents : String}
    (h : old.data.length ≤ contents.data.length) : overwrite (some old) contents = contents := by
  show String.mk (contents.data ++ old.data.drop contents.data.length) = contents
  rw [List.drop_eq_nil_of_le h, List.append_nil]

/-! ## Reading a status file back -/

/-- A status that `ReadSnapshotStatus` parses from a system that keeps the invariant is the one
whose line the file holds, and it is a written status. Reference: `snapshot.cpp:1593`. -/
theorem Sys.Ok.lookup_status {s : Sys} (hs : s.Ok) {name : String} {st : SnapshotStatus}
    (h : (lookup s.records name).bind parseStatusLine = some st) :
    lookup s.records name = some (statusLine st) ∧ st.Written := by
  cases hl : lookup s.records name with
  | none => simp [hl] at h
  | some c =>
    rw [hl, Option.some_bind] at h
    obtain rfl | ⟨st', rfl, hw⟩ := hs.records name c hl
    · exact absurd h (by simp [show parseStatusLine "" = none from rfl])
    · rw [parseStatusLine_of_split (split_statusLine _)] at h
      cases h
      exact ⟨rfl, hw⟩

/-! ## One checked effect keeps the invariant -/

section Effects

variable {s : Sys}

/-- A checked status write over a system that keeps the invariant leaves exactly the new line.
Reference: `snapshot.cpp:1695`. -/
theorem StatusWrite.overwrite_eq {name : String} {st : SnapshotStatus} (h : StatusWrite s name st)
    (hs : s.Ok) : overwrite (lookup s.records name) (statusLine st) = statusLine st := by
  obtain ⟨hr, -⟩ | ⟨old, hr, hadv⟩ := h.over
  · rw [hr]; exact overwrite_of_le (by simp)
  · rw [hr]
    obtain hc | ⟨st', hc, hw⟩ := hs.records name _ hr
    · exact absurd hc (statusLine_ne_empty old)
    · rw [statusLine_inj hc] at hadv ⊢
      exact overwrite_of_le (hadv.length_le hw)

/-- A write of the update state along an edge of the state machine keeps the invariant. Reference:
`snapshot.cpp:1574`. -/
theorem sys_ok_writeState {s0 : Sys} {st : UpdateState} (hs : s.Ok) (he : StateEdge s0 s st) :
    ((FileOp.writeState st.toString).apply s).Ok := by
  have hst : st ≠ .Cancelled := by rintro rfl; exact he
  refine ⟨hs.nodup, hs.records, fun hb => ?_⟩
  simp only [FileOp.apply, Sys.updateState, parseUpdateState_toString st hst] at hb ⊢
  rcases hb with rfl | rfl | rfl
  · intro name st' hr; simp [he.1] at hr
  · exact hs.before_merge (.inl he)
  · exact hs.before_merge (.inr (.inl he.1))

/-- A checked status write keeps the invariant. Reference: `snapshot.cpp:1671`. -/
theorem sys_ok_writeStatus {name : String} {st : SnapshotStatus} (hs : s.Ok)
    (hw : StatusWrite s name st) : ((FileOp.writeStatus name (statusLine st)).apply s).Ok := by
  simp only [FileOp.apply, hw.overwrite_eq hs]
  refine ⟨nodup_keys_insert hs.nodup _ _, fun n c hr => ?_, fun hb n st' hr => ?_⟩
  · simp only [lookup_insert] at hr
    split at hr
    · exact .inr ⟨st, (Option.some.inj hr).symm, hw.written⟩
    · exact hs.records n c hr
  · simp only [lookup_insert] at hr
    split at hr
    · rw [← statusLine_inj (Option.some.inj hr)]
      by_contra hc
      rcases hw.merge hc with h | h | h <;> rcases hb with h' | h' | h' <;>
        simp only [Sys.updateState] at h h' <;> rw [h] at h' <;> exact absurd h' (by decide)
    · exact hs.before_merge hb n st' hr

/-- Creating an empty status file keeps the invariant. Reference: `snapshot.cpp:1678`. -/
theorem sys_ok_createStatus {name : String} (hs : s.Ok) :
    ((FileOp.createStatus name).apply s).Ok := by
  simp only [FileOp.apply]
  split
  · exact hs
  · refine ⟨nodup_keys_insert hs.nodup _ _, fun n c hr => ?_, fun hb n st hr => ?_⟩
    · simp only [lookup_insert] at hr
      split at hr
      · exact .inl (Option.some.inj hr).symm
      · exact hs.records n c hr
    · simp only [lookup_insert] at hr
      split at hr
      · exact absurd (Option.some.inj hr) (statusLine_ne_empty st).symm
      · exact hs.before_merge hb n st hr

/-- Removing a status file keeps the invariant. Reference: `snapshot.cpp:480`. -/
theorem sys_ok_removeStatus {name : String} (hs : s.Ok) :
    ((FileOp.removeStatus name).apply s).Ok := by
  refine ⟨nodup_keys_erase hs.nodup _, fun n c hr => ?_, fun hb n st hr => ?_⟩ <;>
  simp only [FileOp.apply, lookup_erase] at hr <;> split at hr
  all_goals first | exact absurd hr (by simp) | skip
  · exact hs.records n c hr
  · exact hs.before_merge hb n st hr

/-- A checked effect keeps the invariant. Reference: none. -/
theorem EventOk.sys_ok {s0 : Sys} {e : Event} (he : EventOk s0 e) (hs : e.pre.Ok) :
    (e.op.apply e.pre).Ok := by
  obtain ⟨pre, op, mode⟩ := e
  cases op with
  | writeState contents =>
    obtain ⟨st, rfl, hst⟩ := he
    exact sys_ok_writeState hs hst
  | writeStatus name contents =>
    obtain ⟨st, rfl, hst⟩ := he
    exact sys_ok_writeStatus hs hst
  | createStatus name => exact sys_ok_createStatus hs
  | removeStatus name => exact sys_ok_removeStatus hs
  | writeIndicator | removeIndicator | createImage | deleteImage | initializeCow | updateMetadata =>
    exact ⟨hs.nodup, hs.records, hs.before_merge⟩

end Effects

end LibSnapshot
