import LibSnapshot.Text.Status

/-!
# The update state file

`/metadata/ota/state` holds one token of `UpdateState`. `WriteUpdateState`
(`snapshot.cpp:1574`) writes it as `Truncate` (an `lseek` to 0 and an `ftruncate` to 0) followed
by `WriteStringToFd`, a loop of `write` calls; `ReadUpdateState` (`snapshot.cpp:1519`) seeks to
0, reads the whole file and parses it, with `None` for an empty or unknown text and for a
failed `lseek` or read.

This module models both at the granularity of single system calls on the file, with the power
cut after any of them. The manager's model (`LibSnapshot.Core.World`) takes a whole
`WriteUpdateState` as one atomic step; `writeUpdateStateSys_ok` is the case of this model where
every call succeeds, which is that step. The other cases are what a crash or a failed call
inside the write leaves behind: the old token, the new token, or a proper prefix of the new one,
which parses as `None` (`readUpdateStateSys_after_write`). A crash right after the `ftruncate`
empties the file, so an interrupted write of `Merging` over `Unverified` reads back as `None`
(`readUpdateStateSys_torn_write`).
-/

namespace LibSnapshot

/-! ## Update states -/

/-- `UpdateState` (`snapshot.h:61`). `Cancelled` is only ever returned, never written. -/
inductive UpdateState
  | None
  | Initiated
  | Unverified
  | Merging
  | MergeNeedsReboot
  | MergeCompleted
  | MergeFailed
  | Cancelled
  deriving DecidableEq, Repr

/-- `operator<<(std::ostream&, UpdateState)` (`snapshot.cpp:1552`): the token of a state, empty
for `Cancelled`, which the switch does not list. -/
def UpdateState.toString : UpdateState → String
  | .None => "none"
  | .Initiated => "initiated"
  | .Unverified => "unverified"
  | .Merging => "merging"
  | .MergeCompleted => "merge-completed"
  | .MergeNeedsReboot => "merge-needs-reboot"
  | .MergeFailed => "merge-failed"
  | .Cancelled => ""

/-- The parse at the end of `ReadUpdateState` (`snapshot.cpp:1531`): `None` for an empty or
unknown text. -/
def parseUpdateState (contents : List Char) : UpdateState :=
  if contents = [] ∨ contents = "none".data then .None
  else if contents = "initiated".data then .Initiated
  else if contents = "unverified".data then .Unverified
  else if contents = "merging".data then .Merging
  else if contents = "merge-completed".data then .MergeCompleted
  else if contents = "merge-needs-reboot".data then .MergeNeedsReboot
  else if contents = "merge-failed".data then .MergeFailed
  else .None

@[simp] theorem parseUpdateState_toString (s : UpdateState) (h : s ≠ .Cancelled) :
    parseUpdateState s.toString.data = s := by
  cases s <;> first | decide | exact absurd rfl h

/-- No token is a proper prefix of another, so a torn write parses as `None`. Reference:
`snapshot.cpp:1531`. -/
theorem parseUpdateState_of_inits (s : UpdateState) (p : List Char)
    (hp : p <+: s.toString.data) (hne : p ≠ s.toString.data) : parseUpdateState p = .None := by
  rw [← List.mem_inits] at hp
  revert p
  cases s <;> decide

/-! ## The state file at the granularity of system calls -/

/-- The state file as its descriptor sees it: its bytes and the descriptor's offset. -/
structure StateFile where
  contents : List Char
  offset : Nat

/-- The result of one system call on the state file: success (for a `write`, of the whole
buffer), `-1`, or a `write` that wrote only `n` bytes. -/
inductive Syscall
  | ok
  | fail
  | wrote (n : Nat)

/-- `write` of `chunk` at the descriptor's offset, with zeros in a gap past the end. -/
def StateFile.write (f : StateFile) (chunk : List Char) : StateFile :=
  { contents := f.contents.take f.offset ++ List.replicate (f.offset - f.contents.length) '\x00' ++
      chunk ++ f.contents.drop (f.offset + chunk.length),
    offset := f.offset + chunk.length }

/-- `android::base::WriteStringToFd` (libbase): `write` until every byte of `buf` is out, `false`
on a `-1`. The calls' results are `outs`; when they run out the power is cut (`none`). -/
def writeStringToFd : List Char → List Syscall → StateFile → Option Bool × StateFile
  | [], _, f => (some true, f)
  | _ :: _, [], f => (none, f)
  | buf@(_ :: _), .ok :: outs, f => writeStringToFd [] outs (f.write buf)
  | buf@(_ :: _), .wrote n :: outs, f => writeStringToFd (buf.drop n) outs (f.write (buf.take n))
  | _ :: _, .fail :: _, f => (some false, f)

/-- A `-1` return. -/
def Syscall.failed : Syscall → Bool
  | .fail => true
  | _ => false

/-- `SnapshotManager::Truncate` (`snapshot.cpp:1702`): `lseek(fd, 0, SEEK_SET)`, then
`ftruncate(fd, 0)`. Returns the result, the calls' results left over, and the file. -/
def truncateSys : List Syscall → StateFile → Option Bool × List Syscall × StateFile
  | [], f => (none, [], f)
  | seek :: outs, f =>
    if seek.failed then (some false, outs, f)
    else match outs with
      | [] => (none, [], { f with offset := 0 })
      | trunc :: outs =>
        if trunc.failed then (some false, outs, { f with offset := 0 }) else (some true, outs, ⟨[], 0⟩)

/-- `SnapshotManager::WriteUpdateState` (`snapshot.cpp:1574`) at the granularity of system calls:
the token, `Truncate`, then `WriteStringToFd`. -/
def writeUpdateStateSys (state : UpdateState) (outs : List Syscall) (f : StateFile) :
    Option Bool × StateFile :=
  let contents := state.toString.data
  if contents = [] then (some false, f)
  else match truncateSys outs f with
    | (some true, outs, f) => writeStringToFd contents outs f
    | (r, _, f) => (r, f)

/-- `SnapshotManager::ReadUpdateState` (`snapshot.cpp:1519`) with the results of its `lseek` and
of its `ReadFdToString`: `None` if either fails, else the parse of the whole file. -/
def readUpdateStateSys (seek read : Syscall) (contents : List Char) : UpdateState :=
  match seek, read with
  | .fail, _ => .None
  | _, .fail => .None
  | _, _ => parseUpdateState contents

/-- Writing at the end of the file appends. Reference: none. -/
theorem StateFile.write_at_end (f : StateFile) (chunk : List Char)
    (h : f.offset = f.contents.length) :
    f.write chunk = ⟨f.contents ++ chunk, f.contents.length + chunk.length⟩ := by
  simp [StateFile.write, h]

/-- From the end of the file, `WriteStringToFd` leaves the file followed by a prefix of the buffer.
Reference: `snapshot.cpp:1581`. -/
theorem writeStringToFd_prefix :
    ∀ (buf : List Char) (outs : List Syscall) (f : StateFile), f.offset = f.contents.length →
      ∃ k, (writeStringToFd buf outs f).2.contents = f.contents ++ buf.take k
  | [], _, f, _ => ⟨0, by simp [writeStringToFd]⟩
  | _ :: _, [], f, _ => ⟨0, by simp [writeStringToFd]⟩
  | c :: cs, .ok :: outs, f, h => by
    obtain ⟨_, hk⟩ := writeStringToFd_prefix [] outs (f.write (c :: cs))
      (by rw [f.write_at_end _ h]; simp)
    refine ⟨(c :: cs).length, ?_⟩
    rw [writeStringToFd, hk, f.write_at_end _ h]
    simp
  | c :: cs, .wrote n :: outs, f, h => by
    obtain ⟨k, hk⟩ := writeStringToFd_prefix ((c :: cs).drop n) outs (f.write ((c :: cs).take n))
      (by rw [f.write_at_end _ h]; simp)
    refine ⟨n + k, ?_⟩
    rw [writeStringToFd, hk, f.write_at_end _ h, List.append_assoc, List.take_add]
  | _ :: _, .fail :: _, f, _ => ⟨0, by simp [writeStringToFd]⟩

/-- After `WriteUpdateState` of `state`, cut short or not, the file holds what it held before or a
prefix of `state`'s token. Reference: `snapshot.cpp:1574`. -/
theorem writeUpdateStateSys_contents (state : UpdateState) (outs : List Syscall) (f : StateFile) :
    (writeUpdateStateSys state outs f).2.contents = f.contents ∨
      (writeUpdateStateSys state outs f).2.contents <+: state.toString.data := by
  by_cases hc : state.toString.data = []
  · simp [writeUpdateStateSys, hc]
  · simp only [writeUpdateStateSys, hc, if_false]
    rcases outs with _ | ⟨seek, outs⟩
    · simp [truncateSys]
    cases hs : seek.failed
    · rcases outs with _ | ⟨trunc, outs⟩
      · simp [truncateSys, hs]
      cases ht : trunc.failed
      · obtain ⟨k, hk⟩ := writeStringToFd_prefix state.toString.data outs ⟨[], 0⟩ rfl
        simp only [truncateSys, hs, ht, Bool.false_eq_true, if_false]
        exact .inr (by simp only [hk, List.nil_append]; exact List.take_prefix _ _)
      · simp [truncateSys, hs, ht]
    · simp [truncateSys, hs]

/-- When every call succeeds, `WriteUpdateState` replaces the file by the token: the atomic step the
manager's model takes. Reference: `snapshot.cpp:1574`. -/
theorem writeUpdateStateSys_ok (state : UpdateState) (f : StateFile)
    (h : state.toString.data ≠ []) :
    writeUpdateStateSys state [.ok, .ok, .ok] f =
      (some true, ⟨state.toString.data, state.toString.data.length⟩) := by
  obtain ⟨c, cs, hc⟩ := List.exists_cons_of_ne_nil h
  simp [writeUpdateStateSys, truncateSys, Syscall.failed, hc, writeStringToFd, StateFile.write]

/-- A crash or a failed call inside `WriteUpdateState` of `state` over a file that held `contents`
leaves a file that a later `ReadUpdateState` reads as the old state, as `state`, or as `None`: the
old token, the new one, or a proper prefix of the new one, which is no token. Reference:
`snapshot.cpp:1519`, `snapshot.cpp:1574`. -/
theorem readUpdateStateSys_after_write (state : UpdateState) (contents : List Char)
    (outs : List Syscall) (o : Nat) (seek read : Syscall) :
    readUpdateStateSys seek read (writeUpdateStateSys state outs ⟨contents, o⟩).2.contents =
        parseUpdateState contents ∨
      readUpdateStateSys seek read (writeUpdateStateSys state outs ⟨contents, o⟩).2.contents =
        state ∨
      readUpdateStateSys seek read (writeUpdateStateSys state outs ⟨contents, o⟩).2.contents =
        .None := by
  unfold readUpdateStateSys
  split
  · exact .inr (.inr rfl)
  · exact .inr (.inr rfl)
  rcases writeUpdateStateSys_contents state outs ⟨contents, o⟩ with h | h
  · exact .inl (by rw [h])
  · by_cases he : (writeUpdateStateSys state outs ⟨contents, o⟩).2.contents = state.toString.data
    · by_cases hc : state = .Cancelled
      · subst hc; exact .inr (.inr (by rw [he]; rfl))
      · exact .inr (.inl (by rw [he, parseUpdateState_toString _ hc]))
    · exact .inr (.inr (parseUpdateState_of_inits _ _ h he))

/-- The window after `ftruncate`: a crash right after it, while `Merging` is written over
`Unverified`, leaves an empty file, which reads as `None`: neither the state last written whole nor
the one whose write was cut. Reference: `snapshot.cpp:1580`. -/
theorem readUpdateStateSys_torn_write :
    readUpdateStateSys .ok .ok
      (writeUpdateStateSys .Merging [.ok, .ok] ⟨"unverified".data, 10⟩).2.contents = .None ∧
      UpdateState.None ≠ .Unverified ∧ UpdateState.None ≠ .Merging := by
  decide

end LibSnapshot
