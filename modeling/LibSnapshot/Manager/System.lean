import LibSnapshot.Manager.Update
import LibSnapshot.Core.Spec

/-!
# Runs of the system

The state file's flock makes each locked section of the manager's operations atomic with
respect to every other process: an exclusive section runs alone, and a shared one only beside
other shared ones, which change no file. A run of the system is therefore a sequence of steps,
each of which is one section run by some process from the system as the last step left it, a
reboot (which drops every device-mapper device and may switch the live slot), a flash of a
slot's metadata behind the manager's back, or a change of the kernel's devices by someone else
(the kernel's merge progress, a device failing, a shared section mapping its stack).

A process starts with a fresh `SnapshotManager` (no image manager open, no flock, an empty
history); every file-system call it makes succeeds (`Reliable`), and each file write is one
atomic step, while the mapper, image-manager and metadata calls may fail, and the power may be
cut before any step. The run's log keeps every effect any section made, with the system the
section started from.

Two runs show `CreateUpdateSnapshots` going wrong: called again after `FinishedSnapshotWrites`
it rewrites a live snapshot (`recreatedRun_rewrites_snapshot`), and a partition that needs no
snapshot makes its zero-fill loop abort (`createUpdateSnapshots_fitsInSuper`).
-/

namespace LibSnapshot

open SM SnapshotManager

/-- A locked section of a public operation, with the arguments of its call. The lock-free code
between the sections of one operation only reads. -/
inductive Section
  | TryCancelUpdate
  | BeginUpdateLocked
  | CreateUpdateSnapshots (manifest : DeltaArchiveManifest) (ext : UpdateCollaborators)
  | MapUpdateSnapshot (params : CreateLogicalPartitionParams)
  | UnmapUpdateSnapshot (target_partition_name : String)
  | FinishedSnapshotWrites
  | InitiateMerge
  | CheckMergeState
  | AcknowledgeMergeFailure
  | GetUpdateState
  | NeedSnapshotsInFirstStageMount
  | IsSnapshotManagerNeeded
  | CreateLogicalAndSnapshotPartitions (super_device : String)
  | Dump

/-- The run of a section. -/
def Section.run : Section → SM Unit
  | .TryCancelUpdate => do let _ ← tryCancelUpdate
  | .BeginUpdateLocked => do let _ ← beginUpdateLocked
  | .CreateUpdateSnapshots manifest ext => do let _ ← createUpdateSnapshots manifest ext
  | .MapUpdateSnapshot params => do let _ ← mapUpdateSnapshot params
  | .UnmapUpdateSnapshot target_partition_name => do
    let _ ← unmapUpdateSnapshot target_partition_name
  | .FinishedSnapshotWrites => do let _ ← finishedSnapshotWrites
  | .InitiateMerge => do let _ ← initiateMerge
  | .CheckMergeState => do let _ ← checkMergeState
  | .AcknowledgeMergeFailure => acknowledgeMergeFailure
  | .GetUpdateState => do let _ ← getUpdateState
  | .NeedSnapshotsInFirstStageMount => do let _ ← needSnapshotsInFirstStageMount
  | .IsSnapshotManagerNeeded => do let _ ← isSnapshotManagerNeeded
  | .CreateLogicalAndSnapshotPartitions super_device => do
    let _ ← createLogicalAndSnapshotPartitions super_device
  | .Dump => do let _ ← dump

/-- A fresh process on the system `s`. -/
def World.start (s : Sys) (o : Oracle) (images_ has_local_image_manager_ : Bool) : World :=
  { sys := s, oracle := o, images_ := images_, has_local_image_manager_ := has_local_image_manager_ }

/-- The system and the log of every effect made so far, the latest first, each with the system
its section started from. -/
structure Global where
  sys : Sys
  log : List (Sys × Event)

/-- The system after a section's run from `g`, and its effects added to the log. -/
def Global.after (g : Global) (r : Result Unit) : Global :=
  { sys := r.world.sys, log := r.world.trace.map (g.sys, ·) ++ g.log }

/-- One step of the system. -/
inductive Step : Global → Global → Prop
  | run (g : Global) (sec : Section) (o : Oracle) (images_ has_local_image_manager_ : Bool)
      (hr : Reliable o) :
      Step g (g.after (sec.run (World.start g.sys o images_ has_local_image_manager_)))
  | reboot (g : Global) (slot : String) :
      Step g { g with sys := { g.sys with devices := [], slot := slot } }
  | flash (g : Global) (slot : String) (partitions : List Partition) :
      Step g { g with sys := (FileOp.updateMetadata slot partitions).apply g.sys }
  | kernel (g : Global) (devices : List (String × Device)) :
      Step g { g with sys := { g.sys with devices := devices } }

/-- A device before its first update: no state file, boot indicator or status file. -/
def Sys.Fresh (s : Sys) : Prop := s.state = "" ∧ s.indicator = none ∧ s.records = []

/-- The systems a run reaches from a fresh device. -/
inductive Reachable : Global → Prop
  | init (s : Sys) (h : s.Fresh) : Reachable ⟨s, []⟩
  | step {g g' : Global} : Reachable g → Step g g' → Reachable g'

/-- `sec` run by a fresh process whose every call succeeds. -/
def Global.exec (g : Global) (sec : Section) : Global :=
  g.after (sec.run (World.start g.sys {} false false))

/-- A reachable system stays reachable after a section run with every call succeeding. Reference:
none. -/
theorem Reachable.exec {g : Global} (h : Reachable g) (sec : Section) : Reachable (g.exec sec) :=
  h.step (.run g sec {} false false fun _ => rfl)

/-! ## Two runs of `CreateUpdateSnapshots` that go wrong -/

/-- A target slot with one partition, `system_b`, whose snapshot needs a 4 KiB COW image. -/
def oneSnapshot : UpdateCollaborators where
  current_metadata := {}
  target_metadata :=
    some { groups := ["default"], partitions := [⟨"system_b", "default", true, [(8, 0)]⟩] }
  cow_creator := fun _ => some { snapshot_status :=
    { device_size := 4096, snapshot_size := 4096, cow_file_size := 4096 } }

/-- An update begun (`TryCancelUpdate`, then `BeginUpdate`'s own section), its snapshots created
and finished, and then `CreateUpdateSnapshots` called once more, every call succeeding. -/
def recreatedRun : Global :=
  (((((⟨{}, []⟩ : Global).exec .TryCancelUpdate).exec .BeginUpdateLocked).exec
    (.CreateUpdateSnapshots ⟨["system"]⟩ oneSnapshot)).exec .FinishedSnapshotWrites).exec
    (.CreateUpdateSnapshots ⟨["system"]⟩ oneSnapshot)

set_option maxRecDepth 20000 in
/-- `CreateUpdateSnapshots` reads no update state: called again while the finished update is
`Unverified`, it deletes the `Created` record of `system_b`, whose partition still carries
`UPDATED`, and zero-fills its COW again. Reference: `snapshot.cpp:1744`. -/
theorem recreatedRun_rewrites_snapshot :
    Reachable recreatedRun ∧
    (∃ e ∈ recreatedRun.log, parseUpdateState e.2.pre.state.data = .Unverified ∧
      e.2.op = .removeStatus "system_b" ∧
      ((lookup e.2.pre.records "system_b").bind parseStatusLine).map (·.state) = some .Created ∧
      (findPartition (e.2.pre.metadata "_b") "system_b").map (·.updated) = some true) ∧
    ∃ e ∈ recreatedRun.log, parseUpdateState e.2.pre.state.data = .Unverified ∧
      e.2.op = .initializeCow "/dev/block/dm-system_b-cow-img" :=
  ⟨(((((Reachable.init _ ⟨rfl, rfl, rfl⟩).exec _).exec _).exec _).exec _).exec _, by decide,
    by decide⟩

/-- A target slot with one partition, `system_b`, that fits in free space of super: its COW
creator result needs neither a snapshot nor a COW. -/
def fitsInSuper : UpdateCollaborators where
  current_metadata := {}
  target_metadata :=
    some { groups := ["default"], partitions := [⟨"system_b", "default", true, [(8, 0)]⟩] }
  cow_creator := fun _ => some { snapshot_status := {} }

/-- The first loop of `CreateUpdateSnapshots` (`snapshot.cpp:1835`) skips a partition whose COW
creator finds nothing to snapshot, so it gets no entry in `all_snapshot_status`; the zero-fill loop
(`snapshot.cpp:1903`) walks every target partition again and `CHECK`s for that entry. The COW
creator results of `fitsInSuper` meet `snapshot_size > 0 ⇔ cow_partition_size + cow_file_size > 0`,
and still `CreateUpdateSnapshots` of a manifest updating `system`, run with every call succeeding
from an empty system, aborts on that `CHECK`. Reference: `snapshot.cpp:1744`. -/
theorem createUpdateSnapshots_fitsInSuper :
    (∀ name r, fitsInSuper.cow_creator name = some r →
      (0 < r.snapshot_status.snapshot_size ↔
        0 < r.snapshot_status.cow_partition_size + r.snapshot_status.cow_file_size)) ∧
    (createUpdateSnapshots ⟨["system"]⟩ fitsInSuper { sys := {} }).reason =
      some (.check "it != all_snapshot_status.end()") := by
  refine ⟨fun name r h => ?_, by decide⟩
  simp only [fitsInSuper, Option.some.injEq] at h
  subst h
  decide

end LibSnapshot
