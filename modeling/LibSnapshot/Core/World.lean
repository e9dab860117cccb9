import LibSnapshot.Text.State

/-!
# The world the snapshot manager runs in

The manager keeps no state of its own between calls: everything lives in files under
`/metadata/ota` (the update state, the boot indicator, one status file per snapshot), in the
image manager's backing images, in the kernel's device-mapper devices, and in the super
partition's metadata. `Sys` is that system. `World` adds what one process brings to it: the
results of its system calls and external calls (`Oracle`), the manager's own fields
(`images_`), and two ghost fields the code does not have: the flock the process holds
(`held`) and the history of every persistent effect (`trace`), each with the system just before
it and the lock held then.

`SM` is the manager's code as a state monad over `World` that can abort, keeping the world: a
failed `CHECK`, a `LOG(FATAL)`, or the power cut before a step (`Abort.crash`). Every file write,
mapper call, image-manager call and metadata call is one step that consults the oracle.
-/

namespace LibSnapshot

/-! ## Device mapper, image manager, partition metadata -/

/-- `SnapshotStorageMode` (`dm_target.h`), the two modes `MapSnapshot` loads. -/
inductive SnapshotStorageMode
  | Persistent
  | Merge
  deriving DecidableEq, Repr

/-- What a target of a device-mapper table maps to: `DmTargetLinear` (a block device from a
sector on) or `DmTargetSnapshot` (base device, COW device, mode, chunk size in sectors). The
model names a device by its device-mapper name where the code passes its `major:minor`. -/
inductive TargetKind
  | linear (block_device : String) (physical_sector : Nat)
  | snapshot (base_device cow_device : String) (mode : SnapshotStorageMode) (chunk_size : Nat)
  deriving DecidableEq, Repr

/-- One target of a table: start and length in sectors, and what it maps to. -/
structure DmTarget where
  start : Nat
  length : Nat
  kind : TargetKind
  deriving DecidableEq, Repr

/-- The target type the kernel reports for a target, as `DeviceMapper::GetTargetType` reads it
from `dm_target_spec::target_type`. -/
def DmTarget.name (t : DmTarget) : String :=
  match t.kind with
  | .linear .. => "linear"
  | .snapshot _ _ .Merge _ => "snapshot-merge"
  | .snapshot .. => "snapshot"

/-- A device-mapper device: its uuid, its active table, a table loaded and not yet resumed, and
the counters the kernel's status line gives for a snapshot target (`sectors_allocated`,
`metadata_sectors`), `none` when that line does not parse. -/
structure Device where
  uuid : String := ""
  table : List DmTarget := []
  inactive : Option (List DmTarget) := none
  status : Option (UInt64 × UInt64) := none
  deriving DecidableEq, Repr

/-- A logical partition in the super partition's metadata (liblp): its name, its group,
whether it carries `LP_PARTITION_ATTR_UPDATED`, and its extents (sectors, first sector in
super). -/
structure Partition where
  name : String
  group : String
  updated : Bool
  extents : List (Nat × Nat)
  deriving DecidableEq, Repr

/-! ## Finite maps by name -/

/-- The value stored under `k`. -/
def lookup {α : Type} : List (String × α) → String → Option α
  | [], _ => none
  | (j, v) :: s, k => if j = k then some v else lookup s k

/-- `s` without `k`. -/
def erase {α : Type} : List (String × α) → String → List (String × α)
  | [], _ => []
  | (j, v) :: s, k => if j = k then erase s k else (j, v) :: erase s k

/-- `s` with `v` under `k`. -/
def insert {α : Type} (s : List (String × α)) (k : String) (v : α) : List (String × α) :=
  (k, v) :: erase s k

@[simp] theorem lookup_nil {α : Type} (k : String) : lookup ([] : List (String × α)) k = none :=
  rfl

@[simp] theorem lookup_erase {α : Type} (s : List (String × α)) (k k' : String) :
    lookup (erase s k) k' = if k = k' then none else lookup s k' := by
  induction s with
  | nil => simp [erase]
  | cons p s ih =>
    obtain ⟨j, v⟩ := p
    by_cases hj : j = k
    · simp only [erase, hj, if_true, ih, lookup]
      split <;> simp_all
    · simp only [erase, hj, if_false, lookup, ih]
      by_cases hk : k = k' <;> by_cases hj' : j = k' <;> simp_all

@[simp] theorem lookup_insert {α : Type} (s : List (String × α)) (k k' : String) (v : α) :
    lookup (insert s k v) k' = if k = k' then some v else lookup s k' := by
  simp only [insert, lookup, lookup_erase]
  split <;> rfl

/-- The names of a map. -/
def keys {α : Type} (s : List (String × α)) : List String := s.map (·.1)

/-- Erasing a name keeps the other names in their order. Reference: none. -/
theorem keys_erase_sublist {α : Type} (s : List (String × α)) (k : String) :
    (keys (erase s k)).Sublist (keys s) := by
  induction s with
  | nil => exact List.Sublist.slnil
  | cons p s ih =>
    simp only [erase, keys, List.map_cons] at *
    split
    · exact ih.cons _
    · exact ih.cons₂ _

/-- An erased name is gone. Reference: none. -/
theorem not_mem_keys_erase {α : Type} (s : List (String × α)) (k : String) :
    k ∉ keys (erase s k) := by
  induction s with
  | nil => simp [erase, keys]
  | cons p s ih =>
    simp only [erase, keys] at *
    split
    · exact ih
    · simp only [List.map_cons, List.mem_cons, not_or]
      exact ⟨fun h => ‹¬p.1 = k› h.symm, ih⟩

/-- Erasing a name keeps the names distinct. Reference: none. -/
theorem nodup_keys_erase {α : Type} {s : List (String × α)} (h : (keys s).Nodup) (k : String) :
    (keys (erase s k)).Nodup :=
  h.sublist (keys_erase_sublist s k)

/-- Inserting under a name keeps the names distinct. Reference: none. -/
theorem nodup_keys_insert {α : Type} {s : List (String × α)} (h : (keys s).Nodup) (k : String)
    (v : α) : (keys (insert s k v)).Nodup :=
  List.nodup_cons.mpr ⟨not_mem_keys_erase s k, nodup_keys_erase h k⟩

/-- A name is in the map exactly when its lookup finds something. Reference: none. -/
theorem mem_keys_iff_lookup {α : Type} {s : List (String × α)} {k : String} :
    k ∈ keys s ↔ (lookup s k).isSome := by
  induction s with
  | nil => simp [keys]
  | cons p s ih =>
    obtain ⟨j, v⟩ := p
    simp only [keys, List.map_cons, List.mem_cons, lookup] at *
    by_cases hj : j = k
    · simp [hj]
    · simp [hj, Ne.symm hj, ih]

/-! ## The system and the process -/

/-- The persistent files, the image manager's images, the kernel's devices and the super
partition's metadata. -/
structure Sys where
  /-- `/metadata/ota/state`. -/
  state : String := ""
  /-- `/metadata/ota/snapshot-boot`, if it exists. -/
  indicator : Option String := none
  /-- `/metadata/ota/snapshots/<name>`: name and contents of each file. -/
  records : List (String × String) := []
  /-- The image manager's backing images: name and size in bytes. -/
  images : List (String × UInt64) := []
  /-- Device-mapper devices by name; a mapped image is one of them. -/
  devices : List (String × Device) := []
  /-- The live slot's suffix, `device_->GetSlotSuffix()`. -/
  slot : String := "_a"
  /-- The super partition's metadata of each slot, by slot suffix. -/
  metadata : String → List Partition := fun _ => []
  /-- `device_->IsOverlayfsSetup()`. -/
  overlayfs : Bool := false

/-- The flock a `LockedFile` holds: `lock_flags & (LOCK_EX | LOCK_SH)` (`snapshot.cpp:1491`). -/
inductive LockMode
  | none
  | shared
  | exclusive
  deriving DecidableEq, Repr

/-- A persistent effect: a write, truncation, creation or removal of a file, a backing image created or
deleted, a COW device zero-filled, a slot's metadata written. -/
inductive FileOp
  | writeState (contents : String)
  | writeIndicator (contents : String)
  | removeIndicator
  | createStatus (name : String)
  | writeStatus (name contents : String)
  | removeStatus (name : String)
  | createImage (name : String) (size : UInt64)
  | deleteImage (name : String)
  | initializeCow (device : String)
  | updateMetadata (slot : String) (partitions : List Partition)
  deriving DecidableEq, Repr

/-- One entry of the ghost history: the system just before the effect, the effect, and the
flock the process held. -/
structure Event where
  pre : Sys
  op : FileOp
  mode : LockMode

/-- The file after `write` of `contents` from offset 0 into a file opened without `O_TRUNC`:
the new bytes, then whatever the old file had beyond them. -/
def overwrite (old : Option String) (contents : String) : String :=
  ⟨contents.data ++ ((old.getD "").data.drop contents.data.length)⟩

/-- What a persistent effect does to the system. -/
def FileOp.apply : FileOp → Sys → Sys
  | .writeState contents, s => { s with state := contents }
  | .writeIndicator contents, s => { s with indicator := some contents }
  | .removeIndicator, s => { s with indicator := none }
  | .createStatus name, s =>
    if (lookup s.records name).isSome then s else { s with records := insert s.records name "" }
  | .writeStatus name contents, s =>
    { s with records := insert s.records name (overwrite (lookup s.records name) contents) }
  | .removeStatus name, s => { s with records := erase s.records name }
  | .createImage name size, s => { s with images := insert s.images name size }
  | .deleteImage name, s => { s with images := erase s.images name }
  | .initializeCow _, s => s
  | .updateMetadata slot partitions, s =>
    { s with metadata := fun x => if x = slot then partitions else s.metadata x }

/-- The results of the calls a process makes: file-system calls (`io`), mapper, image-manager
and metadata calls (`ext`), both by step number; the milliseconds a waiting call takes, by step
number; the step before which the power is cut, if any; and the counters of a
`DmTargetSnapshot::Status` the code reads uninitialized. -/
structure Oracle where
  io : Nat → Bool := fun _ => true
  ext : Nat → Bool := fun _ => true
  wait : Nat → Nat := fun _ => 0
  crash : Option Nat := none
  junk : UInt64 × UInt64 := (0, 0)

/-- The system as one process of the manager sees it. -/
structure World where
  sys : Sys
  oracle : Oracle := {}
  /-- The number of steps taken. -/
  tick : Nat := 0
  /-- `std::chrono::steady_clock::now()`, in milliseconds. -/
  clock : Int := 0
  /-- `SnapshotManager::images_` is open. -/
  images_ : Bool := false
  /-- `SnapshotManager::has_local_image_manager_`. -/
  has_local_image_manager_ : Bool := false
  /-- Ghost: the flock the process holds on the state file. -/
  held : LockMode := .none
  /-- Ghost: every persistent effect so far, the latest first. -/
  trace : List Event := []

/-! ## The monad -/

/-- Why a run stopped short: a failed `CHECK`, a `LOG(FATAL)`, or the power cut. -/
inductive Abort
  | check (condition : String)
  | fatal (message : String)
  | crash
  deriving DecidableEq, Repr

/-- The end of a run: a value and the world, or an abort and the world as it stands. -/
inductive Result (α : Type) where
  | ok (a : α) (w : World)
  | abort (why : Abort) (w : World)

/-- The world at the end of a run. -/
def Result.world {α : Type} : Result α → World
  | .ok _ w => w
  | .abort _ w => w

/-- The value a run returned, if it did. -/
def Result.value {α : Type} : Result α → Option α
  | .ok a _ => some a
  | .abort _ _ => none

/-- Why a run aborted, if it did. -/
def Result.reason {α : Type} : Result α → Option Abort
  | .ok _ _ => none
  | .abort why _ => some why

/-- A run that returned `a` is that return in the world it ended in. Reference: none. -/
theorem Result.eq_ok_of_value {α : Type} {r : Result α} {a : α} (h : r.value = some a) :
    r = .ok a r.world := by
  cases r with
  | ok b w => cases h; rfl
  | abort => cases h

/-- The manager's code: a run from a world to a result. -/
def SM (α : Type) : Type := World → Result α

namespace SM

/-- Return `a`. -/
protected def pure {α : Type} (a : α) : SM α := fun w => .ok a w

/-- Run `m`, then `f` on its value; an abort stops the run. -/
protected def bind {α β : Type} (m : SM α) (f : α → SM β) : SM β := fun w =>
  match m w with
  | .ok a w' => f a w'
  | .abort e w' => .abort e w'

instance : Monad SM where
  pure := SM.pure
  bind := SM.bind

@[simp] theorem pure_apply {α : Type} (a : α) (w : World) : (pure a : SM α) w = .ok a w := rfl

@[simp] theorem pure_bind {α β : Type} (a : α) (f : α → SM β) : (pure a >>= f) = f a := rfl

/-- A run of `m >>= f` is the run of `m`, then of `f` from where it returned. Reference: none. -/
theorem bind_apply {α β : Type} (m : SM α) (f : α → SM β) (w : World) :
    (m >>= f) w = match m w with
      | .ok a w' => f a w'
      | .abort e w' => .abort e w' := rfl

/-- `m >>= pure` is `m`. Reference: none. -/
theorem bind_pure {α : Type} (m : SM α) : (m >>= pure) = m :=
  funext fun w => by rw [bind_apply]; cases m w <;> rfl

/-- Binds reassociate. Reference: none. -/
theorem bind_assoc {α β γ : Type} (m : SM α) (f : α → SM β) (g : β → SM γ) :
    (m >>= f >>= g) = (m >>= fun a => f a >>= g) :=
  funext fun w => by simp only [bind_apply]; cases m w <;> rfl

/-- The monad laws, kept out of instance search so that `simp` never turns a `bind` into a `map`; a
proof over a library loop brings them in with `haveI`. Reference: none. -/
theorem lawfulMonad : LawfulMonad SM := LawfulMonad.mk' SM bind_pure pure_bind bind_assoc

/-- The world. -/
def get : SM World := fun w => .ok w w

/-- The system. -/
def sys : SM Sys := fun w => .ok w.sys w

/-- Change the system. -/
def modifySys (f : Sys → Sys) : SM Unit
  | ⟨sys, oracle, tick, clock, images_, local_, held, trace⟩ =>
    .ok () ⟨f sys, oracle, tick, clock, images_, local_, held, trace⟩

/-- Ghost: the flock the process now holds. -/
def setHeld (mode : LockMode) : SM Unit
  | ⟨sys, oracle, tick, clock, images_, local_, _, trace⟩ =>
    .ok () ⟨sys, oracle, tick, clock, images_, local_, mode, trace⟩

/-- `images_` is now open. -/
def openImages : SM Unit
  | ⟨sys, oracle, tick, clock, _, local_, held, trace⟩ =>
    .ok () ⟨sys, oracle, tick, clock, true, local_, held, trace⟩

/-- Stop on a failed `CHECK(condition)`. -/
def CHECK (c : Bool) (condition : String) : SM Unit := fun w =>
  if c then .ok () w else .abort (.check condition) w

/-- `LOG(FATAL) << message`. -/
def fatal {α : Type} (message : String) : SM α := fun w => .abort (.fatal message) w

/-- One step: the power may be cut before it. -/
def tick : SM Nat
  | ⟨sys, oracle, tick, clock, images_, local_, held, trace⟩ =>
    if oracle.crash = some tick then .abort .crash ⟨sys, oracle, tick, clock, images_, local_, held, trace⟩
    else .ok tick ⟨sys, oracle, tick + 1, clock, images_, local_, held, trace⟩

/-- A file-system call: whether it succeeds. -/
def ioCall : SM Bool := fun w =>
  match tick w with
  | .ok t w' => .ok (w'.oracle.io t) w'
  | .abort e w' => .abort e w'

/-- A mapper, image-manager or metadata call: whether it succeeds. -/
def extCall : SM Bool := fun w =>
  match tick w with
  | .ok t w' => .ok (w'.oracle.ext t) w'
  | .abort e w' => .abort e w'

/-- A call that may wait: it succeeds if the oracle lets it, and the clock advances by the time
the oracle gives it. -/
def waitCall : SM Bool := fun w =>
  match tick w with
  | .ok t ⟨sys, oracle, tick, clock, images_, local_, held, trace⟩ =>
    .ok (oracle.ext t) ⟨sys, oracle, tick, clock + oracle.wait t, images_, local_, held, trace⟩
  | .abort e w' => .abort e w'

/-- `std::chrono::steady_clock::now()`. -/
def now : SM Int := fun w => .ok w.clock w

/-- A persistent effect: apply it to the system, and log it (ghost) with the system before it
and the lock held. -/
def effect (op : FileOp) : SM Unit
  | ⟨sys, oracle, tick, clock, images_, local_, held, trace⟩ =>
    .ok () ⟨op.apply sys, oracle, tick, clock, images_, local_, held, ⟨sys, op, held⟩ :: trace⟩

/-- A persistent effect that one file-system call makes, if the call succeeds. -/
def persist (op : FileOp) : SM Bool := do
  if ← ioCall then
    effect op
    return true
  else return false

end SM

end LibSnapshot
