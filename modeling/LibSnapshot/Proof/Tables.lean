import LibSnapshot.Proof.Build

/-!
# The tables of a snapshot device

`MapSnapshot` (`snapshot.cpp:301`) puts the snapshot target on `P` when the whole partition is
snapshotted and on `P-inner` otherwise, choosing by `linear_sectors > 0`; the merge finds it again
by `GetSnapshotDeviceName(name, status)` (`snapshot.cpp:1714`), choosing by
`device_size != snapshot_size`. For every pair of sizes `MapSnapshot` accepts the two choices agree
(`linear_sectors_pos_iff`) and the sectors add up (`sectors_add`).

`backingOf` says what a sector of a device reads through its table. When every call succeeds,
`MapSnapshot` of a status it accepts returns `true` and leaves `P` reading its snapshotted sectors
through the snapshot target and the rest from the base device, with an outer table that passes
the checks of `CollapseSnapshotDevice` (`mapSnapshot_exposes_snapshot`): the devices it maps are
those of `snapshotPlan` (`mapSnapshot_sure`).
-/

namespace LibSnapshot

open SM DeviceMapper SnapshotManager

/-- The active table of the device `name`, if it exists. -/
def Sys.tableOf (s : Sys) (name : String) : Option (List DmTarget) :=
  (lookup s.devices name).map (·.table)

/-! ## What a table maps -/

/-- What a sector of a device reads: a sector of another device, through a linear target, or a
sector of a snapshot target over a base and a COW device. -/
inductive Backing
  | device (name : String) (sector : Nat)
  | snapshot (base_device cow_device : String) (mode : SnapshotStorageMode) (sector : Nat)
  deriving DecidableEq, Repr

/-- What sector `k` of a target reads. -/
def DmTarget.backing (t : DmTarget) (k : Nat) : Backing :=
  match t.kind with
  | .linear block_device physical_sector => .device block_device (physical_sector + (k - t.start))
  | .snapshot base_device cow_device mode _ => .snapshot base_device cow_device mode (k - t.start)

/-- What sector `k` of a device with table `table` reads: that of the first target holding it. -/
def backingOf (table : List DmTarget) (k : Nat) : Option Backing :=
  (table.find? fun t => t.start ≤ k && k < t.start + t.length).map (·.backing k)

/-- A device with one snapshot target of `n` sectors reads its first `n` sectors through it.
Reference: `snapshot.cpp:380`. -/
theorem backingOf_snapshot (n : Nat) (base_device cow_device : String) (mode : SnapshotStorageMode)
    (chunk_size k : Nat) :
    backingOf [⟨0, n, .snapshot base_device cow_device mode chunk_size⟩] k =
      if k < n then some (.snapshot base_device cow_device mode k) else none := by
  by_cases h : k < n <;> simp [backingOf, DmTarget.backing, h]

/-- The outer table of `MapSnapshot` reads its first `n` sectors from the inner device and the next
`l` from the base device at the same sector. Reference: `snapshot.cpp:399`. -/
theorem backingOf_outer (n l : Nat) (dev base_device : String) (k : Nat) :
    backingOf [⟨0, n, .linear dev 0⟩, ⟨n, l, .linear base_device n⟩] k =
      if k < n then some (.device dev k) else if k < n + l then some (.device base_device k) else none := by
  by_cases h₁ : k < n
  · simp [backingOf, DmTarget.backing, h₁]
  · by_cases h₂ : k < n + l
    · simp [backingOf, DmTarget.backing, h₁, h₂, Nat.le_of_not_lt h₁]
    · simp [backingOf, h₁, h₂]

example : backingOf [⟨0, 8, .linear "system_b-inner" 0⟩, ⟨8, 8, .linear "253:0" 8⟩] 12 =
    some (.device "253:0" 12) := by decide

/-! ## Sectors -/

section Sectors

-- The sizes `MapSnapshot` accepts: whole sectors, the snapshotted part no larger than the device.
variable {ds ss : UInt64} (h₁ : ds % kSectorSize = 0) (h₂ : ss % kSectorSize = 0) (h₃ : ss ≤ ds)
include h₁ h₂ h₃

private theorem sector_toNat_facts :
    ds.toNat % 512 = 0 ∧ ss.toNat % 512 = 0 ∧ ss.toNat ≤ ds.toNat ∧ ds.toNat < 2 ^ 64 := by
  have e₁ := congrArg UInt64.toNat h₁
  have e₂ := congrArg UInt64.toNat h₂
  rw [UInt64.toNat_mod] at e₁ e₂
  exact ⟨e₁, e₂, h₃, ds.toBitVec.isLt⟩

/-- The snapshotted sectors and the rest add up to the device's sectors. Reference:
`snapshot.cpp:346`. -/
theorem sectors_add :
    (ss / kSectorSize).toNat + ((ds - ss) / kSectorSize).toNat = (ds / kSectorSize).toNat := by
  obtain ⟨e₁, e₂, e₃, -⟩ := sector_toNat_facts h₁ h₂ h₃
  rw [UInt64.toNat_div, UInt64.toNat_div, UInt64.toNat_div, UInt64.toNat_sub_of_le _ _ h₃]
  exact (by omega : ss.toNat / 512 + (ds.toNat - ss.toNat) / 512 = ds.toNat / 512)

/-- The rest is nonempty exactly when the sizes differ: `MapSnapshot`'s `linear_sectors > 0` and
`GetSnapshotDeviceName`'s `device_size != snapshot_size` agree. Reference: `snapshot.cpp:346`,
`snapshot.cpp:1714`. -/
theorem linear_sectors_pos_iff : 0 < ((ds - ss) / kSectorSize).toNat ↔ ds ≠ ss := by
  obtain ⟨e₁, e₂, e₃, -⟩ := sector_toNat_facts h₁ h₂ h₃
  rw [UInt64.toNat_div, UInt64.toNat_sub_of_le _ _ h₃, show kSectorSize.toNat = 512 from rfl]
  refine ⟨fun h e => ?_, fun h => ?_⟩
  · subst e
    omega
  · have : ds.toNat ≠ ss.toNat := fun e => h (UInt64.toNat.inj e)
    omega

/-- The check of `CollapseSnapshotDevice` that the snapshot is sector aligned. Reference:
`snapshot.cpp:973`. -/
theorem snapshot_sectors_mul : ss / kSectorSize * kSectorSize = ss := by
  obtain ⟨e₁, e₂, e₃, e₄⟩ := sector_toNat_facts h₁ h₂ h₃
  refine UInt64.toNat.inj ?_
  rw [show (ss / kSectorSize * kSectorSize).toNat = (ss / kSectorSize).toNat * 512 % 2 ^ 64 from
    BitVec.toNat_mul _ _, UInt64.toNat_div]
  exact (by omega : ss.toNat / 512 * 512 % 2 ^ 64 = ss.toNat)

end Sectors

/-! ## The tables of `MapSnapshot` -/

section MapSnapshot

variable {o : Oracle} {s : Sys}

/-- The storage mode of a global state in which `MapSnapshot` maps. Reference:
`snapshot.cpp:362`. -/
theorem storageModeFor_isSome {state : UpdateState}
    (h : state ≠ .MergeCompleted ∧ state ≠ .MergeNeedsReboot) :
    ∃ mode, storageModeFor state = some mode := by
  cases state <;> simp_all [storageModeFor]

/-- Take a status `MapSnapshot` accepts: whole sectors, the snapshotted part no larger than the
device, not merged, and a global state that is not past the merge. When every call succeeds, with no
timeout or every wait within it, and the names `P` and `P-inner` are free, `MapSnapshot` returns
`true` and leaves the snapshot target of `snapshot_size / 512` sectors active on exactly the device
`GetSnapshotDeviceName(name, status)`, the device the merge later queries. The device `name` reads
its first `snapshot_size / 512` sectors through that target and the rest, up to `device_size / 512`,
from `base_device` at the same sector; when the two names differ, its table passes every check of
`CollapseSnapshotDevice`. Reference: `snapshot.cpp:301`, `snapshot.cpp:1714`, `snapshot.cpp:949`. -/
theorem mapSnapshot_exposes_snapshot {lock : LockedFile} {name base_device cow_device : String}
    {status : SnapshotStatus} {timeout_ms : Int}
    (hstatus : (lookup s.records name).bind parseStatusLine = some status)
    (hstate : status.state ≠ .MergeCompleted) (h₁ : status.device_size % kSectorSize = 0)
    (h₂ : status.snapshot_size % kSectorSize = 0) (h₃ : status.snapshot_size ≤ status.device_size)
    (hglobal : s.updateState ≠ .MergeCompleted ∧ s.updateState ≠ .MergeNeedsReboot)
    (hname : DmName name) (hinner : DmName (getSnapshotExtraDeviceName name))
    (hfree : lookup s.devices name = none)
    (hfree' : lookup s.devices (getSnapshotExtraDeviceName name) = none)
    (htime : timeout_ms ≤ 0 ∨ ∀ k, (o.wait k : Int) ≤ timeout_ms) :
    Sure o s (mapSnapshot lock name base_device cow_device timeout_ms) fun r t =>
      r.1 = true ∧ ∃ mode, storageModeFor s.updateState = some mode ∧
        (∀ k, (t.tableOf (getSnapshotDeviceName name status)).bind (backingOf · k) =
          if k < (status.snapshot_size / kSectorSize).toNat then
            some (.snapshot base_device cow_device mode k)
          else none) ∧
        (∀ k, (t.tableOf name).bind (backingOf · k) =
          if k < (status.snapshot_size / kSectorSize).toNat then
            some (if getSnapshotDeviceName name status = name then
              .snapshot base_device cow_device mode k
            else .device (getSnapshotDeviceName name status) k)
          else if k < (status.device_size / kSectorSize).toNat then some (.device base_device k)
          else none) ∧
        (getSnapshotDeviceName name status ≠ name → ∃ t₀ t₁, t.tableOf name = some [t₀, t₁] ∧
          getTargetType t₀ = "linear" ∧ getTargetType t₁ = "linear" ∧
          t₀.length = (status.snapshot_size / kSectorSize).toNat ∧
          (status.device_size / kSectorSize).toNat = t₀.length + t₁.length ∧
          status.snapshot_size / kSectorSize * kSectorSize = status.snapshot_size) := by
  obtain ⟨mode, hmode⟩ := storageModeFor_isSome hglobal
  have hc : ¬(status.device_size % kSectorSize ≠ 0 ∨ status.snapshot_size % kSectorSize ≠ 0 ∨
      status.snapshot_size > status.device_size) := by
    simp only [ne_eq, gt_iff_lt, not_or, not_not, UInt64.not_lt]
    exact ⟨h₁, h₂, h₃⟩
  refine (mapSnapshot_sure hstatus hstate hname hinner hfree hfree' htime).mono fun r t h => ?_
  rw [snapshotPlan, if_neg hc, hmode, Option.map_some'] at h
  obtain ⟨hr, rfl⟩ := h
  refine ⟨hr, mode, hmode, ?_⟩
  have hpos := linear_sectors_pos_iff h₁ h₂ h₃
  have hadd := sectors_add h₁ h₂ h₃
  have hne : getSnapshotExtraDeviceName name ≠ name := (ne_stackName (by decide)).symm
  by_cases hlin : ((status.device_size - status.snapshot_size) / kSectorSize).toNat > 0
  · have hsnap : getSnapshotDeviceName name status = getSnapshotExtraDeviceName name :=
      if_pos (hpos.mp hlin)
    simp only [if_pos hlin, hsnap, Sys.tableOf, Sys.lookup_addDevices, lookup, if_neg hne,
      if_neg hne.symm, if_true, Option.map_some', Option.or_some, mappedDevice, Option.some_bind]
    refine ⟨fun k => backingOf_snapshot _ _ _ _ _ k, fun k => ?_, fun _ =>
      ⟨_, _, rfl, rfl, rfl, rfl, hadd.symm, snapshot_sectors_mul h₁ h₂ h₃⟩⟩
    simp only [backingOf_outer, hadd, if_neg hne]
  · have heq : status.device_size = status.snapshot_size := not_not.mp (mt hpos.mpr hlin)
    have hsnap : getSnapshotDeviceName name status = name := if_neg (not_not.mpr heq)
    rw [heq] at hlin
    simp only [heq, if_neg hlin, hsnap, Sys.tableOf, Sys.lookup_addDevices, lookup, if_true,
      Option.map_some', Option.or_some, mappedDevice, Option.some_bind, heq]
    refine ⟨fun k => backingOf_snapshot _ _ _ _ _ k, fun k => ?_, fun h => absurd rfl h⟩
    simp only [backingOf_snapshot, if_true]
    split_ifs <;> rfl

/-- `MapSnapshot` of `system_b` in `snapshotWorld`, whose status file holds `liveStatus` and whose
update is `Unverified`, with no device mapped. Reference: `snapshot.cpp:301`. -/
theorem snapshotWorld_exposes_snapshot :
    (lookup (snapshotWorld {}).sys.records "system_b").bind parseStatusLine = some liveStatus ∧
    liveStatus.state ≠ .MergeCompleted ∧ liveStatus.device_size % kSectorSize = 0 ∧
    liveStatus.snapshot_size % kSectorSize = 0 ∧ liveStatus.snapshot_size ≤ liveStatus.device_size ∧
    ((snapshotWorld {}).sys.updateState ≠ .MergeCompleted ∧
      (snapshotWorld {}).sys.updateState ≠ .MergeNeedsReboot) ∧
    DmName "system_b" ∧ DmName (getSnapshotExtraDeviceName "system_b") ∧
    Sure {} (snapshotWorld {}).sys (mapSnapshot ⟨"", .exclusive⟩ "system_b" "system_b-base"
        "system_b-cow-img" 0) fun r t =>
      r.1 = true ∧ ∃ mode, storageModeFor (snapshotWorld {}).sys.updateState = some mode ∧
        (∀ k, (t.tableOf (getSnapshotDeviceName "system_b" liveStatus)).bind (backingOf · k) =
          if k < (liveStatus.snapshot_size / kSectorSize).toNat then
            some (.snapshot "system_b-base" "system_b-cow-img" mode k)
          else none) ∧
        (∀ k, (t.tableOf "system_b").bind (backingOf · k) =
          if k < (liveStatus.snapshot_size / kSectorSize).toNat then
            some (if getSnapshotDeviceName "system_b" liveStatus = "system_b" then
              .snapshot "system_b-base" "system_b-cow-img" mode k
            else .device (getSnapshotDeviceName "system_b" liveStatus) k)
          else if k < (liveStatus.device_size / kSectorSize).toNat then
            some (.device "system_b-base" k)
          else none) ∧
        (getSnapshotDeviceName "system_b" liveStatus ≠ "system_b" → ∃ t₀ t₁,
          t.tableOf "system_b" = some [t₀, t₁] ∧
          getTargetType t₀ = "linear" ∧ getTargetType t₁ = "linear" ∧
          t₀.length = (liveStatus.snapshot_size / kSectorSize).toNat ∧
          (liveStatus.device_size / kSectorSize).toNat = t₀.length + t₁.length ∧
          liveStatus.snapshot_size / kSectorSize * kSectorSize = liveStatus.snapshot_size) :=
  have hstatus : (lookup (snapshotWorld {}).sys.records "system_b").bind parseStatusLine =
      some liveStatus := by
    simpa [snapshotWorld, lookup] using parseStatusLine_of_split (split_statusLine liveStatus)
  have hglobal : (snapshotWorld {}).sys.updateState ≠ .MergeCompleted ∧
      (snapshotWorld {}).sys.updateState ≠ .MergeNeedsReboot := by decide
  have hname : DmName "system_b" := by decide
  have hinner : DmName (getSnapshotExtraDeviceName "system_b") := by decide
  ⟨hstatus, by decide, by decide, by decide, by decide, hglobal, hname, hinner,
    mapSnapshot_exposes_snapshot hstatus (by decide) (by decide) (by decide) (by decide) hglobal
      hname hinner rfl rfl (.inl le_rfl)⟩

end MapSnapshot

end LibSnapshot
