import LibSnapshot.Proof.Faultless

/-!
# Starting the merge when every call succeeds

`InitiateMerge` (`snapshot.cpp:487`) is the update's point of no return: from `Unverified`,
booted into the new slot, with every snapshot mapped, it writes `Merging` and switches every
snapshot device to a `snapshot-merge` target (`SwitchSnapshotToMerge`, `snapshot.cpp:555`),
writing `MergeFailed` if one could not be switched.

`switchMerge` says what a switch does to the system: the snapshot's device gets the
`snapshot-merge` target over the same base and COW devices and sectors (`mergeTable`), and its
status file records `Merging` with the kernel's counters. A switch reads and changes only the
names of its own snapshot's stack, and snapshots named with a slot suffix have disjoint stacks, so
the loop's effect is that of every switch made on the system the loop started from
(`switchAll_sure`).

`initiateMerge_switches_every_snapshot`: when every call succeeds, `InitiateMerge` starts the merge
exactly when the system is ready for it (`MergeReady`), and then leaves the system that the
switches of all snapshots and the state write describe; otherwise it changes nothing.
-/

namespace LibSnapshot

open SM DeviceMapper SnapshotManager

/-! ## Operations confined to one snapshot's stack -/

/-- `f s name` changes only what `name`'s stack holds (`stackNames`), as a function of what the
stack held, the live slot and the metadata. -/
structure StackLocal (f : Sys → String → Sys) : Prop where
  outside : ∀ (s : Sys) (name : String), s.Outside (· ∈ stackNames name) (f s name)
  here : ∀ {s t : Sys} {name : String}, s.AgreeOn (· ∈ stackNames name) t →
    ∀ n ∈ stackNames name, (f s name).entry n = (f t name).entry n

/-- `g s name` reads only what `name`'s stack holds, the live slot and the metadata. -/
def StackRead {α : Type} (g : Sys → String → α) : Prop :=
  ∀ {s t : Sys} {name : String}, s.AgreeOn (· ∈ stackNames name) t → g s name = g t name

namespace StackLocal

variable {α : Type} {f : Sys → String → Sys} {s t : Sys} {name : String}

/-- A stack-local operation keeps two systems that agree on the stack agreeing there. Reference:
none. -/
theorem agreeOn (hf : StackLocal f) (h : s.AgreeOn (· ∈ stackNames name) t) :
    (f s name).AgreeOn (· ∈ stackNames name) (f t name) :=
  ⟨(hf.outside s name).slot.trans (h.slot.trans (hf.outside t name).slot.symm),
    (hf.outside s name).metadata.trans (h.metadata.trans (hf.outside t name).metadata.symm),
    hf.here h⟩

/-- A stack-local operation keeps equivalent systems equivalent. Reference: none. -/
theorem equiv (hf : StackLocal f) (h : s.Equiv t) : (f s name).Equiv (f t name) :=
  h.of_agreeOn (hf.agreeOn h.agreeOn.symm).symm (hf.outside s name) (hf.outside t name)

/-- A stack-local operation over a list of snapshots keeps equivalent systems equivalent. Reference:
none. -/
theorem foldl_equiv (hf : StackLocal f) :
    ∀ (names : List String) {s t : Sys}, s.Equiv t → (names.foldl f s).Equiv (names.foldl f t)
  | [], _, _, h => h
  | _ :: rest, _, _, h => hf.foldl_equiv rest (hf.equiv h)

/-- An operation on one snapshot does not change what a reading of a separate one finds. Reference:
none. -/
theorem read_separate {g : Sys → String → α} (hf : StackLocal f) (hg : StackRead g)
    {other : String} (hsep : Separate name other) : g (f s name) other = g s other :=
  (hg ((Sys.AgreeOn.refl s).outside (hf.outside s name) fun _ h h' => hsep _ h' h)).symm

/-- An operation that picks, by a reading of the stack, one of several stack-local operations.
Reference: none. -/
theorem select {β : Type} {g : Sys → String → β} {F : β → Sys → String → Sys} (hg : StackRead g)
    (hF : ∀ b, StackLocal (F b)) : StackLocal fun s name => F (g s name) s name :=
  ⟨fun s name => (hF _).outside s name, fun h n hn => by rw [hg h]; exact (hF _).here h n hn⟩

end StackLocal

/-- Snapshots named with a slot suffix, each once, have pairwise disjoint stacks. Reference:
none. -/
theorem suffixed_pairwise_separate {names : List String} (hnodup : names.Nodup)
    (hnames : ∀ n ∈ names, ∃ p, ∃ suffix ∈ ["_a", "_b"], n = p ++ suffix) :
    names.Pairwise Separate :=
  hnodup.pairwise_of_forall_ne fun a ha b hb hab => by
    obtain ⟨p, u, hu, rfl⟩ := hnames a ha
    obtain ⟨q, v, hv, rfl⟩ := hnames b hb
    exact stackNames_separate ⟨p, rfl⟩ ⟨q, rfl⟩ hu hv hab

/-! ## What a switch does -/

/-- The table `RewriteSnapshotDeviceTable` (`snapshot.cpp:585`) loads into a device holding a
single `snapshot` target: a `snapshot-merge` target over the same base and COW devices and the
same sectors. -/
def mergeTable (d : Device) : Option (List DmTarget) :=
  match d.table with
  | [old] => if getTargetType old ≠ "snapshot" then none else
      (getDevicesFromParams old).map fun (base_device, cow_device) =>
        [⟨0, old.length, .snapshot base_device cow_device .Merge kSnapshotChunkSize⟩]
  | _ => none

/-- What `SwitchSnapshotToMerge(name)` switches: the snapshot's status, its device and the
device's merge table, when the status file parses and the device holds a single `snapshot`
target. -/
def switchTarget (s : Sys) (name : String) : Option (SnapshotStatus × Device × List DmTarget) :=
  ((lookup s.records name).bind parseStatusLine).bind fun status =>
    (lookup s.devices (getSnapshotDeviceName name status)).bind fun d =>
      (mergeTable d).map fun table => (status, d, table)

/-- `name` switched to a merge target: its device holds the merge table, and its status file is
overwritten with the status in state `Merging` and the kernel's counters, or with `junk`, what the
code reads from counters it never set when the kernel gives none. A snapshot that cannot be
switched is left as it was. -/
def switchMerge (junk : UInt64 × UInt64) (s : Sys) (name : String) : Sys :=
  match switchTarget s name with
  | none => s
  | some (status, d, table) =>
    { s with
      devices := (insert s.devices (getSnapshotDeviceName name status)
        { d with table := table, inactive := none })
      records := (insert s.records name (overwrite (lookup s.records name) (statusLine
        { status with state := .Merging, sectors_allocated := (d.status.getD junk).1,
                      metadata_sectors := (d.status.getD junk).2 }))) }

/-! ## A switch stays within its snapshot's stack -/

section Stack

variable {junk : UInt64 × UInt64} {s t : Sys} {name : String}

/-- What a switch of `name` switches depends only on `name`'s stack. Reference:
`snapshot.cpp:555`. -/
theorem switchTarget_congr (h : s.AgreeOn (· ∈ stackNames name) t) :
    switchTarget s name = switchTarget t name := by
  simp only [switchTarget, h.records ((mem_stackNames name).1)]
  cases (lookup t.records name).bind parseStatusLine with
  | none => rfl
  | some status => simp only [Option.some_bind, h.devices (getSnapshotDeviceName_mem name status)]

/-- A switch of `name` changes nothing outside `name`'s stack. Reference: `snapshot.cpp:555`. -/
theorem switchMerge_outside (junk : UInt64 × UInt64) (s : Sys) (name : String) :
    s.Outside (· ∈ stackNames name) (switchMerge junk s name) := by
  unfold switchMerge
  split
  · exact .refl s
  · rename_i status d table _
    refine ⟨rfl, fun n hn => ?_⟩
    have h₁ : getSnapshotDeviceName name status ≠ n := fun e =>
      hn (e ▸ getSnapshotDeviceName_mem name status)
    have h₂ : name ≠ n := fun e => hn (e ▸ (mem_stackNames name).1)
    simp only [Sys.entry, lookup_insert, if_neg h₁, if_neg h₂]

/-- On `name`'s stack, a switch's result depends only on what the stack held. Reference:
`snapshot.cpp:555`. -/
theorem switchMerge_here (junk : UInt64 × UInt64) (h : s.AgreeOn (· ∈ stackNames name) t) :
    ∀ n ∈ stackNames name, (switchMerge junk s name).entry n = (switchMerge junk t name).entry n := by
  intro n hn
  have hentry := h.entry n hn
  simp only [Sys.entry, Prod.mk.injEq] at hentry ⊢
  unfold switchMerge
  rw [switchTarget_congr h]
  split
  · exact ⟨hentry.1, hentry.2.1, hentry.2.2⟩
  · simp only [lookup_insert, h.records ((mem_stackNames name).1)]
    split_ifs <;> simp only [hentry, and_self]

/-- A switch is stack-local. Reference: `snapshot.cpp:555`. -/
theorem switchMerge_stackLocal (junk : UInt64 × UInt64) : StackLocal (switchMerge junk) :=
  ⟨switchMerge_outside junk, switchMerge_here junk⟩

/-- The switches leave the state file alone. Reference: none. -/
theorem foldl_switchMerge_setState (junk : UInt64 × UInt64) (c : String) :
    ∀ (snapshots : List String) (s : Sys),
      snapshots.foldl (switchMerge junk) { s with state := c } =
        { snapshots.foldl (switchMerge junk) s with state := c }
  | [], _ => rfl
  | name :: rest, s => by
    have hs : switchTarget { s with state := c } name = switchTarget s name := rfl
    have h : switchMerge junk { s with state := c } name = { switchMerge junk s name with state := c } := by
      simp only [switchMerge, hs]
      split <;> rfl
    simp only [List.foldl_cons, h, foldl_switchMerge_setState junk c rest]

end Stack

/-! ## The switch and its loop -/

section Run

variable {o : Oracle} {s : Sys}

/-- After the rewrite, `QuerySnapshotStatus` finds the `snapshot-merge` target with the counters the
kernel gives for the device. Reference: `snapshot.cpp:661`. -/
theorem snapshotStatusOf_mergeTable {d : Device} {table : List DmTarget}
    (h : mergeTable d = some table) :
    snapshotStatusOf (some { d with table := table, inactive := none }) =
      d.status.map fun c => ("snapshot-merge", c.1, c.2) := by
  unfold mergeTable at h
  split at h
  · split at h
    · exact absurd h Option.noConfusion
    · obtain ⟨⟨base_device, cow_device⟩, -, rfl⟩ := Option.map_eq_some'.1 h
      cases d.status <;> rfl
  · exact absurd h Option.noConfusion

/-- A faultless `RewriteSnapshotDeviceTable` of a device with a single `snapshot` target loads its
merge table. Reference: `snapshot.cpp:585`. -/
theorem rewriteSnapshotDeviceTable_sure {dm_name : String} {d : Device} {table : List DmTarget}
    (hd : lookup s.devices dm_name = some d) (ht : mergeTable d = some table) :
    Sure o s (rewriteSnapshotDeviceTable dm_name) fun r t => r = true ∧
      t = { s with devices := (insert (insert s.devices dm_name { d with inactive := some table })
        dm_name { d with table := table, inactive := none }) } := by
  refine (getTable_sure dm_name).bind_eq ?_
  obtain ⟨uuid, table₀, inactive, status⟩ := d
  unfold mergeTable at ht
  split at ht
  · rename_i old hold
    dsimp only at hold
    subst hold
    split at ht
    · exact absurd ht Option.noConfusion
    · rename_i htype
      obtain ⟨⟨base_device, cow_device⟩, hp, rfl⟩ := Option.map_eq_some'.1 ht
      simp only [hd, Option.map_some', List.map_cons, List.map_nil, htype, if_false, hp,
        SM.pure_bind]
      exact loadTableAndActivate_sure hd _
  · exact absurd ht Option.noConfusion

/-- `RewriteSnapshotDeviceTable` of a device without a merge table returns `false` and changes
nothing. Reference: `snapshot.cpp:585`. -/
theorem rewriteSnapshotDeviceTable_fails {dm_name : String}
    (h : (lookup s.devices dm_name).bind mergeTable = none) :
    Sure o s (rewriteSnapshotDeviceTable dm_name) fun r t => r = false ∧ t = s := by
  refine (getTable_sure dm_name).bind_eq ?_
  cases hd : lookup s.devices dm_name with
  | none => exact Sure.pure ⟨rfl, rfl⟩
  | some d =>
    rw [hd, Option.some_bind] at h
    unfold mergeTable at h
    simp only [Option.map_some']
    split at h
    · rename_i old hold
      simp only [hold, List.map_cons, List.map_nil]
      split at h
      · rw [if_pos ‹_›]
        exact Sure.pure ⟨rfl, rfl⟩
      · rw [if_neg ‹_›]
        rw [Option.map_eq_none'] at h
        simp only [h]
        exact Sure.pure ⟨rfl, rfl⟩
    · rename_i hne
      cases hl : d.table with
      | nil => exact Sure.pure ⟨rfl, rfl⟩
      | cons t l =>
        cases l with
        | nil => exact absurd hl (hne t)
        | cons t' l => exact Sure.pure ⟨rfl, rfl⟩

/-- A faultless `SwitchSnapshotToMerge` succeeds exactly when the snapshot can be switched, and
leaves the switched system. Reference: `snapshot.cpp:555`. -/
theorem switchSnapshotToMerge_sure {lock : LockedFile} (hlock : lock.lock_mode = .exclusive)
    (name : String) :
    Sure o s (switchSnapshotToMerge lock name) fun r t =>
      r = (switchTarget s name).isSome ∧ t.Equiv (switchMerge o.junk s name) := by
  refine (readSnapshotStatus_sure lock name).bind_eq ?_
  cases hst : (lookup s.records name).bind parseStatusLine with
  | none =>
    have h : switchTarget s name = none := by simp only [switchTarget, hst, Option.none_bind]
    exact Sure.pure ⟨by rw [h]; rfl, by simp only [switchMerge, h]; exact .refl s⟩
  | some status =>
    dsimp only
    cases hm : (lookup s.devices (getSnapshotDeviceName name status)).bind mergeTable with
    | none =>
      have h : switchTarget s name = none := by
        simp only [switchTarget, hst, Option.some_bind]
        cases hd : lookup s.devices (getSnapshotDeviceName name status) with
        | none => rfl
        | some d => simp only [hd, Option.some_bind] at hm; simp only [Option.some_bind, hm, Option.map_none']
      refine (rewriteSnapshotDeviceTable_fails hm).bind_eq ?_
      exact Sure.pure ⟨by rw [h]; rfl, by simp only [switchMerge, h]; exact .refl s⟩
    | some table =>
      obtain ⟨d, hd, hmt⟩ := Option.bind_eq_some.1 hm
      have h : switchTarget s name = some (status, d, table) := by
        simp only [switchTarget, hst, hd, hmt, Option.some_bind, Option.map_some']
      have hrec : (lookup s.records name).isSome := by
        cases hr : lookup s.records name
        · simp only [hr, Option.none_bind, reduceCtorEq] at hst
        · rfl
      refine (rewriteSnapshotDeviceTable_sure hd hmt).bind_eq ?_
      simp only [Bool.not_true, Bool.false_eq_true, if_false, SM.pure_bind]
      refine Sure.get.bind fun a t ⟨ha, hts⟩ => hts ▸ ?_
      refine (querySnapshotStatus_sure _).bind_eq ?_
      refine ((writeSnapshotStatus_sure hlock name _).bind fun _ t ht => Sure.pure ⟨?_, ?_⟩)
      · rw [h]; rfl
      · rw [ht.2]
        simp only [lookup_insert, if_true, snapshotStatusOf_mergeTable hmt, ha, switchMerge, h,
          FileOp.apply, hrec]
        cases d.status <;> refine ⟨rfl, fun n _ => ?_⟩ <;>
          simp only [Sys.entry, lookup_insert] <;> split_ifs <;> rfl

/-- The faultless check loop of `InitiateMerge` says whether every snapshot device exists.
Reference: `snapshot.cpp:516`. -/
theorem allMapped_sure : ∀ snapshots : List String,
    Sure o s (allMapped snapshots) fun r t =>
      r = snapshots.all (fun n => (lookup s.devices n).isSome) ∧ t = s
  | [] => Sure.pure ⟨rfl, rfl⟩
  | n :: rest => by
    refine (getState_sure n).bind_eq ?_
    cases hd : lookup s.devices n with
    | none => exact Sure.pure ⟨by simp [hd], rfl⟩
    | some d =>
      rw [if_neg (by rw [stateOf_eq_invalid]; exact Option.noConfusion)]
      simp only [SM.pure_bind]
      exact (allMapped_sure rest).mono fun r t h => ⟨by simp [h.1, hd], h.2⟩

/-- The loop of switches, over snapshots with disjoint stacks, switches each one as it was when the
loop began. Reference: `snapshot.cpp:534`. -/
theorem switchAll_sure {lock : LockedFile} (hlock : lock.lock_mode = .exclusive) :
    ∀ (snapshots : List String) (s : Sys), snapshots.Pairwise Separate →
      Sure o s (switchAll lock snapshots) fun r t =>
        r = snapshots.all (fun n => (switchTarget s n).isSome) ∧
          t.Equiv (snapshots.foldl (switchMerge o.junk) s)
  | [], _, _ => Sure.pure ⟨rfl, .refl _⟩
  | n :: rest, s, hsep => by
    obtain ⟨hn, hrest⟩ := List.pairwise_cons.1 hsep
    refine (switchSnapshotToMerge_sure hlock n).bind fun ok t₁ ⟨hok, ht₁⟩ =>
      (switchAll_sure hlock rest t₁ hrest).bind fun r t₂ ⟨hr, ht₂⟩ => Sure.pure ⟨?_, ?_⟩
    · have hfind : ∀ m ∈ rest, switchTarget t₁ m = switchTarget s m := fun m hm =>
        (switchTarget_congr ht₁.agreeOn.symm).symm.trans
          ((switchMerge_stackLocal o.junk).read_separate switchTarget_congr (hn m hm))
      simp only [List.all_cons, hok, hr]
      congr 1
      rw [Bool.eq_iff_iff, List.all_eq_true, List.all_eq_true]
      exact forall₂_congr fun m hm => by rw [hfind m hm]
    · exact ht₂.trans ((switchMerge_stackLocal o.junk).foldl_equiv rest ht₁.symm).symm

end Run

/-! ## `InitiateMerge` -/

/-- What `InitiateMerge` checks before its point of no return: the update is `Unverified`, the
boot indicator names a slot other than the live one, and every snapshot is mapped. -/
def MergeReady (s : Sys) : Prop :=
  s.updateState = .Unverified ∧ (∃ old_slot, s.indicator = some old_slot ∧ s.slot ≠ old_slot) ∧
    ∀ n ∈ keys s.records, (lookup s.devices n).isSome

/-- The system `InitiateMerge` leaves when it starts the merge: every snapshot switched, and the
state `Merging`, or `MergeFailed` if one could not be switched. -/
def mergeStarted (junk : UInt64 × UInt64) (s : Sys) : Sys :=
  { (keys s.records).foldl (switchMerge junk) s with
    state := if (keys s.records).all (fun n => (switchTarget s n).isSome) then
      UpdateState.Merging.toString else UpdateState.MergeFailed.toString }

/-- When every call succeeds, `InitiateMerge` on a system whose snapshots are named with a slot
suffix starts the merge exactly when the system is ready for it: it then returns `true` and leaves
every snapshot switched to a merge target, as it was before the call, and the state `Merging`, or
`MergeFailed` if some snapshot could not be switched; otherwise it returns `false` and changes
nothing. Reference: `snapshot.cpp:487`. -/
theorem initiateMerge_switches_every_snapshot {o : Oracle} {s : Sys}
    (hnodup : (keys s.records).Nodup)
    (hnames : ∀ n ∈ keys s.records, ∃ p, ∃ suffix ∈ ["_a", "_b"], n = p ++ suffix) :
    Sure o s initiateMerge fun r t =>
      (MergeReady s → r = true ∧ t.Equiv (mergeStarted o.junk s)) ∧
        (¬MergeReady s → r = false ∧ t = s) := by
  have hsep := suffixed_pairwise_separate hnodup hnames
  have unready : ¬MergeReady s → Sure o s (Pure.pure false : SM Bool) fun r t =>
      (MergeReady s → r = true ∧ t.Equiv (mergeStarted o.junk s)) ∧
        (¬MergeReady s → r = false ∧ t = s) :=
    fun h => Sure.pure ⟨fun h' => absurd h' h, fun _ => ⟨rfl, rfl⟩⟩
  refine locked_sure lockExclusive_sure ?_
  refine (readUpdateState_sure _).bind_eq ?_
  by_cases hst : s.updateState = .Unverified
  swap
  · rw [if_pos hst]
    exact unready fun h => hst h.1
  rw [if_neg (not_not.2 hst)]
  simp only [SM.pure_bind]
  refine readBootIndicator_sure.bind_eq ?_
  cases hi : s.indicator with
  | none =>
    exact unready fun ⟨_, ⟨_, h, _⟩, _⟩ => Option.noConfusion (hi.symm.trans h)
  | some old_slot =>
    refine Sure.sys.bind_eq ?_
    by_cases hslot : s.slot = old_slot
    · rw [if_pos hslot]
      exact unready fun ⟨_, ⟨_, h, h'⟩, _⟩ => h' (hslot.trans (Option.some.inj (hi.symm.trans h)))
    rw [if_neg hslot]
    refine (listSnapshots_sure _).bind_eq ((allMapped_sure _).bind_eq ?_)
    by_cases hmapped : (keys s.records).all (fun n => (lookup s.devices n).isSome) = true
    swap
    · rw [if_pos (by simpa using hmapped)]
      exact unready fun ⟨_, _, h⟩ => hmapped (List.all_eq_true.2 h)
    have hready : MergeReady s := ⟨hst, ⟨old_slot, hi, hslot⟩, List.all_eq_true.1 hmapped⟩
    rw [if_neg (by simp [hmapped])]
    refine (writeUpdateState_sure _ (by decide)).bind_eq ?_
    simp only [Bool.not_true, Bool.false_eq_true, if_false]
    refine (switchAll_sure rfl _ _ hsep).bind fun r t ⟨hr, ht⟩ => ?_
    have hall : (keys s.records).all (fun n => (switchTarget s n).isSome) = r := hr.symm
    rw [foldl_switchMerge_setState] at ht
    cases r with
    | true =>
      refine Sure.pure ⟨fun _ => ⟨rfl, ?_⟩, fun h => absurd hready h⟩
      rwa [mergeStarted, hall, if_pos rfl]
    | false =>
      refine (writeUpdateState_sure _ (by decide)).bind_eq
        (Sure.pure ⟨fun _ => ⟨rfl, ?_⟩, fun h => absurd hready h⟩)
      rw [mergeStarted, hall, if_neg Bool.false_ne_true]
      exact ht.setState _

/-- The status of a 4 KiB snapshot of `system_b` whose COW is an image. -/
def bootedStatus : SnapshotStatus :=
  { state := .Created, device_size := 4096, snapshot_size := 4096, cow_file_size := 4096 }

/-- An update booted into its new slot `_b`, with one snapshot, `system_b`, mapped. -/
def bootedUpdate : Sys :=
  { state := "unverified", indicator := some "_a", slot := "_b",
    records := [("system_b", statusLine bootedStatus)],
    devices := [("system_b", { table := [⟨0, 8, .snapshot "system_b-base" "system_b-cow" .Persistent 8⟩] })] }

/-- On `bootedUpdate`, whose one snapshot carries a slot suffix, a faultless `InitiateMerge` starts
the merge as `MergeReady` says. Reference: `snapshot.cpp:487`. -/
theorem bootedUpdate_merge_starts :
    (keys bootedUpdate.records).Nodup ∧
    (∀ n ∈ keys bootedUpdate.records, ∃ p, ∃ suffix ∈ ["_a", "_b"], n = p ++ suffix) ∧
    Sure {} bootedUpdate initiateMerge fun r t =>
      (MergeReady bootedUpdate → r = true ∧ t.Equiv (mergeStarted ({} : Oracle).junk bootedUpdate)) ∧
        (¬MergeReady bootedUpdate → r = false ∧ t = bootedUpdate) :=
  have hnames : ∀ n ∈ keys bootedUpdate.records, ∃ p, ∃ suffix ∈ ["_a", "_b"], n = p ++ suffix :=
    fun n hn => ⟨"system", "_b", by decide, by simpa [bootedUpdate, keys] using hn⟩
  ⟨by decide, hnames, initiateMerge_switches_every_snapshot (by decide) hnames⟩

end LibSnapshot