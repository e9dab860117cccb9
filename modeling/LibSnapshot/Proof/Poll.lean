import LibSnapshot.Proof.Stack
import LibSnapshot.Proof.Cleanup

/-!
# The merge poll does not depend on the directory's order

`CheckMergeState(lock)` (`snapshot.cpp:716`) checks the snapshots in the order in which
`ListSnapshots` (`snapshot.cpp:1130`) gets them from `readdir`, which is arbitrary, and
`CheckTargetMergeState` (`snapshot.cpp:805`) deletes status files, images and devices as it goes.

Its result is the highest per-snapshot result under the priority `Merging > MergeFailed >
MergeNeedsReboot > Cancelled > MergeCompleted` (`mergeResult`), and it writes `MergeNeedsReboot`
only when that is the result (`checkMergeStateLocked_eq_mergeResult`).

When every call succeeds (`World.Faultless`), the result and the system it leaves do not depend on
the order either:
* each check reads and changes only what the system holds under the names of its own snapshot's
  stack, `P`, `P-inner`, `P-cow`, `P-cow-img` and `P-base`, besides reading the live slot and the
  metadata (`checkTargetMergeState_local`). Run from two systems that agree there, it returns the
  same result, leaves them agreeing there and changes nothing else (`Local`);
* snapshots named with a slot suffix have disjoint stacks (`stackNames_separate`), so two checks
  commute (`Local.comm`), and the loop gives the same flags and the same system for every
  permutation of the snapshots (`checkEach_perm`).
A call that fails fails for whichever snapshot is checked at that step, so with failing calls the
order does matter.
-/

namespace LibSnapshot

open SM DeviceMapper SnapshotManager

/-! ## Worlds in which every call succeeds -/

/-- From `w` on every call succeeds, the file-system calls among them, and the power stays on. -/
def World.Faultless (w : World) : Prop := Reliable w.oracle ∧ w.Clean

namespace World.Faultless

variable {w w' : World}

/-- A faultless world stays so at every later step with the same oracle. Reference: none. -/
theorem later (h : w.Faultless) (ho : w'.oracle = w.oracle) (ht : w.tick ≤ w'.tick) :
    w'.Faultless :=
  ⟨ho ▸ h.1, h.2.later ho ht⟩

/-- In a faultless world an I/O call succeeds. Reference: none. -/
theorem ioCall (h : w.Faultless) : ioCall w = .ok true { w with tick := w.tick + 1 } := by
  simp only [ioCall_apply, if_neg (h.2 _ le_rfl).2, h.1 w.tick]

/-- In a faultless world a call of a collaborator succeeds. Reference: none. -/
theorem extCall (h : w.Faultless) : extCall w = .ok true { w with tick := w.tick + 1 } := by
  simp only [extCall_apply, if_neg (h.2 _ le_rfl).2, (h.2 _ le_rfl).1]

end World.Faultless

/-! ## Agreement on a set of names -/

/-- What the system holds under the name `n`: a status file, a backing image, a device. -/
def Sys.entry (s : Sys) (n : String) : Option String × Option UInt64 × Option Device :=
  (lookup s.records n, lookup s.images n, lookup s.devices n)

/-- The system without its three maps by name. -/
def Sys.shell (s : Sys) : Sys := { s with records := [], images := [], devices := [] }

/-- `s` and `t` agree on the names `F`, and on the live slot and the metadata, all that a check
reads of the rest of the system. -/
structure Sys.AgreeOn (F : String → Prop) (s t : Sys) : Prop where
  slot : s.slot = t.slot
  metadata : s.metadata = t.metadata
  entry : ∀ n, F n → s.entry n = t.entry n

/-- `s'` is `s` but for what it holds under the names `F`. -/
structure Sys.Outside (F : String → Prop) (s s' : Sys) : Prop where
  shell : s'.shell = s.shell
  entry : ∀ n, ¬F n → s'.entry n = s.entry n

/-- `s` and `t` hold the same, up to the order of their maps. -/
def Sys.Equiv (s t : Sys) : Prop := s.Outside (fun _ => False) t

namespace Sys

variable {F G : String → Prop} {s t s' t' u : Sys}

/-- Systems that agree on `F` hold the same status file under each name of `F`. Reference: none. -/
theorem AgreeOn.records (h : s.AgreeOn F t) {n : String} (hn : F n) :
    lookup s.records n = lookup t.records n :=
  congrArg Prod.fst (h.entry n hn)

/-- Systems that agree on `F` hold the same backing image under each name of `F`. Reference:
none. -/
theorem AgreeOn.images (h : s.AgreeOn F t) {n : String} (hn : F n) :
    lookup s.images n = lookup t.images n :=
  congrArg (·.2.1) (h.entry n hn)

/-- Systems that agree on `F` hold the same device under each name of `F`. Reference: none. -/
theorem AgreeOn.devices (h : s.AgreeOn F t) {n : String} (hn : F n) :
    lookup s.devices n = lookup t.devices n :=
  congrArg (·.2.2) (h.entry n hn)

/-- A system agrees with itself on every set of names. Reference: none. -/
theorem AgreeOn.refl (s : Sys) : s.AgreeOn F s := ⟨rfl, rfl, fun _ _ => rfl⟩

/-- A system differs from itself on no name. Reference: none. -/
theorem Outside.refl (s : Sys) : s.Outside F s := ⟨rfl, fun _ _ => rfl⟩

/-- Two changes within `F` make one. Reference: none. -/
theorem Outside.trans (h : s.Outside F s') (h' : s'.Outside F u) : s.Outside F u :=
  ⟨h'.shell.trans h.shell, fun n hn => (h'.entry n hn).trans (h.entry n hn)⟩

/-- A change within `F` is a change within any larger set. Reference: none. -/
theorem Outside.mono (h : s.Outside F s') (hFG : ∀ n, F n → G n) : s.Outside G s' :=
  ⟨h.shell, fun n hn => h.entry n fun h' => hn (hFG n h')⟩

/-- A change within a set of names keeps the live slot. Reference: none. -/
theorem Outside.slot (h : s.Outside F s') : s'.slot = s.slot := (congrArg Sys.slot h.shell :)

/-- A change within a set of names keeps the metadata. Reference: none. -/
theorem Outside.metadata (h : s.Outside F s') : s'.metadata = s.metadata :=
  (congrArg Sys.metadata h.shell :)

/-- Agreement on `G` survives two runs that each change only `F` and agree on `F`. Reference:
none. -/
theorem AgreeOn.of_outside (h' : s'.AgreeOn F t') (h : s.AgreeOn G t) (hs : s.Outside F s')
    (ht : t.Outside F t') : s'.AgreeOn G t' :=
  ⟨h'.slot, h'.metadata, fun n hn => by
    by_cases hF : F n
    · exact h'.entry n hF
    · rw [hs.entry n hF, ht.entry n hF, h.entry n hn]⟩

/-- A change outside `G` keeps an agreement on `F` that does not meet `G`. Reference: none. -/
theorem AgreeOn.outside (h : s.AgreeOn F t) (ht : t.Outside G t') (hFG : ∀ n, F n → ¬G n) :
    s.AgreeOn F t' :=
  ⟨h.slot.trans ht.slot.symm, h.metadata.trans ht.metadata.symm, fun n hn =>
    (h.entry n hn).trans (ht.entry n (hFG n hn)).symm⟩

/-- Agreement on `F` is symmetric. Reference: none. -/
theorem AgreeOn.symm (h : s.AgreeOn F t) : t.AgreeOn F s :=
  ⟨h.slot.symm, h.metadata.symm, fun n hn => (h.entry n hn).symm⟩

/-- A system is equivalent to itself. Reference: none. -/
theorem Equiv.refl (s : Sys) : s.Equiv s := Outside.refl s

/-- Equivalence of systems is symmetric. Reference: none. -/
theorem Equiv.symm (h : s.Equiv t) : t.Equiv s :=
  ⟨h.shell.symm, fun n hn => (h.entry n hn).symm⟩

/-- Equivalence of systems is transitive. Reference: none. -/
theorem Equiv.trans (h : s.Equiv t) (h' : t.Equiv u) : s.Equiv u := Outside.trans h h'

/-- Equivalent systems agree on every set of names. Reference: none. -/
theorem Equiv.agreeOn (h : s.Equiv t) : s.AgreeOn F t :=
  ⟨h.slot.symm, h.metadata.symm, fun n _ => (h.entry n id).symm⟩

/-- Two equivalent systems stay equivalent under two runs that each change only `F` and agree on
`F`. Reference: none. -/
theorem Equiv.of_agreeOn (h : s.Equiv t) (h' : s'.AgreeOn F t') (hs : s.Outside F s')
    (ht : t.Outside F t') : s'.Equiv t' :=
  ⟨by rw [ht.shell, hs.shell, h.shell], fun n _ =>
    ((h'.of_outside (h.agreeOn : s.AgreeOn (fun _ => True) t) hs ht).entry n trivial).symm⟩

end Sys

/-- `e` changes only what the system holds under `n`, as a function of what it held there. -/
structure Sys.Pointwise (n : String) (e : Sys → Sys) : Prop where
  shell : ∀ s, (e s).shell = s.shell
  other : ∀ s k, k ≠ n → (e s).entry k = s.entry k
  here : ∀ s t, s.entry n = t.entry n → (e s).entry n = (e t).entry n

namespace Sys.Pointwise

variable {F : String → Prop} {n : String} {e : Sys → Sys}

/-- A change at `n ∈ F` changes the system only within `F`. Reference: none. -/
theorem outside (h : Pointwise n e) (hn : F n) (s : Sys) : s.Outside F (e s) :=
  ⟨h.shell s, fun k hk => h.other s k fun hkn => hk (hkn ▸ hn)⟩

/-- A change at `n ∈ F` keeps two systems that agree on `F` agreeing there. Reference: none. -/
theorem agreeOn (h : Pointwise n e) (hn : F n) {s t : Sys} (hst : s.AgreeOn F t) :
    (e s).AgreeOn F (e t) :=
  ⟨((h.outside hn s).slot.trans hst.slot).trans (h.outside hn t).slot.symm,
    ((h.outside hn s).metadata.trans hst.metadata).trans (h.outside hn t).metadata.symm,
    fun k hk => by
      by_cases hkn : k = n
      · subst hkn
        exact h.here s t (hst.entry k hk)
      · rw [h.other s k hkn, h.other t k hkn]
        exact hst.entry k hk⟩

/-- Setting the device `n` changes only what the system holds under `n`. Reference: none. -/
theorem setDevice (n : String) (d : Device) :
    Pointwise n fun s => { s with devices := insert s.devices n d } :=
  ⟨fun _ => rfl, fun _ k hk => by simp only [entry, lookup_insert, if_neg (Ne.symm hk)],
    fun s t h => by simp_all only [entry, Prod.mk.injEq, lookup_insert, if_true, and_true]⟩

/-- Erasing the device `n` changes only what the system holds under `n`. Reference: none. -/
theorem eraseDevice (n : String) :
    Pointwise n fun s => { s with devices := erase s.devices n } :=
  ⟨fun _ => rfl, fun _ k hk => by simp only [entry, lookup_erase, if_neg (Ne.symm hk)],
    fun s t h => by simp_all only [entry, Prod.mk.injEq, lookup_erase, if_true, and_true]⟩

/-- Creating the status file of `n` changes only what the system holds under `n`. Reference:
none. -/
theorem createStatus (n : String) : Pointwise n (FileOp.createStatus n).apply :=
  ⟨fun s => by simp only [FileOp.apply]; split <;> rfl,
    fun s k hk => by simp only [FileOp.apply]; split <;> simp only [entry, lookup_insert, if_neg (Ne.symm hk)],
    fun s t h => by
      simp only [entry, Prod.mk.injEq] at h
      simp only [FileOp.apply, h.1]
      split <;> simp only [entry, lookup_insert, if_true, h]⟩

/-- Writing the status file of `n` changes only what the system holds under `n`. Reference: none. -/
theorem writeStatus (n c : String) : Pointwise n (FileOp.writeStatus n c).apply :=
  ⟨fun _ => rfl, fun s k hk => by simp only [FileOp.apply, entry, lookup_insert, if_neg (Ne.symm hk)],
    fun s t h => by simp_all only [entry, Prod.mk.injEq, FileOp.apply, lookup_insert, if_true, and_true]⟩

/-- Removing the status file of `n` changes only what the system holds under `n`. Reference:
none. -/
theorem removeStatus (n : String) : Pointwise n (FileOp.removeStatus n).apply :=
  ⟨fun _ => rfl, fun s k hk => by simp only [FileOp.apply, entry, lookup_erase, if_neg (Ne.symm hk)],
    fun s t h => by simp_all only [entry, Prod.mk.injEq, FileOp.apply, lookup_erase, if_true, and_true]⟩

/-- Deleting the backing image `n` changes only what the system holds under `n`. Reference: none. -/
theorem deleteImage (n : String) : Pointwise n (FileOp.deleteImage n).apply :=
  ⟨fun _ => rfl, fun s k hk => by simp only [FileOp.apply, entry, lookup_erase, if_neg (Ne.symm hk)],
    fun s t h => by simp_all only [entry, Prod.mk.injEq, FileOp.apply, lookup_erase, if_true, true_and]⟩

end Sys.Pointwise

/-! ## Runs that stay within a set of names -/

/-- Run from two faultless worlds whose systems agree on `F`, `m` returns the same value in both,
in faultless worlds whose systems still agree on `F`, and changes neither system outside `F`. -/
structure Local {α : Type} (F : String → Prop) (m : SM α) : Prop where
  run : ∀ w₁ w₂, w₁.Faultless → w₂.Faultless → w₁.sys.AgreeOn F w₂.sys →
    ∃ a w₁' w₂', m w₁ = .ok a w₁' ∧ m w₂ = .ok a w₂' ∧ w₁'.Faultless ∧ w₂'.Faultless ∧
      w₁'.sys.AgreeOn F w₂'.sys ∧ w₁.sys.Outside F w₁'.sys ∧ w₂.sys.Outside F w₂'.sys

namespace Local

variable {α β : Type} {F G : String → Prop} {m : SM α}

/-- `pure a` is local. Reference: none. -/
theorem pure (a : α) : Local F (Pure.pure a : SM α) :=
  ⟨fun w₁ w₂ h₁ h₂ h => ⟨a, w₁, w₂, rfl, rfl, h₁, h₂, h, .refl _, .refl _⟩⟩

/-- A sequence of local code is local. Reference: none. -/
theorem bind {f : α → SM β} (hm : Local F m) (hf : ∀ a, Local F (f a)) : Local F (m >>= f) :=
  ⟨fun w₁ w₂ h₁ h₂ h => by
    obtain ⟨a, v₁, v₂, e₁, e₂, g₁, g₂, h', o₁, o₂⟩ := hm.run w₁ w₂ h₁ h₂ h
    obtain ⟨b, u₁, u₂, e₁', e₂', g₁', g₂', h'', o₁', o₂'⟩ := (hf a).run v₁ v₂ g₁ g₂ h'
    refine ⟨b, u₁, u₂, ?_, ?_, g₁', g₂', h'', o₁.trans o₁', o₂.trans o₂'⟩
    · rw [bind_apply, e₁]; exact e₁'
    · rw [bind_apply, e₂]; exact e₂'⟩

/-- An `if` whose branches are local is local. Reference: none. -/
theorem ite {c : Prop} [Decidable c] {a b : SM α} (ha : Local F a) (hb : Local F b) :
    Local F (if c then a else b) := by
  split
  · exact ha
  · exact hb

/-- `if c then return a` followed by more code, as `do` unfolds it. Reference: none. -/
theorem early {c : Prop} [Decidable c] {a : α} {rest : SM α} (hrest : Local F rest) :
    Local F (if c then Pure.pure a else (Pure.pure PUnit.unit >>= fun _ => rest)) :=
  ite (pure a) ((pure _).bind fun _ => hrest)

/-- A read of the system, followed by a program that is the same on systems that agree on `F`.
Reference: none. -/
theorem bind_sys {f : Sys → SM β} (hf : ∀ s t : Sys, s.AgreeOn F t → f s = f t)
    (h : ∀ s, Local F (f s)) : Local F (SM.sys >>= f) :=
  ⟨fun w₁ w₂ h₁ h₂ hst => by
    simp only [bind_apply, sys_apply]
    rw [hf _ _ hst]
    exact (h w₂.sys).run w₁ w₂ h₁ h₂ hst⟩

/-- A step that returns `v` of the system and changes it by `e`. Reference: none. -/
theorem step (v : Sys → α) (e : Sys → Sys)
    (hm : ∀ w, w.Faultless → ∃ w', m w = .ok (v w.sys) w' ∧ w'.oracle = w.oracle ∧
      w.tick ≤ w'.tick ∧ w'.sys = e w.sys)
    (hv : ∀ s t : Sys, s.AgreeOn F t → v s = v t)
    (he : ∀ s t : Sys, s.AgreeOn F t → (e s).AgreeOn F (e t)) (ho : ∀ s : Sys, s.Outside F (e s)) :
    Local F m :=
  ⟨fun w₁ w₂ h₁ h₂ h => by
    obtain ⟨w₁', e₁, o₁, t₁, s₁⟩ := hm w₁ h₁
    obtain ⟨w₂', e₂, o₂, t₂, s₂⟩ := hm w₂ h₂
    refine ⟨v w₁.sys, w₁', w₂', e₁, by rw [e₂, hv _ _ h], h₁.later o₁ t₁, h₂.later o₂ t₂, ?_, ?_, ?_⟩
    · rw [s₁, s₂]; exact he _ _ h
    · rw [s₁]; exact ho _
    · rw [s₂]; exact ho _⟩

/-- A step that returns `a` and leaves the system as it was. Reference: none. -/
theorem quiet (a : α) (hm : ∀ w, w.Faultless → ∃ w', m w = .ok a w' ∧ w'.oracle = w.oracle ∧
    w.tick ≤ w'.tick ∧ w'.sys = w.sys) : Local F m :=
  step (fun _ => a) id hm (fun _ _ _ => rfl) (fun _ _ h => h) Sys.Outside.refl

/-- A call of a collaborator is local. Reference: none. -/
theorem extCall : Local F SM.extCall :=
  quiet true fun _ h => ⟨_, h.extCall, rfl, Nat.le_succ _, rfl⟩

/-- An I/O call is local. Reference: none. -/
theorem ioCall : Local F SM.ioCall :=
  quiet true fun _ h => ⟨_, h.ioCall, rfl, Nat.le_succ _, rfl⟩

/-- A `CHECK` that passes is local. Reference: none. -/
theorem check {c : Bool} {condition : String} (hc : c = true) : Local F (CHECK c condition) :=
  quiet () fun w _ => ⟨w, by simp only [CHECK_apply, hc, if_true], rfl, le_rfl, rfl⟩

/-- A change of the kernel at a name of `F` is local to `F`. Reference: none. -/
theorem modify {n : String} {e : Sys → Sys} (he : Sys.Pointwise n e) (hn : F n) :
    Local F (modifySys e) :=
  step (fun _ => ()) e (fun w _ => ⟨_, modifySys_apply e w, rfl, le_rfl, rfl⟩) (fun _ _ _ => rfl)
    (fun _ _ => he.agreeOn hn) (he.outside hn)

/-- An effect at a name of `F` is local to `F`. Reference: none. -/
theorem effect {n : String} {op : FileOp} (he : Sys.Pointwise n op.apply) (hn : F n) :
    Local F (SM.effect op) :=
  step (fun _ => ()) op.apply (fun w _ => ⟨_, effect_apply op w, rfl, le_rfl, rfl⟩)
    (fun _ _ _ => rfl) (fun _ _ => he.agreeOn hn) (he.outside hn)

/-- A write at a name of `F` is local to `F`. Reference: none. -/
theorem persist {n : String} {op : FileOp} (he : Sys.Pointwise n op.apply) (hn : F n) :
    Local F (SM.persist op) :=
  ioCall.bind fun _ => ite ((effect he hn).bind fun _ => pure _) (pure _)

/-- A run local to `F` is local to any larger set. Reference: none. -/
theorem mono (h : Local F m) (hFG : ∀ n, F n → G n) : Local G m :=
  ⟨fun w₁ w₂ h₁ h₂ hst => by
    obtain ⟨a, w₁', w₂', e₁, e₂, g₁, g₂, h', o₁, o₂⟩ :=
      h.run w₁ w₂ h₁ h₂ ⟨hst.slot, hst.metadata, fun n hn => hst.entry n (hFG n hn)⟩
    exact ⟨a, w₁', w₂', e₁, e₂, g₁, g₂, h'.of_outside hst o₁ o₂, o₁.mono hFG, o₂.mono hFG⟩⟩

/-- From faultless worlds with equivalent systems, a local run returns the same value in worlds with
equivalent systems. Reference: none. -/
theorem equiv (h : Local F m) {w₁ w₂ : World} (h₁ : w₁.Faultless) (h₂ : w₂.Faultless)
    (he : w₁.sys.Equiv w₂.sys) : ∃ a w₁' w₂', m w₁ = .ok a w₁' ∧ m w₂ = .ok a w₂' ∧
      w₁'.Faultless ∧ w₂'.Faultless ∧ w₁'.sys.Equiv w₂'.sys := by
  obtain ⟨a, w₁', w₂', e₁, e₂, g₁, g₂, h', o₁, o₂⟩ := h.run w₁ w₂ h₁ h₂ he.agreeOn
  exact ⟨a, w₁', w₂', e₁, e₂, g₁, g₂, he.of_agreeOn h' o₁ o₂⟩

/-- Two local runs on disjoint names commute: from faultless worlds with equivalent systems, `m`
then `m'` and `m'` then `m` return the same values and end in equivalent systems. Reference:
none. -/
theorem comm {m' : SM β} (hm : Local F m) (hm' : Local G m') (hFG : ∀ n, F n → ¬G n)
    {w₁ w₂ : World} (h₁ : w₁.Faultless) (h₂ : w₂.Faultless) (he : w₁.sys.Equiv w₂.sys) :
    ∃ a b u₁ u₂ v₁ v₂, m w₁ = .ok a u₁ ∧ m' u₁ = .ok b v₁ ∧ m' w₂ = .ok b u₂ ∧
      m u₂ = .ok a v₂ ∧ v₁.Faultless ∧ v₂.Faultless ∧ v₁.sys.Equiv v₂.sys := by
  have hGF : ∀ n, G n → ¬F n := fun n hg hf => hFG n hf hg
  obtain ⟨b, u₂, -, e₂, -, g₂, -, -, o₂, -⟩ := hm'.run w₂ w₂ h₂ h₂ (.refl _)
  -- `m` finds on `F` the same before `m'` as after it
  obtain ⟨a, u₁, v₂, e₁, e₁', g₁, g₁', hF, o₁, o₁'⟩ :=
    hm.run w₁ u₂ h₁ g₂ (he.agreeOn.outside o₂ hFG)
  -- `m'` finds on `G` the same before `m` as after it
  obtain ⟨b', v₁, u₂', e₃, e₃', g₃, -, hG, o₃, -⟩ :=
    hm'.run u₁ w₂ g₁ h₂ (he.agreeOn.symm.outside o₁ hGF).symm
  rw [e₂] at e₃'
  cases e₃'
  refine ⟨a, b, u₁, u₂, v₁, v₂, e₁, e₃, e₂, e₁', g₃, g₁', ?_, fun n _ => ?_⟩
  · exact o₁'.shell.trans (o₂.shell.trans (he.shell.trans (o₁.shell.symm.trans o₃.shell.symm)))
  · by_cases hf : F n
    · rw [← hF.entry n hf, o₃.entry n (hFG n hf)]
    · by_cases hg : G n
      · rw [o₁'.entry n hf, hG.entry n hg]
      · rw [o₁'.entry n hf, o₂.entry n hg, o₃.entry n hg, o₁.entry n hf, he.entry n id]

end Local

/-! ## The calls of a check -/

section Calls

variable {F : String → Prop} {name : String}

/-- An ioctl of a device of `F` is local to `F`. Reference: none (each `ioctl` of `dm.cpp`). -/
theorem ioctl_local (hn : F name) : Local F (ioctl name) :=
  Local.extCall.bind fun _ => Local.bind_sys (fun _ _ h => by rw [h.devices hn]) fun _ => .pure _

/-- `DeviceMapper::GetState` of a device of `F` is local to `F`. Reference: `dm.cpp:169`. -/
theorem getState_local (hn : F name) : Local F (getState name) :=
  (ioctl_local hn).bind fun d => by cases d <;> exact .pure _

/-- `DeviceMapper::GetTable` of a device of `F` is local to `F`. Reference: `dm.cpp:417`. -/
theorem getTable_local (hn : F name) : Local F (getTable name) :=
  (ioctl_local hn).bind fun _ => .pure _

/-- `GetSingleTarget` of a device of `F` is local to `F`. Reference: `snapshot.cpp:620`. -/
theorem getSingleTarget_local (hn : F name) (query : TableQuery) :
    Local F (getSingleTarget name query) :=
  (getState_local hn).bind fun _ => Local.early <|
    (Local.ite (getTable_local hn) (getTable_local hn)).bind fun targets => by
      rcases targets with _ | targets
      · exact .pure _
      · dsimp only
        split <;> exact .pure _

/-- `IsSnapshotDevice` of a device of `F` is local to `F`. Reference: `snapshot.cpp:646`. -/
theorem isSnapshotDevice_local (hn : F name) : Local F (isSnapshotDevice name) :=
  (getSingleTarget_local hn _).bind fun o => by
    cases o <;> dsimp only
    · exact .pure _
    · exact .ite (.pure _) (.pure _)

/-- `QuerySnapshotStatus` of a device of `F` is local to `F`. Reference: `snapshot.cpp:661`. -/
theorem querySnapshotStatus_local (hn : F name) : Local F (querySnapshotStatus name) :=
  (isSnapshotDevice_local hn).bind fun o => by
    cases o <;> dsimp only
    · exact .pure _
    · split <;> exact .pure _

/-- Modelled from the spec: liblp's `ReadMetadata` reads only the metadata, so it is local to any
set. Reference: none. -/
theorem readMetadata_local (slot : String) : Local F (readMetadata slot) :=
  Local.extCall.bind fun _ => Local.bind_sys (fun _ _ h => by rw [h.metadata]) fun _ => .pure _

/-- `IsCancelledSnapshot` reads only the live slot and the metadata, so it is local to any set.
Reference: `snapshot.cpp:1078`. -/
theorem isCancelledSnapshot_local (name : String) : Local F (isCancelledSnapshot name) :=
  Local.bind_sys (fun _ _ h => by rw [h.slot]) fun _ => (readMetadata_local _).bind fun o => by
    cases o <;> dsimp only
    · exact .pure _
    · split <;> exact .pure _

/-- `ReadSnapshotStatus` of a name of `F` is local to `F`. Reference: `snapshot.cpp:1593`. -/
theorem readSnapshotStatus_local (lock : LockedFile) (hn : F name) :
    Local F (readSnapshotStatus lock name) :=
  Local.ioCall.bind fun _ => Local.bind_sys (fun _ _ h => by rw [h.records hn]) fun s => by
    split
    · exact .ite (.pure _) (Local.ioCall.bind fun _ => .ite (.pure _) (.pure _))
    · exact .pure _

/-- `WriteSnapshotStatus` of a name of `F`, under the exclusive lock, is local to `F`. Reference:
`snapshot.cpp:1671`. -/
theorem writeSnapshotStatus_local {lock : LockedFile} (hlock : lock.lock_mode = .exclusive)
    (hn : F name) (status : SnapshotStatus) : Local F (writeSnapshotStatus lock name status) :=
  (Local.check (by simp [hlock])).bind fun _ => Local.ioCall.bind fun _ =>
    .ite (.pure _) ((Local.effect (Sys.Pointwise.createStatus name) hn).bind fun _ =>
      Local.persist (Sys.Pointwise.writeStatus _ _) hn)

/-- The removal of the status file of a name of `F` is local to `F`. Reference:
`snapshot.cpp:480`. -/
theorem removeStatusFileIfExists_local (hn : F name) : Local F (removeStatusFileIfExists name) :=
  Local.bind_sys (fun _ _ h => by rw [h.records hn]) fun _ =>
    .ite (.pure _) (Local.persist (Sys.Pointwise.removeStatus name) hn)

/-- `EnsureImageManager` is local to any set. Reference: `snapshot.cpp:1722`. -/
theorem ensureImageManager_local : Local F ensureImageManager :=
  Local.quiet true fun w h => by
    cases hi : w.images_
    · exact ⟨{ w with tick := w.tick + 1, images_ := true }, by
        simp only [ensureImageManager, bind_apply, get_apply, hi, h.extCall,
        openImages_apply, Bool.false_eq_true, if_false, Bool.not_true, SM.pure_bind, pure_apply],
        rfl, Nat.le_succ _, rfl⟩
    · exact ⟨w, by simp only [ensureImageManager, bind_apply, get_apply, hi, if_true, pure_apply],
        rfl, le_rfl, rfl⟩

/-- `DeviceMapper::DeleteDevice` of a device of `F` is local to `F`. Reference: `dm.cpp:89`. -/
theorem deleteDevice_local (hn : F name) : Local F (deleteDevice name) :=
  (ioctl_local hn).bind fun d => by
    cases d <;> dsimp only
    · exact .pure _
    · exact (Local.modify (Sys.Pointwise.eraseDevice name) hn).bind fun _ => .pure _

/-- `DeviceMapper::DeleteDeviceIfExists` of a device of `F` is local to `F`. Reference:
`dm.cpp:82`. -/
theorem deleteDeviceIfExists_local (hn : F name) : Local F (deleteDeviceIfExists name) :=
  (getState_local hn).bind fun _ => Local.early (deleteDevice_local hn)

/-- `DeviceMapper::LoadTableAndActivate` of a device of `F` is local to `F`. Reference:
`dm.cpp:207`. -/
theorem loadTableAndActivate_local (hn : F name) (table : List DmTarget) :
    Local F (loadTableAndActivate name table) :=
  (ioctl_local hn).bind fun d =>
    match d with
    | none => .pure _
    | some _ => (Local.modify (Sys.Pointwise.setDevice _ _) hn).bind fun _ =>
      (ioctl_local hn).bind fun d =>
        match d with
        | none => .pure _
        | some _ => (Local.modify (Sys.Pointwise.setDevice _ _) hn).bind fun _ => .pure _

/-- Modelled from the spec: `IImageManager::UnmapImageIfExists` of an image of `F` is local to `F`.
Reference: none. -/
theorem unmapImageIfExists_local (hn : F name) : Local F (ImageManager.unmapImageIfExists name) :=
  Local.extCall.bind fun _ =>
    Local.early ((Local.modify (Sys.Pointwise.eraseDevice name) hn).bind fun _ => .pure _)

/-- Modelled from the spec: `IImageManager::BackingImageExists` of an image of `F` is local to `F`.
Reference: none. -/
theorem backingImageExists_local (hn : F name) : Local F (ImageManager.backingImageExists name) :=
  Local.extCall.bind fun _ => Local.bind_sys (fun _ _ h => by rw [h.images hn]) fun _ => .pure _

/-- Modelled from the spec: `IImageManager::DeleteBackingImage` of an image of `F` is local to `F`.
Reference: none. -/
theorem deleteBackingImage_local (hn : F name) : Local F (ImageManager.deleteBackingImage name) :=
  Local.extCall.bind fun _ => Local.bind_sys (fun _ _ h => by rw [h.images hn]) fun _ =>
    .ite ((Local.effect (Sys.Pointwise.deleteImage name) hn).bind fun _ => .pure _) (.pure _)

/-- Modelled from the spec: `InitDefaults` is local to any set. Reference: none. -/
theorem initDefaults_local (p : CreateLogicalPartitionParams) : Local F p.initDefaults := by
  dsimp only [CreateLogicalPartitionParams.initDefaults]
  -- the metadata is the one given or the slot's; the same code follows both
  split <;> refine Local.bind (by first | exact .pure _ | exact readMetadata_local _)
    fun metadata => ?_
  all_goals
    rcases metadata with _ | metadata
    · exact .pure _
    dsimp only
    split <;> exact .pure _

/-- Modelled from the spec: fs_mgr's `CreateDmTable` is local to any set. Reference: none. -/
theorem createDmTable_local (params : CreateLogicalPartitionParams) :
    Local F (createDmTable params) :=
  (initDefaults_local params).bind fun p => by cases p <;> exact .pure _

end Calls

/-! ## One snapshot's check -/

section Snapshot

variable {lock : LockedFile}

/-- The device `GetSnapshotDeviceName` names is in the partition's stack. Reference:
`snapshot.cpp:1714`. -/
theorem getSnapshotDeviceName_mem (name : String) (status : SnapshotStatus) :
    getSnapshotDeviceName name status ∈ stackNames name := by
  unfold getSnapshotDeviceName
  split
  · exact (mem_stackNames name).2.1
  · exact (mem_stackNames name).1

/-- `UnmapCowDevices` is local to the partition's stack. Reference: `snapshot.cpp:1459`. -/
theorem unmapCowDevices_local (name : String) :
    Local (· ∈ stackNames name) (unmapCowDevices lock name) := by
  dsimp only [unmapCowDevices]
  exact ensureImageManager_local.bind fun _ => Local.early <|
    (deleteDeviceIfExists_local (mem_stackNames name).2.2.1).bind fun _ => Local.early <|
      (unmapImageIfExists_local (mem_stackNames name).2.2.2.1).bind fun _ =>
        Local.early (.pure _)

/-- `DeleteSnapshot` under the exclusive lock is local to the partition's stack. Reference:
`snapshot.cpp:462`. -/
theorem deleteSnapshot_local (hlock : lock.lock_mode = .exclusive) (name : String) :
    Local (· ∈ stackNames name) (deleteSnapshot lock name) := by
  have hremove := removeStatusFileIfExists_local (F := (· ∈ stackNames name)) (mem_stackNames name).1
  dsimp only [deleteSnapshot]
  exact (Local.check (by simp [hlock])).bind fun _ => ensureImageManager_local.bind fun _ =>
    Local.early <| (unmapCowDevices_local name).bind fun _ => Local.early <|
      (backingImageExists_local (mem_stackNames name).2.2.2.1).bind fun _ => Local.ite
        ((deleteBackingImage_local (mem_stackNames name).2.2.2.1).bind fun _ => Local.early hremove)
        ((Local.pure _).bind fun _ => hremove)

/-- `CollapseSnapshotDevice` is local to the partition's stack. Reference: `snapshot.cpp:949`. -/
theorem collapseSnapshotDevice_local (name : String) (status : SnapshotStatus) :
    Local (· ∈ stackNames name) (collapseSnapshotDevice name status) := by
  have hdm := getSnapshotDeviceName_mem name status
  obtain ⟨hP, -, -, -, hbase⟩ := mem_stackNames name
  dsimp only [collapseSnapshotDevice]
  refine (getSingleTarget_local hdm _).bind fun target => ?_
  rcases target with _ | target
  · exact .pure _
  refine Local.early ?_
  dsimp only
  split
  · refine Local.early <| Local.ite ?_ <| (Local.pure _).bind fun _ =>
      Local.bind_sys (fun _ _ h => by rw [h.slot]) fun _ =>
        (createDmTable_local _).bind fun table => ?_
    · -- the outer linear table over an inner snapshot device
      refine (getTable_local hP).bind fun outer_table => ?_
      rcases outer_table with _ | outer_table
      · exact .pure _
      dsimp only
      split
      · refine Local.early <| Local.early <| Local.early <|
          Local.bind_sys (fun _ _ h => by rw [h.slot]) fun _ =>
            (createDmTable_local _).bind fun table => ?_
        rcases table with _ | table
        · exact .pure _
        · exact (loadTableAndActivate_local hP _).bind fun _ => Local.early <| Local.ite
            ((deleteDeviceIfExists_local hdm).bind fun _ => Local.early <|
              (deleteDeviceIfExists_local hbase).bind fun _ => .pure _)
            ((Local.pure _).bind fun _ => (deleteDeviceIfExists_local hbase).bind fun _ => .pure _)
      · exact .pure _
    · rcases table with _ | table
      · exact .pure _
      · exact (loadTableAndActivate_local hP _).bind fun _ => Local.early <| Local.ite
          ((deleteDeviceIfExists_local hdm).bind fun _ => Local.early <|
            (deleteDeviceIfExists_local hbase).bind fun _ => .pure _)
          ((Local.pure _).bind fun _ => (deleteDeviceIfExists_local hbase).bind fun _ => .pure _)
  · exact .pure _

/-- `OnSnapshotMergeComplete` under the exclusive lock is local to the partition's stack. Reference:
`snapshot.cpp:915`. -/
theorem onSnapshotMergeComplete_local (hlock : lock.lock_mode = .exclusive) (name : String)
    (status : SnapshotStatus) :
    Local (· ∈ stackNames name) (onSnapshotMergeComplete lock name status) := by
  have hdm := getSnapshotDeviceName_mem name status
  dsimp only [onSnapshotMergeComplete]
  refine (isSnapshotDevice_local hdm).bind fun _ => Local.ite
    ((querySnapshotStatus_local hdm).bind fun dm_status => ?_)
    ((Local.pure _).bind fun _ => deleteSnapshot_local hlock name)
  rcases dm_status with _ | ⟨_, _, _⟩
  · exact .pure _
  · exact Local.early <| Local.early <| (collapseSnapshotDevice_local name status).bind fun _ =>
      Local.early (deleteSnapshot_local hlock name)

/-- `CheckTargetMergeState` reads and changes only what the system holds under the names of its
snapshot's stack, besides reading the live slot and the metadata. Reference: `snapshot.cpp:805`. -/
theorem checkTargetMergeState_local (hlock : lock.lock_mode = .exclusive) (name : String) :
    Local (· ∈ stackNames name) (checkTargetMergeState lock name) := by
  dsimp only [checkTargetMergeState]
  refine (readSnapshotStatus_local lock (mem_stackNames name).1).bind fun status => ?_
  rcases status with _ | status
  · exact .pure _
  have hdm := getSnapshotDeviceName_mem name status
  dsimp only
  refine (isSnapshotDevice_local hdm).bind fun _ => Local.ite
    ((isCancelledSnapshot_local name).bind fun _ => Local.ite
      ((deleteSnapshot_local hlock name).bind fun _ => .pure _)
      ((Local.pure _).bind fun _ => Local.ite
        ((onSnapshotMergeComplete_local hlock name _).bind fun _ => .pure _)
        ((Local.pure _).bind fun _ => .pure _)))
    ((Local.pure _).bind fun _ => (querySnapshotStatus_local hdm).bind fun dm_status => ?_)
  rcases dm_status with _ | ⟨_, _, _⟩
  · exact .pure _
  · exact Local.early <| Local.ite (Local.early (.pure _)) <| (Local.pure _).bind fun _ =>
      (writeSnapshotStatus_local hlock (mem_stackNames name).1 _).bind fun _ => Local.early <|
        (onSnapshotMergeComplete_local hlock name _).bind fun _ => Local.early (.pure _)

end Snapshot

/-! ## Snapshots named with a slot suffix -/

/-- The stacks of `a` and `b` share no name. -/
def Separate (a b : String) : Prop := ∀ n ∈ stackNames a, n ∉ stackNames b

/-- Disjoint stacks are disjoint either way. Reference: none. -/
theorem Separate.symm {a b : String} (h : Separate a b) : Separate b a :=
  fun n hb ha => h n ha hb

/-- The stack of `name` is `name` followed by each of the five suffixes. Reference:
`snapshot.cpp:117`. -/
theorem stackNames_eq (name : String) :
    stackNames name = ["", "-inner", "-cow", "-cow-img", "-base"].map (name ++ ·) := by
  simp only [stackNames, getSnapshotExtraDeviceName, getCowName, getCowImageDeviceName,
    getBaseDeviceName, List.map, String.append_empty]

/-- The last character of a slot suffix followed by one of the stack's suffixes tells the stack's
suffix. Reference: none. -/
private theorem stack_suffix_of_getLast :
    ∀ s ∈ ["_a", "_b"], ∀ s' ∈ ["_a", "_b"], ∀ u ∈ ["", "-inner", "-cow", "-cow-img", "-base"],
      ∀ v ∈ ["", "-inner", "-cow", "-cow-img", "-base"],
      (s.data ++ u.data).getLast? = (s'.data ++ v.data).getLast? → u = v := by
  decide

/-- The other slot's suffix is `_a` or `_b`. Reference: none. -/
theorem otherSlotSuffix_mem (slot : String) : otherSlotSuffix slot ∈ ["_a", "_b"] := by
  unfold otherSlotSuffix
  split <;> simp

/-- The stacks of two snapshots named with a slot suffix are disjoint: the last character of a name
of the stack says which of its names it is, and the rest gives the snapshot. Reference:
`snapshot.cpp:117`. -/
theorem stackNames_separate {a b s s' : String} (ha : ∃ p, a = p ++ s) (hb : ∃ q, b = q ++ s')
    (hs : s ∈ ["_a", "_b"]) (hs' : s' ∈ ["_a", "_b"]) (hab : a ≠ b) : Separate a b := by
  obtain ⟨p, rfl⟩ := ha
  obtain ⟨q, rfl⟩ := hb
  intro n hna hnb
  rw [stackNames_eq] at hna hnb
  obtain ⟨u, hu, rfl⟩ := List.mem_map.1 hna
  obtain ⟨v, hv, he⟩ := List.mem_map.1 hnb
  have hne : ∀ t ∈ ["_a", "_b"], t.data ≠ [] := by decide
  have hdata := congrArg String.data he
  simp only [String.data_append, List.append_assoc] at hdata
  have hlast := congrArg List.getLast? hdata
  rw [List.getLast?_append_of_ne_nil _ (List.append_ne_nil_of_left_ne_nil (hne s' hs') _),
    List.getLast?_append_of_ne_nil _ (List.append_ne_nil_of_left_ne_nil (hne s hs) _)] at hlast
  obtain rfl := stack_suffix_of_getLast s' hs' s hs v hv u hu hlast
  have hcancel : p.data ++ s.data ++ v.data = q.data ++ s'.data ++ v.data := by
    simpa only [List.append_assoc] using hdata.symm
  exact hab (String.ext (by simpa only [String.data_append] using List.append_cancel_right hcancel))

/-! ## The loop in every order -/

section Loop

variable {lock : LockedFile}

/-- The flags do not depend on the order in which the results are added. Reference:
`snapshot.cpp:757`. -/
theorem SnapshotManager.MergeFlags.add_add_comm (flags : MergeFlags) (r r' : UpdateState) :
    (flags.add r).add r' = (flags.add r').add r := by
  cases r <;> cases r' <;> rfl

/-- The loop of `CheckMergeState` is local to the stacks of its snapshots. Reference:
`snapshot.cpp:755`. -/
theorem checkEach_local (hlock : lock.lock_mode = .exclusive) :
    ∀ (snapshots : List String) (flags : MergeFlags),
      Local (fun n => ∃ x ∈ snapshots, n ∈ stackNames x) (checkEach lock flags snapshots)
  | [], _ => Local.pure _
  | x :: snapshots, _ =>
    ((checkTargetMergeState_local hlock x).mono fun _ h => ⟨x, List.mem_cons_self _ _, h⟩).bind
      fun _ => (checkEach_local hlock snapshots _).mono fun _ ⟨y, hy, h⟩ =>
        ⟨y, List.mem_cons_of_mem _ hy, h⟩

/-- The loop of `CheckMergeState` over two orders of the same snapshots, whose stacks are pairwise
disjoint, run from faultless worlds with equivalent systems, gives the same flags and equivalent
systems. Reference: `snapshot.cpp:755`. -/
theorem checkEach_perm (hlock : lock.lock_mode = .exclusive) {l₁ l₂ : List String}
    (hp : l₁.Perm l₂) : l₁.Pairwise Separate → ∀ (flags : MergeFlags) {w₁ w₂ : World},
      w₁.Faultless → w₂.Faultless → w₁.sys.Equiv w₂.sys →
      ∃ flags' w₁' w₂', checkEach lock flags l₁ w₁ = .ok flags' w₁' ∧
        checkEach lock flags l₂ w₂ = .ok flags' w₂' ∧ w₁'.Faultless ∧ w₂'.Faultless ∧
        w₁'.sys.Equiv w₂'.sys := by
  induction hp with
  | nil => exact fun _ flags w₁ w₂ h₁ h₂ he => ⟨flags, w₁, w₂, rfl, rfl, h₁, h₂, he⟩
  | cons x _ ih =>
    intro hsep flags w₁ w₂ h₁ h₂ he
    obtain ⟨r, u₁, u₂, e₁, e₂, g₁, g₂, he'⟩ := (checkTargetMergeState_local hlock x).equiv h₁ h₂ he
    obtain ⟨f, v₁, v₂, e₁', e₂', g₁', g₂', he''⟩ := ih hsep.of_cons (flags.add r) g₁ g₂ he'
    refine ⟨f, v₁, v₂, ?_, ?_, g₁', g₂', he''⟩
    · rw [checkEach, bind_apply, e₁]; exact e₁'
    · rw [checkEach, bind_apply, e₂]; exact e₂'
  | swap x y l =>
    intro hsep flags w₁ w₂ h₁ h₂ he
    have hyx : Separate y x := List.rel_of_pairwise_cons hsep (List.mem_cons_self _ _)
    -- the two checks commute, and the rest of the loop runs from equivalent systems
    obtain ⟨a, b, u₁, u₂, v₁, v₂, e₁, e₁', e₂, e₂', g₁, g₂, he'⟩ :=
      (checkTargetMergeState_local hlock y).comm (checkTargetMergeState_local hlock x) hyx h₁ h₂ he
    obtain ⟨f, t₁, t₂, e₃, e₃', g₃, g₃', he''⟩ :=
      (checkEach_local hlock l ((flags.add a).add b)).equiv g₁ g₂ he'
    refine ⟨f, t₁, t₂, ?_, ?_, g₃, g₃', he''⟩
    · simp only [checkEach, bind_apply, e₁, e₁']; exact e₃
    · simp only [checkEach, bind_apply, e₂, e₂', MergeFlags.add_add_comm _ b]; exact e₃'
  | trans p₁₂ _ ih₁ ih₂ =>
    intro hsep flags w₁ w₂ h₁ h₂ he
    obtain ⟨f, v₁, v₂, e₁, e₂, g₁, g₂, he₁⟩ := ih₁ hsep flags h₁ h₂ he
    obtain ⟨f', v₂', v₃, e₂', e₃, -, g₃, he₂⟩ :=
      ih₂ ((p₁₂.pairwise_iff Separate.symm).1 hsep) flags h₂ h₂ (Sys.Equiv.refl _)
    rw [e₂] at e₂'
    cases e₂'
    exact ⟨f, v₁, v₃, e₁, e₃, g₁, g₃, he₁.trans he₂⟩

end Loop

/-! ## The result -/

section Result

variable {lock : LockedFile}

/-- Checks run one after another keep what each keeps, and every result satisfies what each returns.
Reference: none. -/
theorem mapM_keeps {α β : Type} {S : Event → Prop} {P : α → Prop} {f : β → SM α}
    (h : ∀ b, Keeps S P (f b)) : ∀ l : List β, Keeps S (fun rs => ∀ r ∈ rs, P r) (l.mapM f)
  | [] => Keeps.pure (by simp)
  | b :: l => by
    haveI := SM.lawfulMonad
    rw [List.mapM_cons]
    exact (h b).bind fun r hr => (mapM_keeps h l).bind fun rs hrs => Keeps.pure fun x hx => by
      rcases List.mem_cons.1 hx with rfl | hx
      · exact hr
      · exact hrs x hx

/-- The loop of `CheckMergeState` is the checks one after another, then the flags of their results.
Reference: `snapshot.cpp:755`. -/
theorem checkEach_eq_mapM (lock : LockedFile) : ∀ (snapshots : List String) (flags : MergeFlags),
    checkEach lock flags snapshots = snapshots.mapM (checkTargetMergeState lock) >>=
      fun results => pure (results.foldl MergeFlags.add flags)
  | [], _ => rfl
  | snapshot :: snapshots, flags => by
    haveI := SM.lawfulMonad
    simp only [checkEach, List.mapM_cons, checkEach_eq_mapM lock snapshots, SM.bind_assoc,
      SM.pure_bind, List.foldl_cons]

/-- Modelled from the spec: the rank of a snapshot's result in the priority `Merging >
MergeFailed > MergeNeedsReboot > Cancelled > MergeCompleted`. -/
def mergePriority : UpdateState → Nat
  | .Merging => 4
  | .MergeFailed => 3
  | .MergeNeedsReboot => 2
  | .Cancelled => 1
  | _ => 0

/-- Modelled from the spec: the higher of two results. -/
def mergeMax (best r : UpdateState) : UpdateState :=
  if mergePriority best < mergePriority r then r else best

/-- Modelled from the spec: the highest of the snapshots' results, `MergeCompleted` when there
are none. -/
def mergeResult (results : List UpdateState) : UpdateState :=
  results.foldl mergeMax .MergeCompleted

/-- What the flags make `CheckMergeState` return (`snapshot.cpp:782`). -/
def SnapshotManager.MergeFlags.verdict (flags : MergeFlags) : UpdateState :=
  if flags.merging then .Merging
  else if flags.failed then .MergeFailed
  else if flags.needs_reboot then .MergeNeedsReboot
  else if flags.cancelled then .Cancelled
  else .MergeCompleted

/-- Adding a result of `CheckTargetMergeState` to the flags moves the verdict to the higher of the
two. Reference: `snapshot.cpp:757`. -/
theorem SnapshotManager.MergeFlags.verdict_add (flags : MergeFlags) :
    ∀ r ∈ pollResults, (flags.add r).verdict = mergeMax flags.verdict r := by
  obtain ⟨_ | _, _ | _, _ | _, _ | _⟩ := flags <;> decide

/-- The verdict of the flags of a list of results is the highest of them. Reference:
`snapshot.cpp:782`. -/
theorem SnapshotManager.MergeFlags.verdict_foldl {results : List UpdateState} (h : ∀ r ∈ results, r ∈ pollResults)
    (flags : MergeFlags) :
    (results.foldl MergeFlags.add flags).verdict = results.foldl mergeMax flags.verdict := by
  induction results generalizing flags with
  | nil => rfl
  | cons r results ih =>
    rw [List.foldl_cons, List.foldl_cons, ih (fun r' h' => h r' (List.mem_cons_of_mem _ h')),
      verdict_add flags r (h r (List.mem_cons_self _ _))]

/-- In a run of `CheckMergeState(lock)` that reads `Merging`, `MergeFailed` or `MergeNeedsReboot`
and lists the snapshots, the result is the highest of the checks' results, and the state file is
written, with `MergeNeedsReboot`, exactly when that is the result. Reference: `snapshot.cpp:716`. -/
theorem checkMergeStateLocked_eq_mergeResult (hlock : lock.lock_mode = .exclusive)
    {w w₁ w₂ w₃ : World} {state : UpdateState} {snapshots : List String}
    {results : List UpdateState} (hstate : readUpdateState lock w = .ok state w₁)
    (hmerge : state = .Merging ∨ state = .MergeFailed ∨ state = .MergeNeedsReboot)
    (hlist : listSnapshots lock w₁ = .ok (some snapshots) w₂)
    (hcheck : snapshots.mapM (checkTargetMergeState lock) w₂ = .ok results w₃) :
    checkMergeStateLocked lock w = if mergeResult results = .MergeNeedsReboot then
        (writeUpdateState lock .MergeNeedsReboot >>= fun _ => pure .MergeNeedsReboot) w₃
      else .ok (mergeResult results) w₃ := by
  have hv : (results.foldl MergeFlags.add {}).verdict = mergeResult results :=
    MergeFlags.verdict_foldl ((mapM_keeps (checkTargetMergeState_keeps hlock) snapshots).of_ok
      hcheck).1 _
  have hloop : checkEach lock {} snapshots w₂ = .ok (results.foldl MergeFlags.add {}) w₃ := by
    rw [checkEach_eq_mapM, bind_apply, hcheck]
    rfl
  rw [← hv]
  generalize results.foldl MergeFlags.add {} = flags at hloop
  rcases hmerge with rfl | rfl | rfl <;>
    simp only [checkMergeStateLocked, bind_apply, hstate, hlist, hloop] <;>
    obtain ⟨_ | _, _ | _, _ | _, _ | _⟩ := flags <;> rfl

end Result

/-! ## `CheckMergeState` in every order -/

section Order

variable {lock : LockedFile}

/-- Permuting a map whose names are distinct keeps every lookup. Reference: none. -/
theorem lookup_perm {α : Type} {s s' : List (String × α)} (h : s.Perm s') :
    (keys s).Nodup → ∀ k, lookup s k = lookup s' k := by
  induction h with
  | nil => exact fun _ _ => rfl
  | cons p _ ih =>
    intro hnd k
    simp only [lookup, ih (List.nodup_cons.1 hnd).2 k]
  | swap p q s =>
    intro hnd k
    have hpq : q.1 ≠ p.1 := by
      intro e
      simp [keys, e] at hnd
    simp only [lookup]
    by_cases hq : q.1 = k <;> by_cases hp : p.1 = k <;> simp only [hq, hp, if_true, if_false]
    exact absurd (hq.trans hp.symm) hpq
  | trans h₁₂ _ ih₁ ih₂ =>
    intro hnd k
    exact (ih₁ hnd k).trans (ih₂ ((h₁₂.map _).nodup_iff.1 hnd) k)

/-- Reordering the status files, whose names are distinct, gives an equivalent system. Reference:
none. -/
theorem Sys.equiv_of_records_perm {s : Sys} {rs : List (String × String)} (h : rs.Perm s.records)
    (hnd : (keys s.records).Nodup) : s.Equiv { s with records := rs } :=
  ⟨rfl, fun n _ => by simp only [Sys.entry, lookup_perm h.symm hnd n]⟩

/-- Writing the same state over equivalent systems keeps them equivalent. Reference: none. -/
theorem Sys.Equiv.setState {s t : Sys} (h : s.Equiv t) (c : String) :
    Sys.Equiv { s with state := c } { t with state := c } :=
  ⟨congrArg (fun x : Sys => { x with state := c }) h.shell, h.entry⟩

/-- A faultless `ReadUpdateState` returns the state on disk. Reference: `snapshot.cpp:1519`. -/
theorem readUpdateState_faultless (file : LockedFile) {w : World} (h : w.Faultless) :
    ∃ w', readUpdateState file w = .ok w.sys.updateState w' ∧ w'.Faultless ∧ w'.sys = w.sys := by
  have h₁ : World.Faultless { w with tick := w.tick + 1 } := h.later rfl (Nat.le_succ _)
  simp only [readUpdateState, bind_apply, h.ioCall, h₁.ioCall, sys_apply, Bool.not_true,
    Bool.false_eq_true, if_false, SM.pure_bind, pure_apply, Sys.updateState, Result.ok.injEq,
    true_and, exists_eq_left', and_true]
  exact h₁.later rfl (Nat.le_succ _)

/-- A faultless `ListSnapshots` returns the names of the status files in their order. Reference:
`snapshot.cpp:1130`. -/
theorem listSnapshots_faultless (file : LockedFile) {w : World} (h : w.Faultless) :
    ∃ w', listSnapshots file w = .ok (some (keys w.sys.records)) w' ∧ w'.Faultless ∧
      w'.sys = w.sys := by
  simp only [listSnapshots, bind_apply, h.ioCall, sys_apply, Bool.not_true, Bool.false_eq_true,
    if_false, pure_apply, keys, Result.ok.injEq, true_and, exists_eq_left', and_true]
  exact h.later rfl (Nat.le_succ _)

/-- A faultless `WriteUpdateState` of `MergeNeedsReboot` writes it. Reference:
`snapshot.cpp:1574`. -/
theorem writeUpdateState_faultless (file : LockedFile) {w : World} (h : w.Faultless) :
    ∃ w', writeUpdateState file .MergeNeedsReboot w = .ok true w' ∧ w'.Faultless ∧
      w'.sys = { w.sys with state := UpdateState.MergeNeedsReboot.toString } := by
  have hne : UpdateState.MergeNeedsReboot.toString.isEmpty = false := by decide
  simp only [writeUpdateState, persist, hne, Bool.false_eq_true, if_false, bind_apply, h.ioCall,
    effect_apply, if_true, SM.pure_bind, pure_apply, Result.ok.injEq, true_and, exists_eq_left',
    FileOp.apply, and_true]
  exact h.later rfl (Nat.le_succ _)

/-- With every call succeeding, `CheckMergeState(lock)` from a persisted `Merging`, `MergeFailed` or
`MergeNeedsReboot` returns the same result and leaves the same system for every order of the
snapshot directory, when the snapshots are named with a slot suffix. Reference:
`snapshot.cpp:716`. -/
theorem checkMergeStateLocked_perm (hlock : lock.lock_mode = .exclusive) {slot : String}
    {w : World} {rs : List (String × String)} (hw : w.Faultless)
    (hstate : w.sys.updateState = .Merging ∨ w.sys.updateState = .MergeFailed ∨
      w.sys.updateState = .MergeNeedsReboot)
    (hnodup : (keys w.sys.records).Nodup)
    (hnames : ∀ n ∈ keys w.sys.records, ∃ p, n = p ++ otherSlotSuffix slot)
    (hrs : rs.Perm w.sys.records) :
    ∃ r w₁ w₂, checkMergeStateLocked lock w = .ok r w₁ ∧
      checkMergeStateLocked lock { w with sys := { w.sys with records := rs } } = .ok r w₂ ∧
      w₁.sys.Equiv w₂.sys := by
  have hw' : World.Faultless { w with sys := { w.sys with records := rs } } := hw
  have hsep : (keys w.sys.records).Pairwise Separate :=
    hnodup.pairwise_of_forall_ne fun a ha b hb hab => stackNames_separate (hnames a ha)
      (hnames b hb) (otherSlotSuffix_mem slot) (otherSlotSuffix_mem slot) hab
  -- the state file and the directory read the same in both orders, but for the order
  obtain ⟨u, eu, gu, su⟩ := readUpdateState_faultless lock hw
  obtain ⟨u', eu', gu', su'⟩ := readUpdateState_faultless lock hw'
  change readUpdateState lock _ = .ok w.sys.updateState u' at eu'
  obtain ⟨v, ev, gv, sv⟩ := listSnapshots_faultless lock gu
  obtain ⟨v', ev', gv', sv'⟩ := listSnapshots_faultless lock gu'
  rw [su] at ev
  rw [su'] at ev'
  -- the loop gives the same flags
  have hperm : (keys w.sys.records).Perm (keys rs) := (hrs.map Prod.fst).symm
  obtain ⟨flags, x, x', ex, ex', gx, gx', hx⟩ := checkEach_perm hlock hperm hsep {} gv gv'
    (by rw [sv, su, sv', su']; exact Sys.equiv_of_records_perm hrs hnodup)
  -- and the verdict, with its write of `MergeNeedsReboot`, is the same
  obtain ⟨y, ey, -, sy⟩ := writeUpdateState_faultless lock gx
  obtain ⟨y', ey', -, sy'⟩ := writeUpdateState_faultless lock gx'
  have hy : y.sys.Equiv y'.sys := by rw [sy, sy']; exact hx.setState _
  rcases hstate with h | h | h <;>
    simp only [checkMergeStateLocked, bind_apply, eu, eu', h, ev, ev', ex, ex'] <;>
    obtain ⟨_ | _, _ | _, _ | _, _ | _⟩ := flags <;>
    first
      | exact ⟨_, _, _, rfl, rfl, hx⟩
      | exact ⟨.MergeNeedsReboot, y, y',
          by simp only [Bool.false_eq_true, if_false, if_true, SM.pure_bind, bind_apply, ey, pure_apply],
          by simp only [Bool.false_eq_true, if_false, if_true, SM.pure_bind, bind_apply, ey', pure_apply],
          hy⟩

/-- `CheckMergeState(lock)` under the exclusive lock, from `Merging`, `MergeFailed` or
`MergeNeedsReboot`: once the snapshots are listed and checked, it returns the highest of the checks'
results and writes `MergeNeedsReboot` exactly when that is the result; and when every call succeeds
and the snapshots are named with a slot suffix, its result and the system it leaves are the same for
every order of the snapshot directory. Reference: `snapshot.cpp:716`. -/
theorem checkMergeStateLocked_highest_any_order (hlock : lock.lock_mode = .exclusive) :
    (∀ {w w₁ w₂ w₃ : World} {state : UpdateState} {snapshots : List String}
        {results : List UpdateState},
      readUpdateState lock w = .ok state w₁ →
      (state = .Merging ∨ state = .MergeFailed ∨ state = .MergeNeedsReboot) →
      listSnapshots lock w₁ = .ok (some snapshots) w₂ →
      snapshots.mapM (checkTargetMergeState lock) w₂ = .ok results w₃ →
      checkMergeStateLocked lock w = if mergeResult results = .MergeNeedsReboot then
          (writeUpdateState lock .MergeNeedsReboot >>= fun _ => pure .MergeNeedsReboot) w₃
        else .ok (mergeResult results) w₃) ∧
    (∀ {slot : String} {w : World} {rs : List (String × String)}, w.Faultless →
      (w.sys.updateState = .Merging ∨ w.sys.updateState = .MergeFailed ∨
        w.sys.updateState = .MergeNeedsReboot) →
      (keys w.sys.records).Nodup → (∀ n ∈ keys w.sys.records, ∃ p, n = p ++ otherSlotSuffix slot) →
      rs.Perm w.sys.records →
      ∃ r w₁ w₂, checkMergeStateLocked lock w = .ok r w₁ ∧
        checkMergeStateLocked lock { w with sys := { w.sys with records := rs } } = .ok r w₂ ∧
        w₁.sys.Equiv w₂.sys) :=
  ⟨checkMergeStateLocked_eq_mergeResult hlock, checkMergeStateLocked_perm hlock⟩

/-- The state file says `merging`, and `system_b` and `vendor_b` have merged status files; every
call succeeds. -/
def mergedPair : World :=
  { sys := { state := "merging",
             records := [("system_b", statusLine mergedStatus), ("vendor_b", statusLine mergedStatus)] } }

set_option maxRecDepth 20000 in
/-- `CheckMergeState(lock)` on `mergedPair`: the run of its reads and checks, and its two status
files listed in either order. Reference: `snapshot.cpp:716`. -/
theorem mergedPair_poll_any_order :
    LockedFile.lock_mode ⟨"", .exclusive⟩ = .exclusive ∧
    (∃ w₁ w₂ w₃ results,
      readUpdateState ⟨"", .exclusive⟩ mergedPair = .ok .Merging w₁ ∧
      listSnapshots ⟨"", .exclusive⟩ w₁ = .ok (some ["system_b", "vendor_b"]) w₂ ∧
      ["system_b", "vendor_b"].mapM (checkTargetMergeState ⟨"", .exclusive⟩) w₂ = .ok results w₃ ∧
      checkMergeStateLocked ⟨"", .exclusive⟩ mergedPair =
        if mergeResult results = .MergeNeedsReboot then
          (writeUpdateState ⟨"", .exclusive⟩ .MergeNeedsReboot >>= fun _ => pure .MergeNeedsReboot) w₃
        else .ok (mergeResult results) w₃) ∧
    mergedPair.Faultless ∧ mergedPair.sys.updateState = .Merging ∧
    (keys mergedPair.sys.records).Nodup ∧
    (∀ n ∈ keys mergedPair.sys.records, ∃ p, n = p ++ otherSlotSuffix "_a") ∧
    ∃ r w₁ w₂, checkMergeStateLocked ⟨"", .exclusive⟩ mergedPair = .ok r w₁ ∧
      checkMergeStateLocked ⟨"", .exclusive⟩
        { mergedPair with sys := { mergedPair.sys with records := mergedPair.sys.records.reverse } } =
        .ok r w₂ ∧ w₁.sys.Equiv w₂.sys := by
  have hw : mergedPair.Faultless := ⟨fun _ => rfl, World.clean_of_oracle rfl⟩
  have hstate : mergedPair.sys.updateState = .Merging := by decide
  have hnames : ∀ n ∈ keys mergedPair.sys.records, ∃ p, n = p ++ otherSlotSuffix "_a" := by
    intro n hn
    simp only [mergedPair, keys, List.map, List.mem_cons, List.mem_singleton, List.not_mem_nil,
      or_false] at hn
    rcases hn with rfl | rfl
    · exact ⟨"system", by decide⟩
    · exact ⟨"vendor", by decide⟩
  have h₁ := Result.eq_ok_of_value
    (by decide : (readUpdateState ⟨"", .exclusive⟩ mergedPair).value = some .Merging)
  have h₂ := Result.eq_ok_of_value (by decide :
    (listSnapshots ⟨"", .exclusive⟩ (readUpdateState ⟨"", .exclusive⟩ mergedPair).world).value =
      some (some ["system_b", "vendor_b"]))
  have h₃ := Result.eq_ok_of_value (by decide :
    (["system_b", "vendor_b"].mapM (checkTargetMergeState ⟨"", .exclusive⟩) (listSnapshots ⟨"", .exclusive⟩
      (readUpdateState ⟨"", .exclusive⟩ mergedPair).world).world).value =
      some [.MergeCompleted, .MergeCompleted])
  have hlock : LockedFile.lock_mode ⟨"", .exclusive⟩ = .exclusive := rfl
  have hpart := checkMergeStateLocked_highest_any_order hlock
  exact ⟨hlock, ⟨_, _, _, _, h₁, h₂, h₃, hpart.1 h₁ (.inl rfl) h₂ h₃⟩, hw, hstate, by decide, hnames,
    hpart.2 hw (.inl hstate) (by decide) hnames (List.reverse_perm _)⟩

/-- The state file says `merging`, and `system_b` and `vendor_b` have merged status files, listed
in the order `names`. The image manager's unmap of the COW image of the snapshot checked first
(step 10) fails; every other call succeeds. -/
def failedUnmapWorld (names : List String) : World :=
  { sys := { state := "merging", records := names.map fun n => (n, statusLine mergedStatus) },
    oracle := { ext := fun k => k != 10 } }

set_option maxRecDepth 20000 in
/-- There both orders return `MergeCompleted`, and the status file left behind is that of the
snapshot listed first. Reference: `snapshot.cpp:716`. -/
theorem checkMergeStateLocked_failure_depends_on_order :
    (failedUnmapWorld ["vendor_b", "system_b"]).sys.records.Perm
      (failedUnmapWorld ["system_b", "vendor_b"]).sys.records ∧
    (checkMergeStateLocked ⟨"", .exclusive⟩ (failedUnmapWorld ["system_b", "vendor_b"])).value =
      some .MergeCompleted ∧
    (checkMergeStateLocked ⟨"", .exclusive⟩ (failedUnmapWorld ["vendor_b", "system_b"])).value =
      some .MergeCompleted ∧
    keys (checkMergeStateLocked ⟨"", .exclusive⟩
      (failedUnmapWorld ["system_b", "vendor_b"])).world.sys.records = ["system_b"] ∧
    keys (checkMergeStateLocked ⟨"", .exclusive⟩
      (failedUnmapWorld ["vendor_b", "system_b"])).world.sys.records = ["vendor_b"] := by
  decide

end Order

end LibSnapshot
