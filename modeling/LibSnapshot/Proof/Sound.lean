import LibSnapshot.Proof.Locking

/-!
# Sections that log only checked effects

A locked section of a public operation is run by a process that starts with no flock. What the
run invariants need of it (`Sound S pre m`): every effect it makes is made under the exclusive
flock, satisfies `S`, and the effects account for every change of the files (`Logged`), whether
the run returns or stops on a crash, a `CHECK` or a `LOG(FATAL)`; and if it returns, it holds no
flock. The rules follow `Disciplined`: an exclusive section is sound when its body runs under
`Runs` with the frame `S` (`Sound.locked_exclusive`), a shared one or an unlocked one when it
makes no effect.
-/

namespace LibSnapshot

open SM SnapshotManager

/-- What a section keeps between its first world `w` and its last `w'`: the oracle, and effects
logged after `w`, made under the exclusive flock, each satisfying `S`, that account for every
change of the files. -/
structure Logged (S : Event → Prop) (w w' : World) : Prop where
  oracle : w'.oracle = w.oracle
  log : ∃ t, w'.trace = t ++ w.trace ∧ Chain w.sys t w'.sys ∧ ∀ e ∈ t, e.mode = .exclusive ∧ S e

namespace Logged

variable {S : Event → Prop} {w w₁ w₂ : World}

/-- A step that changes neither the files, the oracle nor the history logs nothing. Reference:
none. -/
theorem of_eq (ho : w₁.oracle = w.oracle) (ht : w₁.trace = w.trace)
    (hf : w₁.sys.files = w.sys.files) : Logged S w w₁ :=
  ⟨ho, [], by simpa using ht, hf, by simp⟩

/-- Two logged stretches of a run make one. Reference: none. -/
theorem trans (h₁ : Logged S w w₁) (h₂ : Logged S w₁ w₂) : Logged S w w₂ := by
  obtain ⟨ho₁, t₁, ht₁, hc₁, he₁⟩ := h₁
  obtain ⟨ho₂, t₂, ht₂, hc₂, he₂⟩ := h₂
  exact ⟨ho₂.trans ho₁, t₂ ++ t₁, by simp [ht₂, ht₁], hc₁.append hc₂,
    fun e he => (List.mem_append.mp he).elim (he₂ e) (he₁ e)⟩

/-- A frame whose events all hold the exclusive flock. Reference: none. -/
theorem of_frame {S' : Event → Prop} (h : Frame S' w w₁)
    (hS : ∀ e, S' e → w.held = .exclusive ∧ S e) : Logged S w w₁ := by
  obtain ⟨ho, -, t, ht, hc, he⟩ := h
  exact ⟨ho, t, ht, hc, fun e h => ⟨(he e h).1.trans (hS _ (he e h).2).1, (hS _ (he e h).2).2⟩⟩

end Logged

/-- A run of `m` by a process that holds no flock, on a reliable file system, from a system that
satisfies `pre`: its effects are `Logged S`, and if it returns, it holds no flock. -/
structure Sound {α : Type} (S : Event → Prop) (pre : Sys → Prop) (m : SM α) : Prop where
  run : ∀ w, Reliable w.oracle → w.held = .none → pre w.sys →
    Spec m w (fun _ w' => w'.held = .none ∧ Logged S w w') (fun _ w' => Logged S w w')

namespace Sound

variable {α β : Type} {S : Event → Prop} {pre : Sys → Prop}

/-- Whichever way a sound run ends, its effects are logged. Reference: none. -/
theorem logged {m : SM α} (h : Sound S pre m) {w : World} (hr : Reliable w.oracle)
    (hh : w.held = .none) (hw : pre w.sys) : Logged S w (m w).world := by
  have := h.run w hr hh hw
  unfold Spec at this
  split at this
  · rename_i heq; rw [heq]; exact this.2
  · rename_i heq; rw [heq]; exact this

/-- `pure a` is sound. Reference: none. -/
theorem pure {a : α} : Sound S pre (Pure.pure a : SM α) :=
  ⟨fun _ _ hh _ => ⟨hh, Logged.of_eq rfl rfl rfl⟩⟩

/-- A sequence of sound code is sound. Reference: none. -/
theorem bind {m : SM α} {f : α → SM β} (hm : Sound S pre m)
    (hf : ∀ a, Sound S (fun _ => True) (f a)) : Sound S pre (m >>= f) :=
  ⟨fun w hr hh hw => ((hm.run w hr hh hw).mono (fun _ _ h => h) fun _ _ h => h).bind
    fun a w₁ h₁ => (((hf a).run w₁ (h₁.2.oracle ▸ hr) h₁.1 trivial).mono
      (fun _ _ h => ⟨h.1, h₁.2.trans h.2⟩) fun _ _ h => h₁.2.trans h)⟩

/-- An `if` whose branches are sound is sound. Reference: none. -/
theorem ite {c : Prop} [Decidable c] {a b : SM α} (ha : Sound S pre a) (hb : Sound S pre b) :
    Sound S pre (if c then a else b) := by
  split
  · exact ha
  · exact hb

/-- A run with no effect and no flock. Reference: none. -/
theorem of_keeps {P : α → Prop} {m : SM α} (h : Keeps (fun _ => False) P m) : Sound S pre m :=
  ⟨fun w _ hh _ => (h w).mono (fun _ _ h => ⟨h.2.held.trans hh, Logged.of_frame h.2 fun _ => False.elim⟩)
    fun _ _ h => Logged.of_frame h.2 fun _ => False.elim⟩

/-- A locked section is sound when its body keeps the frame `S` under the lock it took, and makes
effects only if that lock is exclusive. Reference: `snapshot.cpp:1495`. -/
theorem locked {mode : LockMode} {dflt : α} {body : LockedFile → SM α}
    (h : ∀ lock : LockedFile, lock.lock_mode = mode →
      Runs Reliable (fun e => mode = .exclusive ∧ S e) pre (body lock) (fun _ _ => True)) :
    Sound S pre (SnapshotManager.locked (openStateFile mode) dflt body) :=
  ⟨fun w hr hh hw => by
    refine ((openStateFile_spec mode w).mono (fun _ _ h => h)
      fun _ _ h => Logged.of_eq h.2.2.2.1 h.2.1 (by rw [h.2.2.1])).bind fun r w₁ h₁ => ?_
    obtain ⟨ht₁, hs₁, ho₁, ⟨rfl, hh₁⟩ | ⟨path, rfl, hh₁⟩⟩ := h₁
    · exact Spec.pure ⟨hh₁.trans hh, Logged.of_eq ho₁ ht₁ (by rw [hs₁])⟩
    · have hl₁ : Logged S w w₁ := Logged.of_eq ho₁ ht₁ (by rw [hs₁])
      have hlog : ∀ w₂, Frame (fun e => mode = .exclusive ∧ S e) w₁ w₂ → Logged S w w₂ :=
        fun _ hf => hl₁.trans (Logged.of_frame hf fun _ hS => ⟨hh₁.trans hS.1, hS.2⟩)
      refine (((h ⟨path, mode⟩ rfl).run w₁ (ho₁ ▸ hr) (hs₁ ▸ hw)).mono (fun _ _ h => h)
        fun _ w₂ h₂ => hlog w₂ h₂.2).bind fun _ w₂ h₂ => ?_
      simp only [unlock, Spec, bind_apply, setHeld_apply]
      exact ⟨rfl, (hlog w₂ h₂.2).trans (Logged.of_eq rfl rfl rfl)⟩⟩

/-- An exclusive section is sound when its body meets the frame `S` under the lock. Reference:
`snapshot.cpp:1515`. -/
theorem locked_exclusive {dflt : α} {body : LockedFile → SM α}
    (h : ∀ lock : LockedFile, lock.lock_mode = .exclusive →
      Runs Reliable S pre (body lock) (fun _ _ => True)) :
    Sound S pre (SnapshotManager.locked lockExclusive dflt body) :=
  locked fun lock hl => (h lock hl).mono (fun _ h => h) fun _ h => ⟨rfl, h⟩

/-- A section whose body makes no effect, under whichever lock it takes. Reference:
`snapshot.cpp:1511`. -/
theorem locked_quiet {mode : LockMode} {dflt : α} {body : LockedFile → SM α} {P : α → Prop}
    (h : ∀ lock : LockedFile, Keeps (fun _ => False) P (body lock)) :
    Sound S pre (SnapshotManager.locked (openStateFile mode) dflt body) :=
  locked fun lock _ => (Runs.keeps (h lock) fun _ h => h.elim).conseq (fun _ _ => trivial)
    fun _ _ _ => trivial

end Sound

end LibSnapshot
