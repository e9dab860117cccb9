import LibSnapshot.Core.World

/-!
# Specifications of the manager's code

`Spec m w Q E` says how a run of `m` from the world `w` ends: a value and a world that satisfy
`Q`, or an abort and a world that satisfy `E`. Its rules for `pure` and `>>=` let a proof follow a
function's code step by step; the lemmas on the primitives (`tick`, the calls, `effect`) are the
only places that look inside the monad.

`Frame S w w'` is what every run of the manager's code other than the lock's own keeps between
its first world `w` and its last `w'`: the oracle, the flock held, and a history that grows only
by events that satisfy `S`, each made under the flock held, that account for every change of the
files (`Chain`). `Keeps S m` says that every run of `m` keeps `Frame S` and never stops on the
`CHECK` of the exclusive lock (`lockCheck`).
-/

namespace LibSnapshot

open SM

/-! ## Specifications -/

/-- How a run of `m` from `w` ends: as `Q` says if it returns, as `E` says if it aborts. -/
def Spec {α : Type} (m : SM α) (w : World) (Q : α → World → Prop)
    (E : Abort → World → Prop) : Prop :=
  match m w with
  | .ok a w' => Q a w'
  | .abort e w' => E e w'

namespace Spec

variable {α β : Type} {m : SM α} {w : World} {Q Q' : α → World → Prop}
  {E E' : Abort → World → Prop}

/-- `pure a` returns `a` in the world it starts from. Reference: none. -/
theorem pure {a : α} (h : Q a w) : Spec (Pure.pure a : SM α) w Q E := h

/-- A sequence returns as its second part does from where the first returned, and aborts as either
does. Reference: none. -/
theorem bind {f : α → SM β} {R : β → World → Prop} (h : Spec m w Q E)
    (hf : ∀ a w', Q a w' → Spec (f a) w' R E) : Spec (m >>= f) w R E := by
  unfold Spec at *
  rw [SM.bind_apply]
  cases hm : m w with
  | ok a w' => rw [hm] at h; exact hf a w' h
  | abort e w' => rw [hm] at h; exact h

/-- Both outcomes of a specification may be weakened. Reference: none. -/
theorem mono (h : Spec m w Q E) (hQ : ∀ a w', Q a w' → Q' a w')
    (hE : ∀ e w', E e w' → E' e w') : Spec m w Q' E' := by
  unfold Spec at *
  split at h <;> simp_all

/-- Two specifications of one run hold together. Reference: none. -/
theorem and (h : Spec m w Q E) (h' : Spec m w Q' E') :
    Spec m w (fun a w' => Q a w' ∧ Q' a w') (fun e w' => E e w' ∧ E' e w') := by
  unfold Spec at *
  split at h <;> simp_all

end Spec

/-! ## The primitives -/

@[simp] theorem tick_apply (w : World) : tick w =
    if w.oracle.crash = some w.tick then .abort .crash w
    else .ok w.tick { w with tick := w.tick + 1 } := by
  cases w; rfl

@[simp] theorem ioCall_apply (w : World) : ioCall w =
    if w.oracle.crash = some w.tick then .abort .crash w
    else .ok (w.oracle.io w.tick) { w with tick := w.tick + 1 } := by
  simp only [ioCall, tick_apply]; split_ifs <;> rfl

@[simp] theorem extCall_apply (w : World) : extCall w =
    if w.oracle.crash = some w.tick then .abort .crash w
    else .ok (w.oracle.ext w.tick) { w with tick := w.tick + 1 } := by
  simp only [extCall, tick_apply]; split_ifs <;> rfl

@[simp] theorem waitCall_apply (w : World) : waitCall w =
    if w.oracle.crash = some w.tick then .abort .crash w
    else .ok (w.oracle.ext w.tick)
      { w with tick := w.tick + 1, clock := w.clock + w.oracle.wait w.tick } := by
  simp only [waitCall, tick_apply]; split_ifs <;> rfl

@[simp] theorem modifySys_apply (f : Sys → Sys) (w : World) :
    modifySys f w = .ok () { w with sys := f w.sys } := by
  cases w; rfl

@[simp] theorem setHeld_apply (mode : LockMode) (w : World) :
    setHeld mode w = .ok () { w with held := mode } := by
  cases w; rfl

@[simp] theorem openImages_apply (w : World) : openImages w = .ok () { w with images_ := true } := by
  cases w; rfl

@[simp] theorem effect_apply (op : FileOp) (w : World) : effect op w =
    .ok () { w with sys := op.apply w.sys, trace := ⟨w.sys, op, w.held⟩ :: w.trace } := by
  cases w; rfl

@[simp] theorem get_apply (w : World) : get w = .ok w w := rfl

@[simp] theorem sys_apply (w : World) : sys w = .ok w.sys w := rfl

@[simp] theorem now_apply (w : World) : now w = .ok w.clock w := rfl

@[simp] theorem CHECK_apply (c : Bool) (condition : String) (w : World) :
    CHECK c condition w = if c then .ok () w else .abort (.check condition) w := rfl

@[simp] theorem fatal_apply {α : Type} (message : String) (w : World) :
    (fatal message : SM α) w = .abort (.fatal message) w := rfl

/-! ## Files and their history -/

/-- The files of a system: all of it but the kernel's devices. -/
def Sys.files (s : Sys) : Sys := { s with devices := [] }

namespace Sys

variable {s s' : Sys}

/-- Systems with the same files hold the same status files. Reference: none. -/
theorem records_of_files (h : s'.files = s.files) : s'.records = s.records :=
  (congrArg Sys.records h :)

/-- Systems with the same files hold the same state file. Reference: none. -/
theorem state_of_files (h : s'.files = s.files) : s'.state = s.state :=
  (congrArg Sys.state h :)

/-- Systems with the same files hold the same boot indicator. Reference: none. -/
theorem indicator_of_files (h : s'.files = s.files) : s'.indicator = s.indicator :=
  (congrArg Sys.indicator h :)

/-- Systems with the same files have the same live slot. Reference: none. -/
theorem slot_of_files (h : s'.files = s.files) : s'.slot = s.slot :=
  (congrArg Sys.slot h :)

/-- Systems with the same files have the same metadata. Reference: none. -/
theorem metadata_of_files (h : s'.files = s.files) : s'.metadata = s.metadata :=
  (congrArg Sys.metadata h :)

end Sys

@[simp] theorem FileOp.apply_devices (op : FileOp) (s : Sys) : (op.apply s).devices = s.devices := by
  cases op <;> simp only [FileOp.apply]
  split_ifs <;> rfl

/-- An effect applied to systems with the same files leaves them with the same files. Reference:
none. -/
theorem FileOp.apply_files (op : FileOp) {s s' : Sys} (h : s'.files = s.files) :
    (op.apply s').files = (op.apply s).files := by
  cases s; cases s'
  simp only [Sys.files, Sys.mk.injEq] at h
  obtain ⟨rfl, rfl, rfl, rfl, -, rfl, rfl, rfl⟩ := h
  cases op <;> simp only [FileOp.apply, Sys.files]
  split_ifs <;> rfl

/-- `t`, the latest first, is a history of effects that leads from the files of `s` to those of
`s'`: each event's `pre` has the files the events before it left, and `s'` has the files the
last one left. -/
def Chain : Sys → List Event → Sys → Prop
  | s, [], s' => s'.files = s.files
  | s, e :: t, s' => Chain s t e.pre ∧ s'.files = (e.op.apply e.pre).files

/-- A history's end may be replaced by a system with the same files. Reference: none. -/
theorem Chain.congr_right {s s₁ s₂ : Sys} :
    ∀ {t : List Event}, Chain s t s₁ → s₂.files = s₁.files → Chain s t s₂
  | [], h, h₂ => h₂.trans h
  | _ :: _, h, h₂ => ⟨h.1, h₂.trans h.2⟩

/-- A history's start may be replaced by a system with the same files. Reference: none. -/
theorem Chain.congr_left {s₁ s₂ s' : Sys} (h₁ : s₁.files = s₂.files) :
    ∀ {t : List Event}, Chain s₁ t s' → Chain s₂ t s'
  | [], h => h.trans h₁
  | _ :: _, h => ⟨Chain.congr_left h₁ h.1, h.2⟩

/-- Two histories, one after the other, make one. Reference: none. -/
theorem Chain.append {s s₁ s₂ : Sys} {t₁ : List Event} (h₁ : Chain s t₁ s₁) :
    ∀ {t₂ : List Event}, Chain s₁ t₂ s₂ → Chain s (t₂ ++ t₁) s₂
  | [], h₂ => h₁.congr_right h₂
  | _ :: _, h₂ => ⟨Chain.append h₁ h₂.1, h₂.2⟩

/-- An invariant of the files that every effect the history holds keeps holds at its end. Reference:
none. -/
theorem Chain.inv {P : Sys → Prop} (hP : ∀ s s', s'.files = s.files → P s → P s') {s s' : Sys} :
    ∀ {t : List Event}, Chain s t s' → (∀ e ∈ t, P e.pre → P (e.op.apply e.pre)) → P s → P s'
  | [], h, _, hs => hP _ _ h hs
  | e :: _, h, he, hs =>
    hP _ _ h.2 (he e (.head _) (Chain.inv hP h.1 (fun e' h' => he e' (.tail _ h')) hs))

/-! ## Frames -/

/-- What a run keeps between its first world `w` and its last `w'`: the oracle and the flock
held, and a history that grows only by events that satisfy `S`, made under that flock, which
account for every change of the files. -/
structure Frame (S : Event → Prop) (w w' : World) : Prop where
  oracle : w'.oracle = w.oracle
  held : w'.held = w.held
  log : ∃ t, w'.trace = t ++ w.trace ∧ Chain w.sys t w'.sys ∧ ∀ e ∈ t, e.mode = w.held ∧ S e

namespace Frame

variable {S S' : Event → Prop} {w w₁ w₂ : World}

/-- A step that changes neither the files, the oracle, the flock nor the history keeps every frame.
Reference: none. -/
theorem of_eq (ho : w₁.oracle = w.oracle) (hh : w₁.held = w.held) (ht : w₁.trace = w.trace)
    (hf : w₁.sys.files = w.sys.files) : Frame S w w₁ :=
  ⟨ho, hh, [], by simpa using ht, hf, by simp⟩

@[simp] theorem refl (w : World) : Frame S w w := of_eq rfl rfl rfl rfl

/-- A step that only counts. -/
@[simp] theorem of_tick (w : World) (k : Nat) : Frame S w { w with tick := k } :=
  of_eq rfl rfl rfl rfl

/-- Two frames, one after the other, make one. Reference: none. -/
theorem trans (h₁ : Frame S w w₁) (h₂ : Frame S w₁ w₂) : Frame S w w₂ := by
  obtain ⟨ho₁, hh₁, t₁, ht₁, hc₁, he₁⟩ := h₁
  obtain ⟨ho₂, hh₂, t₂, ht₂, hc₂, he₂⟩ := h₂
  refine ⟨ho₂.trans ho₁, hh₂.trans hh₁, t₂ ++ t₁, by simp [ht₂, ht₁], hc₁.append hc₂, ?_⟩
  intro e he
  rcases List.mem_append.mp he with he | he
  · exact hh₁ ▸ he₂ e he
  · exact he₁ e he

/-- A frame of `S` is a frame of any weaker `S'`. Reference: none. -/
theorem mono (h : Frame S w w₁) (hS : ∀ e, S e → S' e) : Frame S' w w₁ := by
  obtain ⟨ho, hh, t, ht, hc, he⟩ := h
  exact ⟨ho, hh, t, ht, hc, fun e h => ⟨(he e h).1, hS _ (he e h).2⟩⟩

/-- A frame with no effect leaves the files as they were. Reference: none. -/
theorem files (h : Frame (fun _ => False) w w₁) : w₁.sys.files = w.sys.files := by
  obtain ⟨-, -, t, -, hc, he⟩ := h
  cases t with
  | nil => exact hc
  | cons e _ => exact absurd (he e (.head _)).2 id

end Frame

/-! ## Runs that keep the frame -/

/-- The abort that a `CHECK(lock->lock_mode() == LOCK_EX)` makes. -/
def lockCheck : Abort := .check "lock->lock_mode() == LOCK_EX"

/-- Every run of `m` keeps `Frame S`, returns only values that satisfy `P`, and never stops on
the `CHECK` of the exclusive lock. -/
def Keeps {α : Type} (S : Event → Prop) (P : α → Prop) (m : SM α) : Prop :=
  ∀ w, Spec m w (fun a w' => P a ∧ Frame S w w') (fun e w' => e ≠ lockCheck ∧ Frame S w w')

namespace Keeps

variable {α β : Type} {S S' : Event → Prop} {P P' : α → Prop} {Q : β → Prop}

/-- `pure a` keeps every frame. Reference: none. -/
theorem pure {a : α} (h : P a) : Keeps S P (Pure.pure a : SM α) := fun w => ⟨h, Frame.refl w⟩

/-- `pure a` keeps every frame, with no fact about its value. Reference: none. -/
theorem pure_true {a : α} : Keeps S (fun _ => True) (Pure.pure a : SM α) := pure trivial

/-- A sequence keeps what its parts keep. Reference: none. -/
theorem bind {m : SM α} {f : α → SM β} (hm : Keeps S P m) (hf : ∀ a, P a → Keeps S Q (f a)) :
    Keeps S Q (m >>= f) := fun w =>
  (hm w).bind fun a w' h => (hf a h.1 w').mono (fun _ _ h' => ⟨h'.1, h.2.trans h'.2⟩)
    (fun _ _ h' => ⟨h'.1, h.2.trans h'.2⟩)

/-- A run that keeps `S` keeps any weaker kind, and its result may be weakened. Reference: none. -/
theorem mono {m : SM α} (h : Keeps S P m) (hS : ∀ e, S e → S' e) (hP : ∀ a, P a → P' a) :
    Keeps S' P' m := fun w =>
  (h w).mono (fun _ _ h' => ⟨hP _ h'.1, h'.2.mono hS⟩) (fun _ _ h' => ⟨h'.1, h'.2.mono hS⟩)

/-- `f <$> m` keeps what `m` keeps. Reference: none. -/
theorem map {m : SM α} {f : α → β} (h : Keeps S P m) : Keeps S (fun _ => True) (f <$> m) :=
  h.bind fun _ _ => pure trivial

/-- An `if` whose branches keep a frame keeps it. Reference: none. -/
theorem ite {c : Prop} [Decidable c] {a b : SM α} (ha : Keeps S P a) (hb : Keeps S P b) :
    Keeps S P (if c then a else b) := by
  split
  · exact ha
  · exact hb

/-- `if c then return a` followed by more code, as `do` unfolds it. Reference: none. -/
theorem early {c : Prop} [Decidable c] {a : α} {rest : SM α} (ha : P a) (hrest : Keeps S P rest) :
    Keeps S P (if c then Pure.pure a else (Pure.pure PUnit.unit >>= fun _ => rest)) :=
  ite (pure ha) (pure_true.bind fun _ _ => hrest)

/-- `let x ← if c then a else b` followed by more code, as `do` unfolds it: the rest, shared through
a join point, runs after either branch. Reference: none. -/
theorem ite_bind {c : Prop} [Decidable c] {a b : SM α} {f : α → SM β} (ha : Keeps S P a)
    (hb : Keeps S P b) (hf : ∀ x, P x → Keeps S Q (f x)) :
    Keeps S Q (if c then a >>= f else b >>= f) :=
  ite (ha.bind hf) (hb.bind hf)

/-- A run that returns keeps the frame and returns a value that satisfies `P`. Reference: none. -/
theorem of_ok {m : SM α} (h : Keeps S P m) {w w' : World} {a : α} (hm : m w = .ok a w') :
    P a ∧ Frame S w w' := by
  have h := h w
  rw [Spec, hm] at h
  exact h

/-- A step that changes nothing but the step count and the clock, and may be cut by the power.
Reference: none. -/
theorem of_step {m : SM α} (h : ∀ w, ∃ a, m w = (if w.oracle.crash = some w.tick then
    .abort .crash w else .ok a { w with tick := w.tick + 1, clock := w.clock + w.oracle.wait w.tick }) ∨
    m w = (if w.oracle.crash = some w.tick then .abort .crash w else .ok a { w with tick := w.tick + 1 })) :
    Keeps S (fun _ => True) m := fun w => by
  obtain ⟨a, h | h⟩ := h w <;>
  by_cases hc : w.oracle.crash = some w.tick <;> simp only [Spec, h, hc, if_true] <;>
  first | exact ⟨by decide, Frame.refl w⟩ | exact ⟨trivial, Frame.of_eq rfl rfl rfl rfl⟩

/-- `get` keeps every frame. Reference: none. -/
theorem get : Keeps S (fun _ => True) SM.get := fun w => ⟨trivial, Frame.refl w⟩

/-- `sys` keeps every frame. Reference: none. -/
theorem sys : Keeps S (fun _ => True) SM.sys := fun w => ⟨trivial, Frame.refl w⟩

/-- Reading the clock keeps every frame. Reference: none. -/
theorem now : Keeps S (fun _ => True) SM.now := fun w => ⟨trivial, Frame.refl w⟩

/-- A step that only counts keeps every frame. Reference: none. -/
theorem tick : Keeps S (fun _ => True) SM.tick := of_step fun w => ⟨_, .inr (tick_apply w)⟩

/-- An I/O call keeps every frame. Reference: none. -/
theorem ioCall : Keeps S (fun _ => True) SM.ioCall := of_step fun w => ⟨_, .inr (ioCall_apply w)⟩

/-- A call of a collaborator keeps every frame. Reference: none. -/
theorem extCall : Keeps S (fun _ => True) SM.extCall := of_step fun w => ⟨_, .inr (extCall_apply w)⟩

/-- A wait keeps every frame. Reference: none. -/
theorem waitCall : Keeps S (fun _ => True) SM.waitCall :=
  of_step fun w => ⟨_, .inl (waitCall_apply w)⟩

/-- Opening the image manager keeps every frame. Reference: none. -/
theorem openImages : Keeps S (fun _ => True) SM.openImages := fun w => by
  simp only [Spec, openImages_apply]
  exact ⟨trivial, Frame.of_eq rfl rfl rfl rfl⟩

/-- A change of the system that leaves its files alone: the kernel's devices. Reference: none. -/
theorem modifySys {f : Sys → Sys} (hf : ∀ s, (f s).files = s.files) :
    Keeps S (fun _ => True) (SM.modifySys f) := fun w => by
  simp only [Spec, modifySys_apply]
  exact ⟨trivial, Frame.of_eq rfl rfl rfl (hf w.sys)⟩

/-- A `CHECK` other than that of the exclusive lock, or one that passes, keeps every frame.
Reference: none. -/
theorem CHECK {c : Bool} {condition : String}
    (h : c = true ∨ condition ≠ "lock->lock_mode() == LOCK_EX") :
    Keeps S (fun _ => True) (SM.CHECK c condition) := fun w => by
  cases c
  · exact ⟨by simpa [lockCheck] using h, Frame.refl w⟩
  · exact ⟨trivial, Frame.refl w⟩

/-- A fatal error is not the `CHECK` of the exclusive lock, so it keeps every frame. Reference:
none. -/
theorem fatal {message : String} : Keeps S P (SM.fatal message : SM α) := fun w =>
  ⟨by simp [lockCheck], Frame.refl w⟩

/-- An effect keeps a frame whose kind allows it. Reference: none. -/
theorem effect {op : FileOp} (h : ∀ w : World, S ⟨w.sys, op, w.held⟩) :
    Keeps S (fun _ => True) (SM.effect op) := fun w => by
  simp only [Spec, effect_apply]
  exact ⟨trivial, rfl, rfl, [⟨w.sys, op, w.held⟩], rfl, ⟨rfl, rfl⟩, by simpa using h w⟩

/-- A write that may fail keeps a frame whose kind allows its effect. Reference: none. -/
theorem persist {op : FileOp} (h : ∀ w : World, S ⟨w.sys, op, w.held⟩) :
    Keeps S (fun _ => True) (SM.persist op) :=
  ioCall.bind fun ok _ => by
    cases ok
    · exact pure trivial
    · exact (effect h).bind fun _ _ => pure trivial

end Keeps

/-! ## Reliable file systems -/

/-- Every file-system call succeeds: the power may still be cut, and the mapper, image-manager
and metadata calls may still fail. -/
def Reliable (o : Oracle) : Prop := ∀ k, o.io k = true

/-! ## Triples on the system -/

/-- From every world whose oracle satisfies `O` and whose system satisfies `pre`, a run of `m`
keeps `Frame S` and never stops on the `CHECK` of the exclusive lock, and if it returns, its
value and last system satisfy `post`. The pre- and postconditions see only the system: the
oracle stays as it was (`Frame.oracle`), and the step count and the clock matter to no
invariant. -/
structure Runs {α : Type} (O : Oracle → Prop) (S : Event → Prop) (pre : Sys → Prop) (m : SM α)
    (post : α → Sys → Prop) : Prop where
  run : ∀ w, O w.oracle → pre w.sys → Spec m w (fun a w' => post a w'.sys ∧ Frame S w w')
    (fun e w' => e ≠ lockCheck ∧ Frame S w w')

namespace Runs

variable {α β : Type} {O : Oracle → Prop} {S : Event → Prop} {pre pre' : Sys → Prop}
  {post post' : α → Sys → Prop}

/-- `pure a` meets every postcondition its precondition implies. Reference: none. -/
theorem pure {a : α} (h : ∀ s, pre s → post a s) : Runs O S pre (Pure.pure a : SM α) post :=
  ⟨fun w _ hw => ⟨h _ hw, Frame.refl w⟩⟩

/-- A sequence runs from its precondition, through the middle condition, to the postcondition of its
second part. Reference: none. -/
theorem bind {m : SM α} {f : α → SM β} {mid : α → Sys → Prop} {R : β → Sys → Prop}
    (hm : Runs O S pre m mid) (hf : ∀ a, Runs O S (mid a) (f a) R) : Runs O S pre (m >>= f) R :=
  ⟨fun w ho hw => (hm.run w ho hw).bind fun a w₁ h₁ =>
    ((hf a).run w₁ (h₁.2.oracle ▸ ho) h₁.1).mono (fun _ _ h => ⟨h.1, h₁.2.trans h.2⟩)
      fun _ _ h => ⟨h.1, h₁.2.trans h.2⟩⟩

/-- A triple stays true under a stronger precondition and a weaker postcondition. Reference:
none. -/
theorem conseq {m : SM α} (h : Runs O S pre m post) (hpre : ∀ s, pre' s → pre s)
    (hpost : ∀ a s, post a s → post' a s) : Runs O S pre' m post' := ⟨fun w ho hw =>
  (h.run w ho (hpre _ hw)).mono (fun _ _ h => ⟨hpost _ _ h.1, h.2⟩) fun _ _ h => h⟩

/-- A triple's postcondition may be weakened. Reference: none. -/
theorem post_mono {m : SM α} (h : Runs O S pre m post) (hpost : ∀ a s, post a s → post' a s) :
    Runs O S pre m post' :=
  h.conseq (fun _ h => h) hpost

/-- A triple stays true under fewer oracles and a weaker kind of effects. Reference: none. -/
theorem mono {O' : Oracle → Prop} {S' : Event → Prop} {m : SM α} (h : Runs O S pre m post)
    (hO : ∀ o, O' o → O o) (hS : ∀ e, S e → S' e) : Runs O' S' pre m post := ⟨fun w ho hw =>
  (h.run w (hO _ ho) hw).mono (fun _ _ h => ⟨h.1, h.2.mono hS⟩) fun _ _ h => ⟨h.1, h.2.mono hS⟩⟩

/-- An `if` whose branches meet a triple meets it. Reference: none. -/
theorem ite {c : Prop} [Decidable c] {a b : SM α} (ha : c → Runs O S pre a post)
    (hb : ¬c → Runs O S pre b post) : Runs O S pre (if c then a else b) post := by
  split
  · exact ha ‹_›
  · exact hb ‹_›

/-- A precondition that fixes a value lets the rest of the run depend on it. Reference: none. -/
theorem intro {m : SM α} {P : Prop} (h : P → Runs O S pre m post) :
    Runs O S (fun s => P ∧ pre s) m post := ⟨fun w ho hw => (h hw.1).run w ho hw.2⟩

/-- What the precondition implies of the values bound so far may be assumed. Reference: none. -/
theorem assume {m : SM α} {P : Prop} (hP : ∀ s, pre s → P) (h : P → Runs O S pre m post) :
    Runs O S pre m post := ⟨fun w ho hw => (h (hP _ hw)).run w ho hw⟩

/-- A run may be proved for each value of a function of its first system. Reference: none. -/
theorem ghost {β : Type} {m : SM α} (f : Sys → β)
    (h : ∀ b, Runs O S (fun s => pre s ∧ f s = b) m post) : Runs O S pre m post :=
  ⟨fun w ho hw => (h (f w.sys)).run w ho ⟨hw, rfl⟩⟩

/-- A run that keeps a frame keeps every fact of the system that the frame's events and the kernel's
devices leave alone. Reference: none. -/
theorem of_keeps {S' : Event → Prop} {P : α → Prop} {m : SM α} (h : Keeps S' P m)
    (hS : ∀ e, S' e → S e) (hI : ∀ w w', Frame S' w w' → pre w.sys → pre w'.sys) :
    Runs O S pre m (fun a s => P a ∧ pre s) := ⟨fun w _ hw =>
  (h w).mono (fun _ _ h' => ⟨⟨h'.1, hI _ _ h'.2 hw⟩, h'.2.mono hS⟩)
    fun _ _ h' => ⟨h'.1, h'.2.mono hS⟩⟩

/-- A run that keeps a frame, from a precondition that does not look at the system. Reference:
none. -/
theorem keeps {S' : Event → Prop} {P : α → Prop} {m : SM α} {Q : Prop} (h : Keeps S' P m)
    (hS : ∀ e, S' e → S e) : Runs O S (fun _ => Q) m (fun a _ => P a ∧ Q) :=
  of_keeps h hS fun _ _ _ h => h

/-- A run with no effect keeps every fact of the files. Reference: none. -/
theorem of_quiet {P : α → Prop} {m : SM α} (h : Keeps (fun _ => False) P m)
    (hpre : ∀ s s', s'.files = s.files → pre s → pre s') :
    Runs O S pre m (fun a s => P a ∧ pre s) :=
  of_keeps h (fun _ h => h.elim) fun _ _ hf => hpre _ _ hf.files

/-- An effect is applied to a system that satisfied the precondition. Reference: none. -/
theorem effect {op : FileOp} (hS : ∀ s h, pre s → S ⟨s, op, h⟩) :
    Runs O S pre (SM.effect op) (fun _ s' => ∃ s, pre s ∧ s' = op.apply s) := ⟨fun w _ hw => by
  simp only [Spec, effect_apply]
  exact ⟨⟨_, hw, rfl⟩, rfl, rfl, [⟨w.sys, op, w.held⟩], rfl, ⟨rfl, rfl⟩, by simpa using hS _ _ hw⟩⟩

/-- An I/O call keeps the precondition. Reference: none. -/
theorem ioCall : Runs O S pre SM.ioCall (fun _ => pre) := ⟨fun w _ hw => by
  by_cases hc : w.oracle.crash = some w.tick <;> simp only [Spec, ioCall_apply, hc, if_true]
  · exact ⟨by decide, Frame.refl w⟩
  · exact ⟨hw, Frame.of_eq rfl rfl rfl rfl⟩⟩

/-- A write that may fail: if it returns `true`, its effect was made on a system that satisfied the
precondition; if `false`, nothing changed. Reference: none. -/
theorem persist {op : FileOp} (hS : ∀ s h, pre s → S ⟨s, op, h⟩) :
    Runs O S pre (SM.persist op)
      (fun r s' => if r then ∃ s, pre s ∧ s' = op.apply s else pre s') :=
  ioCall.bind fun _ => ite (fun _ => (effect hS).bind fun _ => pure fun _ h => h)
    fun _ => pure fun _ h => h

/-- The frame rule: a fact of the files that every effect the run may make keeps holds at its end.
Reference: none. -/
theorem frame {m : SM α} (h : Runs O S pre m post) (I : Sys → Prop)
    (hI : ∀ s s', s'.files = s.files → I s → I s')
    (hS : ∀ e, S e → I e.pre → I (e.op.apply e.pre)) :
    Runs O S (fun s => pre s ∧ I s) m (fun a s => post a s ∧ I s) := ⟨fun w ho hw =>
  have hend : ∀ w', Frame S w w' → I w'.sys := fun _ hf => by
    obtain ⟨-, -, t, -, hc, he⟩ := hf
    exact hc.inv hI (fun e h => hS e (he e h).2) hw.2
  (h.run w ho hw.1).mono (fun _ w' h => ⟨⟨h.1, hend w' h.2⟩, h.2⟩) fun _ _ h => h⟩

/-- A `CHECK` other than that of the exclusive lock, or one that passes, returns only when it
passed. Reference: none. -/
theorem CHECK {c : Bool} {condition : String}
    (h : c = true ∨ condition ≠ "lock->lock_mode() == LOCK_EX") :
    Runs O S pre (SM.CHECK c condition) (fun _ s => c = true ∧ pre s) := ⟨fun w _ hw => by
  cases c
  · exact ⟨by simpa [lockCheck] using h, Frame.refl w⟩
  · exact ⟨⟨rfl, hw⟩, Frame.refl w⟩⟩

/-- `sys` returns the system it runs on. Reference: none. -/
theorem sys : Runs O S pre SM.sys (fun a s => a = s ∧ pre s) :=
  ⟨fun w _ hw => ⟨⟨rfl, hw⟩, Frame.refl w⟩⟩

/-- On a reliable file system every file-system call succeeds. Reference: none. -/
theorem ioCall_reliable : Runs Reliable S pre SM.ioCall (fun b s => b = true ∧ pre s) :=
  ⟨fun w ho hw => by
    by_cases hc : w.oracle.crash = some w.tick <;> simp only [Spec, ioCall_apply, hc, if_true]
    · exact ⟨by decide, Frame.refl w⟩
    · exact ⟨⟨ho _, hw⟩, Frame.of_eq rfl rfl rfl rfl⟩⟩

end Runs

end LibSnapshot
