/-
Lamplighter.Proofs.Session.Pairing — two runs side by side.

* `Audience.Agree` — audiences that act alike during a walk, on sessions and states that belong together.
* `crew_agree` — their walks come out side by side.
* `AgreeAfter`, `run_agree` — if they also act alike when told of an end, their runs are answered alike.
* `Audience.Keeps`, `walk_keeps` — what everyone who acts during a walk keeps, the walk keeps: the case of a
  run beside itself.

The two sessions may differ in their programs, which a walk does not look at. What it means for the states
of the two audiences to belong together is left open.
-/
import Lamplighter.Proofs.Run.Pairing
import Lamplighter.Proofs.Run.Stage
import Lamplighter.Proofs.Session.Runs
import Mathlib.Data.List.Forall2

namespace Lamplighter

variable {ρ ρ' : Type}

/-! ## Lists with elements left out -/

/-- One list is another in which some elements are left out (`dropped`), and the others are alike. -/
inductive Thinned {α β : Type} (dropped : α → Prop) (alike : α → β → Prop) : List α → List β → Prop
  | nil : Thinned dropped alike [] []
  | keep {a : α} {b : β} {l : List α} {l' : List β} (same : alike a b) (rest : Thinned dropped alike l l') :
      Thinned dropped alike (a :: l) (b :: l')
  | drop {a : α} {l : List α} {l' : List β} (out : dropped a) (rest : Thinned dropped alike l l') :
      Thinned dropped alike (a :: l) l'

namespace Thinned

variable {α β α' β' : Type} {dropped : α → Prop} {alike : α → β → Prop} {dropped' : α' → Prop}
  {alike' : α' → β' → Prop} {l m : List α} {l' m' : List β}

theorem append (h : Thinned dropped alike l l') (later : Thinned dropped alike m m') :
    Thinned dropped alike (l ++ m) (l' ++ m') := by
  induction h with
  | nil => exact later
  | keep same rest ih => exact .keep same ih
  | drop out rest ih => exact .drop out ih

theorem map {f : α → α'} {g : β → β'} (h : Thinned dropped alike l l')
    (out : ∀ a, dropped a → dropped' (f a)) (same : ∀ a b, alike a b → alike' (f a) (g b)) :
    Thinned dropped' alike' (l.map f) (l'.map g) := by
  induction h with
  | nil => exact .nil
  | keep first rest ih => exact .keep (same _ _ first) ih
  | drop gone rest ih => exact .drop (out _ gone) ih

theorem mono {dropped' : α → Prop} {alike' : α → β → Prop} (h : Thinned dropped alike l l')
    (out : ∀ a, dropped a → dropped' a) (same : ∀ a b, alike a b → alike' a b) :
    Thinned dropped' alike' l l' := by
  simpa using h.map (f := id) (g := id) out same

theorem of_map {f : β → α} {l : List β} (same : ∀ b ∈ l, alike (f b) b) : Thinned dropped alike (l.map f) l := by
  induction l with
  | nil => exact .nil
  | cons b l ih =>
    exact .keep (same b List.mem_cons_self) (ih (fun c hc => same c (List.mem_cons_of_mem b hc)))

theorem refl {alike : α → α → Prop} {l : List α} (same : ∀ a ∈ l, alike a a) : Thinned dropped alike l l := by
  simpa using of_map (f := id) same

/-- Nothing is left out that is looked for. -/
theorem filter {l l' : List α} {p : α → Bool} (h : Thinned dropped Eq l l')
    (out : ∀ a, dropped a → p a = false) : l'.filter p = l.filter p := by
  induction h with
  | nil => rfl
  | keep same rest ih => rw [same, List.filter_cons, List.filter_cons, ih]
  | drop gone rest ih =>
    rw [List.filter_cons, out _ gone, ih]
    rfl

theorem ofForall₂ (h : List.Forall₂ alike l l') : Thinned dropped alike l l' := by
  induction h with
  | nil => exact .nil
  | cons same _ ih => exact .keep same ih

/-- A list in which nothing may be left out is kept whole. -/
theorem forall₂ (h : Thinned dropped alike l l') (whole : ∀ a, ¬ dropped a) : List.Forall₂ alike l l' := by
  induction h with
  | nil => exact .nil
  | keep same rest ih => exact .cons same ih
  | drop out rest ih => exact absurd out (whole _)

end Thinned

/-! ## Audiences side by side -/

/-- Two sessions that differ at most in their programs. -/
def Session.Alike (s t : Session) : Prop := t = { s with program := t.program }

theorem Session.Alike.refl (s : Session) : s.Alike s := rfl

/-- What is done by someone who may act in one run, beside what someone does in another: both raise the same or
nothing, and the sessions and states that they leave belong together (`R`). -/
def Session.ActAlike (R : Session → ρ → Session → ρ' → Prop) (f : Option Fault × Session × ρ)
    (g : Option Fault × Session × ρ') : Prop :=
  g.1 = f.1 ∧ R f.2.1 f.2.2 g.2.1 g.2.2

/-- Two audiences whose members act alike during a walk, on sessions and states that belong together (`R`), and
raise only what may break a walk off (`B`). The first may have more listeners, who change nothing by which these
belong together. -/
structure Audience.Agree (R : Session → ρ → Session → ρ' → Prop) (B : Fault → Prop) (a : Audience ρ)
    (b : Audience ρ') : Prop where
  alike : ∀ s w t w', R s w t w' → s.Alike t
  during : ∀ s w t w' x path active, R s w t w' → R (s.during x path active) w (t.during x path active) w'
  told : Thinned (fun l => ∀ e s w t w', e.kind ≠ .runFinished → R s w t w' →
      (l e s w).1 = none ∧ R (l e s w).2.1 (l e s w).2.2 t w')
    (fun l l' => ∀ e s w t w', e.kind ≠ .runFinished → R s w t w' → Session.ActAlike R (l e s w) (l' e t w'))
    a.listeners b.listeners
  slept : ∀ n s w t w', R s w t w' → Session.ActAlike R (a.sleep n s w) (b.sleep n t w')
  printed : ∀ r s w t w', R s w t w' → R s (a.print r w) t (b.print r w')
  raised : ∀ n s w t w' fault, R s w t w' → (a.sleep n s w).1 = some fault → B fault
  breaks : ∀ fault, fault.breaks = true → B fault

namespace Session

variable {R : Session → ρ → Session → ρ' → Prop} {B : Fault → Prop} {a : Audience ρ} {b : Audience ρ'}

/-! ## Stages side by side -/

/-- Two stages whose sessions belong together, with the walk at one address and the same last refusal. -/
structure Abeam (R : Session → ρ → Session → ρ' → Prop) (st : Stage (Desk × ρ)) (st' : Stage (Desk × ρ')) :
    Prop where
  sessions : R (ofStage st) st.world.2 (ofStage st') st'.world.2
  path : st'.path = st.path
  failure : st'.failure = st.failure

/-- How two walks stop: side by side, and broken off only by what may break a walk off. -/
def Halted (R : Session → ρ → Session → ρ' → Prop) (B : Fault → Prop) (e : Ending) (st : Stage (Desk × ρ))
    (st' : Stage (Desk × ρ')) : Prop :=
  Abeam R st st' ∧ ∀ fault, e = .broken fault → B fault

section Stages

variable {st : Stage (Desk × ρ)} {st' : Stage (Desk × ρ')}

theorem Abeam.attempt (h : a.Agree R B b) (abeam : Abeam R st st') : st'.attempt = st.attempt := by
  have alike := h.alike _ _ _ _ abeam.sessions
  have robot : some st'.attempt.robot = some st.attempt.robot := congrArg Session.robot alike
  have lit : st'.attempt.lit = st.attempt.lit := congrArg Session.lit alike
  have store : st'.attempt.store = st.attempt.store := congrArg Session.store alike
  calc st'.attempt = ⟨st'.attempt.robot, st'.attempt.lit, st'.attempt.store⟩ := rfl
    _ = ⟨st.attempt.robot, st.attempt.lit, st.attempt.store⟩ := by rw [Option.some.inj robot, lit, store]

/-- A walk may change the attempt in both runs. -/
theorem Abeam.move (h : a.Agree R B b) (abeam : Abeam R st st') (x : Attempt) :
    R (ofStage { st with attempt := x }) st.world.2 (ofStage { st' with attempt := x }) st'.world.2 := by
  have alike := h.alike _ _ _ _ abeam.sessions
  have path : st'.world.1.path = st.world.1.path := congrArg (fun s => s.path) alike
  have active : st'.world.1.active = st.world.1.active := congrArg (fun s => s.active) alike
  have moved := h.during _ _ _ _ x st.world.1.path st.world.1.active abeam.sessions
  have there : ofStage { st' with attempt := x } =
      (ofStage st').during x st.world.1.path st.world.1.active := by
    rw [← path, ← active]
    rfl
  rw [there]
  exact moved

/-- Members that act alike leave stages side by side. -/
theorem visit_agree (h : a.Agree R B b) {f : Session → ρ → Option Fault × Session × ρ}
    {g : Session → ρ' → Option Fault × Session × ρ'} (abeam : Abeam R st st')
    (acts : ActAlike R (f (ofStage st) st.world.2) (g (ofStage st') st'.world.2)) :
    (visit g st').1 = (visit f st).1 ∧ Abeam R (visit f st).2 (visit g st').2 := by
  have attempt := abeam.attempt h
  refine ⟨acts.1, ?_, abeam.path, abeam.failure⟩
  unfold visit
  generalize f (ofStage st) st.world.2 = left at acts ⊢
  generalize g (ofStage st') st'.world.2 = right at acts ⊢
  obtain ⟨fault, s, w⟩ := left
  obtain ⟨fault', t, w'⟩ := right
  have together : R s w t w' := acts.2
  obtain ⟨q, rfl⟩ : ∃ q, t = { s with program := q } := ⟨_, h.alike _ _ _ _ together⟩
  have kept := h.during _ _ _ _ ⟨s.robot.getD st.attempt.robot, s.lit, s.store⟩ s.path s.active together
  simp only [onStage, attempt]
  exact kept

/-- Whoever changes nothing by which sessions belong together leaves stages side by side. -/
theorem visit_alone (h : a.Agree R B b) {f : Session → ρ → Option Fault × Session × ρ} (abeam : Abeam R st st')
    (acts : (f (ofStage st) st.world.2).1 = none ∧
      R (f (ofStage st) st.world.2).2.1 (f (ofStage st) st.world.2).2.2 (ofStage st') st'.world.2) :
    (visit f st).1 = none ∧ Abeam R (visit f st).2 st' := by
  refine ⟨acts.1, ?_, abeam.path, abeam.failure⟩
  unfold visit
  generalize f (ofStage st) st.world.2 = left at acts ⊢
  obtain ⟨fault, s, w⟩ := left
  have together : R s w (ofStage st') st'.world.2 := acts.2
  have alike : ofStage st' = { s with program := st'.world.1.program } := h.alike _ _ _ _ together
  have robot : some st'.attempt.robot = s.robot := congrArg Session.robot alike
  have kept := h.during _ _ _ _ ⟨s.robot.getD st.attempt.robot, s.lit, s.store⟩ s.path s.active together
  -- the walk's part in it is none: the session on the right is as it was
  have still : (ofStage st').during ⟨s.robot.getD st.attempt.robot, s.lit, s.store⟩ s.path s.active =
      ofStage st' := by
    have present : some (s.robot.getD st.attempt.robot) = s.robot := by
      rw [← robot]
      rfl
    rw [alike]
    simp only [during, present]
  rw [still] at kept
  exact kept

theorem say_agree (h : a.Agree R B b) (r : Remark) (abeam : Abeam R st st') :
    Abeam R ((surroundings a).say r st) ((surroundings b).say r st') where
  sessions := h.printed r _ _ _ _ abeam.sessions
  path := abeam.path
  failure := abeam.failure

/-- Two listeners that act alike. -/
def HearAlike (R : Session → ρ → Session → ρ' → Prop) (e : Event) (l : Listener (Desk × ρ))
    (l' : Listener (Desk × ρ')) : Prop :=
  ∀ st st', Abeam R st st' → (l' e st').1 = (l e st).1 ∧ Abeam R (l e st).2 (l' e st').2

/-- A listener who changes nothing by which two runs belong together. -/
def HearAlone (R : Session → ρ → Session → ρ' → Prop) (e : Event) (l : Listener (Desk × ρ)) : Prop :=
  ∀ st (st' : Stage (Desk × ρ')), Abeam R st st' → (l e st).1 = none ∧ Abeam R (l e st).2 st'

/-- Listeners that act alike are remarked on alike. -/
theorem hearing_agree (h : a.Agree R B b) (e : Event) {l : Listener (Desk × ρ)} {l' : Listener (Desk × ρ')}
    (hear : HearAlike R e l l') (abeam : Abeam R st st') :
    ((surroundings b).hearing e l' st').1 = ((surroundings a).hearing e l st).1 ∧
      Abeam R ((surroundings a).hearing e l st).2 ((surroundings b).hearing e l' st').2 := by
  have heard := hear st st' abeam
  unfold Surroundings.hearing
  generalize l e st = left at heard ⊢
  generalize l' e st' = right at heard ⊢
  obtain ⟨fault, m⟩ := left
  obtain ⟨fault', m'⟩ := right
  obtain ⟨rfl, abeam⟩ : fault' = fault ∧ Abeam R m m' := heard
  cases fault' with
  | none => exact ⟨rfl, abeam⟩
  | some fault =>
    dsimp only
    cases fault.wording with
    | ok text => exact ⟨rfl, say_agree h _ abeam⟩
    | error met => exact ⟨rfl, abeam⟩

theorem tell_agree (h : a.Agree R B b) (e : Event) {ls : List (Listener (Desk × ρ))}
    {ls' : List (Listener (Desk × ρ'))} (hear : Thinned (HearAlone R e) (HearAlike R e) ls ls')
    (abeam : Abeam R st st') :
    ((surroundings b).tell e ls' st').1 = ((surroundings a).tell e ls st).1 ∧
      Abeam R ((surroundings a).tell e ls st).2 ((surroundings b).tell e ls' st').2 := by
  induction hear generalizing st st' with
  | nil => exact ⟨rfl, abeam⟩
  | @drop l ls ls' alone rest ih =>
    obtain ⟨quiet, abeam⟩ := alone st st' abeam
    rw [Surroundings.tell_cons, Surroundings.hearing_quiet _ _ quiet]
    exact ih abeam
  | @keep l l' ls ls' first rest ih =>
    have heard := hearing_agree h e first abeam
    rw [Surroundings.tell_cons, Surroundings.tell_cons]
    generalize (surroundings a).hearing e l st = left at heard ⊢
    generalize (surroundings b).hearing e l' st' = right at heard ⊢
    obtain ⟨met, m⟩ := left
    obtain ⟨met', m'⟩ := right
    obtain ⟨rfl, abeam⟩ : met' = met ∧ Abeam R m m' := heard
    cases met' with
    | none => exact ih abeam
    | some met => exact ⟨rfl, abeam⟩

/-- What breaks off a telling breaks off the walk. -/
theorem breaks_of_tell {around : Surroundings (Desk × ρ)} {e : Event} {ls : List (Listener (Desk × ρ))}
    {fault : Fault} (h : (around.tell e ls st).1 = some fault) : fault.breaks = true := by
  induction ls generalizing st with
  | nil => cases h
  | cons l rest ih =>
    unfold Surroundings.tell at h
    split at h
    · exact ih h
    · split at h
      · exact ih h
      · rename_i met heq
        obtain rfl : met = fault := Option.some.inj h
        exact breaks_of_wording heq

/-- The sessions of two runs note the same. -/
theorem track_agree (h : a.Agree R B b) (e : Event) : HearAlike R e track track := by
  intro st st' abeam
  have noted := h.during _ _ _ _ st.attempt e.path (if e.kind = .blockStarted then e.command else none)
    abeam.sessions
  refine ⟨rfl, ?_, abeam.path, abeam.failure⟩
  have there : ofStage (track e st').2 =
      (ofStage st').during st.attempt e.path (if e.kind = .blockStarted then e.command else none) := by
    rw [← abeam.attempt h]
    rfl
  rw [there]
  exact noted

theorem emit_agree (h : a.Agree R B b) {kind : EventKind} (midrun : kind ≠ .runFinished) (path : Path)
    (block : Block) (success : Option Bool) (abeam : Abeam R st st') :
    ((surroundings b).emit kind path block success st').1 = ((surroundings a).emit kind path block success st).1 ∧
      Abeam R ((surroundings a).emit kind path block success st).2
        ((surroundings b).emit kind path block success st').2 := by
  unfold Surroundings.emit
  rw [abeam.attempt h]
  refine tell_agree h _ (.keep (track_agree h _) (h.told.map ?_ ?_)) abeam
  · intro l alone st st' abeam
    exact visit_alone h abeam (alone _ _ _ _ _ midrun abeam.sessions)
  · intro l l' acts st st' abeam
    exact visit_agree h abeam (acts _ _ _ _ _ midrun abeam.sessions)

/-- Both runs have told of a command. -/
theorem parted_agree {told : Option Fault × Stage (Desk × ρ)} {told' : Option Fault × Stage (Desk × ρ')}
    (alike : told'.1 = told.1 ∧ Abeam R told.2 told'.2) : Abeam R (Stage.parted told) (Stage.parted told') := by
  obtain ⟨fault, m⟩ := told
  obtain ⟨fault', m'⟩ := told'
  obtain ⟨rfl, abeam⟩ : fault' = fault ∧ Abeam R m m' := alike
  cases fault' with
  | none => exact ⟨abeam.sessions, abeam.path, abeam.failure⟩
  | some fault => exact abeam

/-- A command is carried out in both runs. -/
theorem carryOut_agree (h : a.Agree R B b) (setup : Setup) (path : Path) (block : Block) (name : String) :
    Act.Agree (Abeam R) (Halted R B) ((setup.crew (surroundings a)).carryOut path block name)
      ((setup.crew (surroundings b)).carryOut path block name) := by
  intro st st' abeam
  have report : setup.report name st' = setup.report name st := by
    rw [Setup.report, Setup.report, abeam.attempt h]
  have begun : Abeam R (setup.begin name st) (setup.begin name st') := by
    have moved := abeam.move h (setup.report name st).attempt
    refine ⟨?_, abeam.path, ?_⟩
    · rw [Setup.begin, Setup.begin, report]
      exact moved
    · rw [Setup.begin, Setup.begin, report, abeam.failure]
  have told : Abeam R (setup.told (surroundings a) name st) (setup.told (surroundings b) name st') := by
    rw [Setup.told, Setup.told, report]
    exact setup.narrate_together (fun _ _ abeam => abeam.path) (fun r _ _ abeam => say_agree h r abeam) _ begun
  have tellable : setup.isTellable name st' = setup.isTellable name st := by
    rw [Setup.isTellable, Setup.isTellable, report]
  rw [Setup.carryOut_eq, Setup.carryOut_eq, tellable, report]
  split
  · have midrun : EventKind.commandFinished ≠ .runFinished := by simp
    have emitted := emit_agree h midrun path block (some (setup.report name st).ok) told
    have broken : ∀ fault, ((surroundings a).emit .commandFinished path block (some (setup.report name st).ok)
        (setup.told (surroundings a) name st)).1 = some fault → B fault :=
      fun fault e => h.breaks _ (breaks_of_tell e)
    rw [Setup.telling, Setup.telling, report]
    have parted := parted_agree emitted
    generalize (surroundings a).emit .commandFinished path block _ _ = left at emitted broken parted ⊢
    generalize (surroundings b).emit .commandFinished path block _ _ = right at emitted parted ⊢
    rw [emitted.1]
    by_cases ended : Ending.told (setup.report name st).ok left.1 = .success
    · rw [ended]
      exact .going parted
    · refine .stopped ended ⟨parted, fun fault e => broken fault ?_⟩
      unfold Ending.told at e
      split at e
      · cases e
        assumption
      · split at e <;> cases e
  · refine .stopped (by simp) ⟨told, fun fault e => ?_⟩
    cases e
    exact h.breaks _ rfl

/-- Hooks that act alike. -/
theorem call_agree {f : Stage (Desk × ρ) → Option Fault × Stage (Desk × ρ)}
    {g : Stage (Desk × ρ') → Option Fault × Stage (Desk × ρ')}
    (alike : ∀ st st', Abeam R st st' → (g st').1 = (f st).1 ∧ Abeam R (f st).2 (g st').2)
    (raised : ∀ st st' fault, Abeam R st st' → (f st).1 = some fault → B fault) :
    Act.Agree (Abeam R) (Halted R B) (Act.call f) (Act.call g) := by
  refine Act.call_agree (fun st st' abeam => (alike st st' abeam).1)
    (fun st st' abeam _ => (alike st st' abeam).2) ?_
  intro st st' fault abeam raises
  refine ⟨(alike st st' abeam).2, fun other e => ?_⟩
  cases e
  exact raised st st' fault abeam raises

/-- What a pause raises by itself breaks a walk off. -/
theorem breaks_of_seconds {delay : Int} {fault : Fault} (h : Delay.seconds delay = .error fault) :
    fault.breaks = true := by
  unfold Delay.seconds at h
  dsimp only at h
  split at h
  · cases h
  · cases h
    rfl

theorem pause_agree (h : a.Agree R B b) :
    Act.Agree (Abeam R) (Halted R B) (Act.call (pause a)) (Act.call (pause b)) := by
  have delay : ∀ st st', Abeam R st st' → st'.world.1.delay = st.world.1.delay :=
    fun st st' abeam => congrArg (fun s => s.delay) (h.alike _ _ _ _ abeam.sessions)
  refine call_agree ?_ ?_
  · intro st st' abeam
    unfold pause
    rw [delay st st' abeam]
    split
    · exact ⟨rfl, abeam⟩
    · exact visit_agree h abeam (h.slept _ _ _ _ _ abeam.sessions)
  · intro st st' fault abeam raised
    unfold pause at raised
    split at raised
    · rename_i heq
      cases raised
      exact h.breaks _ (breaks_of_seconds heq)
    · exact h.raised _ _ _ _ _ _ abeam.sessions raised

/-- The crews of two runs. -/
theorem crew_agree (h : a.Agree R B b) (setup : Setup) :
    (setup.crew (surroundings a)).Agree Eq (Abeam R) (Halted R B) (setup.crew (surroundings b)) where
  below x y i same := by rw [same]
  cap := rfl
  poll := Crew.poll_agree (fun st st' abeam => congrArg Session.cancelled (h.alike _ _ _ _ abeam.sessions))
    (fun st st' abeam _ => ⟨abeam, fun fault e => by cases e⟩)
  announce x y block same := by
    subst same
    have there : ∀ st st', Abeam R st st' → Abeam R { st with path := x } { st' with path := x } :=
      fun st st' abeam => ⟨abeam.sessions, rfl, abeam.failure⟩
    exact call_agree (fun st st' abeam => emit_agree h (by simp) x block none (there st st' abeam))
      (fun st st' fault abeam broken => h.breaks _ (breaks_of_tell broken))
  carryOut x y block name _ same := by
    subst same
    exact carryOut_agree h setup x block name
  onColor color st st' abeam := by simp only [Setup.crew, abeam.attempt h]
  skip x y block why st st' same abeam := by
    subst same
    exact say_agree h _ abeam
  clamp x y k same := by
    subst same
    refine call_agree (fun st st' abeam => ?_) (fun st st' fault abeam broken => ?_)
    · simp only [Setup.crew, Setup.clamp]
      split
      · exact ⟨rfl, say_agree h _ abeam⟩
      · exact ⟨rfl, abeam⟩
    · simp only [Setup.crew, Setup.clamp] at broken
      split at broken
      · cases broken
      · cases broken
        exact h.breaks _ rfl
  pause := pause_agree h
  rest := call_agree (fun st st' abeam => visit_agree h abeam (h.slept .zero _ _ _ _ abeam.sessions))
    (fun st st' fault abeam raised => h.raised .zero _ _ _ _ fault abeam.sessions raised)

end Stages

/-! ## The ends of two runs -/

/-- Two audiences whose members act alike when they are told of the end of a run, on sessions and states that
belong together (`S`). -/
structure AgreeAfter (S : Session → ρ → Session → ρ' → Prop) (a : Audience ρ) (b : Audience ρ') : Prop where
  alike : ∀ s w t w', S s w t w' → s.Alike t
  ended : ∀ s w t w' status failure, S s w t w' → S { s with status, failure } w { t with status, failure } w'
  reset : ∀ s w t w', S s w t w' → S s.resetToStart.2 w t.resetToStart.2 w'
  told : Thinned (fun l => ∀ e s w t w', e.kind = .runFinished → S s w t w' →
      (l e s w).1 = none ∧ S (l e s w).2.1 (l e s w).2.2 t w')
    (fun l l' => ∀ e s w t w', e.kind = .runFinished → S s w t w' → ActAlike S (l e s w) (l' e t w'))
    a.listeners b.listeners
  printed : ∀ r s w t w', S s w t w' → S s (a.print r w) t (b.print r w')

section Ends

variable {S : Session → ρ → Session → ρ' → Prop} {s t : Session} {w : ρ} {w' : ρ'}

/-- Listeners who act alike are told of the end of a run alike, where what is printed on them makes no difference. -/
theorem notifyOne_agree {e e' : Event} {l : Event → Session → ρ → Option Fault × Session × ρ}
    {l' : Event → Session → ρ' → Option Fault × Session × ρ'}
    (printed : ∀ text s w t w', S s w t w' →
      S s (a.print (complaintRemark text) w) t (b.print (complaintRemark text) w'))
    (acts : ActAlike S (l e s w) (l' e' t w')) :
    ActAlike S (notifyOne a e l s w) (notifyOne b e' l' t w') := by
  unfold notifyOne
  generalize l e s w = x at acts ⊢
  generalize l' e' t w' = y at acts ⊢
  obtain ⟨fault, s, w⟩ := x
  obtain ⟨fault', t, w'⟩ := y
  obtain ⟨rfl, left⟩ : fault' = fault ∧ S s w t w' := acts
  cases fault' with
  | none => exact ⟨rfl, left⟩
  | some fault =>
    dsimp only
    cases fault.wording with
    | ok text => exact ⟨rfl, printed text _ _ _ _ left⟩
    | error met => exact ⟨rfl, left⟩

theorem notify_agree (h : AgreeAfter S a b) (e : Event)
    {ls : List (Event → Session → ρ → Option Fault × Session × ρ)}
    {ls' : List (Event → Session → ρ' → Option Fault × Session × ρ')}
    (told : Thinned (fun l => ∀ s w t w', S s w t w' → (l e s w).1 = none ∧ S (l e s w).2.1 (l e s w).2.2 t w')
      (fun l l' => ∀ s w t w', S s w t w' → ActAlike S (l e s w) (l' e t w')) ls ls')
    (together : S s w t w') :
    (notify b e ls' t w').1 = (notify a e ls s w).1 ∧
      S (notify a e ls s w).2.1 (notify a e ls s w).2.2 (notify b e ls' t w').2.1 (notify b e ls' t w').2.2 := by
  induction told generalizing s t w w' with
  | nil => exact ⟨rfl, together⟩
  | @drop l ls ls' alone rest ih =>
    have heard := alone s w t w' together
    rw [notify]
    generalize l e s w = x at heard ⊢
    obtain ⟨fault, s, w⟩ := x
    obtain ⟨rfl, left⟩ : fault = none ∧ S s w t w' := heard
    exact ih left
  | @keep l l' ls ls' first rest ih =>
    have heard := notifyOne_agree (fun _ => h.printed _) (first s w t w' together)
    rw [notify_cons, notify_cons]
    generalize notifyOne a e l s w = x at heard ⊢
    generalize notifyOne b e l' t w' = y at heard ⊢
    obtain ⟨met, s, w⟩ := x
    obtain ⟨met', t, w'⟩ := y
    obtain ⟨rfl, left⟩ : met' = met ∧ S s w t w' := heard
    cases met' with
    | none => exact ih left
    | some met => exact ⟨rfl, left⟩

theorem finish_agree (h : AgreeAfter S a b) (outcome : Outcome) (together : S s w t w') :
    (finish b outcome t w').1 = (finish a outcome s w).1 ∧
      S (finish a outcome s w).2.1 (finish a outcome s w).2.2 (finish b outcome t w').2.1
        (finish b outcome t w').2.2 := by
  obtain ⟨q, rfl⟩ : ∃ q, t = { s with program := q } := ⟨_, h.alike _ _ _ _ together⟩
  unfold finish
  dsimp only
  split
  · exact ⟨rfl, together⟩
  · rename_i robot _
    have notified := notify_agree h (Event.ofOutcome outcome ⟨robot, s.lit, s.store⟩)
      (h.told.mono (fun l alone s w t w' => alone _ s w t w' rfl) (fun l l' acts s w t w' => acts _ s w t w' rfl))
      together
    generalize notify a _ a.listeners s w = x at notified ⊢
    generalize notify b _ b.listeners _ w' = y at notified ⊢
    obtain ⟨met, s, w⟩ := x
    obtain ⟨met', t, w'⟩ := y
    obtain ⟨rfl, left⟩ : met' = met ∧ S s w t w' := notified
    cases met' <;> exact ⟨rfl, left⟩

theorem finishFailed_agree (h : AgreeAfter S a b) (why : Option Failure) (message : String)
    (together : S s w t w') :
    (finishFailed b why message t w').1 = (finishFailed a why message s w).1 ∧
      S (finishFailed a why message s w).2.1 (finishFailed a why message s w).2.2
        (finishFailed b why message t w').2.1 (finishFailed b why message t w').2.2 := by
  obtain ⟨q, rfl⟩ : ∃ q, t = { s with program := q } := ⟨_, h.alike _ _ _ _ together⟩
  cases legal : s.status.mayBecome .fail with
  | true =>
    have legal' : { s with program := q }.status.mayBecome .fail = true := legal
    rw [finishFailed_legal legal, finishFailed_legal legal']
    exact finish_agree h .fail (h.printed _ _ _ _ _ (h.ended _ _ _ _ .fail why together))
  | false =>
    have illegal : { s with program := q }.status.mayBecome .fail = false := legal
    rw [finishFailed_illegal legal, finishFailed_illegal illegal]
    exact ⟨rfl, h.ended _ _ _ _ s.status why together⟩

/-- Two runs that have come to the same ending are resolved alike. -/
theorem resolve_agree (h : AgreeAfter S a b) (level : Level) (ending : Ending) (why : Option Failure)
    (together : S s w t w') :
    (resolve b level ending why t w').1 = (resolve a level ending why s w).1 ∧
      S (resolve a level ending why s w).2.1 (resolve a level ending why s w).2.2
        (resolve b level ending why t w').2.1 (resolve b level ending why t w').2.2 := by
  cases ending with
  | broken fault => exact ⟨rfl, together⟩
  | cancelled =>
    rw [resolve_cancelled, resolve_cancelled]
    exact finish_agree h .cancelled (h.printed _ _ _ _ _ (h.reset _ _ _ _ together))
  | failure => exact finishFailed_agree h why _ together
  | success =>
    obtain ⟨q, rfl⟩ : ∃ q, t = { s with program := q } := ⟨_, h.alike _ _ _ _ together⟩
    have solved : isWin { s with program := q } = s.isWin := rfl
    rw [resolve_success, resolve_success, solved]
    cases s.isWin with
    | false => exact finishFailed_agree h _ _ together
    | true =>
      cases s.status.mayBecome .win with
      | true => exact finish_agree h .win (h.printed _ _ _ _ _ (h.ended _ _ _ _ .win s.failure together))
      | false => exact ⟨rfl, together⟩

/-- The walks of two runs of one program, whose audiences act alike, come out side by side. -/
theorem walk_agree (walking : a.Agree R B b) {level : Level} (program : Program)
    (start : R (s.started level) w (t.started level) w') :
    Abreast (Abeam R) (Halted R B) (s.walk a level program w) (t.walk b level program w') := by
  have house : t.house = s.house := congrArg (fun s => s.house) (walking.alike _ _ _ _ start)
  have setup : (t.started level).setup level = (s.started level).setup level := by
    simp only [Session.setup, started, prepare, resetAttempt, house]
  have begun : Abeam R ((s.started level).stage level.start (a.print (startRemark level program) w))
      ((t.started level).stage level.start (b.print (startRemark level program) w')) :=
    ⟨walking.printed _ _ _ _ _ start, rfl, rfl⟩
  unfold walk
  rw [setup]
  exact (crew_agree walking ((s.started level).setup level)).runFrom program [] [] 0 rfl _ _ begun

/-- Two runs of one program, whose audiences act alike, are answered alike, and leave what belongs together. -/
theorem run_agree (walking : a.Agree R B b) (after : AgreeAfter S a b)
    (settled : ∀ s w t w', R s w t w' → S s.settle w t.settle w') {level : Level} {p q : Option Program}
    (request : s.levelFor (p.getD s.program) = .ok level) (request' : t.levelFor (q.getD t.program) = .ok level)
    (program : q.getD t.program = p.getD s.program) (resting : s.status ≠ .running)
    (resting' : t.status ≠ .running) (start : R (s.started level) w (t.started level) w') :
    (t.run b q w').1 = (s.run a p w).1 ∧
      S (s.run a p w).2.1 (s.run a p w).2.2 (t.run b q w').2.1 (t.run b q w').2.2 := by
  have came := walk_agree walking (p.getD s.program) start
  rw [run_started request resting, run_started request' resting', program]
  dsimp only
  generalize s.walk a level (p.getD s.program) w = x at came ⊢
  generalize t.walk b level (p.getD s.program) w' = y at came ⊢
  obtain ⟨ending, abeam⟩ := came.left (fun _ _ _ halted => halted.1)
  have cancelled : y.2.cancelled = x.2.cancelled :=
    congrArg Session.cancelled (walking.alike _ _ _ _ abeam.sessions)
  rw [ending, cancelled, abeam.failure]
  exact resolve_agree after level _ _ (settled _ _ _ _ abeam.sessions)

end Ends

end Session

/-! ## One run beside itself -/

/-- Everyone who acts during a walk keeps a property of the session and the watchers' state, and so does
the walk's own part in it. Sleeps raise only what breaks a walk off. -/
structure Audience.Keeps {ρ : Type} (J : Session → ρ → Prop) (audience : Audience ρ) : Prop where
  during : ∀ s w a path active, J s w → J (s.during a path active) w
  told : ∀ l ∈ audience.listeners, ∀ e s w, e.kind ≠ .runFinished → J s w → J (l e s w).2.1 (l e s w).2.2
  slept : ∀ n s w, J s w → J (audience.sleep n s w).2.1 (audience.sleep n s w).2.2
  raised : ∀ n s w fault, (audience.sleep n s w).1 = some fault → fault.breaks = true
  printed : ∀ r s w, J s w → J s (audience.print r w)

/-- An audience whose members keep a property acts alike on what has it. -/
theorem Audience.agree_self {J : Session → ρ → Prop} {B : Fault → Prop} {audience : Audience ρ}
    (during : ∀ s w a path active, J s w → J (s.during a path active) w)
    (told : ∀ l ∈ audience.listeners, ∀ e s w, e.kind ≠ .runFinished → J s w →
      J (l e s w).2.1 (l e s w).2.2)
    (slept : ∀ n s w, J s w → J (audience.sleep n s w).2.1 (audience.sleep n s w).2.2)
    (raised : ∀ n s w fault, (audience.sleep n s w).1 = some fault → B fault)
    (printed : ∀ r s w, J s w → J s (audience.print r w)) (breaks : ∀ fault, fault.breaks = true → B fault) :
    audience.Agree (fun s w t w' => t = s ∧ w' = w ∧ J s w) B audience where
  alike := by
    rintro s w _ _ ⟨rfl, -, -⟩
    rfl
  during := by
    rintro s w _ _ a path active ⟨rfl, rfl, hs⟩
    exact ⟨rfl, rfl, during _ _ a path active hs⟩
  told := by
    refine .refl (fun l hl => ?_)
    rintro e s w _ _ midrun ⟨rfl, rfl, hs⟩
    exact ⟨rfl, rfl, rfl, told l hl e _ _ midrun hs⟩
  slept := by
    rintro n s w _ _ ⟨rfl, rfl, hs⟩
    exact ⟨rfl, rfl, rfl, slept n _ _ hs⟩
  printed := by
    rintro r s w _ _ ⟨rfl, rfl, hs⟩
    exact ⟨rfl, rfl, printed r _ _ hs⟩
  raised n s w _ _ fault _ e := raised n s w fault e
  breaks := breaks

namespace Session

/-- The walk of a run keeps what its audience keeps, and breaks off only with faults that break off
walks. -/
theorem walk_keeps {J : Session → ρ → Prop} {audience : Audience ρ} (h : audience.Keeps J) (level : Level)
    (program : Program) (s : Session) (watch : ρ) (hs : J (s.started level) watch) :
    J (ofStage (s.walk audience level program watch).2) (s.walk audience level program watch).2.world.2 ∧
      ∀ fault, (s.walk audience level program watch).1 = .broken fault → fault.breaks = true := by
  have alone := Audience.agree_self (B := fun fault => fault.breaks = true) h.during h.told h.slept h.raised
    h.printed (fun _ => id)
  have came := walk_agree alone program ⟨rfl, rfl, hs⟩
  generalize s.walk audience level program watch = x at came ⊢
  obtain ⟨ending, st⟩ := x
  cases came with
  | going abeam => exact ⟨abeam.sessions.2.2, fun fault e => by cases e⟩
  | stopped _ halted => exact ⟨halted.1.sessions.2.2, halted.2⟩

end Session

end Lamplighter
