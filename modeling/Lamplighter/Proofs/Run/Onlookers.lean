/-
Lamplighter.Proofs.Run.Onlookers — those who watch a run and change nothing but its token.

* `Beat` — a moment at which someone outside the run gets to act, as the run is at its beginning.
* `Onlookers` — listeners and hooks that may raise, remember and cancel the run, and do nothing else;
  `patient` ones never cancel.
* `Onlookers.around` — onlookers as the surroundings of a run that keep a log of its beats.
* `Attended` — a stage after onlookers have acted on it, beside the same stage after patient ones have.
* `announce_attended`, `performed` — what a crew does before onlookers.

A listener that raises says why, and is remarked on. Hooks do not raise: raising would break the run off, and that is
more than cancelling it.
-/
import Lamplighter.Proofs.Run.Stage

namespace Lamplighter

/-! ## Beats -/

/-- An event that tells of a command that has failed. -/
def Event.tellsFailure (e : Event) : Bool := e.kind = .commandFinished && e.success = some false

/-- Why someone outside a run gets to act. -/
inductive Occasion where
  | told (e : Event)
  | pause
  | checkpoint
  deriving DecidableEq, Repr

/-- A moment at which someone outside a run gets to act. -/
structure Beat where
  occasion : Occasion
  attempt : Attempt
  cancelled : Bool
  deriving DecidableEq, Repr

namespace Beat

/-- The event that listeners are told at a beat. -/
def event? (x : Beat) : Option Event :=
  match x.occasion with
  | .told e => some e
  | _ => none

/-- The address of the block that starts at a beat. -/
def started? (x : Beat) : Option Path :=
  x.event?.bind fun e => if e.kind = .blockStarted then some e.path else none

/-- A beat at which a block starts. -/
def starts (x : Beat) : Bool := x.started?.isSome

/-- A beat at which listeners are told of a command that has failed. -/
def failed (x : Beat) : Bool := x.event?.any Event.tellsFailure

end Beat

/-- The address of the block that started last, or the empty one. -/
def lastStarted (log : List Beat) : Path := (log.filterMap Beat.started?).getLast?.getD []

namespace Stage

variable {σ : Type}

/-- The beats of a run that are on record. -/
def log (m : Stage (σ × List Beat)) : List Beat := m.world.2

/-- The events of a run that are on record. -/
def events (m : Stage (σ × List Beat)) : List Event := m.log.filterMap Beat.event?

/-- What onlookers see of a stage. -/
def view (m : Stage (σ × List Beat)) : Stage σ :=
  ⟨m.attempt, m.cancelled, m.path, m.active, m.failure, m.world.1⟩

/-- Put a beat on record. -/
def note (occasion : Occasion) (m : Stage (σ × List Beat)) : Stage (σ × List Beat) :=
  { m with world := (m.world.1, m.world.2 ++ [⟨occasion, m.attempt, m.cancelled⟩]) }

/-- Cancel a run or not, and remember something. -/
def heed (cancels : Bool) (w : σ) (m : Stage (σ × List Beat)) : Stage (σ × List Beat) :=
  { m with cancelled := m.cancelled || cancels, world := (w, m.world.2) }

section Fields

variable (m : Stage (σ × List Beat)) (occasion : Occasion) (cancels : Bool) (w : σ)

@[simp] theorem note_log : (m.note occasion).log = m.log ++ [⟨occasion, m.attempt, m.cancelled⟩] := rfl
@[simp] theorem heed_cancelled : (m.heed cancels w).cancelled = (m.cancelled || cancels) := rfl

@[simp] theorem heed_heed (more : Bool) (w' : σ) :
    (m.heed cancels w).heed more w' = m.heed (cancels || more) w' := by
  simp [heed, Bool.or_assoc]

end Fields

end Stage

/-! ## Onlookers -/

/-- An error with a text. -/
def Fault.voiced (text : String) : Fault := .raised (.worded "Exception" text)

/-- Those who watch a run and can do no more than raise, cancel it, and remember. A listener that raises gives the text
of its error. -/
structure Onlookers (σ : Type) where
  listeners : List (Event → Stage σ → Option String × Bool × σ)
  pause : Stage σ → Bool × σ
  checkpoint : Stage σ → Bool × σ
  print : Remark → σ → σ

namespace Onlookers

variable {σ : Type}

/-- A listener who does not cancel what another would. -/
def mild (l : Event → Stage σ → Option String × Bool × σ) : Event → Stage σ → Option String × Bool × σ :=
  fun e m => ((l e m).1, false, (l e m).2.2)

/-- A hook that does not cancel what another would. -/
def calm (hook : Stage σ → Bool × σ) : Stage σ → Bool × σ := fun m => (false, (hook m).2)

/-- Onlookers who do not cancel what others would. -/
def patient (o : Onlookers σ) : Onlookers σ where
  listeners := o.listeners.map mild
  pause := calm o.pause
  checkpoint := calm o.checkpoint
  print := o.print

/-- The listener that keeps the log. -/
def record : Listener (σ × List Beat) := fun e m => (none, m.note (.told e))

/-- A listener of onlookers, as one of the run. -/
def hear (l : Event → Stage σ → Option String × Bool × σ) : Listener (σ × List Beat) := fun e m =>
  ((l e m.view).1.map .voiced, m.heed (l e m.view).2.1 (l e m.view).2.2)

/-- A hook of onlookers, as one of the run: the beat is put on record first. -/
def attend (occasion : Occasion) (hook : Stage σ → Bool × σ) (m : Stage (σ × List Beat)) :
    Option Fault × Stage (σ × List Beat) :=
  (none, (m.note occasion).heed (hook (m.note occasion).view).1 (hook (m.note occasion).view).2)

/-- Onlookers as the surroundings of a run. -/
def around (o : Onlookers σ) : Surroundings (σ × List Beat) where
  listeners := record :: o.listeners.map hear
  pause := attend .pause o.pause
  checkpoint := attend .checkpoint o.checkpoint
  print r world := (o.print r world.1, world.2)

end Onlookers

/-- The crew of a run before onlookers. -/
abbrev Setup.before {σ : Type} (setup : Setup) (o : Onlookers σ) : Crew (Stage (σ × List Beat)) :=
  setup.crew o.around

/-! ## What onlookers do -/

/-- What becomes of a stage when onlookers act on it (`c`), beside what becomes of it when patient ones do
(`f`): nothing that counts, but that the token may be set; and until it is, there is no difference. -/
structure Attended {σ : Type} (m c f : Stage (σ × List Beat)) : Prop where
  cut_log : c.log = m.log
  full_log : f.log = m.log
  cut_attempt : c.attempt = m.attempt
  full_attempt : f.attempt = m.attempt
  cut_cancelled : m.cancelled = true → c.cancelled = true
  full_cancelled : f.cancelled = m.cancelled
  same : c = f ∨ c.cancelled = true

theorem Attended.refl {σ : Type} (m : Stage (σ × List Beat)) : Attended m m m where
  cut_log := rfl
  full_log := rfl
  cut_attempt := rfl
  full_attempt := rfl
  cut_cancelled := id
  full_cancelled := rfl
  same := .inl rfl

theorem attended_heed {σ : Type} (m : Stage (σ × List Beat)) (cancels : Bool) (w : σ) :
    Attended m (m.heed cancels w) (m.heed false w) where
  cut_log := rfl
  full_log := rfl
  cut_attempt := rfl
  full_attempt := rfl
  cut_cancelled h := by simp [h]
  full_cancelled := by simp
  same := by cases cancels <;> simp

namespace Onlookers

variable {σ : Type} (o : Onlookers σ)

theorem say_eq (r : Remark) (m : Stage (σ × List Beat)) :
    o.around.say r m = m.heed false (o.print r m.world.1) := by
  simp [Surroundings.say, around, Stage.heed]

/-- What onlookers remember when a listener has been told of an event: that it raised, if it did. -/
def afterwards (l : Event → Stage σ → Option String × Bool × σ) (e : Event) (m : Stage σ) : σ :=
  match (l e m).1 with
  | none => (l e m).2.2
  | some text => o.print (Surroundings.complaintRemark text) (l e m).2.2

theorem tell_cons (e : Event) (l : Event → Stage σ → Option String × Bool × σ)
    (ls : List (Listener (σ × List Beat))) (m : Stage (σ × List Beat)) :
    o.around.tell e (hear l :: ls) m =
      o.around.tell e ls (m.heed (l e m.view).2.1 (o.afterwards l e m.view)) := by
  simp only [Surroundings.tell, hear, afterwards]
  cases (l e m.view).1 with
  | none => rfl
  | some text =>
    simp only [Option.map_some, Fault.voiced, Fault.wording]
    rw [say_eq, Stage.heed_heed, Bool.or_false]
    rfl

/-- Everyone is told of an event. -/
theorem tell_none (e : Event) (ls : List (Event → Stage σ → Option String × Bool × σ)) (m : Stage (σ × List Beat)) :
    (o.around.tell e (ls.map hear) m).1 = none := by
  induction ls generalizing m with
  | nil => rfl
  | cons l rest ih => rw [List.map_cons, tell_cons, ih]

theorem emit_none (kind : EventKind) (path : Path) (b : Block) (success : Option Bool) (m : Stage (σ × List Beat)) :
    (o.around.emit kind path b success m).1 = none := o.tell_none _ o.listeners (m.note _)

/-- Listeners who are told of an event. -/
theorem tell_attended (e : Event) (ls : List (Event → Stage σ → Option String × Bool × σ))
    (m : Stage (σ × List Beat)) :
    Attended m (o.around.tell e (ls.map hear) m).2 (o.patient.around.tell e ((ls.map mild).map hear) m).2 := by
  induction ls generalizing m with
  | nil => exact .refl m
  | cons l rest ih =>
    simp only [List.map_cons, tell_cons]
    have meek : o.patient.afterwards (mild l) e m.view = o.afterwards l e m.view := rfl
    rw [meek]
    generalize o.afterwards l e m.view = w
    have full := ih (m.heed false w)
    cases cancels : (l e m.view).2.1 with
    | false =>
      exact
        { cut_log := full.cut_log
          full_log := full.full_log
          cut_attempt := full.cut_attempt
          full_attempt := full.full_attempt
          cut_cancelled := fun h => full.cut_cancelled (by simp [h])
          full_cancelled := full.full_cancelled.trans (by simp)
          same := full.same }
    | true =>
      -- from here on the stages differ, and each goes its own way
      have cut := ih (m.heed true w)
      have heard := cut.cut_cancelled (by simp)
      exact
        { cut_log := cut.cut_log
          full_log := full.full_log
          cut_attempt := cut.cut_attempt
          full_attempt := full.full_attempt
          cut_cancelled := fun _ => heard
          full_cancelled := full.full_cancelled.trans (by simp)
          same := .inr heard }

/-- An event about a block is put on record and told. -/
theorem emit_attended (kind : EventKind) (path : Path) (b : Block) (success : Option Bool)
    (m : Stage (σ × List Beat)) :
    Attended (m.note (.told (Event.ofBlock kind path b success m.attempt)))
      (o.around.emit kind path b success m).2 (o.patient.around.emit kind path b success m).2 :=
  o.tell_attended _ o.listeners (m.note _)

/-- A hook is awaited. -/
theorem attend_attended (occasion : Occasion) (hook : Stage σ → Bool × σ) (m : Stage (σ × List Beat)) :
    Attended (m.note occasion) (attend occasion hook m).2 (attend occasion (calm hook) m).2 :=
  attended_heed _ _ _

/-! ## Acts of a crew before onlookers -/

variable (setup : Setup)

theorem announce_attended (path : Path) (b : Block) (m : Stage (σ × List Beat)) :
    Attended (Stage.note (.told (Event.ofBlock .blockStarted path b none m.attempt)) { m with path })
      ((setup.before o).announce path b m).2 ((setup.before o.patient).announce path b m).2 :=
  o.emit_attended .blockStarted path b none { m with path }

theorem announce_none (path : Path) (b : Block) (m : Stage (σ × List Beat)) :
    ((setup.before o).announce path b m).1 = none := o.emit_none _ _ _ _ _

theorem call_announce (path : Path) (b : Block) :
    Act.call ((setup.before o).announce path b) = Act.change fun m => ((setup.before o).announce path b m).2 :=
  Act.call_of_none (o.announce_none setup path b)

/-- Everyone is told of a command that has been carried out. -/
theorem telling_none (path : Path) (b : Block) (name : String) (m : Stage (σ × List Beat)) :
    (setup.telling o.around path b name m).1 = none := o.emit_none _ _ _ _ _

/-- A command that cannot be told breaks off. Of any other all are told. -/
theorem perform_eq (path : Path) (b : Block) (name : String) (m : Stage (σ × List Beat)) :
    (setup.before o).perform path b name m =
      if setup.isTellable name m then
        (.ok (setup.report name m).ok, { (setup.telling o.around path b name m).2 with active := none })
      else (.error .untellable, setup.told o.around name m) := by
  have none := o.telling_none setup path b name m
  refine (setup.perform_eq o.around path b name m).trans ?_
  generalize setup.telling o.around path b name m = told at none ⊢
  obtain ⟨_, n⟩ := told
  subst none
  rfl

theorem carryOut_eq (path : Path) (b : Block) (name : String) (m : Stage (σ × List Beat)) :
    (setup.before o).carryOut path b name m =
      if setup.isTellable name m then
        (if (setup.report name m).ok then .success else .failure,
          { (setup.telling o.around path b name m).2 with active := none })
      else (.broken .untellable, setup.told o.around name m) := by
  rw [Crew.carryOut, perform_eq]
  cases setup.isTellable name m with
  | true => cases (setup.report name m).ok <;> rfl
  | false => rfl

/-- What is told of a command is printed, whoever else looks on. -/
theorem told_eq (name : String) (m : Stage (σ × List Beat)) :
    setup.told o.patient.around name m = setup.told o.around name m ∧
      ∃ w, setup.told o.around name m = (setup.begin name m).heed false w := by
  refine setup.narrate_together (S := fun t t' => t' = t ∧ ∃ w, t = (setup.begin name m).heed false w)
    ?_ ?_ _ ⟨rfl, m.world.1, by simp [Stage.heed, Setup.begin]⟩
  · rintro t _ ⟨rfl, -⟩
    rfl
  · rintro r _ _ ⟨rfl, w, rfl⟩
    refine ⟨rfl, o.print r w, ?_⟩
    rw [say_eq, Stage.heed_heed, Bool.false_or]
    rfl

/-- A command that has been carried out is put on record and told. -/
theorem telling_attended (path : Path) (b : Block) (name : String) (m : Stage (σ × List Beat)) :
    let told := setup.told o.around name m
    Attended (told.note (.told (Event.ofBlock .commandFinished path b (some (setup.report name m).ok) told.attempt)))
      (setup.telling o.around path b name m).2 (setup.telling o.patient.around path b name m).2 := by
  intro told
  rw [Setup.telling, Setup.telling, (o.told_eq setup name m).1]
  exact o.emit_attended .commandFinished path b (some (setup.report name m).ok) told

/-- How a command of a run goes before onlookers. -/
inductive Performed (path : Path) (b : Block) (m : Stage (σ × List Beat)) :
    Except Fault Bool × Stage (σ × List Beat) → Except Fault Bool × Stage (σ × List Beat) → Prop
  | broke (fault : Fault) (t : Stage (σ × List Beat)) (log : t.log = m.log)
      (cancelled : t.cancelled = m.cancelled) : Performed path b m (.error fault, t) (.error fault, t)
  | finished (ok : Bool) (t c f : Stage (σ × List Beat)) (log : t.log = m.log)
      (cancelled : t.cancelled = m.cancelled)
      (told : Attended (t.note (.told (Event.ofBlock .commandFinished path b (some ok) t.attempt))) c f) :
      Performed path b m (.ok ok, c) (.ok ok, f)

theorem performed (path : Path) (b : Block) (name : String) (m : Stage (σ × List Beat)) :
    Performed path b m ((setup.before o).perform path b name m)
      ((setup.before o.patient).perform path b name m) := by
  obtain ⟨same, w, told⟩ := o.told_eq setup name m
  have log : (setup.told o.around name m).log = m.log := by rw [told]; rfl
  have cancelled : (setup.told o.around name m).cancelled = m.cancelled := by
    rw [told, Stage.heed_cancelled, Bool.or_false]
    rfl
  have told := o.telling_attended setup path b name m
  rw [perform_eq, perform_eq, same]
  split
  · refine .finished _ (setup.told o.around name m) _ _ log cancelled { told with same := ?_ }
    rcases told.same with same | heard
    · exact .inl (by rw [same])
    · exact .inr heard
  · exact .broke _ _ log cancelled

end Onlookers

end Lamplighter
