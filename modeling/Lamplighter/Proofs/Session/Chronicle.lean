/-
Lamplighter.Proofs.Session.Chronicle — what those who watch a run are told is a faithful account of it.

* `aloof_surroundings` — an audience that makes no calls and leaves the attempt alone.
* `finish_heeded` — the end of a run is told last, with its outcome and with what it has come to.
* `faithful_account` — what every listener is told: of a run of an executor, and of a run of a session.
-/
import Lamplighter.Proofs.Run.Chronicle
import Lamplighter.Proofs.Run.Suspension
import Lamplighter.Proofs.Session.Repetition
import Lamplighter.Proofs.Session.Watching

namespace Lamplighter

/-- What is told during a walk is not that a run has ended. -/
theorem recording_midrun {σ : Type} (setup : Setup) (around : Surroundings σ) (p : Program) (root : Path)
    (m : Stage σ) : ∀ e ∈ (setup.recording around p root m).2.events, e.kind ≠ .runFinished := by
  obtain ⟨_, run⟩ := recording_phase setup around p root m
  intro e he
  obtain ⟨x, hx, told⟩ := List.mem_filterMap.mp he
  exact run.midrun x hx e told

variable {ρ : Type}

/-- An audience whose listeners make no calls. -/
def Audience.Quiet (audience : Audience ρ) : Prop := ∀ l ∈ audience.listeners, ∀ e s w, (l e s w).2.1 = s

/-- An audience that leaves the attempt of a run alone while the run sleeps. It may cancel the run. -/
def Audience.Still (audience : Audience ρ) : Prop := ∀ n s w,
  (audience.sleep n s w).2.1.robot = s.robot ∧ (audience.sleep n s w).2.1.lit = s.lit ∧
    (audience.sleep n s w).2.1.store = s.store

namespace Session

section Audience

variable {audience : Audience ρ} (quiet : audience.Quiet)

/-- Someone who leaves the attempt of a session alone leaves that of its run alone. -/
theorem visit_attempt {act : Session → ρ → Option Fault × Session × ρ} {st : Stage (Desk × ρ)}
    (still : (act (ofStage st) st.world.2).2.1.robot = (ofStage st).robot ∧
      (act (ofStage st) st.world.2).2.1.lit = (ofStage st).lit ∧
      (act (ofStage st) st.world.2).2.1.store = (ofStage st).store) : (visit act st).2.attempt = st.attempt := by
  obtain ⟨robot, lit, store⟩ := still
  have seen : (visit act st).2.attempt = ⟨(act (ofStage st) st.world.2).2.1.robot.getD st.attempt.robot,
      (act (ofStage st) st.world.2).2.1.lit, (act (ofStage st) st.world.2).2.1.store⟩ := rfl
  rw [seen, robot, lit, store]
  rfl

include quiet

theorem aloof_surroundings (still : audience.Still) : (surroundings audience).Aloof where
  told l hl e st := by
    rcases List.mem_cons.mp hl with rfl | visits
    · rfl
    · obtain ⟨l, there, rfl⟩ := List.mem_map.mp visits
      refine visit_attempt ?_
      rw [quiet l there]
      exact ⟨rfl, rfl, rfl⟩
  pause st := by
    simp only [surroundings, pause]
    split
    · rfl
    · exact visit_attempt (still _ _ _)
  checkpoint st := visit_attempt (still .zero _ _)

/-- The end of a run that is answered is told to every listener, with its outcome and with what it has come to. -/
theorem finish_heeded {outcome : Outcome} {t : Session} {robot : Pose} (present : t.robot = some robot)
    {w : ρ × Tidings} (answered : (finish audience.heeded outcome t w).1 = .ok outcome) :
    (finish audience.heeded outcome t w).2.1 = t ∧
      (finish audience.heeded outcome t w).2.2.2 =
        w.2 ++ Tidings.all audience.listeners.length [Event.ofOutcome outcome ⟨robot, t.lit, t.store⟩] := by
  have told := notify_heeded audience quiet (Event.ofOutcome outcome ⟨robot, t.lit, t.store⟩) t w
  rw [finish_snd audience.heeded outcome present]
  simp only [finish, present] at answered
  split at answered
  · rename_i whole
    rw [whole] at told ⊢
    exact told rfl
  · cases answered

end Audience

/-- There is a robot in a session that is resolved. -/
theorem resolved_robot (st : Stage (Desk × ρ)) {t : Session}
    (left : t = (ofStage st).settle.resetToStart.2 ∨
      ∃ status failure, status ≠ .running ∧ t = { (ofStage st).settle with status, failure }) :
    ∃ robot, t.robot = some robot := by
  rcases left with rfl | ⟨status, failure, -, rfl⟩
  · cases loaded : (ofStage st).settle.level? with
    | none =>
      rw [resetToStart_of_absent loaded]
      exact ⟨_, rfl⟩
    | some level =>
      rw [resetToStart_of_loaded loaded]
      exact ⟨_, rfl⟩
  · exact ⟨_, rfl⟩

/-- The walk of a run that is answered has not broken off. -/
theorem recording_unbroken {audience : Audience ρ} {s : Session} {program : Option Program} {watch : ρ}
    {outcome : Outcome} {level : Level} (request : s.levelFor (program.getD s.program) = .ok level)
    (status : s.status ≠ .running) (answered : (s.run audience program watch).1 = .ok outcome) :
    ∀ fault, (s.recording audience level (program.getD s.program) watch).1 ≠ .broken fault := by
  intro fault broke
  rw [run_started request status, walk_recorded, broke] at answered
  cases answered

/-- What every listener of a run in a session is told: the events of its walk, which does not break off, and last
that it has ended. -/
theorem run_account {audience : Audience ρ} (quiet : audience.Quiet) {s : Session} {program : Option Program}
    {watch : ρ} {outcome : Outcome} (answered : (s.run audience program watch).1 = .ok outcome)
    (carried : outcome ≠ .rejected) :
    ∃ level robot, s.level? = some level ∧ (s.run audience program watch).2.1.robot = some robot ∧
      (∀ fault, (s.recording audience level (program.getD s.program) watch).1 ≠ .broken fault) ∧
      (s.run audience.heeded program (watch, [])).2.2.2 = Tidings.all audience.listeners.length
        ((s.recording audience level (program.getD s.program) watch).2.events ++
          [Event.ofOutcome outcome ⟨robot, (s.run audience program watch).2.1.lit,
            (s.run audience program watch).2.1.store⟩]) := by
  have same := run_shadows (heeded_shadows audience) s program (watch, [])
  have left : (s.run audience program watch).2.1 = (s.run audience.heeded program (watch, [])).2.1 :=
    congrArg (fun done => done.2.1) same
  have answered' : (s.run audience.heeded program (watch, [])).1 = .ok outcome :=
    (congrArg Prod.fst same).symm.trans answered
  rw [left]
  cases request : s.levelFor (program.getD s.program) with
  | error why =>
    rw [run_rejected request] at answered
    exact absurd (Except.ok.inj answered).symm carried
  | ok level =>
    obtain ⟨-, loaded, -⟩ := levelFor_eq_ok.mp request
    by_cases status : s.status = .running
    · rw [run_illegal request status] at answered
      cases answered
    · have whole := recording_unbroken request status answered
      rw [run_started request status] at answered' ⊢
      dsimp only at answered' ⊢
      have walked := walk_heeded audience level (program.getD s.program) s watch whole
      obtain ⟨t, r, ended, left⟩ := resolve_ok answered'
      obtain ⟨robot, present⟩ := resolved_robot _ left
      rw [ended] at answered'
      obtain ⟨final, told⟩ := finish_heeded quiet present answered'
      refine ⟨level, robot, loaded, ?_, whole, ?_⟩
      · rw [ended, final]
        exact present
      · rw [ended, final, told, Tidings.all_append, ← walked]
        rfl

/-- Events are a faithful account.
The events of a run of a program before watchers who leave its attempt alone are its chronicle. A run that breaks off
ends with no failure, so that its events tell of none; but where what breaks it off is a listener's error that has no
text, it may have been about to fail, and its events say so. Whoever listens is told of all of them, in order, if the
run does not break off or no such error is raised.
Whoever listens to a run of a session, before listeners who make no calls, is told of the events of its walk, none of
which tells of an end, and last that it has ended, with its outcome and with the robot, the lit goals and the flags
that it leaves; and if nobody touches the attempt while the run sleeps, the events of the walk are its chronicle. -/
theorem faithful_account :
    (∀ (σ : Type) (setup : Setup) (around : Surroundings σ) (p : Program) (root : Path) (m : Stage σ),
      around.Aloof →
        let done := setup.recording around p root m
        setup.play around p root m = (done.1, done.2.through Prod.fst) ∧
          (∃ ending, Chronicle setup p root m.attempt done.2.events ending done.2.attempt ∧
            (ending = done.1 ∨ ¬around.Spoken ∧ ending = .failure ∧ ∃ fault, done.1 = .broken fault)) ∧
          ((around.Spoken ∨ ∀ fault, done.1 ≠ .broken fault) →
            setup.play around.heeded p root (m.keeping []) = (done.1, (done.2.through Prod.fst).keeping
              (Tidings.all around.listeners.length done.2.events)))) ∧
    (∀ (ρ : Type) (audience : Audience ρ) (s : Session) (program : Option Program) (watch : ρ) (outcome : Outcome),
      audience.Quiet → (s.run audience program watch).1 = .ok outcome → outcome ≠ .rejected →
        let final := (s.run audience program watch).2.1
        let heard := s.run audience.heeded program (watch, [])
        s.run audience program watch = (heard.1, heard.2.1, heard.2.2.1) ∧
          ∃ level robot, s.level? = some level ∧ final.robot = some robot ∧
            let walked := s.recording audience level (program.getD s.program) watch
            s.walk audience level (program.getD s.program) watch = (walked.1, walked.2.through Prod.fst) ∧
              heard.2.2.2 = Tidings.all audience.listeners.length
                (walked.2.events ++ [Event.ofOutcome outcome ⟨robot, final.lit, final.store⟩]) ∧
              (∀ e ∈ walked.2.events, e.kind ≠ .runFinished) ∧
              (audience.Still → Chronicle ((s.started level).setup level) (program.getD s.program) []
                (Attempt.atStart level) walked.2.events walked.1 walked.2.attempt)) := by
  constructor
  · intro σ setup around p root m aloof
    exact ⟨play_recorded setup around p root m, chronicle_recording aloof m,
      play_heeded_recorded setup around p root m⟩
  · intro ρ audience s program watch outcome quiet answered carried
    obtain ⟨level, robot, loaded, present, whole, told⟩ := run_account quiet answered carried
    have same := run_shadows (heeded_shadows audience) s program (watch, [])
    refine ⟨same, level, robot, loaded, present, ?_, told, ?_, ?_⟩
    · exact walk_recorded audience level (program.getD s.program) s watch
    · exact recording_midrun _ _ _ _ _
    · intro still
      exact chronicle_unbroken (aloof_surroundings quiet still)
        ((s.started level).stage level.start (audience.print (startRemark level (program.getD s.program)) watch)) whole

/-- One who listens and raises at every event. -/
def heckler : Surroundings Unit where
  listeners := [fun _ m => (some (.voiced "boo"), m)]
  pause m := (none, m)
  checkpoint m := (none, m)
  print _ w := w

/-- A program that lights the small level in a loop, and then leaves it. -/
def parting : Program := [.ofLoop (some 2) light, .ofCommand (some Command.move.name)]

/-- A stage of a run on the small level. -/
def opening : Stage Unit := { attempt := .atStart cell, world := () }

theorem faithful_account_parting :
    (let done := (ready.setup cell).recording heckler parting [7] opening
     done.1 = .failure ∧ done.2.events.length = 7 ∧
       Chronicle (ready.setup cell) parting [7] (.atStart cell) done.2.events .failure done.2.attempt) ∧
    (ready.run stopper (some parting) []).1 = .ok .cancelled ∧
      ∃ level robot, ready.level? = some level ∧
        let walked := ready.recording stopper level parting []
        (ready.run stopper.heeded (some parting) ([], [])).2.2.2 = Tidings.all 1 (walked.2.events ++
          [Event.ofOutcome .cancelled ⟨robot, (ready.run stopper (some parting) []).2.1.lit,
            (ready.run stopper (some parting) []).2.1.store⟩]) ∧
        Chronicle ((ready.started level).setup level) parting [] (.atStart level) walked.2.events walked.1
          walked.2.attempt := by
  constructor
  · have aloof : heckler.Aloof := by
      refine ⟨?_, fun _ => rfl, fun _ => rfl⟩
      intro l hl e m
      rw [List.mem_singleton.mp hl]
    have failed : ((ready.setup cell).recording heckler parting [7] opening).1 = .failure := by decide +kernel
    obtain ⟨-, ⟨ending, chronicle, same⟩, -⟩ :=
      faithful_account.1 Unit (ready.setup cell) heckler parting [7] opening aloof
    rw [failed] at same
    obtain rfl : ending = .failure := same.elim id fun apart => apart.2.1
    exact ⟨failed, by decide +kernel, chronicle⟩
  · have quiet : stopper.Quiet := by
      intro l hl e s w
      rw [List.mem_singleton.mp hl]
      rfl
    have still : stopper.Still := by
      intro n s w
      have slept : (stopper.sleep n s w).2.1 = s.cancel := rfl
      rw [slept]
      unfold cancel
      split <;> exact ⟨rfl, rfl, rfl⟩
    have answered : (ready.run stopper (some parting) []).1 = .ok .cancelled := by decide +kernel
    obtain ⟨-, level, robot, loaded, -, -, told, -, chronicle⟩ :=
      faithful_account.2 _ stopper ready (some parting) [] .cancelled quiet answered (by simp)
    exact ⟨answered, level, robot, loaded, told, chronicle still⟩

end Session

end Lamplighter
