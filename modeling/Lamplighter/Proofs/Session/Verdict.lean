/-
Lamplighter.Proofs.Session.Verdict — how a run that nobody disturbs is resolved.

* `Audience.logging`, `run_logging` — an audience joined by a listener that keeps a log of events, and that
  this changes nothing else.
* `Audience.Harmless` — an audience that changes no more of a session than its program and its pause.
* `Verdict` — what the events of a run have to do with its outcome and with the session that it leaves.
* `verdict_of_run` — every undisturbed run that is answered is resolved by its events.
-/
import Lamplighter.Proofs.Run.Account
import Lamplighter.Proofs.Session.Life
import Lamplighter.Proofs.Session.Watching

namespace Lamplighter

variable {ρ : Type}

/-! ## A log of events -/

/-- An audience joined by a listener that keeps a log of events. -/
def Audience.logging (audience : Audience ρ) : Audience (ρ × List Event) where
  listeners := (fun e s w => (none, s, w.1, w.2 ++ [e])) ::
    audience.listeners.map fun l e s w => ((l e s w.1).1, (l e s w.1).2.1, (l e s w.1).2.2, w.2)
  sleep n s w := ((audience.sleep n s w.1).1, (audience.sleep n s w.1).2.1, (audience.sleep n s w.1).2.2, w.2)
  print r w := (audience.print r w.1, w.2)

namespace Session

section Logging

variable (audience : Audience ρ)

/-- The listener that keeps the log does nothing else, and the others do what they do. -/
theorem logging_shadows : audience.logging.Shadows Prod.fst audience where
  told := .drop (fun _ _ _ => ⟨rfl, rfl, rfl⟩) (.of_map (fun _ _ _ _ _ => rfl))
  slept _ _ _ := rfl
  printed _ _ := rfl

/-- A log changes nothing of a run. -/
theorem run_logging (program : Option Program) (s : Session) (watch : ρ) (log : List Event) :
    let logged := s.run audience.logging program (watch, log)
    s.run audience program watch = (logged.1, logged.2.1, logged.2.2.1) :=
  run_shadows (logging_shadows audience) s program (watch, log)

end Logging

/-! ## Undisturbed runs -/

/-- A session that someone has left as it was, but for its program and its pause. -/
def Harmless (s t : Session) : Prop := t = { s with program := t.program, delay := t.delay }

namespace Harmless

variable {s t u : Session}

theorem trans (h : s.Harmless t) (h' : t.Harmless u) : s.Harmless u := by
  unfold Harmless at h h' ⊢
  rw [h', h]

theorem lit (h : s.Harmless t) : t.lit = s.lit := by rw [h]

theorem status (h : s.Harmless t) : t.status = s.status := by rw [h]

theorem failure (h : s.Harmless t) : t.failure = s.failure := by rw [h]

theorem running (h : s.Harmless t) : t.running = s.running := by rw [h]

end Harmless

end Session

/-- An audience whose members change no more of a session than its program and its pause, during a run and when
it ends. -/
structure Audience.Harmless (audience : Audience ρ) : Prop where
  told : ∀ l ∈ audience.listeners, ∀ e s w, s.running = (e.kind != .runFinished) →
    Session.Harmless s (l e s w).2.1
  slept : ∀ n s w, s.running = true → Session.Harmless s (audience.sleep n s w).2.1

namespace Session

/-- What a desk keeps of another when the program and the pause are changed, and it is noted where a run is. -/
structure Kept (d d' : Desk) : Prop where
  house : d'.house = d.house
  levelId : d'.levelId = d.levelId
  status : d'.status = d.status
  failure : d'.failure = d.failure
  running : d'.running = d.running

section Bystanders

variable {audience : Audience ρ} {d : Desk}

/-- A session whose run is in progress, and its log, after someone harmless has acted on it. -/
theorem visit_noted {act : Session → ρ × List Event → Option Fault × Session × (ρ × List Event)}
    {st : Stage (Desk × (ρ × List Event))} {more : List Event} (kept : Kept d st.world.1)
    (harmless : Harmless (ofStage st) (act (ofStage st) st.world.2).2.1)
    (log : (act (ofStage st) st.world.2).2.2.2 = st.world.2.2 ++ more) :
    Noted (fun w => Kept d w.1) (fun w => w.2.2) st more (visit act st).2 := by
  unfold visit
  generalize act (ofStage st) st.world.2 = done at harmless log ⊢
  obtain ⟨fault, t, w⟩ := done
  obtain ⟨program, delay, rfl⟩ : ∃ program delay, t = { ofStage st with program, delay } :=
    ⟨_, _, harmless⟩
  exact ⟨rfl, ⟨kept.house, kept.levelId, kept.status, kept.failure, kept.running⟩, log⟩

/-- A harmless audience with a log leaves the walk of a run alone. -/
theorem bystanders (harmless : audience.Harmless) (running : d.running = true) :
    Bystanders (surroundings audience.logging) (fun w => Kept d w.1) (fun w => w.2.2) Occasion.events where
  told e st midrun kept _ := by
    have printed : ∀ r (w : Desk × (ρ × List Event)), Kept d w.1 →
        Kept d ((surroundings audience.logging).print r w).1 ∧
          ((surroundings audience.logging).print r w).2.2 = w.2.2 := fun r w kept => ⟨kept, rfl⟩
    have tracked : Noted (fun w => Kept d w.1) (fun w => w.2.2) st [] (track e st).2 :=
      ⟨rfl, ⟨kept.house, kept.levelId, kept.status, kept.failure, kept.running⟩, (List.append_nil _).symm⟩
    have recorded : Noted (fun w => Kept d w.1) (fun w => w.2.2) (track e st).2 [e]
        (visit (fun s w => (none, s, w.1, w.2 ++ [e])) (track e st).2).2 :=
      visit_noted tracked.calm rfl rfl
    refine tracked.trans (recorded.trans (Noted.tell printed ?_ recorded.calm))
    intro hearer hears st kept
    obtain ⟨joined, joins, rfl⟩ := List.mem_map.mp hears
    obtain ⟨l, there, rfl⟩ := List.mem_map.mp joins
    have awake : (ofStage st).running = true := kept.running.trans running
    have told := harmless.told l there e (ofStage st) st.world.2.1 (by rw [awake]; simpa using midrun)
    exact visit_noted kept told (List.append_nil _).symm
  pause st kept quiet := by
    have awake : (ofStage st).running = true := kept.running.trans running
    have slept : (surroundings audience.logging).pause st = Session.pause audience.logging st := rfl
    rw [slept, Session.pause] at quiet ⊢
    split at quiet
    · cases quiet
    · exact visit_noted kept (harmless.slept _ (ofStage st) st.world.2.1 awake) (List.append_nil _).symm
  checkpoint st kept _ := by
    have awake : (ofStage st).running = true := kept.running.trans running
    exact visit_noted kept (harmless.slept .zero (ofStage st) st.world.2.1 awake) (List.append_nil _).symm
  printed r w kept := ⟨kept, rfl⟩

end Bystanders

/-! ## Verdicts -/

/-- How a run on a level is resolved by its events: which goals are left lit, what the outcome is, and what the
session says of it. -/
structure Verdict (level : Level) (events : List Event) (outcome : Outcome) (t : Session) : Prop where
  lit : t.lit = litBy level.goals events
  win_iff : outcome = .win ↔ failures events = [] ∧ ∀ g ∈ level.goals, g ∈ t.lit
  won : outcome = .win → t.status = .win ∧ t.failure = none
  lost : outcome ≠ .win → outcome = .fail ∧ t.status = .fail
  refused : failures events ≠ [] → ∃ e, failures events = [e] ∧
    (e.command = some Command.move.name ∨ e.command = some Command.jump.name) ∧
    t.failure = some (e.reason level)
  unlit : outcome ≠ .win → failures events = [] →
    t.failure = some .goalsNotLit ∧ t.lit.length < level.goals.length

namespace Verdict

variable {level : Level} {events : List Event} {outcome : Outcome} {t u : Session}

/-- A verdict stands when harmless listeners are told of the end of the run. -/
theorem stands (h : Verdict level events outcome t) (harmless : t.Harmless u) {more : List Event}
    (ended : ∀ e ∈ more, e.kind = .runFinished) : Verdict level (events ++ more) outcome u := by
  have other : ∀ e ∈ more, e.kind ≠ .commandFinished := by
    intro e he
    rw [ended e he]
    simp
  refine ⟨?_, ?_, ?_, ?_, ?_, ?_⟩
  · rw [litBy_append other, harmless.lit]
    exact h.lit
  · rw [failures_append other, harmless.lit]
    exact h.win_iff
  · rw [harmless.status, harmless.failure]
    exact h.won
  · rw [harmless.status]
    exact h.lost
  · rw [failures_append other, harmless.failure]
    exact h.refused
  · rw [failures_append other, harmless.failure, harmless.lit]
    exact h.unlit

/-- A run that has failed for a reason, or for want of goals that are lit. -/
theorem ofFailed (lit : t.lit = litBy level.goals events) (status : t.status = .fail)
    (dark : ¬(failures events = [] ∧ ∀ g ∈ level.goals, g ∈ t.lit))
    (refused : failures events ≠ [] → ∃ e, failures events = [e] ∧
      (e.command = some Command.move.name ∨ e.command = some Command.jump.name) ∧
      t.failure = some (e.reason level))
    (unlit : failures events = [] → t.failure = some .goalsNotLit) : Verdict level events .fail t where
  lit := lit
  win_iff := ⟨fun won => (by cases won), fun all => absurd all dark⟩
  won won := by cases won
  lost _ := ⟨rfl, status⟩
  refused := refused
  unlit _ none := by
    refine ⟨unlit none, ?_⟩
    have missing : ∃ g ∈ level.goals, g ∉ litBy level.goals events := by
      by_contra all
      refine dark ⟨none, fun g hg => ?_⟩
      rw [lit]
      by_contra absent
      exact all ⟨g, hg, absent⟩
    rw [lit]
    exact length_litBy_lt missing

end Verdict

section Resolution

variable {audience : Audience ρ} {level : Level} {outcome : Outcome}

/-- What has become of a session that rests, and of the log, since some end: it has been left alone, and nothing
but ends of runs has been told. -/
def Lingers (t : Session) (w : ρ × List Event) (u : Session) (w' : ρ × List Event) : Prop :=
  t.Harmless u ∧ u.running = false ∧ ∃ more, w'.2 = w.2 ++ more ∧ ∀ e ∈ more, e.kind = .runFinished

/-- The end of an undisturbed run is told, and no more happens. -/
theorem finish_lingers (harmless : audience.Harmless) (outcome : Outcome) {t : Session} {w : ρ × List Event}
    (settled : t.running = false) :
    Lingers t w (finish audience.logging outcome t w).2.1 (finish audience.logging outcome t w).2.2 := by
  refine finish_keeps (K := Lingers t w) outcome ?_ ?_ ?_
  · rintro l hl e u w' ended ⟨same, resting, more, log, all⟩
    rcases List.mem_cons.mp hl with rfl | joins
    · refine ⟨same, resting, more ++ [e], ?_, ?_⟩
      · dsimp only
        rw [log, List.append_assoc]
      · intro x hx
        rcases List.mem_append.mp hx with hx | hx
        · exact all x hx
        · rw [List.mem_singleton.mp hx]
          exact ended
    · obtain ⟨l, there, rfl⟩ := List.mem_map.mp joins
      have left := harmless.told l there e u w'.1 (by simp [resting, ended])
      exact ⟨same.trans left, left.running.trans resting, more, log, all⟩
  · exact fun r u w' kept => kept
  · exact ⟨rfl, settled, [], (List.append_nil _).symm, by simp⟩

/-- The verdict on an undisturbed run stands after its end has been told. -/
theorem finish_verdict (harmless : audience.Harmless) {t : Session} {w : ρ × List Event}
    (h : Verdict level w.2 outcome t) (settled : t.running = false) :
    Verdict level (finish audience.logging outcome t w).2.2.2 outcome
      (finish audience.logging outcome t w).2.1 := by
  obtain ⟨same, -, more, log, ended⟩ := finish_lingers harmless outcome (w := w) settled
  rw [log]
  exact h.stands same ended

/-- A run to the end of its program is resolved by what is lit. -/
theorem success_verdict (harmless : audience.Harmless) {st : Stage (Desk × (ρ × List Event))} {d : Desk}
    (status : d.status = .running) (failure : d.failure = none) {why : Option Failure}
    (loaded : (ofStage st).level? = some level)
    (going : Going level (fun w : Desk × (ρ × List Event) => Kept d w.1) (fun w => w.2.2) st)
    (answered : (resolve audience.logging level .success why (ofStage st).settle st.world.2).1 = .ok outcome) :
    Verdict level (resolve audience.logging level .success why (ofStage st).settle st.world.2).2.2.2 outcome
      (resolve audience.logging level .success why (ofStage st).settle st.world.2).2.1 := by
  have running : (ofStage st).settle.status = .running := going.calm.status.trans status
  have unfailed : (ofStage st).settle.failure = none := going.calm.failure.trans failure
  have lit : (ofStage st).settle.lit = litBy level.goals st.world.2.2 := going.lit
  have solved : (ofStage st).settle.isWin = isSolved level (ofStage st).settle.lit := by
    have there : (ofStage st).settle.level? = some level := loaded
    rw [isWin, there]
  have resting : (ofStage st).settle.running = false := rfl
  generalize (ofStage st).settle = t at running unfailed lit solved resting answered ⊢
  have winnable : t.status.mayBecome .win = true := by rw [running]; rfl
  have legal : t.status.mayBecome .fail = true := by rw [running]; rfl
  rw [resolve_success, solved] at answered ⊢
  cases all : isSolved level t.lit with
  | true =>
    rw [all, if_pos rfl, if_pos winnable] at answered
    obtain rfl := outcome_of_finish answered
    rw [if_pos rfl, if_pos winnable]
    have every : ∀ g ∈ level.goals, g ∈ t.lit := by simpa [isSolved] using all
    refine finish_verdict harmless ⟨lit, ⟨fun _ => ⟨going.unfailed, every⟩, fun _ => rfl⟩, ?_, ?_, ?_, ?_⟩ resting
    · exact fun _ => ⟨rfl, unfailed⟩
    · exact fun other => absurd rfl other
    · exact fun some => absurd going.unfailed some
    · exact fun other => absurd rfl other
  | false =>
    rw [all, if_neg (by simp), finishFailed_legal legal] at answered
    obtain rfl := outcome_of_finish answered
    rw [if_neg (by simp), finishFailed_legal legal]
    refine finish_verdict harmless (Verdict.ofFailed lit rfl ?_ ?_ ?_) resting
    · rintro ⟨-, every⟩
      have solved : isSolved level t.lit = true := by simpa [isSolved] using every
      rw [all] at solved
      cases solved
    · exact fun some => absurd going.unfailed some
    · exact fun _ => rfl

/-- A run in which a command has failed is resolved by its refusal. -/
theorem failure_verdict (harmless : audience.Harmless) {st : Stage (Desk × (ρ × List Event))} {d : Desk}
    (status : d.status = .running)
    (failed : Failed level (fun w : Desk × (ρ × List Event) => Kept d w.1) (fun w => w.2.2) st)
    (answered : (resolve audience.logging level .failure st.failure (ofStage st).settle st.world.2).1 =
      .ok outcome) :
    Verdict level (resolve audience.logging level .failure st.failure (ofStage st).settle st.world.2).2.2.2
      outcome (resolve audience.logging level .failure st.failure (ofStage st).settle st.world.2).2.1 := by
  have running : (ofStage st).settle.status = .running := failed.calm.status.trans status
  have legal : (ofStage st).settle.status.mayBecome .fail = true := by rw [running]; rfl
  obtain ⟨e, one, gait, reason⟩ := failed.told
  have some : failures st.world.2.2 ≠ [] := by
    rw [one]
    simp
  unfold resolve at answered ⊢
  dsimp only at answered ⊢
  rw [finishFailed_legal legal] at answered
  obtain rfl := outcome_of_finish answered
  rw [finishFailed_legal legal]
  refine finish_verdict harmless (Verdict.ofFailed failed.lit rfl ?_ ?_ ?_) rfl
  · exact fun none => some none.1
  · exact fun _ => ⟨e, one, gait, reason⟩
  · exact fun none => absurd none some

/-- Every run that nobody disturbs, and that is neither rejected nor left by an exception, is resolved by its
events: the goals left lit are those on which a light was lit in this run, in the order of first lighting; it is
won exactly if no command failed and all goals are lit; and otherwise it has failed, for the reason of the one
command that failed, or because there are goals that are not lit. -/
theorem verdict_of_run (harmless : audience.Harmless) {s : Session} {program : Option Program} {watch : ρ}
    (answered : (s.run audience program watch).1 = .ok outcome) (carried : outcome ≠ .rejected) :
    ∃ level, s.level? = some level ∧
      Verdict level (s.run audience.logging program (watch, [])).2.2.2 outcome
        (s.run audience program watch).2.1 := by
  have logged := run_logging audience program s watch []
  have answered' : (s.run audience.logging program (watch, [])).1 = .ok outcome := by
    rw [logged] at answered
    exact answered
  have left : (s.run audience program watch).2.1 = (s.run audience.logging program (watch, [])).2.1 :=
    congrArg (fun done => done.2.1) logged
  rw [left]
  cases request : s.levelFor (program.getD s.program) with
  | error why =>
    rw [run_rejected request] at answered
    exact absurd (Except.ok.inj answered).symm carried
  | ok level =>
    obtain ⟨-, loaded, -⟩ := levelFor_eq_ok.mp request
    refine ⟨level, loaded, ?_⟩
    by_cases running : s.status = .running
    · rw [run_illegal request running] at answered
      cases answered
    · have start : Going level (fun w : Desk × (ρ × List Event) => Kept (s.started level).toDesk w.1)
          (fun w => w.2.2) ((s.started level).stage level.start
            (audience.logging.print (startRemark level (program.getD s.program)) (watch, []))) :=
        ⟨⟨rfl, rfl, rfl, rfl, rfl⟩, rfl, rfl, rfl, rfl⟩
      have account := play_account (bystanders harmless rfl) ((s.started level).setup level) rfl
        (program.getD s.program) [] start
      have walked : ((s.started level).setup level).play (surroundings audience.logging)
          (program.getD s.program) [] ((s.started level).stage level.start
            (audience.logging.print (startRemark level (program.getD s.program)) (watch, []))) =
          s.walk audience.logging level (program.getD s.program) (watch, []) := rfl
      rw [walked] at account
      rw [run_started request running] at answered' ⊢
      dsimp only at answered' account ⊢
      generalize s.walk audience.logging level (program.getD s.program) (watch, []) = done
        at answered' account ⊢
      obtain ⟨ending, st⟩ := done
      obtain ⟨went, stopped⟩ := account
      cases ending with
      | success =>
        have going := went rfl
        have there : (ofStage st).level? = some level :=
          (level?_congr going.calm.house going.calm.levelId).trans loaded
        rw [going.heeded] at answered' ⊢
        exact success_verdict harmless rfl rfl there going answered'
      | failure =>
        have failed : Failed level _ _ st := stopped (by simp)
        rw [failed.heeded] at answered' ⊢
        exact failure_verdict harmless rfl failed answered'
      | cancelled => exact (stopped (by simp)).elim
      | broken fault => cases answered'

end Resolution

/-- Someone who changes the pause whenever something is told. -/
def fidgeter : Audience (List Sight) := callers (fun _ => [.setSpeed (.ok 3)]) (fun _ => [])

/-- A program that lights the small level twice over, and then leaves it. -/
def leaving : Program := light ++ light ++ [.ofCommand (some Command.move.name)]

theorem verdict_of_run_leaving :
    (ready.run fidgeter (some leaving) []).1 = .ok .fail ∧
      ∃ level, ready.level? = some level ∧
        Verdict level (ready.run fidgeter.logging (some leaving) ([], [])).2.2.2 .fail
          (ready.run fidgeter (some leaving) []).2.1 := by
  have harmless : fidgeter.Harmless := by
    refine ⟨?_, ?_⟩
    · intro l hl e s w _
      rw [List.mem_singleton.mp hl]
      rfl
    · exact fun n s w _ => rfl
  have answered : (ready.run fidgeter (some leaving) []).1 = .ok .fail := by decide +kernel
  exact ⟨answered, verdict_of_run harmless answered (by simp)⟩

end Session

end Lamplighter
