/-
Lamplighter.Proofs.Session.Repetition — a run does not depend on what came before it.

* `SameGame`, `AtRest` — sessions that play the same game, between runs.
* `Audience.Leaves`, `after_run` — an audience that leaves the game as it is, and what its runs leave.
* `run_of_sameGame` — runs of one program in two such sessions are the same, and so is a run that is repeated.

A run starts by putting back all that a walk can look at, so sessions that play the same game start it from
the same state; they differ at most in their programs, which a walk does not look at.
-/
import Lamplighter.Proofs.Session.Scripts

namespace Lamplighter

namespace Session

/-! ## Games -/

/-- Two sessions in which the same game is played: in one house, on one level, with one pause after commands.
Whatever else they hold may differ. -/
structure SameGame (s t : Session) : Prop where
  house : t.house = s.house
  levelId : t.levelId = s.levelId
  delay : t.delay = s.delay

/-- A session between runs. -/
structure AtRest (s : Session) : Prop where
  running : s.running = false
  status : s.status ≠ .running

/-- When a run starts, nothing is left of earlier attempts. -/
theorem SameGame.alike_started {s t : Session} (game : s.SameGame t) (level : Level) :
    (s.started level).Alike (t.started level) := by
  unfold Alike started prepare resetAttempt
  simp only [game.house, game.levelId, game.delay]

theorem SameGame.started_eq {s t : Session} (game : s.SameGame t) (program : t.program = s.program)
    (level : Level) : t.started level = s.started level := by
  have alike : t.started level = { s.started level with program := t.program } := game.alike_started level
  rw [alike, program]
  rfl

/-! ## Audiences that leave the game as it is -/

/-- A session that someone has left as it was, but for the attempt, which may have been given up. -/
structure Leaves (s t : Session) : Prop where
  house : t.house = s.house
  levelId : t.levelId = s.levelId
  delay : t.delay = s.delay
  program : t.program = s.program
  running : t.running = s.running
  status : t.status = s.status ∨ t.status = .idle

theorem Leaves.refl (s : Session) : s.Leaves s := ⟨rfl, rfl, rfl, rfl, rfl, .inl rfl⟩

theorem Leaves.trans {s t u : Session} (h₁ : s.Leaves t) (h₂ : t.Leaves u) : s.Leaves u where
  house := h₂.house.trans h₁.house
  levelId := h₂.levelId.trans h₁.levelId
  delay := h₂.delay.trans h₁.delay
  program := h₂.program.trans h₁.program
  running := h₂.running.trans h₁.running
  status := by
    rcases h₂.status with same | idle
    · rw [same]
      exact h₁.status
    · exact .inr idle

end Session

/-- An audience whose members leave the game as it is. -/
structure Audience.Leaves {ρ : Type} (audience : Audience ρ) : Prop where
  told : ∀ l ∈ audience.listeners, ∀ e (s : Session) w, s.Leaves (l e s w).2.1
  slept : ∀ n (s : Session) w, s.Leaves (audience.sleep n s w).2.1

namespace Session

section Ends

variable {ρ : Type} {audience : Audience ρ} {level : Level}

/-- A run that is answered has ended, and its end is told in a session whose status is not that of a run. -/
theorem resolve_ok {ending : Ending} {why : Option Failure} {s : Session} {watch : ρ} {outcome : Outcome}
    (h : (resolve audience level ending why s watch).1 = .ok outcome) :
    ∃ t r, resolve audience level ending why s watch = finish audience outcome t (audience.print r watch) ∧
      (t = s.resetToStart.2 ∨ ∃ status failure, status ≠ .running ∧ t = { s with status, failure }) := by
  have failed : ∀ why message, (finishFailed audience why message s watch).1 = .ok outcome →
      ∃ t r, finishFailed audience why message s watch = finish audience outcome t (audience.print r watch) ∧
        (t = s.resetToStart.2 ∨ ∃ status failure, status ≠ .running ∧ t = { s with status, failure }) := by
    intro why message h
    cases legal : s.status.mayBecome .fail with
    | true =>
      rw [finishFailed_legal legal] at h ⊢
      obtain rfl := outcome_of_finish h
      exact ⟨_, _, rfl, .inr ⟨.fail, why, by simp, rfl⟩⟩
    | false =>
      rw [finishFailed_illegal legal] at h
      cases h
  cases ending with
  | broken fault => cases h
  | cancelled =>
    rw [resolve_cancelled] at h ⊢
    obtain rfl := outcome_of_finish h
    exact ⟨_, _, rfl, .inl rfl⟩
  | failure => exact failed why _ h
  | success =>
    rw [resolve_success] at h ⊢
    split at h
    · rename_i solved
      rw [if_pos solved]
      split at h
      · rename_i legal
        rw [if_pos legal]
        obtain rfl := outcome_of_finish h
        exact ⟨_, _, rfl, .inr ⟨.win, s.failure, by simp, rfl⟩⟩
      · cases h
    · rename_i unsolved
      rw [if_neg unsolved]
      exact failed _ _ h

/-- A session after a run: at rest, with the game and the program of the session before it. -/
structure After (s t : Session) : Prop where
  game : s.SameGame t
  program : t.program = s.program
  rest : t.AtRest

theorem After.leaves {s t u : Session} (h : s.After t) (left : t.Leaves u) : s.After u where
  game := ⟨left.house.trans h.game.house, left.levelId.trans h.game.levelId, left.delay.trans h.game.delay⟩
  program := left.program.trans h.program
  rest := by
    refine ⟨left.running.trans h.rest.running, ?_⟩
    rcases left.status with same | idle
    · rw [same]
      exact h.rest.status
    · rw [idle]
      simp

/-- A walk before an audience that leaves the game as it is leaves it so. -/
theorem leaves_walk (leaves : audience.Leaves) (level : Level) (program : Program) (s : Session) (watch : ρ) :
    (s.started level).Leaves (ofStage (s.walk audience level program watch).2) := by
  have alone : audience.Agree (fun t w t' w' => t' = t ∧ w' = w ∧ (s.started level).Leaves t)
      (fun _ => True) audience := by
    refine Audience.agree_self (J := fun t _ => (s.started level).Leaves t) ?_ ?_ ?_ ?_ ?_ ?_
    · intro t w a path active left
      exact { left with }
    · intro l hl e t w _ left
      exact left.trans (leaves.told l hl e t w)
    · intro n t w left
      exact left.trans (leaves.slept n t w)
    · exact fun _ _ _ _ _ => trivial
    · exact fun _ _ _ left => left
    · exact fun _ _ => trivial
  have came := walk_agree alone program (w := watch) ⟨rfl, rfl, .refl _⟩
  exact (came.left (fun _ _ _ halted => halted.1)).2.sessions.2.2

/-- A run whose audience leaves the game as it is, and that is answered, leaves the session at rest, with the
game and the program as they were. -/
theorem after_run {s : Session} {program : Option Program} {watch : ρ} {outcome : Outcome}
    (leaves : audience.Leaves) (request : s.levelFor (program.getD s.program) = .ok level)
    (resting : s.status ≠ .running) (answered : (s.run audience program watch).1 = .ok outcome) :
    s.After (s.run audience program watch).2.1 := by
  obtain ⟨-, loaded, -⟩ := levelFor_eq_ok.mp request
  have left := leaves_walk leaves level (program.getD s.program) s watch
  rw [run_started request resting] at answered ⊢
  dsimp only at answered ⊢
  generalize s.walk audience level (program.getD s.program) watch = x at answered left ⊢
  obtain ⟨t, r, ended, left_by⟩ := resolve_ok answered
  rw [ended]
  refine finish_keeps (K := fun u _ => s.After u) outcome ?_ (fun _ _ _ h => h) ?_
  · intro l hl e u w _ after
    exact after.leaves (leaves.told l hl e u w)
  · have game : s.SameGame (ofStage x.2).settle := ⟨left.house, left.levelId, left.delay⟩
    rcases left_by with rfl | ⟨status, failure, resting, rfl⟩
    · have settled : (ofStage x.2).settle.level? = some level :=
        (level?_congr left.house left.levelId).trans loaded
      rw [resetToStart_of_loaded settled, cancel_of_not_running _ rfl]
      exact ⟨⟨game.house, game.levelId, game.delay⟩, left.program, ⟨rfl, by simp⟩⟩
    · exact ⟨⟨game.house, game.levelId, game.delay⟩, left.program, ⟨rfl, resting⟩⟩

end Ends

/-! ## Repetition -/

/-- Sessions that start a run from the same state run it in the same way. -/
theorem run_congr {ρ : Type} {audience : Audience ρ} {s t : Session} {level : Level} {p q : Option Program}
    {watch : ρ} (request : s.levelFor (p.getD s.program) = .ok level)
    (request' : t.levelFor (q.getD t.program) = .ok level) (program : q.getD t.program = p.getD s.program)
    (resting : s.status ≠ .running) (resting' : t.status ≠ .running)
    (started : t.started level = s.started level) : t.run audience q watch = s.run audience p watch := by
  have walk : t.walk audience level (q.getD t.program) watch =
      s.walk audience level (p.getD s.program) watch := by
    unfold Session.walk
    rw [started, program]
  rw [run_started request resting, run_started request' resting', walk]

/-- Runs do not depend on what came before them. In two sessions at rest that play the same game, whatever else
has been left in them, runs of one program:
are the same in all respects before any audience, if the sessions hold the same program;
under any cues that do not ask for that program, differ at most in it, even if it differs;
and are the same once more when they are repeated before an audience that leaves the game as it is. -/
theorem run_of_sameGame {s t : Session} {level : Level} {p q : Option Program} (game : s.SameGame t)
    (loaded : s.level? = some level) (program : q.getD t.program = p.getD s.program)
    (nonempty : p.getD s.program ≠ []) (rest : s.AtRest) (rest' : t.AtRest) :
    (t.program = s.program → ∀ (ρ : Type) (audience : Audience ρ) (watch : ρ),
      t.run audience q watch = s.run audience p watch) ∧
    (∀ (booth : Booth) (cues : List (Cue Step)) (depth : Nat) (r : Notes), Blind cues →
      let one := s.run (audience booth ((player booth).response cues depth)) p r
      let other := t.run (audience booth ((player booth).response cues depth)) q r
      other.1 = one.1 ∧ one.2.1.Alike other.2.1 ∧ other.2.2.pending = one.2.2.pending ∧
        List.Forall₂ (Entry.Alike Session.Alike) one.2.2.entries other.2.2.entries) ∧
    (∀ (ρ : Type) (audience : Audience ρ) (watch : ρ) (outcome : Outcome), audience.Leaves →
      (s.run audience p watch).1 = .ok outcome →
        (s.run audience p watch).2.1.run audience p watch = s.run audience p watch) := by
  have loaded' : t.level? = some level := (level?_congr game.house game.levelId).trans loaded
  have request : s.levelFor (p.getD s.program) = .ok level := levelFor_eq_ok.mpr ⟨rest.running, loaded, nonempty⟩
  have request' : t.levelFor (q.getD t.program) = .ok level :=
    levelFor_eq_ok.mpr ⟨rest'.running, loaded', program ▸ nonempty⟩
  refine ⟨?_, ?_, ?_⟩
  · intro same ρ audience watch
    exact run_congr request request' program rest.status rest'.status (game.started_eq same level)
  · intro booth cues depth r blind
    have kin : Kinship Session.Alike := .inr rfl
    have thin : List.Forall₂ (CueThinned fun _ => False) cues cues :=
      List.forall₂_same.mpr (fun cue _ => ⟨rfl, rfl, .refl (fun _ _ => rfl)⟩)
    have agree := responses_agree booth kin (fun _ out => out.elim) thin (.inr blind) depth
    have records : r.Alike (Refused (fun _ => False) booth) Session.Alike r :=
      ⟨.refl (fun e _ => e.alike_refl Alike.refl), fun _ _ => rfl, rfl⟩
    have done := run_beside kin agree request request' program rest.status rest'.status
      (game.alike_started level) records
    refine ⟨done.same, done.sessions, done.records.pending, done.records.entries.forall₂ ?_⟩
    rintro e ⟨_, _, out, -⟩
    exact out
  · intro ρ audience watch outcome leaves answered
    have after := after_run leaves request rest.status answered
    have again : (s.run audience p watch).2.1.levelFor (p.getD (s.run audience p watch).2.1.program) =
        .ok level := by
      refine levelFor_eq_ok.mpr ⟨after.rest.running, ?_, ?_⟩
      · exact (level?_congr after.game.house after.game.levelId).trans loaded
      · rw [after.program]
        exact nonempty
    exact run_congr request again (by rw [after.program]) rest.status after.rest.status
      (after.game.started_eq after.program level)

/-- The small level after a run that has failed, somewhere else and with other cells lit. -/
def worn : Session :=
  { ready with
    status := .fail
    robot := some ⟨⟨3, -2⟩, .south⟩
    lit := [⟨0, 0⟩, ⟨0, 0⟩]
    store := {}
    failure := some .blocked }

/-- Someone who asks a run to stop while it sleeps. -/
def stopper : Audience (List Sight) := callers (fun _ => []) (fun _ => [.cancel])

theorem run_of_sameGame_worn :
    (∀ (ρ : Type) (audience : Audience ρ) (watch : ρ),
      worn.run audience (some light) watch = ready.run audience (some light) watch) ∧
    (let responder := audience openBooth ((player openBooth).response minding 2)
      let one := ready.run responder (some light) {}
      let other := { worn with program := light ++ light }.run responder (some light) {}
      other.1 = one.1 ∧ one.2.1.Alike other.2.1 ∧ other.2.2.pending = one.2.2.pending ∧
        List.Forall₂ (Entry.Alike Session.Alike) one.2.2.entries other.2.2.entries) ∧
    (ready.run stopper (some light) []).1 = .ok .cancelled ∧
      (ready.run stopper (some light) []).2.1.run stopper (some light) [] =
        ready.run stopper (some light) [] := by
  have nonempty : light ≠ [] := List.cons_ne_nil _ _
  have resting : ready.AtRest := ⟨rfl, by decide⟩
  have tired : worn.AtRest := ⟨rfl, by decide⟩
  have game : ready.SameGame worn := ⟨rfl, rfl, rfl⟩
  have same := run_of_sameGame (p := some light) (q := some light) game rfl rfl nonempty resting tired
  have stopped : (ready.run stopper (some light) []).1 = .ok .cancelled := by decide +kernel
  refine ⟨same.1 rfl, ?_, stopped, ?_⟩
  · have busy : { worn with program := light ++ light }.AtRest := ⟨rfl, by decide⟩
    have game : ready.SameGame { worn with program := light ++ light } := ⟨rfl, rfl, rfl⟩
    have alike := run_of_sameGame (p := some light) (q := some light) game rfl rfl nonempty resting busy
    refine alike.2.1 openBooth minding 2 {} ?_
    simp [Blind, minding, Step.reads]
  · refine same.2.2 _ stopper [] .cancelled ⟨?_, ?_⟩ stopped
    · intro l hl e s w
      rw [List.mem_singleton.mp hl]
      exact .refl s
    · intro n s w
      have left : s.cancel.toDesk = s.toDesk := cancel_toDesk s
      exact ⟨congrArg Desk.house left, congrArg Desk.levelId left, congrArg Desk.delay left,
        congrArg Desk.program left, congrArg Desk.running left, .inl (congrArg Desk.status left)⟩

end Session

end Lamplighter
