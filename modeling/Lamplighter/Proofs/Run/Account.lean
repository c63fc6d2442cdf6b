/-
Lamplighter.Proofs.Run.Account — what the events of a run tell of the attempt it makes.

* `litBy` — the goals that events tell to have been lit, in the order in which they were lit first.
* `Event.reason` — why a command failed, by the event that tells of it.
* `execute_lit`, `execute_refusal` — what a single command lights, and why it is refused.
* `play_account` — before bystanders, the events of a whole run account for the goals that are lit and for the
  way in which it ends.
-/
import Lamplighter.Proofs.Attempt
import Lamplighter.Proofs.Run.Bystanders
import Lamplighter.Proofs.Run.Pairing
import Mathlib.Data.List.Induction
import Mathlib.Data.List.Perm.Subperm

namespace Lamplighter

/-! ## What events tell -/

namespace Event

/-- The goal on which a light has been lit, if an event tells of that. -/
def lights? (goals : List Position) (e : Event) : Option Position :=
  if e.kind = .commandFinished ∧ e.command = some Command.light.name ∧ e.robot.position ∈ goals then
    some e.robot.position
  else none

/-- Why the command failed of which an event tells: a jump to a cell that can be walked on is impossible, and
anything else is blocked. -/
def reason (level : Level) (e : Event) : Failure :=
  if e.command = some Command.jump.name ∧
      (⟨some level⟩ : Board).isWalkable ⟨level.layout, e.flags⟩ (e.robot.position.ahead e.robot.heading) then
    .jumpImpossible
  else .blocked

end Event

/-- The goals that are lit by what events tell of, in the order in which they were lit first. -/
def litBy (goals : List Position) (events : List Event) : List Position :=
  (events.filterMap (Event.lights? goals)).eraseDups

/-- The events that tell of commands that have failed. -/
def failures (events : List Event) : List Event := events.filter Event.tellsFailure

/-- The events of which someone outside a run is told. -/
def Occasion.events : Occasion → List Event
  | .told e => [e]
  | .pause | .checkpoint => []

/-! ## Lists without repetitions -/

section Lists

variable {α : Type} [DecidableEq α]

theorem eraseDups_concat (l : List α) (a : α) :
    (l ++ [a]).eraseDups = if a ∈ l then l.eraseDups else l.eraseDups ++ [a] := by
  rw [List.eraseDups_append]
  split
  · rename_i mem
    simp [List.removeAll, mem]
  · rename_i absent
    simp [List.removeAll, absent, List.eraseDups_cons]

theorem nodup_eraseDups (l : List α) : l.eraseDups.Nodup := by
  induction l using List.reverseRecOn with
  | nil => simp
  | append_singleton l a ih =>
    rw [eraseDups_concat]
    split
    · exact ih
    · rename_i absent
      have absent : a ∉ l.eraseDups := by rwa [List.mem_eraseDups]
      refine List.nodup_append.mpr ⟨ih, List.pairwise_singleton _ a, ?_⟩
      intro b hb c hc same
      rw [List.mem_singleton.mp hc] at same
      exact absent (same ▸ hb)

end Lists

section Lit

variable {goals : List Position} {events : List Event}

theorem litBy_concat (e : Event) :
    litBy goals (events ++ [e]) =
      match e.lights? goals with
      | none => litBy goals events
      | some p => if p ∈ litBy goals events then litBy goals events else litBy goals events ++ [p] := by
  unfold litBy
  rw [List.filterMap_append]
  cases lit : e.lights? goals with
  | none => simp [lit]
  | some p =>
    have one : [e].filterMap (Event.lights? goals) = [p] := by simp [lit]
    rw [one, eraseDups_concat]
    simp only [List.mem_eraseDups]

/-- Events of other kinds than the end of a command tell of nothing that is lit. -/
theorem litBy_append {more : List Event} (other : ∀ e ∈ more, e.kind ≠ .commandFinished) :
    litBy goals (events ++ more) = litBy goals events := by
  have unlit : more.filterMap (Event.lights? goals) = [] := by
    refine List.filterMap_eq_nil_iff.mpr (fun e he => ?_)
    exact if_neg (fun lights => other e he lights.1)
  rw [litBy, litBy, List.filterMap_append, unlit, List.append_nil]

/-- Nor do they tell of failures. -/
theorem failures_append {more : List Event} (other : ∀ e ∈ more, e.kind ≠ .commandFinished) :
    failures (events ++ more) = failures events := by
  have none : failures more = [] := by
    refine List.filter_eq_nil_iff.mpr (fun e he => ?_)
    simp [Event.tellsFailure, other e he]
  rw [failures, List.filter_append, ← failures, ← failures, none, List.append_nil]

theorem nodup_litBy (goals : List Position) (events : List Event) : (litBy goals events).Nodup :=
  nodup_eraseDups _

/-- Only goals are lit. -/
theorem litBy_subset (goals : List Position) (events : List Event) : litBy goals events ⊆ goals := by
  intro p hp
  obtain ⟨e, -, lit⟩ := List.mem_filterMap.mp (List.mem_eraseDups.mp hp)
  unfold Event.lights? at lit
  split at lit
  · rename_i told
    cases lit
    exact told.2.2
  · cases lit

/-- Unless all goals are lit, fewer are lit than there are. -/
theorem length_litBy_lt (unlit : ∃ g ∈ goals, g ∉ litBy goals events) :
    (litBy goals events).length < goals.length := by
  obtain ⟨g, hg, dark⟩ := unlit
  have nodup : (g :: litBy goals events).Nodup := List.nodup_cons.mpr ⟨dark, nodup_litBy goals events⟩
  have subset : g :: litBy goals events ⊆ goals := List.cons_subset.mpr ⟨hg, litBy_subset goals events⟩
  have short := (nodup.subperm subset).length_le
  rw [List.length_cons] at short
  omega

end Lit

/-! ## Commands -/

theorem Command.ofName?_eq_some {name : String} {c : Command} :
    Command.ofName? name = some c ↔ name = c.name := by
  constructor
  · intro found
    have same := List.find?_some found
    exact (by simpa using same : c.name = name).symm
  · rintro rfl
    cases c <;> decide

namespace Attempt

section Commands

variable (level : Level) (rules : Rules) (a : Attempt)

theorem step_lit (gait : Gait) : (a.step ⟨some level⟩ rules gait).attempt.lit = a.lit := by
  by_cases free : IsFree ⟨some level⟩ rules gait a
  · obtain ⟨deeds, done, -⟩ := step_of_free free
    rw [done]
    rfl
  · obtain ⟨deeds, done, -⟩ := step_of_not_free free
    rw [done]

theorem step_refusal {gait : Gait} {why : Failure} (h : (a.step ⟨some level⟩ rules gait).refusal = some why) :
    (a.step ⟨some level⟩ rules gait).attempt = a ∧
      why = if (⟨some level⟩ : Board).isWalkable a.store (a.robot.position.ahead a.robot.heading) then
        gait.refusal
      else .blocked := by
  by_cases free : IsFree ⟨some level⟩ rules gait a
  · obtain ⟨deeds, done, -⟩ := step_of_free free
    rw [done] at h
    cases h
  · obtain ⟨deeds, done, -⟩ := step_of_not_free free
    rw [done] at h ⊢
    exact ⟨rfl, (Option.some.inj h).symm⟩

theorem light_attempt :
    (a.light ⟨some level⟩).attempt =
      if a.robot.position ∈ level.goals ∧ a.robot.position ∉ a.lit then
        { a with lit := a.lit ++ [a.robot.position] }
      else a := by
  have goal : (⟨some level⟩ : Board).isGoal a.robot.position = decide (a.robot.position ∈ level.goals) := rfl
  unfold light
  dsimp only
  rw [goal]
  by_cases here : a.robot.position ∈ level.goals
  · by_cases lit : a.robot.position ∈ a.lit
    · simp [here, lit]
    · simp [here, lit]
  · simp [here]

theorem light_refusal : (a.light ⟨some level⟩).refusal = none := by
  unfold light
  dsimp only
  split
  · rfl
  · split <;> rfl

/-- Only a command to light changes what is lit. -/
theorem execute_lit_of_ne {name : String} (other : name ≠ Command.light.name) :
    (a.execute ⟨some level⟩ rules name).attempt.lit = a.lit := by
  unfold execute
  split
  · exact step_lit level rules a .move
  · exact step_lit level rules a .jump
  · rfl
  · rfl
  · rename_i found
    exact absurd (Command.ofName?_eq_some.mp found) other
  · rfl
  · rfl

/-- A command lights the goal on which the robot stands if it is to light, and nothing else. -/
theorem execute_lit (name : String) :
    (a.execute ⟨some level⟩ rules name).attempt.lit =
      if name = Command.light.name ∧ (a.execute ⟨some level⟩ rules name).attempt.robot.position ∈ level.goals ∧
          (a.execute ⟨some level⟩ rules name).attempt.robot.position ∉ a.lit then
        a.lit ++ [(a.execute ⟨some level⟩ rules name).attempt.robot.position]
      else a.lit := by
  by_cases lights : name = Command.light.name
  · have light : a.execute ⟨some level⟩ rules name = a.light ⟨some level⟩ := by
      unfold execute
      rw [Command.ofName?_eq_some.mpr lights]
    rw [light, light_attempt]
    by_cases fresh : a.robot.position ∈ level.goals ∧ a.robot.position ∉ a.lit
    · simp [lights, fresh]
    · rw [if_neg fresh, if_neg (fun lit => fresh lit.2)]
  · rw [if_neg (fun lit => lights lit.1), execute_lit_of_ne level rules a lights]

/-- A command is refused only if it is to move or to jump, and then it changes nothing. -/
theorem execute_refusal {name : String} {why : Failure}
    (h : (a.execute ⟨some level⟩ rules name).refusal = some why) :
    (a.execute ⟨some level⟩ rules name).attempt = a ∧
      (name = Command.move.name ∨ name = Command.jump.name) ∧
      why = if name = Command.jump.name ∧
          (⟨some level⟩ : Board).isWalkable a.store (a.robot.position.ahead a.robot.heading) then
        .jumpImpossible
      else .blocked := by
  unfold execute at h ⊢
  cases found : Command.ofName? name with
  | none =>
    rw [found] at h
    cases h
  | some c =>
    rw [found] at h
    obtain rfl := Command.ofName?_eq_some.mp found
    cases c with
    | light =>
      dsimp only at h
      rw [light_refusal] at h
      cases h
    | turnLeft | turnRight | procedure => cases h
    | move =>
      obtain ⟨same, reason⟩ := step_refusal level rules a h
      have other : Command.move.name ≠ Command.jump.name := by decide
      refine ⟨same, .inl rfl, ?_⟩
      rw [if_neg (fun jumps => other jumps.1), reason]
      simp [Gait.refusal]
    | jump =>
      obtain ⟨same, reason⟩ := step_refusal level rules a h
      refine ⟨same, .inr rfl, ?_⟩
      rw [reason]
      simp [Gait.refusal]

end Commands

end Attempt

/-- The event of a command that has been carried out tells what has been lit by it. -/
theorem lights_told (goals : List Position) (path : Path) {b : Block} {name : String}
    (kind : b.kind = .command) (command : b.command = some name) (ok : Bool) (after : Attempt)
    (lit : List Position) :
    (if name = Command.light.name ∧ after.robot.position ∈ goals ∧ after.robot.position ∉ lit then
        lit ++ [after.robot.position]
      else lit) =
      match (Event.ofBlock .commandFinished path b (some ok) after).lights? goals with
      | none => lit
      | some p => if p ∈ lit then lit else lit ++ [p] := by
  have told : (Event.ofBlock .commandFinished path b (some ok) after).lights? goals =
      if name = Command.light.name ∧ after.robot.position ∈ goals then some after.robot.position else none := by
    simp [Event.lights?, Event.ofBlock, kind, command]
  rw [told]
  by_cases lights : name = Command.light.name ∧ after.robot.position ∈ goals
  · by_cases already : after.robot.position ∈ lit
    · simp [lights, already]
    · simp [lights, already]
  · rw [if_neg lights, if_neg (fun more => lights ⟨more.1, more.2.1⟩)]

/-! ## Runs -/

section Runs

variable {σ : Type} (level : Level) (I : σ → Prop) (log : σ → List Event)

/-- A stage of a run that goes on: what is lit is what the events on its log tell, and none of them tells of a
failure. -/
structure Going (m : Stage σ) : Prop where
  calm : I m.world
  heeded : m.cancelled = false
  failure : m.failure = none
  lit : m.attempt.lit = litBy level.goals (log m.world)
  unfailed : failures (log m.world) = []

/-- A stage of a run in which a command has failed: a single event tells of it, and why. -/
structure Failed (m : Stage σ) : Prop where
  calm : I m.world
  heeded : m.cancelled = false
  lit : m.attempt.lit = litBy level.goals (log m.world)
  told : ∃ e, failures (log m.world) = [e] ∧
    (e.command = some Command.move.name ∨ e.command = some Command.jump.name) ∧
    m.failure = some (e.reason level)

/-- The ways in which a run before bystanders stops: a command has failed, or it broke off. -/
def Stopped (e : Ending) (m : Stage σ) : Prop :=
  match e with
  | .failure => Failed level I log m
  | .broken _ => True
  | .success | .cancelled => False

variable {level I log} {around : Surroundings σ} {m m' : Stage σ}

/-- Something is noted that tells of no command. -/
theorem Going.noted (going : Going level I log m) {more : List Event} (noted : Noted I log m more m')
    (dark : ∀ e ∈ more, e.kind ≠ .commandFinished) : Going level I log m' where
  calm := noted.calm
  heeded := noted.cancelled.trans going.heeded
  failure := noted.failure.trans going.failure
  lit := by rw [noted.attempt, going.lit, noted.log, litBy_append dark]
  unfailed := by rw [noted.log, failures_append dark, going.unfailed]

/-- A command has been carried out, and its event is noted. -/
theorem Going.carried (going : Going level I log m) (path : Path) {b : Block} {name : String}
    (block : b.kind = .command ∧ b.command = some name) (rules : Rules) (calm : I m'.world)
    (heeded : m'.cancelled = m.cancelled)
    (attempt : m'.attempt = (m.attempt.execute ⟨some level⟩ rules name).attempt)
    (failure : m'.failure = ((m.attempt.execute ⟨some level⟩ rules name).refusal <|> m.failure))
    (noted : log m'.world = log m.world ++
      [Event.ofBlock .commandFinished path b (some (m.attempt.execute ⟨some level⟩ rules name).ok)
        (m.attempt.execute ⟨some level⟩ rules name).attempt]) :
    if (m.attempt.execute ⟨some level⟩ rules name).ok then Going level I log m' else Failed level I log m' := by
  obtain ⟨kind, command⟩ := block
  have lit : m'.attempt.lit = litBy level.goals (log m'.world) := by
    rw [noted, litBy_concat, attempt, Attempt.execute_lit, ← going.lit]
    exact lights_told level.goals path kind command _ _ _
  cases refusal : (m.attempt.execute ⟨some level⟩ rules name).refusal with
  | none =>
    have ok : (m.attempt.execute ⟨some level⟩ rules name).ok = true := by rw [Report.ok, refusal]; rfl
    rw [if_pos ok]
    refine ⟨calm, heeded.trans going.heeded, ?_, lit, ?_⟩
    · rw [failure, refusal, going.failure]
      rfl
    · rw [noted, ok, failures, List.filter_append, ← failures, going.unfailed]
      rfl
  | some why =>
    have ok : (m.attempt.execute ⟨some level⟩ rules name).ok = false := by rw [Report.ok, refusal]; rfl
    obtain ⟨same, gait, reason⟩ := Attempt.execute_refusal level rules m.attempt refusal
    rw [ok, same] at noted
    rw [ok]
    refine ⟨calm, heeded.trans going.heeded, lit, Event.ofBlock .commandFinished path b (some false) m.attempt,
      ?_, ?_, ?_⟩
    · rw [noted, failures, List.filter_append, ← failures, going.unfailed]
      rfl
    · simpa [Event.ofBlock, kind, command] using gait
    · rw [failure, refusal, reason]
      simp only [Event.reason, Event.ofBlock, kind, command, Option.some.injEq, if_true]
      rfl

variable (h : Bystanders around I log Occasion.events) (setup : Setup) (board : setup.board = ⟨some level⟩)

theorem Going.call {hook : Stage σ → Option Fault × Stage σ}
    (noted : ∀ m, I m.world → (hook m).1 = none → Noted I log m [] (hook m).2) :
    (Act.call hook).Ensures (Going level I log) (Stopped level I log) := by
  refine Act.ensures_iff.mpr (fun m going => ?_)
  rcases Noted.call (noted m going.calm) with ⟨success, noted⟩ | ⟨fault, broke⟩
  · exact ⟨fun _ => going.noted noted (by simp), fun stopped => absurd success stopped⟩
  · rw [broke]
    exact ⟨fun success => (by cases success), fun _ => trivial⟩

include h board

/-- A command accounts for itself: what it lights is told by its event, and so is that it failed. -/
theorem Going.carryOut (path : Path) (b : Block) (name : String) (task : b.task = .command name) :
    ((setup.crew around).carryOut path b name).Ensures (Going level I log) (Stopped level I log) := by
  refine Act.ensures_iff.mpr (fun m going => ?_)
  have report : setup.report name m = m.attempt.execute ⟨some level⟩ setup.rules name := by
    rw [Setup.report, board]
  have done := h.carryOut setup path b name going.calm
  rw [report] at done
  split at done
  · obtain ⟨fault, -, broke⟩ | ⟨ending, noted⟩ := done
    · rw [broke]
      exact ⟨fun success => (by cases success), fun _ => trivial⟩
    have begun : (setup.begin name m).attempt = (m.attempt.execute ⟨some level⟩ setup.rules name).attempt :=
      congrArg Report.attempt report
    have refused : (setup.begin name m).failure =
        ((m.attempt.execute ⟨some level⟩ setup.rules name).refusal <|> m.failure) := by
      rw [← report]
      rfl
    have account := going.carried path (Block.command_of_task_command task) setup.rules noted.calm
      noted.cancelled (noted.attempt.trans begun) (noted.failure.trans refused) noted.log
    rw [ending]
    split at account
    · rename_i ok
      rw [if_pos ok]
      exact ⟨fun _ => account, fun stopped => absurd rfl stopped⟩
    · rename_i refused
      rw [if_neg refused]
      exact ⟨fun success => (by cases success), fun _ => account⟩
  · rw [done.1]
    exact ⟨fun success => (by cases success), fun _ => trivial⟩

theorem crew_account :
    (setup.crew around).Ensures [] (Going level I log) (Stopped level I log) where
  poll m going stop := by
    have heeded : m.cancelled = true := stop
    rw [going.heeded] at heeded
    cases heeded
  announce path b _ := by
    refine Act.call_ensures (fun m going whole => ?_) (fun _ _ _ _ => trivial)
    have noted := h.announce setup path b going.calm whole
    have there : Going level I log { m with path } :=
      ⟨going.calm, going.heeded, going.failure, going.lit, going.unfailed⟩
    refine there.noted noted (fun e he => ?_)
    rw [List.mem_singleton.mp he]
    simp [Event.ofBlock]
  carryOut path b name task _ := Going.carryOut h setup board path b name task
  skip path b why m _ going := going.noted (h.say _ going.calm) (by simp)
  clamp path n _ := by
    refine Act.call_ensures (fun m going _ => ?_) (fun _ _ _ _ => trivial)
    exact setup.clamp_keeps _ (fun r m going => going.noted (h.say r going.calm) (by simp)) going
  pause := Going.call h.pause
  rest := Going.call h.checkpoint

/-- Before bystanders, the events of a run account for what is lit and for how it ends: a program that is run to
its end has failed nowhere, and one that ends in failure has failed once, for the reason that is left. -/
theorem play_account (p : Program) (path : Path) (start : Going level I log m) :
    let done := setup.play around p path m
    (done.1 = .success → Going level I log done.2) ∧
      (done.1 ≠ .success → Stopped level I log done.1 done.2) :=
  Act.ensures_iff.mp ((crew_account h setup board).runFrom p path 0 List.nil_prefix) m start

end Runs

end Lamplighter
