/-
Lamplighter.Proofs.Run.Stepping — what a step ahead does, from the command to the last flag.

* `Setup.command_eq` — a command in two parts: what it does to the attempt, and what is printed of it.
* `Attempt.Stepped` — what a step that succeeds makes of an attempt, by the labels of the tiles on the two cells that it
  is taken between.
* `Setup.command_step` — a step succeeds if and only if the cell ahead can be walked on and the rules allow the two
  heights; then it does just that, and otherwise nothing.

The layout is that of the level on the board. The flags may be any, whatever the level declares.
-/
import Lamplighter.Proofs.Attempt
import Lamplighter.Proofs.Run.Stage
import Lamplighter.Proofs.Store

namespace Lamplighter

/-- The command that a gait answers to. -/
def Gait.command : Gait → Command
  | move => .move
  | jump => .jump

namespace Setup

variable {σ : Type} (setup : Setup) (around : Surroundings σ)

/-- Telling deeds changes nothing but what has been printed. -/
theorem narrate_stage (deeds : List Deed) (m : Stage σ) :
    (setup.narrate around deeds m).2 = { m with world := (setup.narrate around deeds m).2.world } :=
  setup.narrate_keeps (I := fun n => n = { m with world := n.world }) (fun r n h => by rw [h]; rfl) deeds rfl

/-- A stage right after a command, before anything is said of it. -/
def after (name : String) (m : Stage σ) : Stage σ :=
  { m with attempt := (setup.report name m).attempt, failure := (setup.report name m).refusal <|> m.failure }

/-- A command that can be told ends as reported. What it does to the attempt stands, whatever is printed. -/
theorem command_eq (name : String) (m : Stage σ) :
    setup.command around name m =
      (if setup.isTellable name m then .ok (setup.report name m).ok else .error .untellable,
        { setup.after name m with world := (setup.command around name m).2.world }) := by
  have narrated : setup.narrate around (setup.report name m).deeds (setup.after name m) =
      (if setup.isTellable name m then none else some .untellable,
        { setup.after name m with
          world := (setup.narrate around (setup.report name m).deeds (setup.after name m)).2.world }) :=
    Prod.ext (setup.narrate_fault around _ _) (setup.narrate_stage around _ _)
  revert narrated
  generalize ran : setup.narrate around (setup.report name m).deeds (setup.after name m) = told
  intro narrated
  rw [after, report] at ran
  simp only [command]
  rw [ran, narrated]
  cases setup.isTellable name m <;> rfl

end Setup

/-! ## Steps -/

namespace Attempt

/-- What a step that succeeds makes of an attempt. The robot ends on the tile that a teleport ahead leads to, or else on
the cell ahead; a switch ahead flips its flag, and then a cracked tile that is left shuts its own. Of the tile on which
the robot ends, no trigger fires. -/
structure Stepped (tiles : List Tile) (a a' : Attempt) : Prop where
  heading : a'.robot.heading = a.robot.heading
  position : a'.robot.position =
    (((Level.labelOn? tiles .teleport Tile.target a.ahead).bind (Level.tileNamed? tiles)).map
      Tile.position).getD a.ahead
  lit : a'.lit = a.lit
  layout : a'.store.layout = a.store.layout
  flags : ∀ id, a'.store.get? id =
    if Level.labelOn? tiles .cracked Tile.id a.robot.position = some id then some false
    else if Level.labelOn? tiles .switch Tile.target a.ahead = some id then some (!(a.store.get? id).getD false)
    else a.store.get? id

theorem stepped_arrive (a : Attempt) : Stepped a.store.layout a (a.arrive a.ahead) where
  heading := rfl
  position := by rw [← Store.destination?_eq]; rfl
  lit := rfl
  layout := by simp [arrive]
  flags id := by
    show ((a.store.enter a.ahead).leave a.robot.position).get? id = _
    rw [Store.get?_left, Store.enter_layout, Store.get?_entered, Flags.flipped]

end Attempt

/-! ## Commands -/

namespace Setup

variable {σ : Type}

theorem report_gait (setup : Setup) (gait : Gait) (m : Stage σ) :
    setup.report gait.command.name m = m.attempt.step setup.board setup.rules gait := by
  cases gait <;> rfl

section

variable {setup : Setup} {gait : Gait} {m : Stage σ} (around : Surroundings σ)

/-- Only a refusal can be too long to be told, for the cell ahead or for the heights. -/
theorem isTellable_of_isLegible (legible : m.attempt.isLegible setup.board = true) :
    setup.isTellable gait.command.name m = true := by
  rw [isTellable, report_gait]
  exact m.attempt.step_tellable setup.board setup.rules gait legible

theorem command_of_free (free : Attempt.IsFree setup.board setup.rules gait m.attempt) :
    setup.command around gait.command.name m =
      (.ok true, { m with
        attempt := m.attempt.arrive m.attempt.ahead
        world := (setup.command around gait.command.name m).2.world }) := by
  obtain ⟨deeds, done, told⟩ := Attempt.step_of_free free
  have tellable : setup.isTellable gait.command.name m = true := by rw [isTellable, report_gait, done, told]
  refine (setup.command_eq around _ m).trans ?_
  rw [if_pos tellable, after, report_gait, done]
  rfl

theorem command_of_not_free (refused : ¬Attempt.IsFree setup.board setup.rules gait m.attempt) :
    setup.command around gait.command.name m =
      (if setup.isTellable gait.command.name m then .ok false else .error .untellable, { m with
        failure := some (Attempt.refusalOf setup.board gait m.attempt)
        world := (setup.command around gait.command.name m).2.world }) := by
  obtain ⟨deeds, done, -⟩ := Attempt.step_of_not_free refused
  refine (setup.command_eq around _ m).trans ?_
  rw [after, report_gait, done]
  rfl

end

/-- The two commands that change cells. Such a command succeeds if and only if the cell ahead can be walked on and the
rules allow the heights of the two cells. Then heading, lit goals and the last refusal stay, and the rest is as
`Attempt.Stepped` says. Otherwise the attempt stays as it is and the reason is kept; and where the cell ahead or one of
the heights cannot be written, the command may break off instead of being refused. -/
theorem command_step (level : Option Level) (rules : Rules) (cap : Int) (verbose : Bool) (around : Surroundings σ)
    (gait : Gait) (flags : Flags) (m : Stage σ) (initialized : m.attempt.store = { Store.ofLevel level with flags }) :
    let board : Board := ⟨level⟩
    let a := m.attempt
    let done := Setup.command ⟨board, rules, cap, verbose⟩ around gait.command.name m
    (done.1 = .ok true ↔
        board.isWalkable a.store a.ahead = true ∧
          gait.allowed rules (board.heightAt a.robot.position) (board.heightAt a.ahead) = true) ∧
      (done.1 = .ok true → a.Stepped ((level.map Level.layout).getD []) done.2.attempt ∧ done.2.failure = m.failure) ∧
      (done.1 ≠ .ok true →
        (done.1 = .ok false ∨ done.1 = .error .untellable ∧ a.isLegible board = false) ∧ done.2.attempt = a ∧
          done.2.failure =
            some (if gait = .jump ∧ board.isWalkable a.store a.ahead = true then .jumpImpossible else .blocked)) ∧
      done.2 = { m with attempt := done.2.attempt, failure := done.2.failure, world := done.2.world } := by
  intro board a done
  have layout : a.store.layout = (level.map Level.layout).getD [] := by
    show m.attempt.store.layout = _
    rw [initialized]
    cases level <;> rfl
  by_cases free : Attempt.IsFree board rules gait a
  · have made : done = _ := command_of_free around free
    have succeeded : done.1 = .ok true := by rw [made]
    refine ⟨iff_of_true succeeded free, fun _ => ?_, fun failed => absurd succeeded failed, ?_⟩
    · rw [made, ← layout]
      exact ⟨a.stepped_arrive, rfl⟩
    · rw [made]
  · have made : done = _ := command_of_not_free around free
    have failed : done.1 ≠ .ok true := by
      rw [made]
      split <;> nofun
    refine ⟨iff_of_false failed free, fun succeeded => absurd succeeded failed, fun _ => ⟨?_, ?_⟩, ?_⟩
    · rw [made]
      cases tellable : Setup.isTellable ⟨board, rules, cap, verbose⟩ gait.command.name m with
      | true => exact .inl rfl
      | false =>
        refine .inr ⟨rfl, Bool.eq_false_iff.mpr fun legible => ?_⟩
        rw [isTellable_of_isLegible legible] at tellable
        cases tellable
    · rw [made]
      refine ⟨rfl, congrArg some ?_⟩
      show Attempt.refusalOf board gait a = _
      cases gait <;> simp [Attempt.refusalOf, Gait.refusal]
    · rw [made]

/-- Thin ice by a switch that works it, and a teleport that leads back onto it. -/
def brook : Level where
  id := 1
  size := 2
  layout :=
    [{ position := ⟨0, 0⟩, kind := .cracked, id := some (.ofString "ice") },
      { position := ⟨1, 0⟩, kind := .switch, target := some (.ofString "ice") },
      { position := ⟨0, 1⟩, kind := .teleport, height := 1, target := some (.ofString "ice") }]
  start := ⟨⟨0, 0⟩, .east⟩
  maxCommands := 4

/-- A robot on the ice, with a flag that the level does not declare. Remarks are counted. -/
def onIce (heading : Direction) : Stage Nat where
  attempt := ⟨⟨⟨0, 0⟩, heading⟩, [], { Store.ofLevel (some brook) with flags := [(.ofString "ice", true)] }⟩
  world := 0

/-- Watchers who count remarks, and do nothing else. -/
def counting : Surroundings Nat where
  listeners := []
  pause m := (none, m)
  checkpoint m := (none, m)
  print _ n := n + 1

theorem command_step_brook :
    let out (reach : Int) (gait : Gait) (heading : Direction) :=
      Setup.command ⟨⟨some brook⟩, .standard reach, 10, true⟩ counting gait.command.name (onIce heading)
    (out 1 .move .east).2.attempt.store.get? (.ofString "ice") = some false ∧
      (out 1 .jump .south).2.attempt.robot.position = ⟨0, 0⟩ ∧
      (out 1 .jump .south).2.attempt.store.get? (.ofString "ice") = some false ∧
      (out 0 .jump .south).2.failure = some .jumpImpossible ∧ (out 0 .jump .west).2.failure = some .blocked := by
  intro out
  have step (reach : Int) (gait : Gait) (heading : Direction) :=
    command_step (some brook) (.standard reach) 10 true counting gait [(.ofString "ice", true)] (onIce heading) rfl
  have east := ((step 1 .move .east).2.1 ((step 1 .move .east).1.mpr (by decide +kernel))).1
  have south := ((step 1 .jump .south).2.1 ((step 1 .jump .south).1.mpr (by decide +kernel))).1
  have high := (step 0 .jump .south).2.2.1 (mt (step 0 .jump .south).1.mp (by decide +kernel))
  have out := (step 0 .jump .west).2.2.1 (mt (step 0 .jump .west).1.mp (by decide +kernel))
  exact ⟨(east.flags _).trans (by decide +kernel), south.position.trans (by decide +kernel),
    (south.flags _).trans (by decide +kernel), high.2.2.trans (by decide +kernel), out.2.2.trans (by decide +kernel)⟩

end Setup

end Lamplighter
