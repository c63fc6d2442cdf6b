/-
Lamplighter.Attempt — one command carried out.

* `Attempt` — what a run changes: the robot, the goals lit so far and the live flags.
* `Deed` — what the robot did or was refused, as a log line tells it.
* `Attempt.execute` — a command by name: the attempt after it, why it was refused if it was, and the
  deeds in the order in which they happened.

Stepping on a cell fires its trigger before the trigger of the cell that is left, so a teleport's
landing stands, and a switch that works the very tile being left does not keep that tile whole.
-/
import Lamplighter.Board
import Lamplighter.Rules

namespace Lamplighter

/-- What a run changes. `lit` holds the goals lit so far, in the order in which they were lit. -/
structure Attempt where
  robot : Pose
  lit : List Position := []
  store : Store := {}
  deriving DecidableEq, Repr, Inhabited

/-- Why a run did not reach its goals. -/
inductive Failure where
  | blocked
  | jumpImpossible
  | goalsNotLit
  deriving DecidableEq, Repr, Inhabited

/-- The text of a failure. -/
def Failure.text : Failure → String
  | blocked => "blocked"
  | jumpImpossible => "jump impossible"
  | goalsNotLit => "goals not lit"

/-- The two ways to change cells. -/
inductive Gait where
  | move
  | jump
  deriving DecidableEq, Repr

namespace Gait

/-- The verb of a gait in log lines. -/
def verb : Gait → String
  | move => "Move"
  | jump => "Jump"

/-- What the rules say about a gait between two heights. -/
def allowed (gait : Gait) (rules : Rules) (current target : Int) : Bool :=
  match gait with
  | move => rules.canMove current target
  | jump => rules.canJump current target

/-- Why a gait that the rules refuse has failed. -/
def refusal : Gait → Failure
  | move => .blocked
  | jump => .jumpImpossible

end Gait

/-- What the robot did, or what it was refused. -/
inductive Deed where
  | turnedLeft (before after : Direction)
  | turnedRight (before after : Direction)
  | teleported (entered landing : Position)
  | stepped (gait : Gait) (origin final : Position)
  | blocked (gait : Gait) (target : Position)
  | refused (gait : Gait) (target : Position) (current height : Int)
  | lit (goal : Position)
  | noGoal (cell : Position)
  deriving DecidableEq, Repr

namespace Deed

/-- The text of a deed. -/
def message : Deed → String
  | turnedLeft a b => s!"Turn left {a.letter} -> {b.letter}"
  | turnedRight a b => s!"Turn right {a.letter} -> {b.letter}"
  | teleported p q => s!"Teleported {p.text} -> {q.text}"
  | stepped g p q => s!"{g.verb} {p.text} -> {q.text}"
  | blocked g p => s!"{g.verb} to {p.text} blocked"
  | refused g p a b => s!"{g.verb} to {p.text} refused: height {a} -> {b}"
  | lit p => s!"Light at {p.text}: goal lit"
  | noGoal p => s!"Light at {p.text}: not a goal"

/-- Whether all numbers of a deed have few enough digits to be written. -/
def isWritable : Deed → Bool
  | turnedLeft .. | turnedRight .. => true
  | teleported p q | stepped _ p q => p.isWritable && q.isWritable
  | blocked _ p | lit p | noGoal p => p.isWritable
  | refused _ p a b => p.isWritable && Numeral.isWritable a && Numeral.isWritable b

/-- Whether a deed can be told. What changes an attempt happens on cells of a level, or next to one, and the
numbers of a level have been read and can be written. A robot that was put far outside may still be refused
a step, or find no goal, at a cell whose coordinates are too long. -/
def isTellable : Deed → Bool
  | turnedLeft .. | turnedRight .. | teleported .. | stepped .. | lit _ => true
  | d => d.isWritable

/-- Whether a deed is a refusal. -/
def isRefusal : Deed → Bool
  | blocked .. | refused .. => true
  | _ => false

end Deed

/-- A command carried out, or refused. -/
structure Report where
  attempt : Attempt
  refusal : Option Failure := none
  deeds : List Deed := []
  deriving DecidableEq, Repr

/-- The command was not refused. -/
def Report.ok (r : Report) : Bool := r.refusal.isNone

namespace Attempt

/-- The attempt at the start of a run on a level. -/
def atStart (level : Level) : Attempt :=
  { robot := level.start, store := Store.ofLevel (some level) }

/-- The attempt after a step to `target` that nothing refuses. -/
def arrive (a : Attempt) (target : Position) : Attempt :=
  let landing := (a.store.destination? target).getD target
  { a with
    robot := { a.robot with position := landing }
    store := (a.store.enter target).leave a.robot.position }

/-- A step ahead, by moving or by jumping. -/
def step (board : Board) (rules : Rules) (gait : Gait) (a : Attempt) : Report :=
  let origin := a.robot.position
  let target := origin.ahead a.robot.heading
  if ¬ board.isWalkable a.store target then
    { attempt := a, refusal := some .blocked, deeds := [.blocked gait target] }
  else
    let current := board.heightAt origin
    let height := board.heightAt target
    if ¬ gait.allowed rules current height then
      { attempt := a, refusal := some gait.refusal, deeds := [.refused gait target current height] }
    else
      let after := a.arrive target
      let carried :=
        match a.store.destination? target with
        | some landing => [Deed.teleported target landing]
        | none => []
      { attempt := after, deeds := carried ++ [.stepped gait origin after.robot.position] }

/-- Turn on the spot. -/
def turn (a : Attempt) (heading : Direction) : Attempt :=
  { a with robot := { a.robot with heading } }

/-- Light the goal that the robot stands on, unless it is lit already. -/
def light (board : Board) (a : Attempt) : Report :=
  let p := a.robot.position
  if ¬ board.isGoal p then { attempt := a, deeds := [.noGoal p] }
  else if p ∈ a.lit then { attempt := a }
  else { attempt := { a with lit := a.lit ++ [p] }, deeds := [.lit p] }

/-- Carry out a command by name. A name that stands for no command succeeds without effect. -/
def execute (board : Board) (rules : Rules) (name : String) (a : Attempt) : Report :=
  match Command.ofName? name with
  | some .move => a.step board rules .move
  | some .jump => a.step board rules .jump
  | some .turnLeft =>
    let h := a.robot.heading
    { attempt := a.turn h.left, deeds := [.turnedLeft h h.left] }
  | some .turnRight =>
    let h := a.robot.heading
    { attempt := a.turn h.right, deeds := [.turnedRight h h.right] }
  | some .light => a.light board
  | some .procedure => { attempt := a }
  | none => { attempt := a }

end Attempt

end Lamplighter
