/-
Lamplighter.Run.Event — what listeners are told about a run.

An event is a snapshot: with the address of a block, what the robot, the lit goals and the flags are
at that moment, so that a listener can draw the step without knowing the game.
-/
import Lamplighter.Attempt
import Lamplighter.Console

namespace Lamplighter

/-- The kinds of event. -/
inductive EventKind where
  | blockStarted
  | commandFinished
  | runFinished
  deriving DecidableEq, Repr, Inhabited

namespace EventKind

/-- The name of a kind of event. -/
def name : EventKind → String
  | blockStarted => "block_started"
  | commandFinished => "command_finished"
  | runFinished => "run_finished"

/-- The kinds in the order in which they are listed to the reader of an error. -/
def all : List EventKind := [blockStarted, commandFinished, runFinished]

end EventKind

/-- What a listener is told. -/
structure Event where
  kind : EventKind
  path : Path := []
  blockId : Option String := none
  command : Option String := none
  success : Option Bool := none
  robot : Pose
  lit : List Position := []
  flags : Flags := []
  outcome : Option Outcome := none
  deriving DecidableEq, Repr

namespace Event

/-- The event of a block that starts, or whose command has finished. Only command blocks show their
command. -/
def ofBlock (kind : EventKind) (path : Path) (b : Block) (success : Option Bool) (a : Attempt) :
    Event where
  kind
  path
  blockId := some b.id
  command := if b.kind = .command then b.command else none
  success
  robot := a.robot
  lit := a.lit
  flags := a.store.flags

/-- The event of a run that has ended. -/
def ofOutcome (outcome : Outcome) (a : Attempt) : Event where
  kind := .runFinished
  robot := a.robot
  lit := a.lit
  flags := a.store.flags
  outcome := some outcome

end Event

end Lamplighter
