/-
Lamplighter.Demo — every level of a catalogue, played from a list of solutions.

* `Demo.solution` — the program for a level, by its id; empty for a level that has none.
* `Demo.transcript` — all that is printed: of each level, in ascending order of ids, the remarks of its
  run, a line for each command, and the picture of how it ended; then how many levels were solved.
-/
import Lamplighter.Session.Run

namespace Lamplighter

namespace Demo

/-! ## Solutions -/

/-- A block for a command. -/
def step (c : Command) : Block := Block.ofCommand (some c.name)

/-- A loop. -/
def repeated (n : Int) (body : List Block) : Block := Block.ofLoop (some n) body

/-- The program for a level. -/
def solution : Int → Program
  | 1 => [step .move, step .move, step .light]
  | 2 => [repeated 4 [step .move], step .light]
  | 3 => [repeated 3 [step .jump], step .light]
  | 4 => [repeated 3 [step .move], step .light]
  | 5 => [step .move, step .move, step .light]
  | 6 => [repeated 4 [step .move, Block.ofColor (some "red") [step .light]]]
  | 7 =>
    [step .move, step .move, step .light, step .turnRight, step .move, step .light]
  | _ => []

/-! ## What is printed -/

/-- A text with blanks after it, up to a width. -/
def padded (width : Nat) (s : String) : String := s.pushn ' ' (width - s.length)

/-- The line for a command that has been carried out. -/
def commandLine (name : String) (e : Event) : String :=
  let mark := if e.success = some true then "ok" else "FAILED"
  s!"    {padded 7 name} -> {e.robot.position.text} {e.robot.heading.letter}  [{mark}]"

/-- Lines that were printed, the newest first. -/
abbrev Printed := List String

/-- Print a text. -/
def print (text : String) (printed : Printed) : Printed :=
  (Console.lines text).reverse ++ printed

/-- Print the line of a command, once it has been carried out. -/
def report (e : Event) (s : Session) (printed : Printed) : Option Fault × Session × Printed :=
  match e.kind, e.command with
  | .commandFinished, some name => (none, s, print (commandLine name e) printed)
  | _, _ => (none, s, printed)

/-- The audience of the demo: remarks and commands are printed, and nobody acts while a run sleeps. -/
def audience (console : Console) : Audience Printed where
  listeners := [report]
  sleep _ s printed := (none, s, printed)
  print r := print (console.printed r)

/-! ## The demo -/

/-- Play one level, and tell whether it was solved. -/
def playLevel (console : Console) (id : Int) (s : Session) (printed : Printed) :
    Bool × Session × Printed :=
  let s := (s.load id).2
  let printed := (s.level?.map Session.loadedRemark).elim printed
    (fun r => print (console.printed r) printed)
  let (result, s, printed) := (s.setProgram (solution id)).run (audience console) none printed
  let solved := match result with
    | .ok .win => true
    | _ => false
  (solved, s, print "" (print s.picture printed))

/-- Play levels in order, and count those that were solved. -/
def playLevels (console : Console) : List Int → Session → Nat → Printed → Nat × Printed
  | [], _, solved, printed => (solved, printed)
  | id :: rest, s, solved, printed =>
    let (won, s, printed) := playLevel console id s printed
    playLevels console rest s (if won then solved + 1 else solved) printed

/-- The pause after each command, in milliseconds. -/
def delay : Int := 50

/-- The lines that the demo prints. -/
def transcript (console : Console) (settings : Settings) (catalogue : Catalogue) : List String :=
  let s := Session.start (House.ofSettings settings catalogue) delay
  let (solved, printed) := playLevels console catalogue.ids s 0 []
  (print s!"Solved {solved}/{catalogue.size} levels" printed).reverse

end Demo

end Lamplighter
