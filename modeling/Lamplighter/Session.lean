/-
Lamplighter.Session — one player's game.

* `House` — what a game is played with: the catalogue, the rules, the bound on loops, and whether
  steps are remarked on.
* `Desk`, `Session` — the loaded level, the program and the status; with them the attempt in progress.
* Levels: `load`, `next`. Editing: `add`, `remove`, `setProgram`, `clearProgram`, `setSpeed`.
  Attempts: `cancel`, `resetToStart`, `reposition`.
* Questions: `level?`, `length`, `canExecute`, `isWin`, `hasNext`, `picture`.

An operation gives its answer and the session that it leaves, whether or not it is refused. Every change of
the status goes along the table of transitions, and one that the table does not have breaks the operation off.
While a run is in progress, levels and programs are left alone.
-/
import Lamplighter.Catalogue
import Lamplighter.Picture
import Lamplighter.Rules
import Lamplighter.Settings

namespace Lamplighter

/-! ## State -/

/-- What a game is played with. -/
structure House where
  catalogue : Catalogue
  rules : Rules
  cap : Int
  verbose : Bool

/-- What a game is played with unless something else is asked for. -/
def House.ofSettings (settings : Settings) (catalogue : Catalogue) : House where
  catalogue
  rules := Rules.standard settings.jumpReach
  cap := settings.loopCap
  verbose := settings.stepLogging

/-- What a session holds besides the attempt in progress. `path` and `active` tell which block of a
run started last and which command it is about to carry out; `delay` is the pause after a command, in
milliseconds. -/
structure Desk where
  house : House
  levelId : Option Int := none
  program : Program := []
  status : RunStatus := .idle
  path : Path := []
  active : Option String := none
  failure : Option Failure := none
  delay : Int
  running : Bool := false

/-- A session: a desk and the attempt in progress. There is a robot once a level has been loaded;
`cancelled` says that the run in progress has been asked to stop. -/
structure Session extends Desk where
  robot : Option Pose := none
  lit : List Position := []
  store : Store := {}
  cancelled : Bool := false

namespace Session

/-- A session without a level. -/
def start (house : House) (delay : Int) : Session := { house, delay }

/-! ## Questions -/

/-- The loaded level. -/
def level? (s : Session) : Option Level := s.levelId.bind s.house.catalogue.get?

/-- The grid of the loaded level. -/
def board (s : Session) : Board := ⟨s.level?⟩

/-- The number of blocks in the program, nested ones included. -/
def length (s : Session) : Nat := Program.size s.program

/-- Whether a level comes after the loaded one. -/
def hasNext (s : Session) : Bool :=
  (s.levelId.bind s.house.catalogue.nextId?).isSome

/-- Whether a run of the program would start. -/
def canExecute (s : Session) : Bool :=
  s.status = .idle && !s.running && s.level?.isSome && !s.program.isEmpty

/-- Whether every goal of a level is lit. -/
def isSolved (level : Level) (lit : List Position) : Bool := level.goals.all (fun g => g ∈ lit)

/-- Whether every goal of the loaded level is lit. -/
def isWin (s : Session) : Bool :=
  match s.level? with
  | some level => isSolved level s.lit
  | none => false

/-- The loaded level drawn with the robot and the lit goals. -/
def picture (s : Session) : String := Picture.render s.board s.store s.robot s.lit

/-! ## Attempts -/

/-- The attempt as it is at the start of a level, with nothing said about a run. -/
def resetAttempt (level : Level) (s : Session) : Session :=
  { s with
    robot := some level.start
    lit := []
    store := Store.ofLevel (some level)
    path := []
    active := none
    failure := none }

/-- Change the status along a legal transition. -/
def setStatus (status : RunStatus) (s : Session) : Except Fault Session :=
  if s.status.mayBecome status then .ok { s with status }
  else .error (.illegalTransition s.status status)

/-- Ask the run in progress to stop. -/
def cancel (s : Session) : Session := if s.running then { s with cancelled := true } else s

/-- Give up the attempt: the level is as at its start and the status idle. The program is kept, and
a run in progress is asked to stop. -/
def resetToStart (s : Session) : Option Fault × Session :=
  match s.level? with
  | none => (none, s)
  | some level =>
    let s := s.cancel
    match s.setStatus .idle with
    | .error fault => (some fault, s)
    | .ok s => (none, s.resetAttempt level)

/-- Put the level back as at its start, and leave the status as it is. -/
def reposition (s : Session) : Session :=
  match s.level? with
  | none => s
  | some level => s.resetAttempt level

/-! ## Levels -/

/-- Load a level, and tell whether it was loaded. The program is cleared and the attempt starts over. Refused
during a run, and for an id of no level. -/
def load (id : Int) (s : Session) : Except Fault Bool × Session :=
  if s.running then (.ok false, s)
  else
    match s.house.catalogue.get? id with
    | none => (.ok false, s)
    | some level =>
      let s := { s with levelId := some id, program := [] }
      match s.setStatus .idle with
      | .error fault => (.error fault, s)
      | .ok s => (.ok true, s.resetAttempt level)

/-- Load the level after the loaded one. -/
def next (s : Session) : Except Fault Bool × Session :=
  match s.levelId.bind s.house.catalogue.nextId? with
  | some id => s.load id
  | none => (.ok false, s)

/-- The remark on a level that has been loaded. -/
def loadedRemark (level : Level) : Remark := ⟨.info, s!"Loaded level {level.id}: {level.title.text}", []⟩

/-! ## Editing -/

/-- Whether the session takes one more block: not without a level, nor during a run, nor when the level's budget
is spent. -/
def hasRoom (s : Session) : Bool :=
  match s.level? with
  | none => false
  | some level => !s.running && s.length < level.maxCommands

/-- Add a block at the end of the program, or as the last child of the first block that has the id
`parent`, and tell which block was added. Refused without room, and under a parent that is no container. A block
that is not to be had is an error once there is room, before its parent is looked for. -/
def add (wanted : Except Invalid Block) (parent : Option String) (s : Session) :
    Except Invalid (Option Block) × Session :=
  if s.hasRoom then
    match wanted, parent with
    | .error invalid, _ => (.error invalid, s)
    | .ok b, none => (.ok (some b), { s with program := s.program ++ [b] })
    | .ok b, some id =>
      match Program.find? id s.program with
      | none => (.ok none, s)
      | some container =>
        if container.kind = .command then (.ok none, s)
        else
          (.ok (some b),
            { s with program := (Program.modify? id (Block.addChild b) s.program).getD s.program })
  else (.ok none, s)

/-- Remove the block with an id, and the blocks below it, and tell whether there was one. Refused during a run. -/
def remove (id : String) (s : Session) : Bool × Session :=
  if s.running then (false, s)
  else
    let (found, program) := Program.remove id s.program
    (found, { s with program })

/-- Replace the program. Ignored during a run. -/
def setProgram (program : Program) (s : Session) : Session :=
  if s.running then s else { s with program }

/-- Clear the program. Ignored during a run. -/
def clearProgram (s : Session) : Session := s.setProgram []

/-- Change the pause after each command. A negative one counts as none. -/
def setSpeed (delay : Int) (s : Session) : Session := { s with delay := max 0 delay }

end Session

end Lamplighter
