/-
Lamplighter.Run.Stage — a program run on a board, before whoever watches it.

* `Stage` — the attempt in progress, whether the run has been cancelled, where the walk is, and the
  state `world` of those who watch.
* `Surroundings` — the watchers: listeners told of each event, hooks awaited at pauses and
  checkpoints, and a place to print remarks. Listeners and hooks may change the whole stage.
* `Setup` — the board, the rules, the bound on loops, and whether every step is remarked on.
* `Setup.crew` — the walk's crew; `Setup.play` runs a program.

A listener that raises is remarked on, and the run goes on; but an error whose text cannot be made breaks it
off, before any later listener is told. A hook that raises breaks the run off, and so does a remark on numbers
that are too long to be told. The addresses of blocks are taken to be short enough.
-/
import Lamplighter.Run.Event
import Lamplighter.Run.Walk

namespace Lamplighter

/-- A run in progress. `path` and `active` say which block started last and which command is being
carried out; `failure` is the last refusal. -/
structure Stage (σ : Type) where
  attempt : Attempt
  cancelled : Bool := false
  path : Path := []
  active : Option String := none
  failure : Option Failure := none
  world : σ

/-- Someone told of every event of a run. -/
abbrev Listener (σ : Type) := Event → Stage σ → Option Fault × Stage σ

/-- Those who watch a run. -/
structure Surroundings (σ : Type) where
  listeners : List (Listener σ)
  pause : Stage σ → Option Fault × Stage σ
  checkpoint : Stage σ → Option Fault × Stage σ
  print : Remark → σ → σ

namespace Surroundings

variable {σ : Type}

/-- Print a remark. -/
def say (around : Surroundings σ) (r : Remark) (s : Stage σ) : Stage σ :=
  { s with world := around.print r s.world }

/-- The remark on a listener that has raised. -/
def complaintRemark (text : String) : Remark := ⟨.error, s!"[Executor] Step listener failed: {text}", []⟩

/-- Tell listeners of an event, in order. One that raises is remarked on; what is met in wording the remark
breaks off the telling. -/
def tell (around : Surroundings σ) (e : Event) : List (Listener σ) → Stage σ → Option Fault × Stage σ
  | [], s => (none, s)
  | listener :: rest, s =>
    match listener e s with
    | (none, s) => around.tell e rest s
    | (some fault, s) =>
      match fault.wording with
      | .ok text => around.tell e rest (around.say (complaintRemark text) s)
      | .error met => (some met, s)

/-- Emit an event about a block to all listeners. -/
def emit (around : Surroundings σ) (kind : EventKind) (path : Path) (b : Block)
    (success : Option Bool) (s : Stage σ) : Option Fault × Stage σ :=
  around.tell (Event.ofBlock kind path b success s.attempt) around.listeners s

end Surroundings

/-- What a run is made with. -/
structure Setup where
  board : Board
  rules : Rules
  cap : Int
  verbose : Bool

namespace Setup

variable {σ : Type}

/-- The remark on a deed, at the block that started last. -/
def remark (path : Path) (deed : Deed) : Remark :=
  ⟨if deed.isRefusal then .refusal else .step, deed.message, path⟩

/-- Tell deeds, in order: each is remarked on if every step is. A deed that cannot be told breaks off
what is being done, whether or not it would have been remarked on. -/
def narrate (setup : Setup) (around : Surroundings σ) : List Deed → Stage σ → Option Fault × Stage σ
  | [], s => (none, s)
  | deed :: rest, s =>
    if deed.isTellable then
      setup.narrate around rest (if setup.verbose then around.say (remark s.path deed) s else s)
    else (some .untellable, s)

/-- Carry out one command by name, and tell whether it succeeded. What it changes stands even if it
breaks off. -/
def command (setup : Setup) (around : Surroundings σ) (name : String) (s : Stage σ) :
    Except Fault Bool × Stage σ :=
  let report := s.attempt.execute setup.board setup.rules name
  match setup.narrate around report.deeds
      { s with attempt := report.attempt, failure := report.refusal <|> s.failure } with
  | (none, s) => (.ok report.ok, s)
  | (some fault, s) => (.error fault, s)

/-- A block starts: the walk is at it, and listeners are told. -/
def announce (around : Surroundings σ) (path : Path) (b : Block) (s : Stage σ) : Option Fault × Stage σ :=
  around.emit .blockStarted path b none { s with path }

/-- A block's command is carried out, and listeners are told while it is still the active one. It stays the
active one if it breaks off, in which case nobody is told, and if the telling does. -/
def perform (setup : Setup) (around : Surroundings σ) (path : Path) (b : Block) (name : String)
    (s : Stage σ) : Except Fault Bool × Stage σ :=
  match setup.command around name { s with active := some name } with
  | (.ok ok, s) =>
    match around.emit .commandFinished path b (some ok) s with
    | (none, s) => (.ok ok, { s with active := none })
    | (some fault, s) => (.error fault, s)
  | broken => broken

/-- The remark on a block that is passed over. -/
def skipRemark (path : Path) (b : Block) (why : Idle) : Remark :=
  ⟨.skip, s!"Skipping {b.kind.name} block {b.id}: {why.reason}", path⟩

/-- The remark on a loop that asks for more rounds than it gets. -/
def clampRemark (path : Path) (asked cap : Int) : Remark :=
  ⟨.skip, s!"Loop asks for {asked} iterations; clamped to {cap}", path⟩

/-- Remark on a loop that asks for more rounds than it gets, if both numbers can be told. -/
def clamp (setup : Setup) (around : Surroundings σ) (path : Path) (asked : Int) (s : Stage σ) :
    Option Fault × Stage σ :=
  if Numeral.isWritable asked && Numeral.isWritable setup.cap then
    (none, around.say (clampRemark path asked setup.cap) s)
  else (some .untellable, s)

/-- The crew of a run. -/
def crew (setup : Setup) (around : Surroundings σ) : Crew (Stage σ) where
  cap := setup.cap
  cancelled s := s.cancelled
  announce := announce around
  perform := setup.perform around
  onColor color s := setup.board.hasColor s.attempt.robot.position (.ofString color)
  skip path b why s := around.say (skipRemark path b why) s
  clamp := setup.clamp around
  pause := around.pause
  checkpoint := around.checkpoint

/-- Run a program under an enclosing address. -/
def play (setup : Setup) (around : Surroundings σ) (p : Program) (path : Path := []) :
    Act (Stage σ) :=
  (setup.crew around).run p path

end Setup

end Lamplighter
