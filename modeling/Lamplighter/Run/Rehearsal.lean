/-
Lamplighter.Run.Rehearsal — programs and commands tried out on a board, without a session.

* `Scene` — a stage that nobody watches.
* `Rehearsal` — what is tried out: the setup, the booth, and whether pauses and checkpoints are awaited
  by hooks. Without hooks both of them are sleeps of no length.
* `Rehearsal.Step` — a command, a run, or a change made by hand; a run has cues.
* `Rehearsal.perform` — the answer to each step, what was seen of it, and the scene after it.
-/
import Lamplighter.Decoding.Issue
import Lamplighter.Picture
import Lamplighter.Run.Script
import Lamplighter.Run.Stage

namespace Lamplighter

/-- A stage that nobody watches. -/
abbrev Scene := Stage Unit

/-- What a rehearsal is made with. -/
structure Rehearsal where
  setup : Setup
  booth : Booth
  hooks : Bool := true

namespace Rehearsal

/-! ## Steps -/

/-- The answer to a step. -/
inductive Answer where
  | nothing
  | yesNo (b : Bool)
  | text (s : String)
  | ending (e : Ending)
  | fault (f : Fault)
  | invalid (i : Invalid)

/-- One step of a rehearsal. An `unreadable` step asks for something that cannot be made out, and
changes nothing. -/
inductive Step where
  | command (name : String)
  | cancel
  | resume
  | place (robot : Pose)
  | set (id : Label) (value : Bool)
  | render
  | unreadable (name : String) (invalid : Invalid)
  | raise (complaint : Complaint)
  | run (program : Program) (path : Path)

namespace Step

/-- The name of a step in scripts. -/
def name : Step → String
  | command _ => "command"
  | cancel => "cancel"
  | resume => "uncancel"
  | place _ => "place"
  | set .. => "set"
  | render => "render"
  | unreadable name _ => name
  | raise _ => "raise"
  | run .. => "run"

/-- What a step raises. -/
def raised? : Step → Option Complaint
  | raise complaint => some complaint
  | _ => none

end Step

/-- What a rehearsal's record holds. -/
abbrev Notes := Record Answer Scene

/-! ## Watching -/

/-- A stage without its watchers. -/
def scene {σ : Type} (st : Stage σ) : Scene := { st with world := () }

/-- A scene before watchers. -/
def staged {σ : Type} (s : Scene) (world : σ) : Stage σ := { s with world }

/-- Note an entry, and respond to it. -/
def respond (response : Response Answer Scene) (e : Scene → Entry Answer Scene) (st : Stage Notes) :
    Option Fault × Stage Notes :=
  let s := scene st
  let (fault, s, r) := response.noting (e s) s st.world
  (fault, staged s r)

/-- Those who watch a rehearsed run. -/
def surroundings (reh : Rehearsal) (response : Response Answer Scene) : Surroundings Notes where
  listeners :=
    if reh.booth.listening then [fun e st => respond response (.event e) st] else []
  pause st :=
    respond response (fun s => if reh.hooks then .pause s.path s else .sleep 0 s) st
  checkpoint st :=
    respond response (fun s => if reh.hooks then .checkpoint s.path s else .sleep 0 s) st
  print := Record.say reh.booth.console

/-! ## Taking steps -/

/-- A scene with the robot somewhere else. -/
def place (robot : Pose) (s : Scene) : Scene := { s with attempt := { s.attempt with robot } }

/-- A scene with a flag set. -/
def setFlag (id : Label) (value : Bool) (s : Scene) : Scene :=
  { s with attempt := { s.attempt with store := s.attempt.store.set id value } }

/-- The picture of a scene. -/
def picture (reh : Rehearsal) (s : Scene) : String :=
  Picture.render reh.setup.board s.attempt.store (some s.attempt.robot) s.attempt.lit

/-- The answer to a step, the scene after it, and the record with what was seen and printed. -/
def take (reh : Rehearsal) (response : Response Answer Scene) (step : Step) (s : Scene) (r : Notes) :
    Answer × Scene × Notes :=
  match step with
  | .command name =>
    match reh.setup.command (reh.surroundings response) name (staged s r) with
    | (.ok ok, st) => (.yesNo ok, scene st, st.world)
    | (.error fault, st) => (.fault fault, scene st, st.world)
  | .cancel => (.nothing, { s with cancelled := true }, r)
  | .resume => (.nothing, { s with cancelled := false }, r)
  | .place robot => (.nothing, place robot s, r)
  | .set id value => (.nothing, setFlag id value s, r)
  | .render => (.text (reh.picture s), s, r)
  | .unreadable _ invalid => (.invalid invalid, s, r)
  | .raise complaint => (.fault (.raised complaint), s, r)
  | .run program path =>
    let (ending, st) := reh.setup.play (reh.surroundings response) program path (staged s r)
    (.ending ending, scene st, st.world)

/-- Who takes the steps of a rehearsal. -/
def player (reh : Rehearsal) : Player Step Answer Scene := ⟨Step.name, Step.raised?, reh.take⟩

/-- Take the steps of a script in order. -/
def perform (reh : Rehearsal) (script : List (Item Step)) (s : Scene) : List (Turn Step Answer Scene) :=
  reh.player.perform script s

end Rehearsal

end Lamplighter
