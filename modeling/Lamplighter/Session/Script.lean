/-
Lamplighter.Session.Script — sessions played by a script.

* `Call` — what may be asked of a session, other than to run; `Question` — what only looks at it;
  `Tampering` — what changes its fields past all rules.
* `Step` — one of these, or a run. A run has cues: steps to be taken while it is going on, by a listener
  at an event or by someone else while the run sleeps.
* `Session.perform` — the answer to each step, what was seen of it, and the session after it.

A script acts on what it finds: the steps of a cue are taken on the session as it is at that moment, and
the run goes on from the session that they leave.
-/
import Lamplighter.Run.Script
import Lamplighter.Session.Run

namespace Lamplighter

namespace Session

/-! ## Calls, questions and tampering -/

/-- What may be asked of a session at any time, other than to run. Where an id should be, `none` stands
for something that is no id of anything; a `parent` is such an id, or `none` for the program itself. -/
inductive Call where
  | load (id : Option Int)
  | next
  | add (wanted : Except Invalid Block) (parent : Option (Option String))
  | remove (id : Option String)
  | setProgram (program : Program)
  | clearProgram
  | setSpeed (wanted : Except NotAnInteger Int)
  | cancel
  | resetToStart
  | reposition

/-- What can be looked at. -/
inductive Question where
  | title
  | program
  | picture
  deriving DecidableEq, Repr

/-- What changes a session past its rules: its status, by name, or its attempt, by the robot's pose, more
lit cells and flags. -/
inductive Tampering where
  | status (name : String)
  | attempt (robot : Option (Except Invalid Pose)) (lit : List (Except Invalid Position))
      (flags : Flags)

/-- The answer to a step. -/
inductive Answer where
  | nothing
  | yesNo (b : Bool)
  | text (s : Option String)
  | block (b : Option Block)
  | program (p : Program)
  | outcome (o : Outcome)
  | fault (f : Fault)
  | invalid (i : Invalid)
  | noInteger (why : NotAnInteger)
  | noStatus (name : String)
  | noRobot

/-- What is said where a robot that is not there should be put somewhere. -/
def noRobotMessage : String := "'NoneType' object has no attribute 'x'"

/-- The remarks made when a level has been loaded. -/
def arrivalRemarks (s : Session) : List Remark :=
  match s.level? with
  | some level => [loadedRemark level]
  | none => []

namespace Call

/-- The name of a call in scripts. -/
def name : Call → String
  | load _ => "load"
  | next => "next"
  | add .. => "add"
  | remove _ => "remove"
  | setProgram _ => "set_program"
  | clearProgram => "clear"
  | setSpeed _ => "speed"
  | cancel => "cancel"
  | resetToStart => "reset"
  | reposition => "reposition"

/-- What is said and remarked when another level has been asked for. -/
def arrival : Except Fault Bool × Session → Answer × Session × List Remark
  | (.ok true, s) => (.yesNo true, s, arrivalRemarks s)
  | (.ok false, s) => (.yesNo false, s, [])
  | (.error fault, s) => (.fault fault, s, [])

/-- Add a block where a call wants it. Under something that is no id, it is refused once nothing is wrong with the
block. -/
def addAt (wanted : Except Invalid Block) (s : Session) :
    Option (Option String) → Except Invalid (Option Block) × Session
  | none => s.add wanted none
  | some (some id) => s.add wanted (some id)
  | some none => if s.hasRoom then (wanted.map (fun _ => none), s) else (.ok none, s)

/-- What is said when a block has been asked for. -/
def addition : Except Invalid (Option Block) × Session → Answer × Session × List Remark
  | (.ok b, s) => (.block b, s, [])
  | (.error invalid, s) => (.invalid invalid, s, [])

/-- What is said of a change that may break off. -/
def change : Option Fault × Session → Answer × Session × List Remark
  | (none, s) => (.nothing, s, [])
  | (some fault, s) => (.fault fault, s, [])

/-- The answer to a call, the session after it, and what is remarked. -/
def answer (s : Session) : Call → Answer × Session × List Remark
  | load none => (.yesNo false, s, [])
  | load (some id) => arrival (s.load id)
  | next => arrival s.next
  | add wanted parent => addition (addAt wanted s parent)
  | remove none => (.yesNo false, s, [])
  | remove (some id) => (.yesNo (s.remove id).1, (s.remove id).2, [])
  | setProgram p => (.nothing, s.setProgram p, [])
  | clearProgram => (.nothing, s.clearProgram, [])
  | setSpeed (.ok delay) => (.nothing, s.setSpeed delay, [])
  | setSpeed (.error why) => (.noInteger why, s, [])
  | cancel => (.nothing, s.cancel, [])
  | resetToStart => change s.resetToStart
  | reposition => (.nothing, s.reposition, [])

end Call

namespace Question

/-- The name of a question in scripts. -/
def name : Question → String
  | title => "title"
  | program => "program"
  | picture => "render"

/-- The answer to a question. -/
def answer (s : Session) : Question → Answer
  | title => .text (s.level?.map (fun level => level.title.text))
  | program => .program s.program
  | picture => .text (some s.picture)

end Question

namespace Tampering

/-- The name of a tampering in scripts. -/
def name : Tampering → String
  | status _ => "set_status"
  | attempt .. => "poke"

/-- Set flags, in order. -/
def setFlags (flags : Flags) (s : Session) : Session :=
  { s with store := flags.foldl (fun store f => store.set f.1 f.2) s.store }

/-- Light cells, in order, and set flags. A cell that cannot be made out ends it; those before it stay
lit. -/
def light (flags : Flags) : List (Except Invalid Position) → Session → Answer × Session
  | [], s => (.nothing, setFlags flags s)
  | .ok p :: rest, s => light flags rest { s with lit := s.lit ++ [p] }
  | .error invalid :: _, s => (.invalid invalid, s)

/-- The answer to a tampering, and the session after it. A robot that is not there is not put there. -/
def answer (s : Session) : Tampering → Answer × Session
  | status name =>
    match RunStatus.ofName? name with
    | none => (.noStatus name, s)
    | some wanted =>
      match s.setStatus wanted with
      | .ok s => (.nothing, s)
      | .error fault => (.fault fault, s)
  | attempt none lit flags => light flags lit s
  | attempt (some (.error invalid)) _ _ => (.invalid invalid, s)
  | attempt (some (.ok robot)) lit flags =>
    if s.robot.isSome then light flags lit { s with robot := some robot } else (.noRobot, s)

end Tampering

/-! ## Steps -/

/-- One step of a script. An `unreadable` step asks for something that cannot be made out, and changes
nothing. -/
inductive Step where
  | call (c : Call)
  | ask (q : Question)
  | tamper (t : Tampering)
  | unreadable (name : String) (invalid : Invalid)
  | raise (complaint : Complaint)
  | run (program : Option Program)

namespace Step

/-- The name of a step in scripts. -/
def name : Step → String
  | call c => c.name
  | ask q => q.name
  | tamper t => t.name
  | unreadable name _ => name
  | raise _ => "raise"
  | run _ => "run"

/-- What a step raises. -/
def raised? : Step → Option Complaint
  | raise complaint => some complaint
  | _ => none

end Step

/-- What a session's record holds. -/
abbrev Notes := Record Answer Session

/-- The audience that takes notes, with whoever responds to what it notes. -/
def audience (booth : Booth) (response : Response Answer Session) : Audience Notes where
  listeners := if booth.listening then [fun e s => response.noting (.event e s) s] else []
  sleep length s r :=
    match booth.clock length with
    | .ok n => response.noting (.sleep n s) s r
    | .error complaint => (some (.raised complaint), s, r)
  print := Record.say booth.console

/-- The answer to a step, the session after it, and the record with what was seen and printed. -/
def take (booth : Booth) (response : Response Answer Session) (step : Step) (s : Session) (r : Notes) :
    Answer × Session × Notes :=
  match step with
  | .call c =>
    let (answer, s, remarks) := c.answer s
    (answer, s, remarks.foldl (fun r remark => r.say booth.console remark) r)
  | .ask q => (q.answer s, s, r)
  | .tamper t =>
    let (answer, s) := t.answer s
    (answer, s, r)
  | .unreadable _ invalid => (.invalid invalid, s, r)
  | .raise complaint => (.fault (.raised complaint), s, r)
  | .run program =>
    match s.run (audience booth response) program r with
    | (.ok outcome, s, r) => (.outcome outcome, s, r)
    | (.error fault, s, r) => (.fault fault, s, r)

/-- Who takes the steps of a session's script. -/
def player (booth : Booth) : Player Step Answer Session := ⟨Step.name, Step.raised?, take booth⟩

/-- Take the steps of a script in order. -/
def perform (booth : Booth) (script : List (Item Step)) (s : Session) :
    List (Turn Step Answer Session) :=
  (player booth).perform script s

end Session

end Lamplighter
