/-
Lamplighter.Session.Run — running a program in a session.

* `Audience` — who watches the runs of a session: listeners, whoever acts while a run sleeps for some seconds,
  and a printer. Listeners and sleepers may change the session.
* `Session.run` — a run: rejected, or carried out from the level's start and resolved to an outcome.

A run that has been cancelled is resolved as cancelled however its walk ended, and the session is then
reset once more; a run whose walk breaks off leaves the status as it was. A run may still break off once it is
resolved, over a listener that is told of its end.
-/
import Lamplighter.Delay
import Lamplighter.Run.Stage
import Lamplighter.Session

namespace Lamplighter

/-- Who watches the runs of a session, with a state of their own. -/
structure Audience (ρ : Type) where
  listeners : List (Event → Session → ρ → Option Fault × Session × ρ)
  sleep : Binary64 → Session → ρ → Option Fault × Session × ρ
  print : Remark → ρ → ρ

namespace Session

variable {ρ : Type}

/-! ## A session as the stage of a run -/

/-- The stage of a run in a session. `robot` stands in for a robot that is not there. -/
def stage (s : Session) (robot : Pose) (watch : ρ) : Stage (Desk × ρ) where
  attempt := ⟨s.robot.getD robot, s.lit, s.store⟩
  cancelled := s.cancelled
  world := (s.toDesk, watch)

/-- The session on a stage. -/
def ofStage (st : Stage (Desk × ρ)) : Session where
  toDesk := st.world.1
  robot := some st.attempt.robot
  lit := st.attempt.lit
  store := st.attempt.store
  cancelled := st.cancelled

/-- Put a session back on the stage of its run. -/
def onStage (s : Session) (watch : ρ) (st : Stage (Desk × ρ)) : Stage (Desk × ρ) :=
  { st with
    attempt := ⟨s.robot.getD st.attempt.robot, s.lit, s.store⟩
    cancelled := s.cancelled
    world := (s.toDesk, watch) }

/-- Let someone act on the session of a run. -/
def visit (act : Session → ρ → Option Fault × Session × ρ) (st : Stage (Desk × ρ)) :
    Option Fault × Stage (Desk × ρ) :=
  let (fault, s, watch) := act (ofStage st) st.world.2
  (fault, s.onStage watch st)

/-- The session's own listener: it notes where the run is. -/
def track : Listener (Desk × ρ) := fun e st =>
  let desk := st.world.1
  let active := if e.kind = .blockStarted then e.command else none
  (none, { st with world := ({ desk with path := e.path, active }, st.world.2) })

/-- Sleep after a command, for as long as the session says at that moment. -/
def pause (audience : Audience ρ) (st : Stage (Desk × ρ)) : Option Fault × Stage (Desk × ρ) :=
  match Delay.seconds st.world.1.delay with
  | .error fault => (some fault, st)
  | .ok length => visit (audience.sleep length) st

/-- Those who watch a run of a session: the session itself, then its audience. -/
def surroundings (audience : Audience ρ) : Surroundings (Desk × ρ) where
  listeners := track :: audience.listeners.map (fun l e => visit (l e))
  pause := pause audience
  checkpoint := visit (audience.sleep .zero)
  print r world := (world.1, audience.print r world.2)

/-! ## Requests -/

/-- Why a run does not start. -/
inductive Rejection where
  | alreadyRunning
  | noLevel
  | emptyProgram
  deriving DecidableEq, Repr

/-- The text of a rejection. -/
def Rejection.message : Rejection → String
  | alreadyRunning => "Run rejected: another run is active"
  | noLevel => "Run rejected: no level loaded"
  | emptyProgram => "Run rejected: program is empty"

/-- The level that a run of a program would be on, or why there is none. -/
def levelFor (s : Session) (program : Program) : Except Rejection Level :=
  if s.running then .error .alreadyRunning
  else
    match s.level? with
    | none => .error .noLevel
    | some level => if program.isEmpty then .error .emptyProgram else .ok level

/-! ## Resolution -/

/-- The remark on a listener that has raised when told of the end of a run. -/
def complaintRemark (text : String) : Remark := ⟨.error, s!"Step listener failed: {text}", []⟩

/-- Tell the listeners that a run has ended. One that raises is remarked on; what is met in wording the remark breaks
off the telling. -/
def notify (audience : Audience ρ) (e : Event) :
    List (Event → Session → ρ → Option Fault × Session × ρ) → Session → ρ → Option Fault × Session × ρ
  | [], s, watch => (none, s, watch)
  | listener :: rest, s, watch =>
    match listener e s watch with
    | (none, s, watch) => notify audience e rest s watch
    | (some fault, s, watch) =>
      match fault.wording with
      | .ok text => notify audience e rest s (audience.print (complaintRemark text) watch)
      | .error met => (some met, s, watch)

/-- End a run with an outcome. -/
def finish (audience : Audience ρ) (outcome : Outcome) (s : Session) (watch : ρ) :
    Except Fault Outcome × Session × ρ :=
  match s.robot with
  | none => (.ok outcome, s, watch)
  | some robot =>
    let e := Event.ofOutcome outcome ⟨robot, s.lit, s.store⟩
    match notify audience e audience.listeners s watch with
    | (none, s, watch) => (.ok outcome, s, watch)
    | (some fault, s, watch) => (.error fault, s, watch)

/-- End a run that has failed for a reason. -/
def finishFailed (audience : Audience ρ) (why : Option Failure) (message : String) (s : Session)
    (watch : ρ) : Except Fault Outcome × Session × ρ :=
  let s := { s with failure := why }
  match s.setStatus .fail with
  | .error fault => (.error fault, s, watch)
  | .ok s => finish audience .fail s (audience.print ⟨.outcome .fail, message, []⟩ watch)

/-- Resolve a run on a level that ended in some way; `why` is the last refusal of its walk. -/
def resolve (audience : Audience ρ) (level : Level) (ending : Ending) (why : Option Failure)
    (s : Session) (watch : ρ) : Except Fault Outcome × Session × ρ :=
  match ending with
  | .broken fault => (.error fault, s, watch)
  | .cancelled =>
    let watch := audience.print ⟨.outcome .cancelled, "Run cancelled", []⟩ watch
    match s.resetToStart with
    | (some fault, s) => (.error fault, s, watch)
    | (none, s) => finish audience .cancelled s watch
  | .failure =>
    let reason := (why.map Failure.text).getD "None"
    finishFailed audience why s!"Run failed: {reason}" s watch
  | .success =>
    if s.isWin then
      match s.setStatus .win with
      | .error fault => (.error fault, s, watch)
      | .ok s =>
        finish audience .win s
          (audience.print ⟨.outcome .win, s!"Level {level.id} solved!", []⟩ watch)
    else
      finishFailed audience (some .goalsNotLit)
        s!"Program finished with {s.lit.length}/{level.goals.length} goals lit" s watch

/-! ## Runs -/

/-- A finished attempt counts as idle again. -/
def retire (s : Session) : Except Fault Session :=
  if s.status = .win ∨ s.status = .fail then s.setStatus .idle else .ok s

/-- A session about to run: the level is as at its start, and no one has asked the run to stop. -/
def prepare (level : Level) (s : Session) : Session :=
  { s with running := true, cancelled := false }.resetAttempt level

/-- The remark on a run that starts. -/
def startRemark (level : Level) (program : Program) : Remark :=
  ⟨.info, s!"Running {Program.size program} blocks on level {level.id}", []⟩

/-- A session after the walk of its run: nothing is being run any more. -/
def settle (s : Session) : Session := { s with running := false, path := [], active := none }

/-- How a run counts as ended: one that was asked to stop is cancelled, unless it broke off. -/
def verdict (ending : Ending) (cancelled : Bool) : Ending :=
  match ending with
  | .broken fault => .broken fault
  | ending => if cancelled then .cancelled else ending

/-- What a run on a level is made with. -/
def setup (s : Session) (level : Level) : Setup :=
  ⟨⟨some level⟩, s.house.rules, s.house.cap, s.house.verbose⟩

/-- Run a program on a level. -/
def runOn (audience : Audience ρ) (level : Level) (program : Program) (s : Session) (watch : ρ) :
    Except Fault Outcome × Session × ρ :=
  match s.retire with
  | .error fault => (.error fault, s, watch)
  | .ok s =>
    let s := s.prepare level
    match s.setStatus .running with
    | .error fault => (.error fault, s, watch)
    | .ok s =>
      let watch := audience.print (startRemark level program) watch
      let (ending, st) :=
        (s.setup level).play (surroundings audience) program [] (s.stage level.start watch)
      resolve audience level (verdict ending st.cancelled) st.failure (ofStage st).settle st.world.2

/-- Run a program, or the session's own. -/
def run (audience : Audience ρ) (program : Option Program) (s : Session) (watch : ρ) :
    Except Fault Outcome × Session × ρ :=
  let program := program.getD s.program
  match s.levelFor program with
  | .error why => (.ok .rejected, s, audience.print ⟨.outcome .rejected, why.message, []⟩ watch)
  | .ok level => s.runOn audience level program watch

end Session

end Lamplighter
