/-
Lamplighter.Fault — what can break off a call, other than a run that ends as runs do.

* `RunStatus` — the states of a session.
* `Complaint` — an error that a listener or a hook raises, with a text or with none that can be made.
* `Fault` — a complaint, a pause of unusable length, a number that cannot be told, an illegal status
  transition. `Fault.wording` — its text, or what is met in making it.
-/
import Lamplighter.Number.Numeral
import Lamplighter.Text.Quoted

namespace Lamplighter

/-- The states of a session. -/
inductive RunStatus where
  | idle
  | running
  | win
  | fail
  deriving DecidableEq, Repr, Inhabited

namespace RunStatus

/-- The name of a status. -/
def name : RunStatus → String
  | idle => "IDLE"
  | running => "RUNNING"
  | win => "WIN"
  | fail => "FAIL"

/-- All states. -/
def all : List RunStatus := [idle, running, win, fail]

/-- The status that a name stands for. -/
def ofName? (s : String) : Option RunStatus := all.find? (fun r => r.name == s)

/-- What is said of a name that stands for no status. -/
def unknownMessage (s : String) : String := Text.quoted s ++ " is not a valid RunStatus"

/-- The legal transitions. Every state may return to idle. -/
def mayBecome : RunStatus → RunStatus → Bool
  | _, idle => true
  | idle, running => true
  | running, win => true
  | running, fail => true
  | _, _ => false

end RunStatus

/-- How a run request ends when it is answered at all. -/
inductive Outcome where
  | win
  | fail
  | cancelled
  | rejected
  deriving DecidableEq, Repr, Inhabited

namespace Outcome

/-- The name of an outcome. -/
def name : Outcome → String
  | win => "WIN"
  | fail => "FAIL"
  | cancelled => "CANCELLED"
  | rejected => "REJECTED"

/-- The outcomes in the order in which they are listed to the reader of an error. -/
def all : List Outcome := [win, fail, cancelled, rejected]

/-- The outcome that a name stands for. -/
def ofName? (s : String) : Option Outcome := all.find? (fun o => o.name == s)

/-- What is said of a name that stands for no outcome. -/
def unknownMessage (s : String) : String := Text.quoted s ++ " is not a valid RunOutcome"

end Outcome

/-- An error that a listener or a hook raises, of a kind that has a name. Where its text cannot be
made, there is the error that is met in making it. -/
inductive Complaint where
  | worded (kind text : String)
  | wordless (kind : String) (met : Complaint)
  deriving DecidableEq, Repr, Inhabited

/-- What can break off a call. -/
inductive Fault where
  /-- A listener or a hook raised an error of its own. -/
  | raised (complaint : Complaint)
  /-- A pause whose length in seconds is no floating-point number. -/
  | delayTooLong
  /-- A number that takes too many digits to be told. -/
  | untellable
  /-- A status transition that is not legal. -/
  | illegalTransition (current requested : RunStatus)
  deriving DecidableEq, Repr

/-- The text of a fault, or the fault that is met in making it. -/
def Fault.wording : Fault → Except Fault String
  | raised (.worded _ text) => .ok text
  | raised (.wordless _ met) => .error (.raised met)
  | delayTooLong => .ok "integer division result too large for a float"
  | untellable => .ok Numeral.unwritableMessage
  | illegalTransition current requested =>
    .ok (s!"Illegal run status transition {current.name} -> {requested.name}.\n\n" ++
      "Remediation tips:\n" ++
      "  - Start runs through GameSession.run_program, not by setting status\n" ++
      "  - Use reset_to_start() to return to IDLE from WIN or FAIL")

end Lamplighter
