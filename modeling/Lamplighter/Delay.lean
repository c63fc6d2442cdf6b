/-
Lamplighter.Delay — the pauses of a run.

* `Delay.ofJson` — the pause, in milliseconds, that a JSON value asks for.
* `Delay.seconds` — how long a pause lasts, in seconds.
-/
import Lamplighter.Fault
import Lamplighter.Json
import Lamplighter.Number.IntegerText

namespace Lamplighter

namespace Delay

/-- The pause that a value asks for: numbers are cut toward zero, and texts are read as integers. -/
def ofJson : Json → Except NotAnInteger Int
  | .int n => .ok n
  | .bool b => .ok (if b then 1 else 0)
  | .real .nan => .error .notANumber
  | .real x =>
    match x.truncate? with
    | some n => .ok n
    | none => .error .infinite
  | .str s => IntegerText.read s
  | .broken label => IntegerText.read label.text
  | .null => .error (.otherKind "NoneType")
  | .arr _ => .error (.otherKind "list")
  | .obj _ => .error (.otherKind "dict")

/-- How many seconds a pause of some milliseconds lasts. -/
def seconds (milliseconds : Int) : Except Fault Binary64 :=
  let length := Binary64.ofRatio (milliseconds < 0) milliseconds.natAbs 1000
  if length.isFinite then .ok length else .error .delayTooLong

end Delay

end Lamplighter
