/-
Lamplighter.Number.IntegerText — integers that someone sets from outside.

* `NotAnInteger` — why a text, or what stands in its place, is no integer.
* `IntegerText.read` — the integer of a text: a numeral between blanks, in the digits of any script.
-/
import Lamplighter.Number.Numeral
import Lamplighter.Text.Quoted

namespace Lamplighter

/-- Why there is no integer where one should be. -/
inductive NotAnInteger where
  | unreadable (text : String)
  | tooLong (digits : Nat)
  | infinite
  | notANumber
  | otherKind (kind : String)
  deriving DecidableEq, Repr

/-- What is said where there is no integer. Of a long text only the start is shown. -/
def NotAnInteger.message : NotAnInteger → String
  | unreadable text =>
    "invalid literal for int() with base 10: " ++
      String.ofList ((Text.quoted text).toList.take 200)
  | tooLong digits => Numeral.excessMessage digits
  | infinite => "cannot convert float infinity to integer"
  | notANumber => "cannot convert float NaN to integer"
  | otherKind kind =>
    s!"int() argument must be a string, a bytes-like object or a real number, not '{kind}'"

/-- The integer of a text. -/
def IntegerText.read (text : String) : Except NotAnInteger Int :=
  match Numeral.excess? text.toList, Numeral.anyInteger? text.toList with
  | some digits, _ => .error (.tooLong digits)
  | none, some n => .ok n
  | none, none => .error (.unreadable text)

end Lamplighter
