/-
Lamplighter.Number.Numeral — integers written in decimal.

* `natural?` — decimal digits; a single underscore may stand between two of them.
* `integer?` — the same after at most one sign.
* `anyInteger?` — the same between blanks, in the digits of any script.
* `excess?` — whether a numeral has more digits than are read.
* `isWritable` — whether an integer has few enough digits to be written into a message.
-/
import Lamplighter.Number.Binary64
import Lamplighter.Text.Blank

namespace Lamplighter

namespace Numeral

/-- The value of a decimal digit. -/
def digit? (c : Char) : Option Nat := if c.isDigit then some (c.toNat - '0'.toNat) else none

/-- The digits after the first, of which `n` is the value so far. -/
def more? (n : Nat) : List Char → Option Nat
  | [] => some n
  | '_' :: c :: rest =>
    match digit? c with
    | some d => more? (10 * n + d) rest
    | none => none
  | c :: rest =>
    match digit? c with
    | some d => more? (10 * n + d) rest
    | none => none

/-- The natural that a text denotes. -/
def natural? : List Char → Option Nat
  | [] => none
  | c :: rest =>
    match digit? c with
    | some d => more? d rest
    | none => none

/-- The integer that a text denotes. -/
def integer? : List Char → Option Int
  | '-' :: rest => (natural? rest).map (Binary64.signed true)
  | '+' :: rest => (natural? rest).map (Binary64.signed false)
  | cs => (natural? cs).map (Binary64.signed false)

/-! ## Digits of other scripts -/

/-- The zeros of the scripts beyond ASCII. The other nine digits of a script follow its zero. -/
def scriptZeros : List Nat :=
  [
    0x660, 0x6F0, 0x7C0, 0x966, 0x9E6, 0xA66, 0xAE6, 0xB66, 0xBE6, 0xC66, 0xCE6, 0xD66, 0xDE6,
    0xE50, 0xED0, 0xF20, 0x1040, 0x1090, 0x17E0, 0x1810, 0x1946, 0x19D0, 0x1A80, 0x1A90, 0x1B50,
    0x1BB0, 0x1C40, 0x1C50, 0xA620, 0xA8D0, 0xA900, 0xA9D0, 0xA9F0, 0xAA50, 0xABF0, 0xFF10,
    0x104A0, 0x10D30, 0x11066, 0x110F0, 0x11136, 0x111D0, 0x112F0, 0x11450, 0x114D0, 0x11650,
    0x116C0, 0x11730, 0x118E0, 0x11950, 0x11C50, 0x11D50, 0x11DA0, 0x16A60, 0x16AC0, 0x16B50,
    0x1D7CE, 0x1D7D8, 0x1D7E2, 0x1D7EC, 0x1D7F6, 0x1E140, 0x1E2F0, 0x1E950, 0x1FBF0
  ]

/-- A character in ASCII: a digit of any script as the digit it is, a blank as a space. -/
def plainChar (c : Char) : Char :=
  if c.toNat < 0x80 then c
  else if Text.isBlank c then ' '
  else
    match scriptZeros.find? (fun z => z ≤ c.toNat && c.toNat < z + 10) with
    | some z => Char.ofNat ('0'.toNat + (c.toNat - z))
    | none => c

/-- The integer that a text denotes between blanks, in the digits of any script. -/
def anyInteger? (cs : List Char) : Option Int :=
  integer? (Text.trim Text.isAsciiBlank (cs.map plainChar))

/-! ## Long numerals -/

/-- The most digits that are read as an integer. -/
def maxDigits : Nat := 4300

/-- Digits with single underscores between them, and nothing else. -/
def isSpaced : List Char → Bool
  | [] => false
  | [c] => c.isDigit
  | '_' :: _ => false
  | _ :: '_' :: rest => isSpaced rest
  | _ :: rest => isSpaced rest

/-- The number of digits, if there are more than are read. -/
def excessOf? (digits : Nat) : Option Nat := if maxDigits < digits then some digits else none

/-- The number of digits that a text starts with, after blanks and a sign, if there are more than are
read. What comes after the digits does not matter. -/
def excess? (cs : List Char) : Option Nat :=
  let cs := (cs.map plainChar).dropWhile Text.isAsciiBlank
  let unsigned := match cs with
    | '-' :: rest => rest
    | '+' :: rest => rest
    | _ => cs
  let run := unsigned.takeWhile (fun c => c.isDigit || c = '_')
  if isSpaced run then excessOf? (run.countP Char.isDigit) else none

/-- What is said of too many digits. -/
def limitText : String := s!"Exceeds the limit ({maxDigits} digits) for integer string conversion"

/-- What may be done about it. -/
def limitAdvice : String := "use sys.set_int_max_str_digits() to increase the limit"

/-- The text of the complaint about a numeral with too many digits. -/
def excessMessage (digits : Nat) : String :=
  s!"{limitText}: value has {digits} digits; {limitAdvice}"

/-! ## Long integers -/

/-- The least natural that has more digits than are written, in powers small enough to be evaluated at
once. -/
def limit : Nat := Nat.pow (Nat.pow (Nat.pow 10 43) 10) 10

theorem limit_eq_pow : limit = Nat.pow 10 maxDigits := by decide +kernel

/-- Whether an integer has no more digits than are written. -/
def isWritable (n : Int) : Bool := n.natAbs < limit

/-- The text of the complaint about an integer that would have to be written with too many digits. -/
def unwritableMessage : String := s!"{limitText}; {limitAdvice}"

end Numeral

end Lamplighter
