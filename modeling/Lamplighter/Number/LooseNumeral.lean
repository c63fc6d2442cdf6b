/-
Lamplighter.Number.LooseNumeral — integers in strings, read generously.

* `strict` — a minus sign or none, then digits without a leading zero.
* `tidy?` — the strict form of a looser one. Blanks at either end, a plus sign, leading zeros and a
  fraction of zeros are dropped, and so are underscores that stand singly between other characters.
  Among leading zeros any number of underscores may stand, and after them a minus sign.
* `read` — the integer of a string, as it stands or tidied up.

A numeral of more than `Numeral.maxDigits` digits is too long as it stands, whatever comes after its
digits. Where a numeral has to be tidied up first, too many digits only make it unreadable.
-/
import Lamplighter.Number.Numeral

namespace Lamplighter

namespace LooseNumeral

/-- Why a string is not read as an integer. -/
inductive Refusal where
  | unreadable
  | tooLong
  deriving DecidableEq, Repr

/-! ## The strict form -/

/-- The integer of a numeral in strict form. -/
def strict (cs : List Char) : Except Refusal Int :=
  let negative := cs.head? = some '-'
  let unsigned := if negative then cs.drop 1 else cs
  let digits := unsigned.takeWhile Char.isDigit
  if digits.head? = some '0' ∧ digits ≠ ['0'] then .error .unreadable
  else if Numeral.maxDigits < digits.length then .error .tooLong
  else if digits.length ≠ unsigned.length then .error .unreadable
  else
    match Numeral.natural? digits with
    | some n => .ok (Binary64.signed negative n)
    | none => .error .unreadable

/-! ## Tidying up -/

/-- What comes after leading zeros and the underscores among them; `last` is the last of those passed.
It is kept where nothing else, or nothing but a fraction, would be left. -/
def afterZeros? (last : Char) : List Char → Option (List Char)
  | [] => some [last]
  | c :: rest =>
    if c = '0' ∨ c = '_' then afterZeros? c rest
    else if c = '.' then some (last :: c :: rest)
    else if c = '-' ∨ c.isDigit then some (c :: rest)
    else none

/-- A text that starts with a digit, without its leading zeros. -/
def withoutZeros? : List Char → Option (List Char)
  | [] => none
  | c :: rest =>
    if c = '0' then afterZeros? c rest
    else if c.isDigit then some (c :: rest)
    else none

/-- A text without a fraction of zeros. -/
def withoutFraction (cs : List Char) : List Char :=
  match cs.dropWhile (· ≠ '.') with
  | _ :: '0' :: zeros => if zeros.all (· = '0') then cs.takeWhile (· ≠ '.') else cs
  | _ => cs

/-- Whether two underscores stand next to each other. -/
def isDoubled (cs : List Char) : Bool :=
  (cs.zip (cs.drop 1)).any (fun p => p.1 = '_' && p.2 = '_')

/-- A text without its underscores, if each of them stands between two other characters. -/
def withoutUnderscores? (cs : List Char) : Option (List Char) :=
  if cs.head? = some '_' ∨ cs.getLast? = some '_' ∨ isDoubled cs then none
  else some (cs.filter (· ≠ '_'))

/-- The strict form of what follows a sign. -/
def tidyUnsigned? (cs : List Char) : Option (List Char) :=
  (withoutZeros? cs).bind (fun cs => withoutUnderscores? (withoutFraction cs))

/-- The strict form of a numeral, if it can be tidied up. What this gives need not be an integer. -/
def tidy? (cs : List Char) : Option (List Char) :=
  match Text.trim Text.isBlank cs with
  | '+' :: '-' :: _ => none
  | '+' :: rest => tidyUnsigned? rest
  | '-' :: rest => (tidyUnsigned? rest).map ('-' :: ·)
  | cs => tidyUnsigned? cs

/-- The integer of a string in a looser form. -/
def readTidied (cs : List Char) : Except Refusal Int :=
  match (tidy? cs).map strict with
  | some (.ok n) => .ok n
  | _ => .error .unreadable

/-- The integer of a string. -/
def read (cs : List Char) : Except Refusal Int :=
  match strict cs with
  | .error .unreadable => readTidied cs
  | answer => answer

example : (read " +1_000.00 ".toList).toOption = some 1000 := by decide +kernel

example : (read "0__0-5".toList).toOption = some (-5) := by decide +kernel

end LooseNumeral

end Lamplighter
