/-
Lamplighter.Text.Quoted — a text in quotes, as error texts show it.

* `delimiter` — single quotes, unless the text holds single quotes and no double ones.
* `quoted` — the text between its delimiters. The delimiter and backslashes get a backslash, the common
  control characters a letter, and other characters that cannot be shown their code in base 16.
-/
import Lamplighter.Text.Printable

namespace Lamplighter

namespace Text

/-- A number as `width` digits in base 16. -/
def hexDigits : (width : Nat) → Nat → List Char
  | 0, _ => []
  | width + 1, n => hexDigits width (n / 16) ++ [Nat.digitChar (n % 16)]

/-- The code of a character, in as many digits as it needs. -/
def codeEscape (c : Char) : List Char :=
  if c.toNat < 0x100 then '\\' :: 'x' :: hexDigits 2 c.toNat
  else if c.toNat < 0x10000 then '\\' :: 'u' :: hexDigits 4 c.toNat
  else '\\' :: 'U' :: hexDigits 8 c.toNat

/-- One character between delimiters. -/
def quotedChar (delimiter c : Char) : List Char :=
  if c = delimiter ∨ c = '\\' then ['\\', c]
  else if c = '\n' then ['\\', 'n']
  else if c = '\r' then ['\\', 'r']
  else if c = '\t' then ['\\', 't']
  else if isPrintable c then [c]
  else codeEscape c

/-- The quotes around a text. -/
def delimiter (cs : List Char) : Char := if '\'' ∈ cs ∧ '"' ∉ cs then '"' else '\''

/-- A text between its delimiters. -/
def quoted (s : String) : String :=
  let d := delimiter s.toList
  String.ofList (d :: s.toList.flatMap (quotedChar d) ++ [d])

end Text

end Lamplighter
