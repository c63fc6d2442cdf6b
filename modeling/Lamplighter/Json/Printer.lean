/-
Lamplighter.Json.Printer — JSON values as text, on one line.

Strings are written in ASCII: quotes and backslashes get a backslash, and every character that is not
a visible ASCII character or a space its code, a character beyond the first 65536 in two halves. Half of
a character on its own is written as its code. A real is written with all the digits of its exact value,
so that reading it back gives the same number.
-/
import Lamplighter.Json

namespace Lamplighter

namespace Json

/-- A digit in base 16. -/
def hexDigit (n : Nat) : Char := Nat.digitChar (n % 16)

/-- An escape for a code below 65536. -/
def codeUnit (n : Nat) : List Char :=
  ['\\', 'u', hexDigit (n / 4096), hexDigit (n / 256), hexDigit (n / 16), hexDigit n]

/-- The character of a code, inside a quoted string. -/
def quoteCode (code : Nat) : List Char :=
  if code = '"'.toNat then ['\\', '"']
  else if code = '\\'.toNat then ['\\', '\\']
  else if 32 ≤ code ∧ code < 127 then [Char.ofNat code]
  else if code < 0x10000 then codeUnit code
  else
    codeUnit (0xD800 + (code - 0x10000) / 0x400) ++ codeUnit (0xDC00 + (code - 0x10000) % 0x400)

/-- A quoted label. -/
def quoteLabel (label : Label) : String :=
  "\"" ++ String.ofList (label.codes.flatMap quoteCode) ++ "\""

/-- A quoted string. -/
def quote (s : String) : String := quoteLabel (.ofString s)

/-- A real number. -/
def realText : Binary64 → String
  | .finite negative m e =>
    let sign := if negative then "-" else ""
    if 0 ≤ e then s!"{sign}{m * Nat.pow 2 e.toNat}.0"
    else s!"{sign}{m * Nat.pow 5 (-e).toNat}e{e}"
  | .infinite negative => if negative then "-Infinity" else "Infinity"
  | .nan => "NaN"

mutual

/-- The pieces of a value's text. -/
def pieces : Json → List String
  | null => ["null"]
  | bool true => ["true"]
  | bool false => ["false"]
  | int n => [s!"{n}"]
  | real x => [realText x]
  | str s => [quote s]
  | broken label => [quoteLabel label]
  | arr items => "[" :: itemPieces items
  | obj members => "\x7b" :: memberPieces members
termination_by structural j => j

/-- The pieces of the items of an array, with commas between them, and of its end. -/
def itemPieces : List Json → List String
  | [] => ["]"]
  | [j] => pieces j ++ ["]"]
  | j :: rest => pieces j ++ "," :: itemPieces rest
termination_by structural js => js

/-- The pieces of the members of an object, with commas between them, and of its end. -/
def memberPieces : List (String × Json) → List String
  | [] => ["\x7d"]
  | [(k, j)] => quote k :: ":" :: (pieces j ++ ["\x7d"])
  | (k, j) :: rest => quote k :: ":" :: (pieces j ++ "," :: memberPieces rest)
termination_by structural ms => ms

end

/-- A value as text. -/
def print (j : Json) : String := String.join (pieces j)

end Json

end Lamplighter
