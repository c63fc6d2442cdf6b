/-
Lamplighter.Json.Reader — JSON values read from text.

* `Complaint` — what can be wrong with a text, and `Misread`, where it is.
* `Json.read` — the value of a text. Blanks are the space, the tab and the two line breaks; numbers may
  also be `NaN`, `Infinity` and `-Infinity`; of members with one name the last decides. Arrays and
  objects may be nested `maxDepth` deep.

The reader stands at a `Cursor`: what is left of the text, and how many characters came before. Each
value, item or member takes at least one character, so the length of the text bounds the steps.
-/
import Lamplighter.Json
import Lamplighter.Number.Numeral

namespace Lamplighter

namespace Json

/-! ## Complaints -/

/-- What can be wrong with a text. -/
inductive Complaint where
  | byteOrderMark
  | value
  | comma
  | name
  | colon
  | unterminated
  | controlCharacter
  | badEscape
  | badCodeEscape
  | extraData
  | longInteger (digits : Nat)
  | deepArray
  | deepObject
  deriving DecidableEq, Repr

/-- What is said of a value that is nested too deep. -/
def nestingText (kind : String) : String :=
  s!"maximum recursion depth exceeded while decoding a JSON {kind} from a unicode string"

/-- The text of a complaint. -/
def Complaint.message : Complaint → String
  | byteOrderMark => "Unexpected UTF-8 BOM (decode using utf-8-sig)"
  | value => "Expecting value"
  | comma => "Expecting ',' delimiter"
  | name => "Expecting property name enclosed in double quotes"
  | colon => "Expecting ':' delimiter"
  | unterminated => "Unterminated string starting at"
  | controlCharacter => "Invalid control character at"
  | badEscape => "Invalid \\escape"
  | badCodeEscape => "Invalid \\uXXXX escape"
  | extraData => "Extra data"
  | longInteger digits => Numeral.excessMessage digits
  | deepArray => nestingText "array"
  | deepObject => nestingText "object"

/-- Whether a complaint tells its place. -/
def Complaint.isPlaced : Complaint → Bool
  | longInteger _ | deepArray | deepObject => false
  | _ => true

/-- A complaint about the character at an offset. -/
structure Misread where
  complaint : Complaint
  offset : Nat
  deriving DecidableEq, Repr

namespace Misread

/-- The line of an offset in a text, counted from one. -/
def line (text : List Char) (offset : Nat) : Nat := (text.take offset).count '\n' + 1

/-- The column of an offset in a text, counted from one. -/
def column (text : List Char) (offset : Nat) : Nat :=
  ((text.take offset).reverse.takeWhile (· ≠ '\n')).length + 1

/-- A complaint, with the place it is about if it tells it. -/
def message (m : Misread) (text : List Char) : String :=
  if m.complaint.isPlaced then
    s!"{m.complaint.message}: line {line text m.offset} " ++
      s!"column {column text m.offset} (char {m.offset})"
  else m.complaint.message

end Misread

/-! ## Scanning -/

/-- A place in a text. -/
structure Cursor where
  rest : List Char
  offset : Nat
  deriving Repr

/-- Something read, and where reading goes on. -/
abbrev Scan (α : Type) := Except Misread (α × Cursor)

namespace Cursor

/-- Complain about a place. -/
def complain {α : Type} (c : Cursor) (complaint : Complaint) : Scan α := .error ⟨complaint, c.offset⟩

/-- The place `n` characters on. -/
def skip (c : Cursor) (n : Nat) : Cursor := ⟨c.rest.drop n, c.offset + n⟩

/-- The blanks between the parts of a text. -/
def isBlank (c : Char) : Bool := c = ' ' || c = '\t' || c = '\n' || c = '\r'

/-- The next place that is not blank. -/
def skipBlanks (c : Cursor) : Cursor := c.skip (c.rest.takeWhile isBlank).length

/-- The place after a word, if the word is next. -/
def word? (c : Cursor) (w : String) : Option Cursor :=
  if w.toList.isPrefixOf c.rest then some (c.skip w.length) else none

/-- The digits that come next, and the place after them. -/
def digits (c : Cursor) : List Char × Cursor :=
  let ds := c.rest.takeWhile Char.isDigit
  (ds, c.skip ds.length)

end Cursor

/-- The natural that a list of decimal digits denotes. -/
def ofDigits (ds : List Char) : Nat := ds.foldl (fun n d => 10 * n + (d.toNat - '0'.toNat)) 0

/-- A digit in base 16. -/
def hexValue? (c : Char) : Option Nat :=
  if c.isDigit then some (c.toNat - '0'.toNat)
  else if 'a' ≤ c ∧ c ≤ 'f' then some (c.toNat - 'a'.toNat + 10)
  else if 'A' ≤ c ∧ c ≤ 'F' then some (c.toNat - 'A'.toNat + 10)
  else none

/-- Four digits in base 16. -/
def hexCode? : List Char → Option Nat
  | [a, b, c, d] => do
    let a ← hexValue? a
    let b ← hexValue? b
    let c ← hexValue? c
    let d ← hexValue? d
    return ((a * 16 + b) * 16 + c) * 16 + d
  | _ => none

/-! ## Strings -/

/-- The character of an escape of one letter. -/
def escapeLetter? : Char → Option Char
  | '"' => some '"'
  | '\\' => some '\\'
  | '/' => some '/'
  | 'b' => some '\x08'
  | 'f' => some '\x0c'
  | 'n' => some '\n'
  | 'r' => some '\r'
  | 't' => some '\t'
  | _ => none

/-- The second half of a character beyond the first 65536, when it follows the place `c`: its code,
or a complaint if four digits should follow and do not. -/
def lowHalf (c : Cursor) : Except Misread (Option Nat) :=
  match c.rest with
  | '\\' :: 'u' :: rest =>
    if (rest.drop 4).isEmpty then .ok none
    else
      match hexCode? (rest.take 4) with
      | none => .error ⟨.badCodeEscape, c.offset + 1⟩
      | some low => .ok (if Label.isLowHalf low then some low else none)
  | _ => .ok none

/-- The code that comes after `\u`, joined with that of a second half if one follows. `c` is the place
of the letter `u`. -/
def codeEscape (c : Cursor) : Scan Nat :=
  let after := c.skip 5
  if (c.rest.drop 5).isEmpty then c.complain .badCodeEscape
  else
    match hexCode? ((c.rest.drop 1).take 4) with
    | none => c.complain .badCodeEscape
    | some code =>
      if Label.isHighHalf code then
        match lowHalf after with
        | .error m => .error m
        | .ok (some low) => .ok (Label.join code low, after.skip 6)
        | .ok none => .ok (code, after)
      else .ok (code, after)

/-- The rest of a string, up to its closing quote. `start` is the offset of the opening quote, `done`
holds the codes so far, last first. -/
def readString (start : Nat) (done : List Nat) : Nat → Cursor → Scan Label
  | 0, _ => .error ⟨.unterminated, start⟩
  | fuel + 1, c =>
    match c.rest with
    | [] => .error ⟨.unterminated, start⟩
    | '"' :: _ => .ok (⟨done.reverse⟩, c.skip 1)
    | '\\' :: [] => .error ⟨.unterminated, start⟩
    | '\\' :: 'u' :: _ =>
      match codeEscape (c.skip 1) with
      | .error m => .error m
      | .ok (code, c) => readString start (code :: done) fuel c
    | '\\' :: e :: _ =>
      match escapeLetter? e with
      | none => c.complain .badEscape
      | some d => readString start (d.toNat :: done) fuel (c.skip 2)
    | d :: _ =>
      if d.toNat < 32 then c.complain .controlCharacter
      else readString start (d.toNat :: done) fuel (c.skip 1)

/-- A string, whose opening quote is at `c`. The fuel has to be no less than what is left of the
text. -/
def scanString (fuel : Nat) (c : Cursor) : Scan Label := readString c.offset [] fuel (c.skip 1)

/-! ## Numbers -/

/-- The exponent of a numeral: a letter, perhaps a sign, and digits. Without digits there is none. -/
def scanExponent (c : Cursor) : Option (Int × Cursor) :=
  let read (negative : Bool) (c : Cursor) :=
    match c.digits with
    | ([], _) => none
    | (ds, c) => some (Binary64.signed negative (ofDigits ds), c)
  match c.rest with
  | e :: sign :: _ =>
    if e = 'e' ∨ e = 'E' then
      if sign = '-' then read true (c.skip 2)
      else if sign = '+' then read false (c.skip 2)
      else read false (c.skip 1)
    else none
  | _ => none

/-- The fraction of a numeral: a point and digits. Without digits there is none. -/
def scanFraction (c : Cursor) : Option (List Char × Cursor) :=
  match c.rest with
  | '.' :: _ =>
    match (c.skip 1).digits with
    | ([], _) => none
    | (ds, c) => some (ds, c)
  | _ => none

/-- The part of a numeral before its point: a lone zero, or digits that start with another one. -/
def scanWhole (c : Cursor) : Option (List Char × Cursor) :=
  match c.rest with
  | '0' :: _ => some (['0'], c.skip 1)
  | _ =>
    match c.digits with
    | ([], _) => none
    | (ds, c) => some (ds, c)

/-- A number. Without fraction and exponent it is an integer. -/
def scanNumber (start : Cursor) : Scan Json :=
  let negative := start.rest.head? = some '-'
  match scanWhole (if negative then start.skip 1 else start) with
  | none => start.complain .value
  | some (whole, c) =>
    let (fraction, c') := (scanFraction c).getD ([], c)
    let exponent := scanExponent c'
    if fraction = [] ∧ exponent.isNone then
      match Numeral.excessOf? whole.length with
      | some digits => start.complain (.longInteger digits)
      | none => .ok (int (Binary64.signed negative (ofDigits whole)), c)
    else
      let (power, c'') := exponent.getD (0, c')
      .ok (real (Binary64.ofDecimal negative (ofDigits (whole ++ fraction))
        (power - fraction.length)), c'')

/-- The values that are written as one word. -/
def scanWord (c : Cursor) : Option (Json × Cursor) :=
  ((c.word? "null").map (null, ·))
    <|> ((c.word? "true").map (bool true, ·))
    <|> ((c.word? "false").map (bool false, ·))
    <|> ((c.word? "NaN").map (real .nan, ·))
    <|> ((c.word? "Infinity").map (real (.infinite false), ·))
    <|> ((c.word? "-Infinity").map (real (.infinite true), ·))

/-! ## Values -/

/-- How deep arrays and objects may be nested. -/
def maxDepth : Nat := 990

mutual

/-- A value that starts at `c`, in which arrays and objects may be nested `room` deep. -/
def scanValue : Nat → Nat → Cursor → Scan Json
  | 0, _, c => c.complain .value
  | fuel + 1, room, c =>
    match c.rest with
    | '"' :: _ => (scanString fuel c).map (fun (label, c) => (ofLabel label, c))
    | '[' :: _ =>
      if room = 0 then c.complain .deepArray
      else
        let c := (c.skip 1).skipBlanks
        if c.rest.head? = some ']' then .ok (arr [], c.skip 1)
        else scanItems fuel (room - 1) [] c
    | '\x7b' :: _ =>
      if room = 0 then c.complain .deepObject
      else
        let c := (c.skip 1).skipBlanks
        if c.rest.head? = some '\x7d' then .ok (obj [], c.skip 1)
        else scanMembers fuel (room - 1) [] c
    | _ =>
      match scanWord c with
      | some found => .ok found
      | none => scanNumber c

/-- The items of an array from `c` on; `done` holds those before, last first. -/
def scanItems : Nat → Nat → List Json → Cursor → Scan Json
  | 0, _, _, c => c.complain .value
  | fuel + 1, room, done, c =>
    match scanValue fuel room c with
    | .error m => .error m
    | .ok (item, c) =>
      let c := c.skipBlanks
      match c.rest with
      | ']' :: _ => .ok (arr (item :: done).reverse, c.skip 1)
      | ',' :: _ => scanItems fuel room (item :: done) (c.skip 1).skipBlanks
      | _ => c.complain .comma

/-- The members of an object from `c` on; `done` holds those before. -/
def scanMembers : Nat → Nat → List (String × Json) → Cursor → Scan Json
  | 0, _, _, c => c.complain .name
  | fuel + 1, room, done, c =>
    if c.rest.head? ≠ some '"' then c.complain .name
    else
      match scanString fuel c with
      | .error m => .error m
      | .ok (name, c) =>
        let c := c.skipBlanks
        if c.rest.head? ≠ some ':' then c.complain .colon
        else
          match scanValue fuel room (c.skip 1).skipBlanks with
          | .error m => .error m
          | .ok (value, c) =>
            let done := put name.text value done
            let c := c.skipBlanks
            match c.rest with
            | '\x7d' :: _ => .ok (obj done, c.skip 1)
            | ',' :: _ => scanMembers fuel room done (c.skip 1).skipBlanks
            | _ => c.complain .comma

end

/-- The value that a text holds, with nothing but blanks around it. -/
def read (text : List Char) : Except Misread Json :=
  if text.head? = some '\ufeff' then .error ⟨.byteOrderMark, 0⟩
  else
    match scanValue (2 * text.length + 2) maxDepth (Cursor.skipBlanks ⟨text, 0⟩) with
    | .error m => .error m
    | .ok (value, c) =>
      let c := c.skipBlanks
      if c.rest.isEmpty then .ok value else .error ⟨.extraData, c.offset⟩

end Json

end Lamplighter
