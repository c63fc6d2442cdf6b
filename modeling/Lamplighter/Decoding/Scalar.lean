/-
Lamplighter.Decoding.Scalar — texts, labels, integers, truth values and names, decoded from JSON.

Integers are also taken from whole reals of 64 bits, from truth values and from numerals in strings;
truth values also from 0 and 1 and from the usual words in any letter case. Names are case sensitive.
A broken string is a label, and is complained about as such wherever another kind of string would do.
-/
import Lamplighter.Decoding.Issue
import Lamplighter.Json
import Lamplighter.Number.LooseNumeral

namespace Lamplighter

namespace Decode

/-- A text of whole characters. The texts of blocks and events are taken to be such; a label may have lone halves. -/
def string : Json → Checked String
  | .str s => .good s
  | .broken _ => .wrong .brokenString
  | _ => .wrong .notString

/-- A label. -/
def label : Json → Checked Label
  | .str s => .good (.ofString s)
  | .broken l => .good l
  | _ => .wrong .notString

/-- The first natural beyond the 64-bit integers with a sign. -/
def wordBound : Nat := 9223372036854775808

/-- The integer that a real is equal to. It has to lie well inside the 64-bit range. -/
def wholeReal (x : Binary64) : Checked Int :=
  match x.toInt? with
  | some n => if n.natAbs < wordBound then .good n else .wrong .tooLarge
  | none => .wrong (if x.isFinite then .fractional else .notFinite)

/-- The integer that a string spells. -/
def spelledInteger (s : String) : Checked Int :=
  match LooseNumeral.read s.toList with
  | .ok n => .good n
  | .error .unreadable => .wrong .unreadableInteger
  | .error .tooLong => .wrong .tooLarge

/-- An integer in any of its forms. -/
def anyInteger : Json → Checked Int
  | .int n => .good n
  | .bool b => .good (if b then 1 else 0)
  | .real x => wholeReal x
  | .str s => spelledInteger s
  | .broken _ => .wrong .brokenString
  | _ => .wrong .notInteger

/-- An integer with few enough digits to be written. -/
def integer (j : Json) : Checked Int :=
  (anyInteger j).andThen (fun n => if Numeral.isWritable n then .good n else .wrong .tooLarge)

/-- An integer that is not below a bound. -/
def integerFrom (bound : Int) (j : Json) : Checked Int :=
  (integer j).andThen (fun n => if n < bound then .wrong (.below bound) else .good n)

/-- The words for true and false. -/
def wordBool? (s : String) : Option Bool :=
  if s ∈ ["1", "on", "t", "true", "y", "yes"] then some true
  else if s ∈ ["0", "off", "f", "false", "n", "no"] then some false
  else none

/-- The truth value that an integer stands for. -/
def bitBool (n : Int) : Checked Bool :=
  if n = 0 then .good false else if n = 1 then .good true else .wrong .unreadableBool

/-- A truth value. Numbers beyond the 64-bit range are not looked at. -/
def boolean : Json → Checked Bool
  | .bool b => .good b
  | .int n => if -(wordBound : Int) ≤ n ∧ n < wordBound then bitBool n else .wrong .notBool
  | .real x =>
    match wholeReal x with
    | .good n => bitBool n
    | .bad _ => .wrong .notBool
  | .str s =>
    match wordBool? s.toLower with
    | some b => .good b
    | none => .wrong .unreadableBool
  | .broken _ => .wrong .brokenString
  | _ => .wrong .notBool

/-- One of a list of named values. -/
def oneOf {α : Type} (all : List α) (name : α → String) : Json → Checked α
  | .str s =>
    match all.find? (fun a => name a == s) with
    | some a => .good a
    | none => .wrong (.notOneOf (all.map name))
  | .broken _ => .wrong .brokenString
  | _ => .wrong (.notOneOf (all.map name))

/-- A value that may be null. -/
def nullable {α : Type} (read : Json → Checked α) : Json → Checked (Option α)
  | .null => .good none
  | j => (read j).map some

/-- Items, each decoded; `i` is the index of the first. -/
def items {α : Type} (read : Json → Checked α) (i : Nat) : List Json → Checked (List α)
  | [] => .good []
  | j :: rest => (((read j).within (.index i)).map List.cons).ap (items read (i + 1) rest)

/-- A list. -/
def list {α : Type} (read : Json → Checked α) : Json → Checked (List α)
  | .arr js => items read 0 js
  | _ => .wrong .notList

/-- A list that stands for a tuple. -/
def tuple {α : Type} (read : Json → Checked α) : Json → Checked (List α)
  | .arr js => items read 0 js
  | _ => .wrong .notTuple

/-- The members of an object, each decoded under its name. -/
def entries {α : Type} (read : Json → Checked α) : List (String × Json) → Checked (List (String × α))
  | [] => .good []
  | (k, j) :: rest =>
    (((read j).within (.key k)).map (fun a rest => (k, a) :: rest)).ap (entries read rest)

/-- An object as a dictionary. -/
def dictionary {α : Type} (read : Json → Checked α) : Json → Checked (List (String × α))
  | .obj members => entries read members
  | _ => .wrong .notDictionary

/-! ## Fields -/

/-- A field of a model: its name, and the other spelling that level files use for it, if any. -/
structure Field where
  name : String
  spelling : Option String := none
  deriving DecidableEq, Repr

namespace Field

/-- The spelling under which a missing field is reported. -/
def label (f : Field) : String := f.spelling.getD f.name

/-- The member of an object that holds a field, with the name it has there. The other spelling is
looked for first. -/
def find? (f : Field) (members : List (String × Json)) : Option (String × Json) :=
  match (Json.member? members f.label).map (fun j => (f.label, j)) with
  | some found => some found
  | none => (Json.member? members f.name).map (fun j => (f.name, j))

end Field

/-- A field that has to be there. -/
def required {α : Type} (f : Field) (read : Json → Checked α) (members : List (String × Json)) :
    Checked α :=
  match f.find? members with
  | some (k, j) => (read j).within (.key k)
  | none => .bad [⟨[.key f.label], .missing⟩]

/-- A field that may be left out. -/
def optional {α : Type} (f : Field) (default : α) (read : Json → Checked α)
    (members : List (String × Json)) : Checked α :=
  match f.find? members with
  | some (k, j) => (read j).within (.key k)
  | none => .good default

/-- A field that may be left out or null. -/
def maybe {α : Type} (f : Field) (read : Json → Checked α) (members : List (String × Json)) :
    Checked (Option α) :=
  optional f none (nullable read) members

/-- The members of an object that is to be a model of some name. -/
def model {α : Type} (name : String) (read : List (String × Json) → Checked α) : Json → Checked α
  | .obj members => read members
  | _ => .wrong (.notModel name)

end Decode

end Lamplighter
