/-
Lamplighter.Decoding.Issue — what can be wrong with a value, and where.

* `Problem` — what is wrong with one value, with a code and a text.
* `Issue` — a problem at a location inside the value that is decoded.
* `Checked` — a decoded value, or every issue found. `Checked.ap` decodes a structure field by field
  and keeps the issues of all fields, in the order of the fields.
* `Invalid` — the issues of a value that was to be a model of some name.
-/
import Lamplighter.Level

namespace Lamplighter

/-! ## Problems and issues -/

/-- What can be wrong with one value. -/
inductive Problem where
  | missing
  | notModel (name : String)
  | notList
  | notTuple
  | notDictionary
  | notString
  | brokenString
  | notOneOf (names : List String)
  | notInteger
  | fractional
  | unreadableInteger
  | tooLarge
  | notFinite
  | below (bound : Int)
  | unreadableBool
  | notBool
  | nestedTooDeep
  | layout (fault : LayoutFault)
  deriving DecidableEq, Repr

namespace Problem

/-- Names in quotes, with commas between them and `or` before the last. -/
def alternatives : List String → String
  | [] => ""
  | [a] => s!"'{a}'"
  | [a, b] => s!"'{a}' or '{b}'"
  | a :: rest => s!"'{a}', " ++ alternatives rest

/-- The code of a problem. -/
def code : Problem → String
  | missing => "missing"
  | notModel _ => "model_type"
  | notList => "list_type"
  | notTuple => "tuple_type"
  | notDictionary => "dict_type"
  | notString => "string_type"
  | brokenString => "string_unicode"
  | notOneOf _ => "enum"
  | notInteger => "int_type"
  | fractional => "int_from_float"
  | unreadableInteger => "int_parsing"
  | tooLarge => "int_parsing_size"
  | notFinite => "finite_number"
  | below _ => "greater_than_equal"
  | unreadableBool => "bool_parsing"
  | notBool => "bool_type"
  | nestedTooDeep => "recursion_depth_exceeded"
  | layout _ => "value_error"

/-- The text of a problem. -/
def message : Problem → String
  | missing => "Field required"
  | notModel name => s!"Input should be a valid dictionary or instance of {name}"
  | notList => "Input should be a valid list"
  | notTuple => "Input should be a valid tuple"
  | notDictionary => "Input should be a valid dictionary"
  | notString => "Input should be a valid string"
  | brokenString => "Input should be a valid string, unable to parse raw data as a unicode string"
  | notOneOf names => s!"Input should be {alternatives names}"
  | notInteger => "Input should be a valid integer"
  | fractional => "Input should be a valid integer, got a number with a fractional part"
  | unreadableInteger => "Input should be a valid integer, unable to parse string as an integer"
  | tooLarge => "Unable to parse input string as an integer, exceeded maximum size"
  | notFinite => "Input should be a finite number"
  | below bound => s!"Input should be greater than or equal to {bound}"
  | unreadableBool => "Input should be a valid boolean, unable to interpret input"
  | notBool => "Input should be a valid boolean"
  | nestedTooDeep => "Recursion error - maximum validation depth exceeded"
  | layout fault => s!"Value error, {fault.message}"

end Problem

/-- One step from a value into a part of it. A `choice` names one of several readings of a value. -/
inductive Place where
  | key (name : String)
  | index (i : Nat)
  | choice (name : String)
  deriving DecidableEq, Repr

/-- A problem and the way to the value that has it. -/
structure Issue where
  location : List Place
  problem : Problem
  deriving DecidableEq, Repr

/-- Issues of a part of a value, as issues of the value. -/
def Issue.under (place : Place) (issues : List Issue) : List Issue :=
  issues.map (fun i => { i with location := place :: i.location })

/-- The issues of a value that was to be a model of some name. -/
structure Invalid where
  model : String
  issues : List Issue
  deriving DecidableEq, Repr

/-! ## Checked values -/

/-- A decoded value, or the issues that were found. -/
inductive Checked (α : Type) where
  | good (value : α)
  | bad (issues : List Issue)
  deriving Repr

namespace Checked

variable {α β : Type}

/-- A problem with the value itself. -/
def wrong (p : Problem) : Checked α := bad [⟨[], p⟩]

/-- Apply a function to a decoded value. -/
def map (f : α → β) : Checked α → Checked β
  | good a => good (f a)
  | bad issues => bad issues

/-- Give a function one more decoded argument. The issues of both sides are kept, in order. -/
def ap : Checked (α → β) → Checked α → Checked β
  | good f, good a => good (f a)
  | good _, bad issues => bad issues
  | bad issues, good _ => bad issues
  | bad issues, bad more => bad (issues ++ more)

/-- Check a decoded value further. -/
def andThen (a : Checked α) (f : α → Checked β) : Checked β :=
  match a with
  | good a => f a
  | bad issues => bad issues

/-- A part of a value, decoded; its issues are located in the value. -/
def within (place : Place) : Checked α → Checked α
  | good a => good a
  | bad issues => bad (Issue.under place issues)

/-- A model of a name, or its issues. -/
def toExcept (model : String) : Checked α → Except Invalid α
  | good a => .ok a
  | bad issues => .error ⟨model, issues⟩

end Checked

end Lamplighter
