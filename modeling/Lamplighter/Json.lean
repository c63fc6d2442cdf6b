/-
Lamplighter.Json — JSON values.

* `Json` — a value. Integers are exact and of any size; a number written with a fraction or an
  exponent is a `real`, which may also be infinite or not a number. A string in which half of a
  character stands on its own is `broken`: it is no text, only a label.
* `Json.put` — add a member to an object. A name that is there already keeps its place and takes the
  new value, so an object names each member once.
* `Json.member?` — look a member up.
-/
import Lamplighter.Number.Binary64
import Lamplighter.Text.Label

namespace Lamplighter

/-- A JSON value. -/
inductive Json where
  | null
  | bool (value : Bool)
  | int (value : Int)
  | real (value : Binary64)
  | str (value : String)
  | broken (value : Label)
  | arr (items : List Json)
  | obj (members : List (String × Json))
  deriving Inhabited

namespace Json

/-- The members of an object, with one more. -/
def put (name : String) (value : Json) : List (String × Json) → List (String × Json)
  | [] => [(name, value)]
  | (k, v) :: rest => if k = name then (k, value) :: rest else (k, v) :: put name value rest

/-- The value of a member. -/
def member? (members : List (String × Json)) (name : String) : Option Json :=
  (members.find? (fun m => m.1 = name)).map Prod.snd

/-- A text, or null. -/
def ofString? : Option String → Json
  | some s => str s
  | none => null

/-- A label, as a text if it is one. -/
def ofLabel (label : Label) : Json :=
  match label.whole? with
  | some s => str s
  | none => broken label

/-- A label, or null. -/
def ofLabel? : Option Label → Json
  | some label => ofLabel label
  | none => null

/-- An integer, or null. -/
def ofInt? : Option Int → Json
  | some n => int n
  | none => null

/-- A truth value, or null. -/
def ofBool? : Option Bool → Json
  | some b => bool b
  | none => null

end Json

end Lamplighter
