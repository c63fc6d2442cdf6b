/-
Lamplighter.Catalogue — the levels of a game.

* `Catalogue` — levels in file order, no two with one id.
* `Catalogue.parse` — the levels of a JSON array; the first element that is no level, or repeats the
  id of an earlier one, decides the fault.
* `Catalogue.ofBytes` — the same from the bytes of a file.
* `get?`, `ids`, `nextId?` — a level by its id, the ids in ascending order, and the level that follows.
-/
import Lamplighter.Decoding.Models
import Lamplighter.Json.Reader
import Lamplighter.Text.Utf8

namespace Lamplighter

/-- Why there is no catalogue. -/
inductive CatalogueFault where
  | notFound (path : String)
  | undecodable (bytes : Text.Undecodable)
  | misread (text : List Char) (m : Json.Misread)
  | notArray
  | invalidLevel (index : Nat) (issues : List Issue)
  | duplicateId (id : Int) (index : Nat)
  deriving DecidableEq, Repr

/-- The text of a catalogue fault. The issues of an invalid level come on lines of their own after
it. -/
def CatalogueFault.message : CatalogueFault → String
  | notFound path => s!"Level catalogue not found at {path}"
  | undecodable bytes => bytes.message
  | misread text m => m.message text
  | notArray => "Level catalogue must be a JSON array of levels"
  | invalidLevel index _ => s!"Level at index {index} is invalid:"
  | duplicateId id index => s!"Duplicate level id {id} at index {index}"

/-- The levels of a game, in file order. -/
structure Catalogue where
  levels : List Level
  deriving DecidableEq, Repr, Inhabited

namespace Catalogue

/-- Levels from element `index` on; `seen` are the ids before it. -/
def parseFrom (index : Nat) (seen : List Int) : List Json → Except CatalogueFault (List Level)
  | [] => .ok []
  | j :: rest =>
    match Level.decode j with
    | .bad issues => .error (.invalidLevel index issues)
    | .good level =>
      if level.id ∈ seen then .error (.duplicateId level.id index)
      else (parseFrom (index + 1) (level.id :: seen) rest).map (level :: ·)

/-- The catalogue that a JSON value holds. -/
def parse : Json → Except CatalogueFault Catalogue
  | .arr items => (parseFrom 0 [] items).map Catalogue.mk
  | _ => .error .notArray

/-- The catalogue in the bytes of a file, if the file is there. -/
def ofBytes (path : String) : Option (List Nat) → Except CatalogueFault Catalogue
  | none => .error (.notFound path)
  | some bytes =>
    match Text.decode bytes with
    | .error u => .error (.undecodable u)
    | .ok text =>
      let text := Text.joinLines text
      match Json.read text with
      | .error m => .error (.misread text m)
      | .ok j => parse j

/-- The level of an id. -/
def get? (c : Catalogue) (id : Int) : Option Level := c.levels.find? (fun l => l.id = id)

/-- The number of levels. -/
def size (c : Catalogue) : Nat := c.levels.length

/-- Whether an id is that of a level. -/
def contains (c : Catalogue) (id : Int) : Bool := (c.get? id).isSome

/-- The ids in ascending order. -/
def ids (c : Catalogue) : List Int := (c.levels.map Level.id).mergeSort (fun a b => a ≤ b)

/-- The least id above `id`, whether or not `id` is that of a level. -/
def nextId? (c : Catalogue) (id : Int) : Option Int :=
  ((c.levels.map Level.id).filter (fun i => id < i)).min?

end Catalogue

end Lamplighter
