/-
Lamplighter.Level — puzzles as their authors write them.

* `Position`, `Pose` — a cell, and a robot standing on one with a heading.
* `Tile` — one cell of a layout: its kind, height, colour, and the ids by which switches, doors,
  cracked tiles and teleports refer to each other.
* `Level` — a puzzle: a square grid of side `size`, its tiles, start pose and goals.
* `Level.layoutFault?` — the first fault of a layout, in reading order; `Level.WellFormed` says
  what a layout without fault looks like.
-/
import Lamplighter.Direction
import Lamplighter.Number.Numeral
import Lamplighter.Program
import Lamplighter.Text.Label

namespace Lamplighter

/-! ## Cells and poses -/

/-- A cell of the grid. `y` grows southward. -/
structure Position where
  x : Int
  y : Int
  deriving DecidableEq, Repr, Inhabited

namespace Position

/-- The neighbouring cell in a direction. -/
def ahead (p : Position) (d : Direction) : Position :=
  ⟨p.x + d.delta.1, p.y + d.delta.2⟩

/-- A cell as log lines and error texts show it: `(2, 0)`. -/
def text (p : Position) : String := s!"({p.x}, {p.y})"

/-- Whether both coordinates have few enough digits to be written. -/
def isWritable (p : Position) : Bool := Numeral.isWritable p.x && Numeral.isWritable p.y

end Position

/-- A cell and a heading: where a robot stands and which way it faces. -/
structure Pose where
  position : Position
  heading : Direction
  deriving DecidableEq, Repr, Inhabited

/-! ## Tiles -/

/-- The static kinds of tile. -/
inductive TileKind where
  | ground
  | void
  | switch
  | door
  | teleport
  | cracked
  deriving DecidableEq, Repr, Inhabited

namespace TileKind

/-- The name of a kind in level files. -/
def name : TileKind → String
  | ground => "ground"
  | void => "void"
  | switch => "switch"
  | door => "door"
  | teleport => "teleport"
  | cracked => "cracked"

/-- The kinds in the order in which they are listed to the reader of an error. -/
def all : List TileKind := [ground, void, switch, door, teleport, cracked]

end TileKind

/-- One cell of a layout. `target` is the id of the door or cracked tile that a switch works, or of
the tile that a teleport leads to; `state` is what the tile's id starts with. -/
structure Tile where
  position : Position
  kind : TileKind := .ground
  height : Int := 0
  color : Option Label := none
  id : Option Label := none
  target : Option Label := none
  state : Option Bool := none
  deriving DecidableEq, Repr, Inhabited

/-! ## Levels -/

/-- A puzzle. -/
structure Level where
  id : Int
  title : Label := {}
  description : Label := {}
  size : Int
  layout : List Tile := []
  start : Pose
  goals : List Position := []
  palette : List PaletteItem := []
  maxCommands : Int
  deriving DecidableEq, Repr, Inhabited

/-- What can be wrong with a layout whose fields are each in order. -/
inductive LayoutFault where
  | tileOutside (tile : Position) (size : Int)
  | duplicateTile (tile : Position)
  | goalOffTiles (goal : Position)
  | startNotWalkable (start : Position)
  deriving DecidableEq, Repr

/-- The text of a layout fault. -/
def LayoutFault.message : LayoutFault → String
  | tileOutside p size => s!"Tile at {p.text} lies outside the {size}x{size} grid"
  | duplicateTile p => s!"Duplicate tile at {p.text}"
  | goalOffTiles p => s!"Goal {p.text} is not on any tile"
  | startNotWalkable p => s!"Start {p.text} must be on a walkable tile"

namespace Level

/-- A cell lies in the square of side `size`. -/
def Inside (size : Int) (p : Position) : Prop :=
  (0 ≤ p.x ∧ p.x < size) ∧ 0 ≤ p.y ∧ p.y < size

instance (size : Int) (p : Position) : Decidable (Inside size p) :=
  inferInstanceAs (Decidable (_ ∧ _))

/-- The first tile, in layout order, that lies outside the grid or on an earlier tile. Of the two
faults of one tile, lying outside is the one reported. -/
def tileFault? (size : Int) (seen : List Position) : List Tile → Option LayoutFault
  | [] => none
  | t :: rest =>
    if ¬ Inside size t.position then some (.tileOutside t.position size)
    else if t.position ∈ seen then some (.duplicateTile t.position)
    else tileFault? size (t.position :: seen) rest

/-- The first goal that lies on no tile. -/
def goalFault? (layout : List Tile) (goals : List Position) : Option LayoutFault :=
  (goals.find? (fun g => g ∉ layout.map Tile.position)).map .goalOffTiles

/-- The start has to be on a tile that is not void. -/
def startFault? (layout : List Tile) (start : Position) : Option LayoutFault :=
  match layout.find? (fun t => t.position = start) with
  | none => some (.startNotWalkable start)
  | some t => if t.kind = .void then some (.startNotWalkable start) else none

/-- The first fault of a layout: tiles in order, then goals in order, then the start. -/
def layoutFault? (level : Level) : Option LayoutFault :=
  tileFault? level.size [] level.layout
    <|> goalFault? level.layout level.goals
    <|> startFault? level.layout level.start.position

/-- What the rest of the game relies on: tiles inside the grid and on cells of their own, goals on
tiles, and a start that can be stood on. -/
structure WellFormed (level : Level) : Prop where
  inside : ∀ t ∈ level.layout, Inside level.size t.position
  distinct : (level.layout.map Tile.position).Nodup
  goals_on_tiles : ∀ g ∈ level.goals, g ∈ level.layout.map Tile.position
  start_on_tile : ∃ t ∈ level.layout, t.position = level.start.position ∧ t.kind ≠ .void

/-- The tile on a cell. Cells of a well-formed layout hold at most one. -/
def tileOn? (layout : List Tile) (p : Position) : Option Tile :=
  layout.find? (fun t => t.position = p)

/-- The first tile that carries an id. -/
def tileNamed? (layout : List Tile) (id : Label) : Option Tile :=
  layout.find? (fun t => t.id = some id)

end Level

end Lamplighter
