/-
Lamplighter.Picture — a level drawn as text.

* `Glyph` — what a cell shows: a tile of some kind, an open door, a broken tile, a goal, a lit goal.
* `Symbols` — the characters for each glyph, two of them by default.
* `Picture.glyph` — the glyph of a cell from its tile and the live flags; the robot is drawn over it.
* `Picture.render` — row 0 first, the rows joined by line breaks.
-/
import Lamplighter.Board

namespace Lamplighter

/-- What a cell shows when no robot stands on it. -/
inductive Glyph where
  | tile (kind : TileKind)
  | openDoor
  | broken
  | goal
  | litGoal
  deriving DecidableEq, Repr

/-- The characters drawn for each glyph. -/
abbrev Symbols := Glyph → String

namespace Glyph

/-- The name under which a glyph's characters can be replaced. -/
def name : Glyph → String
  | tile kind => kind.name
  | openDoor => "door_open"
  | broken => "cracked_broken"
  | goal => "goal"
  | litGoal => "goal_lit"

/-- The characters drawn unless others are asked for. -/
def symbol : Symbols
  | tile .ground => ". "
  | tile .void => "  "
  | tile .switch => "s "
  | tile .door => "D "
  | tile .teleport => "T "
  | tile .cracked => "c "
  | openDoor => "d "
  | broken => "x "
  | goal => "○ "
  | litGoal => "● "

end Glyph

/-- Replace the characters of the glyphs that are named; other names have no effect. -/
def Symbols.override (changes : List (String × String)) (symbols : Symbols) : Symbols :=
  fun g => (changes.lookup g.name).getD (symbols g)

namespace Picture

/-- The arrow drawn for a robot. -/
def arrow : Direction → String
  | .north => "^ "
  | .east => "> "
  | .south => "v "
  | .west => "< "

/-- What a cell shows: goals over tiles, and doors and cracked tiles as they are now. -/
def glyph (board : Board) (store : Store) (lit : List Position) (p : Position) : Glyph :=
  if board.isGoal p then
    if p ∈ lit then .litGoal else .goal
  else
    match board.tileAt? p with
    | none => .tile .void
    | some tile =>
      if tile.kind = .door ∧ board.isWalkable store p then .openDoor
      else if tile.kind = .cracked ∧ ¬ board.isWalkable store p then .broken
      else .tile tile.kind

/-- The characters of a cell. The robot is drawn over whatever it stands on. -/
def cell (symbols : Symbols) (board : Board) (store : Store) (robot : Option Pose)
    (lit : List Position) (p : Position) : String :=
  match robot with
  | some pose => if pose.position = p then arrow pose.heading else symbols (glyph board store lit p)
  | none => symbols (glyph board store lit p)

/-- One row of the picture, from `x = 0`. -/
def row (symbols : Symbols) (board : Board) (store : Store) (robot : Option Pose)
    (lit : List Position) (size : Nat) (y : Nat) : String :=
  String.join ((List.range size).map (fun (x : Nat) => cell symbols board store robot lit ⟨x, y⟩))

/-- The rows of the picture of a level, from `y = 0`. -/
def rows (symbols : Symbols) (board : Board) (store : Store) (robot : Option Pose)
    (lit : List Position) (size : Nat) : List String :=
  (List.range size).map (row symbols board store robot lit size)

/-- The picture of the loaded level; empty without a level. -/
def render (board : Board) (store : Store) (robot : Option Pose) (lit : List Position)
    (symbols : Symbols := Glyph.symbol) : String :=
  match board.level with
  | none => ""
  | some level => "\n".intercalate (rows symbols board store robot lit level.size.toNat)

end Picture

end Lamplighter
