/-
Lamplighter.Direction — the four headings of the robot.

* `Direction` — north, east, south, west, in clockwise order; `y` grows southward, so north is `-y`.
* `delta`, `left`, `right` — one step ahead, and a quarter turn to either side.
* `deltaOf`, `leftOf`, `rightOf` — the same for a heading that may be unreadable: it counts as north,
  and a turn of it faces north.
-/

namespace Lamplighter

/-- A heading of the robot. -/
inductive Direction where
  | north
  | east
  | south
  | west
  deriving DecidableEq, Repr, Inhabited

namespace Direction

/-- The letter that stands for a heading in level files, programs and log lines. -/
def letter : Direction → String
  | north => "N"
  | east => "E"
  | south => "S"
  | west => "W"

/-- The headings in clockwise order. -/
def all : List Direction := [north, east, south, west]

/-- The heading that a letter stands for. Letters are case sensitive. -/
def ofLetter? (s : String) : Option Direction := all.find? (fun d => d.letter == s)

/-- The unit step ahead, as `(dx, dy)`. -/
def delta : Direction → Int × Int
  | north => (0, -1)
  | east => (1, 0)
  | south => (0, 1)
  | west => (-1, 0)

/-- A quarter turn clockwise. -/
def right : Direction → Direction
  | north => east
  | east => south
  | south => west
  | west => north

/-- A quarter turn counterclockwise. -/
def left : Direction → Direction
  | north => west
  | west => south
  | south => east
  | east => north

@[simp] theorem left_right (d : Direction) : d.right.left = d := by cases d <;> rfl

@[simp] theorem right_left (d : Direction) : d.left.right = d := by cases d <;> rfl

/-! ## Headings that may be unreadable -/

/-- The unit step for a heading that may be unreadable: without one, the step north. -/
def deltaOf : Option Direction → Int × Int
  | some d => d.delta
  | none => north.delta

/-- A left turn of a heading that may be unreadable: without one, north. -/
def leftOf : Option Direction → Direction
  | some d => d.left
  | none => north

/-- A right turn of a heading that may be unreadable: without one, north. -/
def rightOf : Option Direction → Direction
  | some d => d.right
  | none => north

end Direction

end Lamplighter
