/-
Lamplighter.Proofs.Picture — what can be read off a picture.

* `Reading` — what two characters of a picture tell: the robot and its heading, a goal and whether it is lit, or
  ground and whether it can be walked on. `Reading.ofText?` — which of these they tell.
* `Picture.sight` — what there is to be told of a cell. `Picture.cell_tells` — a cell is drawn with characters that
  tell it.
* `Picture.cellText`, `Picture.read?`, `Picture.robot?` — the characters of a cell, found in a picture by their line
  and their columns; what they tell; and where the robot is. None of these knows the level.
* `Picture.render_readsBack` — all this is read off a picture as it was when it was drawn.

What a cell shows and whether it can be walked on are decided apart from each other, by kind of tile and live flags
both times. `ground_tells` is where the two meet; the rest is about finding the two characters again.
-/
import Lamplighter.Picture
import Lamplighter.Proofs.Console

namespace Lamplighter

/-! ## Readings -/

/-- What two characters of a picture tell. -/
inductive Reading where
  | robot (heading : Direction)
  | goal (lit : Bool)
  | ground (walkable : Bool)
  deriving DecidableEq, Repr

namespace Reading

/-- All readings. -/
def all : List Reading :=
  Direction.all.map robot ++ [goal true, goal false, ground true, ground false]

/-- The characters that tell a thing. -/
def texts : Reading → List String
  | robot heading => [Picture.arrow heading]
  | goal true => ["● "]
  | goal false => ["○ "]
  | ground true => [". ", "s ", "d ", "T ", "c "]
  | ground false => ["  ", "D ", "x "]

/-- What two characters tell. -/
def ofText? (text : String) : Option Reading := all.find? (fun r => text ∈ r.texts)

/-- No characters tell two things. -/
theorem ofText?_eq_some {text : String} {r : Reading} : ofText? text = some r ↔ text ∈ r.texts := by
  constructor
  · intro found
    simpa using List.find?_some found
  · have tells : ∀ r : Reading, ∀ text ∈ r.texts, ofText? text = some r := by
      rintro (heading | lit | walkable)
      · cases heading <;> decide
      · cases lit <;> decide
      · cases walkable <;> decide
    exact tells r text

/-- Every thing is told by two characters, neither of which is a line break. -/
theorem two_of_mem_texts {text : String} {r : Reading} (tells : text ∈ r.texts) :
    text.toList.length = 2 ∧ '\n' ∉ text.toList := by
  have two : ∀ r : Reading, ∀ text ∈ r.texts, text.toList.length = 2 ∧ '\n' ∉ text.toList := by
    rintro (heading | lit | walkable)
    · cases heading <;> decide
    · cases lit <;> decide
    · cases walkable <;> decide
  exact two r text tells

end Reading

namespace Picture

/-! ## What a cell tells -/

section Cells

variable (board : Board) (store : Store) (robot : Option Pose) (lit : List Position) (p : Position)

/-- What there is to be told of a cell on which no robot stands. A goal hides the ground below it. -/
def bare : Reading := if board.isGoal p then .goal (p ∈ lit) else .ground (board.isWalkable store p)

/-- What there is to be told of a cell. A robot hides what it stands on. -/
def sight : Reading :=
  match robot with
  | some pose => if pose.position = p then .robot pose.heading else bare board store lit p
  | none => bare board store lit p

/-- The glyph of a cell that is no goal tells whether the cell can be walked on. -/
theorem ground_tells (ground : board.isGoal p = false) :
    (glyph board store lit p).symbol ∈ (Reading.ground (board.isWalkable store p)).texts := by
  unfold glyph
  rw [if_neg (by simp [ground])]
  cases there : board.tileAt? p with
  | none =>
    have blocked : board.isWalkable store p = false := by rw [Board.isWalkable, there]
    rw [blocked]
    decide
  | some tile =>
    have walkable : board.isWalkable store p = Board.canStand store tile := by rw [Board.isWalkable, there]
    rw [walkable]
    dsimp only
    cases kind : tile.kind with
    | door | cracked => cases Board.canStand store tile <;> decide
    | ground | void | switch | teleport =>
      simp only [Board.canStand, kind]
      decide

/-- A cell on which no robot stands is drawn with characters that tell what there is to be told of it. -/
theorem glyph_tells : (glyph board store lit p).symbol ∈ (bare board store lit p).texts := by
  unfold bare
  split
  · rename_i goal
    rw [glyph, if_pos goal]
    by_cases shining : p ∈ lit <;> simp [shining, Glyph.symbol, Reading.texts]
  · rename_i other
    exact ground_tells board store lit p (by simpa using other)

/-- A cell is drawn with characters that tell what there is to be told of it. -/
theorem cell_tells : cell Glyph.symbol board store robot lit p ∈ (sight board store robot lit p).texts := by
  unfold cell sight
  cases robot with
  | none => exact glyph_tells board store lit p
  | some pose =>
    dsimp only
    split
    · exact List.mem_singleton_self _
    · exact glyph_tells board store lit p

theorem cell_two :
    (cell Glyph.symbol board store robot lit p).toList.length = 2 ∧
      '\n' ∉ (cell Glyph.symbol board store robot lit p).toList :=
  Reading.two_of_mem_texts (cell_tells board store robot lit p)

/-- No robot stands on a cell. -/
def Uncovered : Prop := ∀ h, robot ≠ some ⟨p, h⟩

theorem sight_of_uncovered (free : Uncovered robot p) : sight board store robot lit p = bare board store lit p := by
  unfold sight
  cases robot with
  | none => rfl
  | some pose =>
    obtain ⟨position, heading⟩ := pose
    have elsewhere : position ≠ p := fun here => free heading (by rw [here])
    exact if_neg elsewhere

theorem sight_of_robot {h : Direction} (here : robot = some ⟨p, h⟩) : sight board store robot lit p = .robot h := by
  subst here
  exact if_pos rfl

theorem bare_ne_robot (h : Direction) : bare board store lit p ≠ .robot h := by
  unfold bare
  split <;> nofun

theorem sight_eq_robot {h : Direction} : sight board store robot lit p = .robot h ↔ robot = some ⟨p, h⟩ := by
  refine ⟨fun told => ?_, sight_of_robot board store robot lit p⟩
  by_cases free : Uncovered robot p
  · rw [sight_of_uncovered board store robot lit p free] at told
    exact absurd told (bare_ne_robot board store lit p h)
  · obtain ⟨h', here⟩ := not_forall_not.mp free
    rw [sight_of_robot board store robot lit p here] at told
    cases told
    exact here

/-- What is told of a cell, unless it is a robot, is told of a cell on which none stands. -/
theorem sight_eq_of_ne_robot {r : Reading} (other : ∀ h, r ≠ .robot h) :
    sight board store robot lit p = r ↔ Uncovered robot p ∧ bare board store lit p = r := by
  constructor
  · intro told
    have free : Uncovered robot p :=
      fun h here => other h (told.symm.trans (sight_of_robot board store robot lit p here))
    exact ⟨free, (sight_of_uncovered board store robot lit p free).symm.trans told⟩
  · rintro ⟨free, told⟩
    exact (sight_of_uncovered board store robot lit p free).trans told

theorem sight_eq_goal {shining : Bool} : sight board store robot lit p = .goal shining ↔
    Uncovered robot p ∧ board.isGoal p = true ∧ decide (p ∈ lit) = shining := by
  have uncovered : bare board store lit p = .goal shining ↔ board.isGoal p = true ∧ decide (p ∈ lit) = shining := by
    unfold bare
    split <;> simp [*]
  rw [sight_eq_of_ne_robot board store robot lit p (by simp), uncovered]

theorem sight_eq_ground {walkable : Bool} : sight board store robot lit p = .ground walkable ↔
    Uncovered robot p ∧ board.isGoal p = false ∧ board.isWalkable store p = walkable := by
  have uncovered : bare board store lit p = .ground walkable ↔
      board.isGoal p = false ∧ board.isWalkable store p = walkable := by
    unfold bare
    split <;> simp [*]
  rw [sight_eq_of_ne_robot board store robot lit p (by simp), uncovered]

end Cells

/-! ## Finding a cell again -/

/-- The characters of a cell: those of two columns of a line. -/
def cellText (text : String) (x y : Nat) : String :=
  String.ofList ((((Console.lines text)[y]?.getD "").toList.drop (2 * x)).take 2)

/-- Of lists of two that are put together, each is found again. -/
theorem take_two_flatten {α : Type} {pairs : List (List α)} (two : ∀ pair ∈ pairs, pair.length = 2) {x : Nat}
    {pair : List α} (there : pairs[x]? = some pair) : (pairs.flatten.drop (2 * x)).take 2 = pair := by
  induction pairs generalizing x with
  | nil => cases there
  | cons first rest ih =>
    have first_two : first.length = 2 := two first List.mem_cons_self
    cases x with
    | zero =>
      obtain rfl : first = pair := by simpa using there
      exact List.take_left' first_two
    | succ x =>
      have past : (first ++ rest.flatten).drop (2 * (x + 1)) = rest.flatten.drop (2 * x) := by
        rw [Nat.mul_succ, Nat.add_comm, ← List.drop_drop, List.drop_left' first_two]
      rw [List.flatten_cons, past]
      exact ih (fun pair later => two pair (List.mem_cons_of_mem _ later)) (by simpa using there)

section Rows

variable (board : Board) (store : Store) (robot : Option Pose) (lit : List Position) (size : Nat)

/-- A row is made of the characters of its cells. -/
theorem toList_row (y : Nat) : (row Glyph.symbol board store robot lit size y).toList =
    ((List.range size).map fun (x : Nat) => (cell Glyph.symbol board store robot lit ⟨x, y⟩).toList).flatten := by
  rw [row, String.toList_join, List.flatMap_map, List.flatMap_def]

/-- The lines of a picture are its rows. -/
theorem lines_rows (positive : 1 ≤ size) :
    Console.lines ("\n".intercalate (rows Glyph.symbol board store robot lit size)) =
      rows Glyph.symbol board store robot lit size := by
  refine Console.lines_intercalate ?_ ?_
  · intro text there
    obtain ⟨y, -, rfl⟩ := List.mem_map.mp there
    simp only [toList_row, List.mem_flatten, List.mem_map, not_exists, not_and]
    rintro _ ⟨x, -, rfl⟩
    exact (cell_two board store robot lit ⟨x, y⟩).2
  · simp [rows]
    omega

theorem length_row (y : Nat) : (row Glyph.symbol board store robot lit size y).length = 2 * size := by
  rw [← String.length_toList, toList_row, List.length_flatten, List.map_map]
  have two : List.length ∘ (fun x : Nat => (cell Glyph.symbol board store robot lit ⟨x, y⟩).toList) = fun _ => 2 :=
    funext fun x => (cell_two board store robot lit ⟨x, y⟩).1
  rw [two, List.map_const', List.sum_replicate_nat, List.length_range, Nat.mul_comm]

/-- A cell is found again where its line and its columns are. -/
theorem cellText_rows (positive : 1 ≤ size) {x y : Nat} (hx : x < size) (hy : y < size) :
    cellText ("\n".intercalate (rows Glyph.symbol board store robot lit size)) x y =
      cell Glyph.symbol board store robot lit ⟨x, y⟩ := by
  have line : (rows Glyph.symbol board store robot lit size)[y]? =
      some (row Glyph.symbol board store robot lit size y) := by
    simp [rows, hy]
  have two : ∀ pair ∈ (List.range size).map
      (fun (x : Nat) => (cell Glyph.symbol board store robot lit ⟨x, y⟩).toList), pair.length = 2 := by
    intro pair there
    obtain ⟨x, -, rfl⟩ := List.mem_map.mp there
    exact (cell_two board store robot lit ⟨x, y⟩).1
  have pair : ((List.range size).map
      (fun (x : Nat) => (cell Glyph.symbol board store robot lit ⟨x, y⟩).toList))[x]? =
        some (cell Glyph.symbol board store robot lit ⟨x, y⟩).toList := by
    simp [hx]
  rw [cellText, lines_rows board store robot lit size positive, line, Option.getD_some, toList_row,
    take_two_flatten two pair, String.ofList_toList]

end Rows

/-! ## Reading a picture back -/

/-- What a cell of a picture tells. -/
def read? (text : String) (x y : Nat) : Option Reading := Reading.ofText? (cellText text x y)

/-- The robot of a picture, if it shows one. -/
def robot? (text : String) : Option Pose :=
  let size := (Console.lines text).length
  (List.range size).findSome? fun y => (List.range size).findSome? fun x =>
    match read? text x y with
    | some (.robot heading) => some ⟨⟨x, y⟩, heading⟩
    | _ => none

theorem robot?_eq_some {text : String} {pose : Pose} (found : robot? text = some pose) :
    ∃ x y : Nat, x < (Console.lines text).length ∧ y < (Console.lines text).length ∧ pose.position = ⟨x, y⟩ ∧
      read? text x y = some (.robot pose.heading) := by
  obtain ⟨y, hy, found⟩ := List.exists_of_findSome?_eq_some found
  obtain ⟨x, hx, found⟩ := List.exists_of_findSome?_eq_some found
  rw [List.mem_range] at hx hy
  refine ⟨x, y, hx, hy, ?_⟩
  split at found
  · rename_i heading told
    cases found
    exact ⟨rfl, told⟩
  · cases found

theorem robot?_ne_none {text : String} {x y : Nat} (hx : x < (Console.lines text).length)
    (hy : y < (Console.lines text).length) {h : Direction} (told : read? text x y = some (.robot h)) :
    robot? text ≠ none := by
  intro none
  have row := List.findSome?_eq_none_iff.mp none y (List.mem_range.mpr hy)
  have cell := List.findSome?_eq_none_iff.mp row x (List.mem_range.mpr hx)
  rw [told] at cell
  cases cell

/-- A text from which everything can be read that there is to be told of the cells of a level: it has a line for each
row, two characters for each cell, and these are as they should be, and no others. -/
structure ReadsBack (level : Level) (store : Store) (robot : Option Pose) (lit : List Position) (text : String) :
    Prop where
  height : ((Console.lines text).length : Int) = level.size
  width : ∀ line ∈ Console.lines text, (line.length : Int) = 2 * level.size
  /-- The arrow of a robot is where the robot is. -/
  arrow : ∀ x y : Nat, x < level.size → y < level.size → ∀ h,
    (cellText text x y = Picture.arrow h ↔ robot = some ⟨⟨x, y⟩, h⟩)
  litGoal : ∀ x y : Nat, x < level.size → y < level.size →
    (cellText text x y = "● " ↔ Uncovered robot ⟨x, y⟩ ∧ Board.isGoal ⟨some level⟩ ⟨x, y⟩ = true ∧ ⟨x, y⟩ ∈ lit)
  goal : ∀ x y : Nat, x < level.size → y < level.size →
    (cellText text x y = "○ " ↔ Uncovered robot ⟨x, y⟩ ∧ Board.isGoal ⟨some level⟩ ⟨x, y⟩ = true ∧ ⟨x, y⟩ ∉ lit)
  /-- Ground that can be walked on. -/
  passable : ∀ x y : Nat, x < level.size → y < level.size →
    (cellText text x y ∈ [". ", "s ", "d ", "T ", "c "] ↔ Uncovered robot ⟨x, y⟩ ∧
      Board.isGoal ⟨some level⟩ ⟨x, y⟩ = false ∧ Board.isWalkable ⟨some level⟩ store ⟨x, y⟩ = true)
  /-- Ground that cannot. -/
  impassable : ∀ x y : Nat, x < level.size → y < level.size →
    (cellText text x y ∈ ["  ", "D ", "x "] ↔ Uncovered robot ⟨x, y⟩ ∧
      Board.isGoal ⟨some level⟩ ⟨x, y⟩ = false ∧ Board.isWalkable ⟨some level⟩ store ⟨x, y⟩ = false)
  /-- What is read of a cell is what there is to be told of it. -/
  read : ∀ x y : Nat, x < level.size → y < level.size →
    read? text x y = some (sight ⟨some level⟩ store robot lit ⟨x, y⟩)
  /-- The robot that is found is the robot of the level, if that is in the grid. -/
  robot : ∀ pose, robot? text = some pose ↔ robot = some pose ∧ Level.Inside level.size pose.position

section Render

variable (level : Level) (store : Store) (robot : Option Pose) (lit : List Position)

/-- The lines of the picture of a level are its rows. -/
theorem lines_render (positive : 1 ≤ level.size) : Console.lines (render ⟨some level⟩ store robot lit) =
    rows Glyph.symbol ⟨some level⟩ store robot lit level.size.toNat :=
  lines_rows ⟨some level⟩ store robot lit level.size.toNat (by omega)

theorem length_lines_render (positive : 1 ≤ level.size) :
    ((Console.lines (render ⟨some level⟩ store robot lit)).length : Int) = level.size := by
  rw [lines_render level store robot lit positive, rows, List.length_map, List.length_range]
  omega

/-- The characters of a cell tell a thing exactly if that is what there is to be told. -/
theorem cellText_render (positive : 1 ≤ level.size) {x y : Nat} (hx : x < level.size) (hy : y < level.size)
    (r : Reading) :
    cellText (render ⟨some level⟩ store robot lit) x y ∈ r.texts ↔ sight ⟨some level⟩ store robot lit ⟨x, y⟩ = r := by
  have found : cellText (render ⟨some level⟩ store robot lit) x y =
      cell Glyph.symbol ⟨some level⟩ store robot lit ⟨x, y⟩ :=
    cellText_rows ⟨some level⟩ store robot lit level.size.toNat (by omega) (by omega) (by omega)
  have told := cell_tells ⟨some level⟩ store robot lit ⟨x, y⟩
  rw [found]
  constructor
  · intro tells
    exact Option.some.inj ((Reading.ofText?_eq_some.mpr told).symm.trans (Reading.ofText?_eq_some.mpr tells))
  · rintro rfl
    exact told

/-- What is read of a cell is what there is to be told of it. -/
theorem read?_render (positive : 1 ≤ level.size) {x y : Nat} (hx : x < level.size) (hy : y < level.size) :
    read? (render ⟨some level⟩ store robot lit) x y = some (sight ⟨some level⟩ store robot lit ⟨x, y⟩) :=
  Reading.ofText?_eq_some.mpr ((cellText_render level store robot lit positive hx hy _).mpr rfl)

/-- A robot that is found is the right one, and in the grid. -/
theorem robot_of_robot?_render (positive : 1 ≤ level.size) {pose : Pose}
    (found : robot? (render ⟨some level⟩ store robot lit) = some pose) :
    robot = some pose ∧ Level.Inside level.size pose.position := by
  obtain ⟨x, y, hx, hy, position, told⟩ := robot?_eq_some found
  have height := length_lines_render level store robot lit positive
  have hx : (x : Int) < level.size := by omega
  have hy : (y : Int) < level.size := by omega
  rw [read?_render level store robot lit positive hx hy, Option.some.injEq, sight_eq_robot, ← position] at told
  refine ⟨told, ?_⟩
  rw [position]
  exact ⟨⟨Int.natCast_nonneg x, hx⟩, Int.natCast_nonneg y, hy⟩

/-- A robot in the grid is found. -/
theorem robot?_render (positive : 1 ≤ level.size) {pose : Pose} (inside : Level.Inside level.size pose.position) :
    robot? (render ⟨some level⟩ store (some pose) lit) = some pose := by
  obtain ⟨⟨x, y⟩, h⟩ := pose
  obtain ⟨⟨x_nonneg, hx⟩, y_nonneg, hy⟩ := inside
  obtain ⟨x, rfl⟩ := Int.eq_ofNat_of_zero_le x_nonneg
  obtain ⟨y, rfl⟩ := Int.eq_ofNat_of_zero_le y_nonneg
  have height := length_lines_render level store (some ⟨⟨x, y⟩, h⟩) lit positive
  have told : read? (render ⟨some level⟩ store (some ⟨⟨x, y⟩, h⟩) lit) x y = some (.robot h) := by
    rw [read?_render level store _ lit positive hx hy, sight_of_robot ⟨some level⟩ store _ lit ⟨x, y⟩ rfl]
  have shows := robot?_ne_none (by dsimp only at hx; omega) (by dsimp only at hy; omega) told
  obtain ⟨shown, found⟩ := Option.ne_none_iff_exists'.mp shows
  rw [found, (robot_of_robot?_render level store _ lit positive found).1]

/-- The picture of a level is read back: the robot in the grid, each goal that it does not stand on and whether that
is lit, and of every other cell whether it can be walked on. Every level that has been read is of size 1 at least. -/
theorem render_readsBack (positive : 1 ≤ level.size) :
    ReadsBack level store robot lit (render ⟨some level⟩ store robot lit) := by
  have tells {x y : Nat} (hx : x < level.size) (hy : y < level.size) :=
    cellText_render level store robot lit positive hx hy
  exact
    { height := length_lines_render level store robot lit positive
      width := by
        intro line there
        rw [lines_render level store robot lit positive] at there
        obtain ⟨y, -, rfl⟩ := List.mem_map.mp there
        rw [length_row]
        omega
      arrow := by
        intro x y hx hy h
        rw [← sight_eq_robot ⟨some level⟩ store robot lit, ← tells hx hy, Reading.texts, List.mem_singleton]
      litGoal := by
        intro x y hx hy
        have told := tells hx hy (.goal true)
        rwa [sight_eq_goal, decide_eq_true_iff, Reading.texts, List.mem_singleton] at told
      goal := by
        intro x y hx hy
        have told := tells hx hy (.goal false)
        rwa [sight_eq_goal, decide_eq_false_iff_not, Reading.texts, List.mem_singleton] at told
      passable := by
        intro x y hx hy
        have told := tells hx hy (.ground true)
        rwa [sight_eq_ground] at told
      impassable := by
        intro x y hx hy
        have told := tells hx hy (.ground false)
        rwa [sight_eq_ground] at told
      read := fun x y hx hy => read?_render level store robot lit positive hx hy
      robot := by
        intro pose
        constructor
        · exact robot_of_robot?_render level store robot lit positive
        · rintro ⟨rfl, inside⟩
          exact robot?_render level store lit positive inside }

/-- A level with a tile of each kind, two goals, and a door and a cracked tile whose flags are live. -/
def gallery : Level where
  id := 1
  size := 4
  layout := [⟨⟨0, 0⟩, .ground, 0, none, none, none, none⟩, ⟨⟨1, 0⟩, .void, 0, none, none, none, none⟩,
    ⟨⟨2, 0⟩, .switch, 0, none, none, some (.ofString "gate"), none⟩,
    ⟨⟨3, 0⟩, .door, 0, none, some (.ofString "gate"), none, none⟩, ⟨⟨0, 1⟩, .door, 0, none, none, none, none⟩,
    ⟨⟨1, 1⟩, .cracked, 0, none, some (.ofString "floe"), none, none⟩,
    ⟨⟨2, 1⟩, .cracked, 0, none, none, none, none⟩, ⟨⟨3, 1⟩, .teleport, 0, none, none, none, none⟩,
    ⟨⟨0, 2⟩, .ground, 0, none, none, none, none⟩, ⟨⟨1, 2⟩, .ground, 0, none, none, none, none⟩]
  start := ⟨⟨0, 0⟩, .east⟩
  goals := [⟨0, 2⟩, ⟨1, 2⟩]
  maxCommands := 5

/-- The gate is open and the floe is broken. -/
def gate : Store := ⟨gallery.layout, [(.ofString "gate", true), (.ofString "floe", false)]⟩

theorem render_readsBack_gallery :
    1 ≤ gallery.size ∧
      render ⟨some gallery⟩ gate (some ⟨⟨0, 0⟩, .east⟩) [⟨1, 2⟩] =
        ">   s d \nD x c T \n○ ●     \n        " ∧
      ReadsBack gallery gate (some ⟨⟨0, 0⟩, .east⟩) [⟨1, 2⟩]
        (render ⟨some gallery⟩ gate (some ⟨⟨0, 0⟩, .east⟩) [⟨1, 2⟩]) :=
  ⟨by decide, by decide +kernel, render_readsBack gallery gate _ _ (by decide)⟩

end Render

end Picture

end Lamplighter
