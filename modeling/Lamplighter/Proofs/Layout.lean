/-
Lamplighter.Proofs.Layout — which fault of a level is reported.

* `Level.Spread` — tiles that lie in the grid, each on a cell of its own.
* `Level.FirstFault` — a fault of a layout, with everything in order that is looked at before it: the tiles in layout
  order, then the goals, then the start.
* `Level.layoutFault?_eq_some` — the check finds the first fault, and nothing else.
* `Level.decode_of_fields` — an object whose fields are each in order is read as a level if and only if that level is
  well-formed, and otherwise has a single issue, which is the first fault.
-/
import Lamplighter.Proofs.Decoding

namespace Lamplighter

namespace Level

/-! ## Tiles -/

/-- Tiles that lie in the grid, each on a cell of its own. -/
structure Spread (size : Int) (tiles : List Tile) : Prop where
  inside : ∀ t ∈ tiles, Inside size t.position
  distinct : (tiles.map Tile.position).Nodup

theorem tileFault?_eq_none_iff_spread {size : Int} {tiles : List Tile} :
    tileFault? size [] tiles = none ↔ Spread size tiles := by
  rw [tileFault?_eq_none]
  constructor
  · intro ⟨inside, distinct, _⟩
    exact ⟨inside, distinct⟩
  · intro spread
    exact ⟨spread.inside, spread.distinct, by simp⟩

/-- Tiles are checked one after the other, each beside the cells of those before it. -/
theorem tileFault?_append (size : Int) (seen : List Position) (before rest : List Tile) :
    tileFault? size seen (before ++ rest) =
      (tileFault? size seen before).or
        (tileFault? size ((before.map Tile.position).reverse ++ seen) rest) := by
  induction before generalizing seen with
  | nil => rfl
  | cons t before ih =>
    rw [List.cons_append, tileFault?, tileFault?]
    split
    · rfl
    · split
      · rfl
      · rw [ih]
        simp

/-- A fault is found at some tile, and at none of those before it. -/
theorem exists_of_tileFault? {size : Int} {seen : List Position} {tiles : List Tile} {fault : LayoutFault}
    (found : tileFault? size seen tiles = some fault) :
    ∃ before t after, tiles = before ++ t :: after ∧ tileFault? size seen before = none ∧
      tileFault? size ((before.map Tile.position).reverse ++ seen) [t] = some fault := by
  induction tiles generalizing seen with
  | nil => cases found
  | cons t rest ih =>
    rw [← List.singleton_append, tileFault?_append] at found
    cases first : tileFault? size seen [t] with
    | some fault' =>
      rw [first] at found
      exact ⟨[], t, rest, rfl, rfl, first.trans found⟩
    | none =>
      rw [first] at found
      obtain ⟨before, u, after, rfl, none, later⟩ := ih found
      refine ⟨t :: before, u, after, rfl, ?_, by simpa using later⟩
      rw [← List.singleton_append, tileFault?_append, first, Option.none_or]
      exact none

/-- What is wrong with one tile: of its two faults, that it lies outside the grid comes first. -/
theorem tileFault?_singleton {size : Int} {seen : List Position} {t : Tile} {fault : LayoutFault} :
    tileFault? size seen [t] = some fault ↔
      ¬Inside size t.position ∧ fault = .tileOutside t.position size ∨
        Inside size t.position ∧ t.position ∈ seen ∧ fault = .duplicateTile t.position := by
  by_cases inside : Inside size t.position
  · by_cases taken : t.position ∈ seen
    · simp [tileFault?, inside, taken, eq_comm]
    · simp [tileFault?, inside, taken]
  · simp [tileFault?, inside, eq_comm]

theorem tileFault?_eq_some {size : Int} {tiles : List Tile} {fault : LayoutFault} :
    tileFault? size [] tiles = some fault ↔
      ∃ before t after, tiles = before ++ t :: after ∧ Spread size before ∧
        (¬Inside size t.position ∧ fault = .tileOutside t.position size ∨
          Inside size t.position ∧ t.position ∈ before.map Tile.position ∧ fault = .duplicateTile t.position) := by
  constructor
  · intro found
    obtain ⟨before, t, after, split, none, later⟩ := exists_of_tileFault? found
    rw [tileFault?_singleton, List.append_nil, List.mem_reverse] at later
    exact ⟨before, t, after, split, tileFault?_eq_none_iff_spread.mp none, later⟩
  · rintro ⟨before, t, after, rfl, spread, faulty⟩
    have first : tileFault? size ((before.map Tile.position).reverse ++ []) [t] = some fault := by
      rwa [tileFault?_singleton, List.append_nil, List.mem_reverse]
    rw [tileFault?_append, tileFault?_eq_none_iff_spread.mpr spread, Option.none_or, ← List.singleton_append,
      tileFault?_append, first, Option.some_or]

/-! ## Goals and the start -/

theorem goalFault?_eq_some {layout : List Tile} {goals : List Position} {fault : LayoutFault} :
    goalFault? layout goals = some fault ↔
      ∃ before g after, goals = before ++ g :: after ∧ (∀ h ∈ before, h ∈ layout.map Tile.position) ∧
        g ∉ layout.map Tile.position ∧ fault = .goalOffTiles g := by
  simp only [goalFault?, Option.map_eq_some_iff, List.find?_eq_some_iff_append]
  constructor
  · rintro ⟨g, ⟨off, before, after, split, on⟩, rfl⟩
    exact ⟨before, g, after, split, by simpa using on, by simpa using off, rfl⟩
  · rintro ⟨before, g, after, split, on, off, rfl⟩
    exact ⟨g, ⟨by simpa using off, before, after, split, by simpa using on⟩, rfl⟩

theorem startFault?_eq_some {layout : List Tile} (nodup : (layout.map Tile.position).Nodup) {start : Position}
    {fault : LayoutFault} :
    startFault? layout start = some fault ↔
      (¬∃ t ∈ layout, t.position = start ∧ t.kind ≠ .void) ∧ fault = .startNotWalkable start := by
  rw [← startFault?_eq_none_of_nodup nodup]
  unfold startFault?
  split
  · simp [eq_comm]
  · split <;> simp [eq_comm]

/-! ## The first fault -/

/-- A fault of a level, with everything in order that is looked at before it: the tiles in layout order, then the goals,
then the start. A tile is looked at for where it lies, and then for the tiles before it. -/
inductive FirstFault (level : Level) : LayoutFault → Prop
  | tileOutside {before after : List Tile} {t : Tile} (layout : level.layout = before ++ t :: after)
      (spread : Spread level.size before) (outside : ¬Inside level.size t.position) :
      FirstFault level (.tileOutside t.position level.size)
  | duplicateTile {before after : List Tile} {t : Tile} (layout : level.layout = before ++ t :: after)
      (spread : Spread level.size before) (inside : Inside level.size t.position)
      (taken : t.position ∈ before.map Tile.position) : FirstFault level (.duplicateTile t.position)
  | goalOffTiles {before after : List Position} {g : Position} (spread : Spread level.size level.layout)
      (goals : level.goals = before ++ g :: after) (on : ∀ h ∈ before, h ∈ level.layout.map Tile.position)
      (off : g ∉ level.layout.map Tile.position) : FirstFault level (.goalOffTiles g)
  | startNotWalkable (spread : Spread level.size level.layout)
      (goals : ∀ g ∈ level.goals, g ∈ level.layout.map Tile.position)
      (start : ¬∃ t ∈ level.layout, t.position = level.start.position ∧ t.kind ≠ .void) :
      FirstFault level (.startNotWalkable level.start.position)

/-- The check finds the first fault, and nothing else. -/
theorem layoutFault?_eq_some {level : Level} {fault : LayoutFault} :
    level.layoutFault? = some fault ↔ level.FirstFault fault := by
  unfold layoutFault?
  simp only [Option.orElse_eq_orElse, Option.orElse_eq_or, Option.or_eq_some_iff, tileFault?_eq_some,
    tileFault?_eq_none_iff_spread, goalFault?_eq_some, goalFault?_eq_none]
  constructor
  · rintro (⟨before, t, after, layout, spread, ⟨outside, rfl⟩ | ⟨inside, taken, rfl⟩⟩ | ⟨spread, later⟩)
    · exact .tileOutside layout spread outside
    · exact .duplicateTile layout spread inside taken
    · rcases later with ⟨before, g, after, goals, on, off, rfl⟩ | ⟨goals, start⟩
      · exact .goalOffTiles spread goals on off
      · obtain ⟨unwalkable, rfl⟩ := (startFault?_eq_some spread.distinct).mp start
        exact .startNotWalkable spread goals unwalkable
  · intro first
    cases first with
    | tileOutside layout spread outside => exact .inl ⟨_, _, _, layout, spread, .inl ⟨outside, rfl⟩⟩
    | duplicateTile layout spread inside taken => exact .inl ⟨_, _, _, layout, spread, .inr ⟨inside, taken, rfl⟩⟩
    | goalOffTiles spread goals on off => exact .inr ⟨spread, .inl ⟨_, _, _, goals, on, off, rfl⟩⟩
    | startNotWalkable spread goals start =>
      exact .inr ⟨spread, .inr ⟨goals, (startFault?_eq_some spread.distinct).mpr ⟨start, rfl⟩⟩⟩

/-! ## Levels that are read -/

/-- An object whose fields are each in order is read as the level that they make up, if that level is well-formed, and
as no other. If it is not, there is a first fault, it is the only one, and it is the only issue, with the level as a
whole. -/
theorem decode_of_fields {m : List (String × Json)} {level : Level} (fields : level.Fields m) :
    ((∃ read, decode (.obj m) = .good read) ↔ level.WellFormed) ∧
      (level.WellFormed → decode (.obj m) = .good level) ∧
        (¬level.WellFormed → ∃ fault, (∀ other, level.FirstFault other ↔ other = fault) ∧
          decode (.obj m) = .bad [⟨[], .layout fault⟩]) := by
  have decoded : decode (.obj m) = level.checkLayout := by
    simp only [decode, Decode.model, Level.decodeFields_good.mpr fields, Checked.andThen]
  rw [decoded, checkLayout]
  cases found : level.layoutFault? with
  | none =>
    have formed := layoutFault?_eq_none.mp found
    exact ⟨iff_of_true ⟨level, rfl⟩ formed, fun _ => rfl, fun ill => absurd formed ill⟩
  | some fault =>
    have ill : ¬level.WellFormed := by
      rw [← layoutFault?_eq_none, found]
      exact Option.some_ne_none fault
    refine ⟨iff_of_false (by simp [Checked.wrong]) ill, fun formed => absurd formed ill, fun _ => ⟨fault, ?_, rfl⟩⟩
    intro other
    rw [← layoutFault?_eq_some, found, Option.some_inj, eq_comm]

/-- The members of an object whose third tile lies on the first and whose fourth one lies outside, with a goal on no
tile and a start on a void one. Some numbers are texts or truth values. -/
def crowdedFile : List (String × Json) :=
  [("id", .str "3"), ("gridSize", .int 2), ("maxCommands", .bool true),
    ("goals", .arr [.obj [("x", .int 7), ("y", .int 7)]]),
    ("layout", .arr [.obj [("x", .str "0"), ("y", .int 0), ("type", .str "void")], .obj [("x", .int 1), ("y", .int 0)],
      .obj [("x", .bool false), ("y", .str "-0")], .obj [("x", .int (-1)), ("y", .int 0)]]),
    ("start", .obj [("x", .int 0), ("y", .int 0), ("dir", .str "S")])]

/-- What it says. -/
def crowded : Level where
  id := 3
  size := 2
  layout :=
    [{ position := ⟨0, 0⟩, kind := .void }, { position := ⟨1, 0⟩ }, { position := ⟨0, 0⟩ }, { position := ⟨-1, 0⟩ }]
  start := ⟨⟨0, 0⟩, .south⟩
  goals := [⟨7, 7⟩]
  maxCommands := 1

theorem decode_of_fields_crowded :
    crowded.Fields crowdedFile ∧ ¬crowded.WellFormed ∧
      decode (.obj crowdedFile) = .bad [⟨[], .layout (.duplicateTile ⟨0, 0⟩)⟩] := by
  have fields : crowded.Fields crowdedFile := decodeFields_good.mp (by rfl)
  have ill : ¬crowded.WellFormed := fun formed => absurd formed.distinct (by decide)
  have spread : Spread 2 (crowded.layout.take 2) := ⟨by decide, by decide⟩
  obtain ⟨fault, only, decoded⟩ := (decode_of_fields fields).2.2 ill
  obtain rfl := (only _).mp (.duplicateTile (t := { position := ⟨0, 0⟩ }) rfl spread (by decide) (by decide))
  exact ⟨fields, ill, decoded⟩

end Level

end Lamplighter
