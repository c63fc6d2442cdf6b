/-
Lamplighter.Proofs.Rotation — levels turned clockwise by a quarter.

* `Level.turned`, `Attempt.turned` — a level and an attempt on it, seen after a quarter turn of the grid: `(x, y)`
  becomes `(n - 1 - y, x)` on a grid of side `n`.
* `Position.ahead_turned` — the one place where the turn meets the headings: what is ahead turns along.
* `Level.Readable.turned` — the turn of a level that can be read can be read.
* `Attempt.execute_turned` — every command does after the turn what it does before it.
-/
import Lamplighter.Proofs.Decoding
import Lamplighter.Proofs.Run.Footing
import Mathlib.Data.List.Nodup

namespace Lamplighter

/-! ## Cells -/

namespace Position

/-- A cell of a grid of side `n` that has been turned clockwise. -/
def turned (n : Int) (p : Position) : Position := ⟨n - 1 - p.y, p.x⟩

@[simp] theorem turned_inj {n : Int} {p q : Position} : p.turned n = q.turned n ↔ p = q := by
  obtain ⟨x, y⟩ := p
  obtain ⟨x', y'⟩ := q
  simp only [turned, mk.injEq]
  omega

theorem turned_injective (n : Int) : Function.Injective (turned n) := fun _ _ => turned_inj.mp

/-- What is ahead turns along with the heading. -/
theorem ahead_turned (n : Int) (p : Position) (d : Direction) : (p.turned n).ahead d.right = (p.ahead d).turned n := by
  obtain ⟨x, y⟩ := p
  cases d <;> simp only [turned, ahead, Direction.right, Direction.delta, mk.injEq, and_true] <;> omega

/-- A cell lies in the grid after the turn just if it did before. -/
@[simp] theorem inside_turned {n : Int} {p : Position} : Level.Inside n (p.turned n) ↔ Level.Inside n p := by
  simp only [Level.Inside, turned]
  omega

end Position

/-! ## Levels -/

/-- A pose on a grid of side `n` that has been turned clockwise. -/
def Pose.turned (n : Int) (pose : Pose) : Pose := ⟨pose.position.turned n, pose.heading.right⟩

/-- A tile of a grid of side `n` that has been turned clockwise. -/
def Tile.turned (n : Int) (t : Tile) : Tile := { t with position := t.position.turned n }

namespace Level

/-- A level that has been turned clockwise. -/
def turned (level : Level) : Level :=
  { level with
    layout := level.layout.map (Tile.turned level.size)
    start := level.start.turned level.size
    goals := level.goals.map (Position.turned level.size) }

section Layout

variable (n : Int) (layout : List Tile)

theorem tileOn?_turned (p : Position) :
    tileOn? (layout.map (Tile.turned n)) (p.turned n) = (tileOn? layout p).map (Tile.turned n) := by
  rw [tileOn?, List.find?_map]
  simp only [Function.comp_def, Tile.turned, Position.turned_inj]
  rfl

theorem tileNamed?_turned (id : Label) :
    tileNamed? (layout.map (Tile.turned n)) id = (tileNamed? layout id).map (Tile.turned n) := by
  rw [tileNamed?, List.find?_map]
  rfl

theorem positions_turned :
    (layout.map (Tile.turned n)).map Tile.position = (layout.map Tile.position).map (Position.turned n) := by
  rw [List.map_map, List.map_map]
  rfl

end Layout

/-- A level is well-formed after the turn. -/
theorem WellFormed.turned {level : Level} (h : level.WellFormed) : level.turned.WellFormed where
  inside := by
    intro _ turned
    obtain ⟨t, there, rfl⟩ := List.mem_map.mp turned
    exact Position.inside_turned.mpr (h.inside t there)
  distinct := by
    rw [Level.turned, positions_turned]
    exact h.distinct.map (Position.turned_injective _)
  goals_on_tiles := by
    intro _ turned
    obtain ⟨g, there, rfl⟩ := List.mem_map.mp turned
    rw [Level.turned, positions_turned]
    exact List.mem_map_of_mem (h.goals_on_tiles g there)
  start_on_tile := by
    obtain ⟨t, there, position, solid⟩ := h.start_on_tile
    refine ⟨t.turned level.size, List.mem_map_of_mem there, ?_, solid⟩
    exact congrArg (Position.turned level.size) position

/-- A cell of a grid whose side can be written can be written. -/
theorem Inside.readable {n : Int} {p : Position} (h : Inside n p) (size : Numeral.isWritable n = true) :
    p.Readable := by
  unfold Position.Readable Numeral.isWritable at *
  simp only [decide_eq_true_eq] at size ⊢
  obtain ⟨⟨x, x'⟩, y, y'⟩ := h
  omega

/-- The turn of a level that can be read can be read. -/
theorem Readable.turned {level : Level} (h : level.Readable) : level.turned.Readable := by
  have formed := (layoutFault?_eq_none.mp h.faultless).turned
  have onTile {p : Position} (there : p ∈ level.turned.layout.map Tile.position) : Inside level.turned.size p := by
    obtain ⟨t, on, rfl⟩ := List.mem_map.mp there
    exact formed.inside t on
  have start : Inside level.turned.size level.turned.start.position := by
    obtain ⟨t, there, position, -⟩ := formed.start_on_tile
    rw [← position]
    exact formed.inside t there
  refine ⟨h.id, h.size, h.positive, ?_, start.readable h.size, ⟨start.1.1, start.2.1⟩, ?_, h.budget, h.playable,
    layoutFault?_eq_none.mpr formed⟩
  · intro _ turned
    have position := (formed.inside _ turned).readable h.size
    obtain ⟨t, there, rfl⟩ := List.mem_map.mp turned
    exact ⟨position, (h.layout t there).height, (h.layout t there).grounded⟩
  · intro g there
    exact (onTile (formed.goals_on_tiles g there)).readable h.size

/-- A footing turns along. -/
theorem Footing.turned {level : Level} {p : Position} (h : level.Footing p) :
    level.turned.Footing (p.turned level.size) := by
  obtain ⟨t, there, rfl, why⟩ := h
  refine ⟨t.turned level.size, List.mem_map_of_mem there, rfl, ?_⟩
  rcases why with solid | ⟨gate, gate_there, kind, id, target, named⟩
  · exact .inl solid
  · refine .inr ⟨gate.turned level.size, List.mem_map_of_mem gate_there, kind, id, target, ?_⟩
    exact (tileNamed?_turned _ _ id).trans (congrArg (Option.map _) named)

end Level

/-! ## Stores and boards -/

namespace Store

/-- A store over a layout that has been turned. -/
def turned (n : Int) (store : Store) : Store := { store with layout := store.layout.map (Tile.turned n) }

variable (n : Int) (store : Store) (p : Position)

theorem ofLevel_turned (level : Level) : ofLevel (some level.turned) = (ofLevel (some level)).turned level.size := by
  have declared : declared (level.layout.map (Tile.turned level.size)) = declared level.layout := by
    rw [Store.declared, List.foldl_map]
    rfl
  rw [ofLevel, Level.turned, declared]
  rfl

theorem destination?_turned :
    (store.turned n).destination? (p.turned n) = (store.destination? p).map (Position.turned n) := by
  unfold destination?
  rw [turned, Level.tileOn?_turned]
  rcases Level.tileOn? store.layout p with _ | ⟨q, kind, height, color, id, target, state⟩
  · rfl
  · cases kind with
    | teleport =>
      cases target with
      | none => rfl
      | some id =>
        dsimp only [Option.map_some, Tile.turned]
        rw [Level.tileNamed?_turned]
        cases Level.tileNamed? store.layout id <;> rfl
    | ground | void | switch | door | cracked => rfl

theorem enter_turned : (store.turned n).enter (p.turned n) = (store.enter p).turned n := by
  unfold enter
  rw [turned, Level.tileOn?_turned]
  rcases Level.tileOn? store.layout p with _ | ⟨q, kind, height, color, id, target, state⟩
  · rfl
  · cases kind with
    | switch => cases target <;> rfl
    | ground | void | teleport | door | cracked => rfl

theorem leave_turned : (store.turned n).leave (p.turned n) = (store.leave p).turned n := by
  unfold leave
  rw [turned, Level.tileOn?_turned]
  rcases Level.tileOn? store.layout p with _ | ⟨q, kind, height, color, id, target, state⟩
  · rfl
  · cases kind with
    | cracked => cases id <;> rfl
    | ground | void | teleport | door | switch => rfl

end Store

namespace Board

variable (level : Level) (store : Store) (p : Position)

theorem tileAt?_turned :
    (⟨some level.turned⟩ : Board).tileAt? (p.turned level.size) =
      ((⟨some level⟩ : Board).tileAt? p).map (Tile.turned level.size) := by
  have size : level.turned.size = level.size := rfl
  simp only [tileAt?, size, Position.inside_turned]
  split
  · exact Level.tileOn?_turned _ _ p
  · rfl

theorem heightAt_turned :
    (⟨some level.turned⟩ : Board).heightAt (p.turned level.size) = (⟨some level⟩ : Board).heightAt p := by
  rw [heightAt, heightAt, tileAt?_turned]
  cases (⟨some level⟩ : Board).tileAt? p <;> rfl

theorem isWalkable_turned :
    (⟨some level.turned⟩ : Board).isWalkable (store.turned level.size) (p.turned level.size) =
      (⟨some level⟩ : Board).isWalkable store p := by
  rw [isWalkable, isWalkable, tileAt?_turned]
  cases (⟨some level⟩ : Board).tileAt? p <;> rfl

theorem isGoal_turned :
    (⟨some level.turned⟩ : Board).isGoal (p.turned level.size) = (⟨some level⟩ : Board).isGoal p := by
  simp [isGoal, Level.turned]

theorem hasColor_turned (color : Label) :
    (⟨some level.turned⟩ : Board).hasColor (p.turned level.size) color = (⟨some level⟩ : Board).hasColor p color := by
  rw [hasColor, hasColor, tileAt?_turned]
  cases (⟨some level⟩ : Board).tileAt? p <;> rfl

end Board

/-! ## Commands -/

/-- A deed on a grid that has been turned. -/
def Deed.turned (n : Int) : Deed → Deed
  | turnedLeft before after => turnedLeft before.right after.right
  | turnedRight before after => turnedRight before.right after.right
  | teleported entered landing => teleported (entered.turned n) (landing.turned n)
  | stepped gait origin final => stepped gait (origin.turned n) (final.turned n)
  | blocked gait target => blocked gait (target.turned n)
  | refused gait target current height => refused gait (target.turned n) current height
  | lit goal => lit (goal.turned n)
  | noGoal cell => noGoal (cell.turned n)

/-- An attempt on a grid that has been turned. -/
def Attempt.turned (n : Int) (a : Attempt) : Attempt :=
  ⟨a.robot.turned n, a.lit.map (Position.turned n), a.store.turned n⟩

/-- A report on a grid that has been turned. -/
def Report.turned (n : Int) (r : Report) : Report := ⟨r.attempt.turned n, r.refusal, r.deeds.map (Deed.turned n)⟩

namespace Attempt

theorem atStart_turned (level : Level) : atStart level.turned = (atStart level).turned level.size := by
  rw [atStart, Store.ofLevel_turned]
  rfl

theorem arrive_turned (n : Int) (a : Attempt) (p : Position) :
    (a.turned n).arrive (p.turned n) = (a.arrive p).turned n := by
  have destination := Store.destination?_turned n a.store p
  have entered := Store.enter_turned n a.store p
  have left := Store.leave_turned n (a.store.enter p) a.robot.position
  simp only [arrive, turned, Pose.turned, destination, entered, left]
  cases a.store.destination? p <;> rfl

variable (level : Level) (rules : Rules) (a : Attempt)

theorem step_turned (gait : Gait) :
    (a.turned level.size).step ⟨some level.turned⟩ rules gait =
      (a.step ⟨some level⟩ rules gait).turned level.size := by
  have origin : (a.turned level.size).robot.position = a.robot.position.turned level.size := rfl
  have heading : (a.turned level.size).robot.heading = a.robot.heading.right := rfl
  have store : (a.turned level.size).store = a.store.turned level.size := rfl
  unfold step
  simp only [origin, heading, store, Position.ahead_turned, arrive_turned, Board.isWalkable_turned,
    Board.heightAt_turned, Store.destination?_turned]
  split
  · rfl
  · split
    · rfl
    · rw [Report.turned, List.map_append]
      cases a.store.destination? (a.robot.position.ahead a.robot.heading) <;> rfl

theorem light_turned :
    (a.turned level.size).light ⟨some level.turned⟩ = (a.light ⟨some level⟩).turned level.size := by
  have goal := Board.isGoal_turned level a.robot.position
  have lit : (a.robot.position.turned level.size ∈ a.lit.map (Position.turned level.size)) =
      (a.robot.position ∈ a.lit) := by simp
  unfold light
  dsimp only [turned, Pose.turned]
  rw [goal]
  simp only [lit]
  split
  · rfl
  · split
    · rfl
    · rw [Report.turned, turned, List.map_append]
      rfl

/-- Every command does after the turn what it does before it. -/
theorem execute_turned (name : String) :
    (a.turned level.size).execute ⟨some level.turned⟩ rules name =
      (a.execute ⟨some level⟩ rules name).turned level.size := by
  unfold execute
  cases Command.ofName? name with
  | none => rfl
  | some c =>
    cases c with
    | move => exact step_turned level rules a .move
    | jump => exact step_turned level rules a .jump
    | light => exact light_turned level a
    | turnLeft =>
      have heading : a.robot.heading.right.left = a.robot.heading.left.right := by simp
      simp only [Report.turned, turned, Pose.turned, turn, heading, List.map_cons, List.map_nil, Deed.turned]
    | turnRight => rfl
    | procedure => rfl

end Attempt

end Lamplighter
