/-
Lamplighter.Proofs.Run.Footing — the robot never leaves the tiles of its level.

* `Level.Receives` — the tiles that teleports lead to; `Level.Footing` — the cells on which a robot may be found.
* `Attempt.Stands.execute` — every command keeps the robot on them.
* `Surroundings.Careful`, `steady_recording` — so does every run before watchers who do not take the robot off them.

A step is refused onto a void, a shut door or a broken tile, but a teleport asks nothing of the tile that it leads
to, which may be a void. It is a tile of the layout all the same.
-/
import Lamplighter.Proofs.Attempt
import Lamplighter.Proofs.Store
import Lamplighter.Proofs.Run.Recording

namespace Lamplighter

/-! ## Footing -/

namespace Level

/-- A tile that a teleport leads to: the first in the layout that carries the id that the teleport names. -/
def Receives (level : Level) (t : Tile) : Prop :=
  ∃ gate ∈ level.layout, gate.kind = .teleport ∧ ∃ id, gate.target = some id ∧ tileNamed? level.layout id = some t

/-- A cell on which a robot may be found: that of a tile which is not void, unless a teleport leads there. -/
def Footing (level : Level) (p : Position) : Prop :=
  ∃ t ∈ level.layout, t.position = p ∧ (t.kind ≠ .void ∨ level.Receives t)

/-- In a well-formed level, such a cell lies in the grid. -/
theorem Footing.inside {level : Level} {p : Position} (h : level.Footing p) (formed : level.WellFormed) :
    Inside level.size p := by
  obtain ⟨t, there, rfl, -⟩ := h
  exact formed.inside t there

/-- The start of a well-formed level is such a cell. -/
theorem WellFormed.footing {level : Level} (formed : level.WellFormed) : level.Footing level.start.position := by
  obtain ⟨t, there, position, solid⟩ := formed.start_on_tile
  exact ⟨t, there, position, .inl solid⟩

end Level

/-! ## Commands -/

/-- A cell can be walked on only if it has a tile that is not void. -/
theorem Board.footing_of_isWalkable {level : Level} {store : Store} {p : Position}
    (h : (⟨some level⟩ : Board).isWalkable store p = true) : level.Footing p := by
  unfold isWalkable tileAt? at h
  dsimp only at h
  split at h
  · rename_i t found
    split at found
    · obtain ⟨there, position⟩ := Level.mem_of_tileOn? found
      refine ⟨t, there, position, .inl (fun void => ?_)⟩
      rw [canStand, void] at h
      cases h
    · cases found
  · cases h

/-- Whatever carries a robot away carries it to a tile. -/
theorem Store.footing_of_destination? {level : Level} {store : Store} (layout : store.layout = level.layout)
    {p landing : Position} (h : store.destination? p = some landing) : level.Footing landing := by
  rw [Store.destination?_eq, layout] at h
  obtain ⟨t, led, rfl⟩ := Option.map_eq_some_iff.mp h
  obtain ⟨id, gate, named⟩ := Option.bind_eq_some_iff.mp led
  obtain ⟨teleport, there, -, kind, target⟩ := Level.mem_of_labelOn? gate
  exact ⟨t, List.mem_of_find?_eq_some named, rfl, .inr ⟨teleport, there, kind, id, target, named⟩⟩

namespace Attempt

/-- An attempt on a level: its triggers are those of the level, and the robot has footing. -/
structure Stands (level : Level) (a : Attempt) : Prop where
  layout : a.store.layout = level.layout
  footing : level.Footing a.robot.position

/-- Every command keeps the robot's footing. -/
theorem Stands.execute {level : Level} {a : Attempt} (h : a.Stands level) (rules : Rules) (name : String) :
    (a.execute ⟨some level⟩ rules name).attempt.Stands level := by
  have layout := (a.execute_layout ⟨some level⟩ rules name).trans h.layout
  refine ⟨layout, ?_⟩
  cases effect : a.execute ⟨some level⟩ rules name with
  | mk after refusal deeds =>
    have effects := a.execute_effect ⟨some level⟩ rules name
    rw [effect] at effects
    cases effects with
    | still => exact h.footing
    | turned => exact h.footing
    | lit => exact h.footing
    | arrived target walkable =>
      unfold arrive
      cases carried : a.store.destination? target with
      | none => exact Board.footing_of_isWalkable walkable
      | some landing => exact Store.footing_of_destination? h.layout carried

end Attempt

/-! ## Runs -/

/-- Watchers who leave the robot of a run with footing if they find it so. They may put it anywhere on the level. -/
structure Surroundings.Careful {σ : Type} (level : Level) (around : Surroundings σ) : Prop where
  told : ∀ l ∈ around.listeners, ∀ e m, m.attempt.Stands level → (l e m).2.attempt.Stands level
  pause : ∀ m, m.attempt.Stands level → (around.pause m).2.attempt.Stands level
  checkpoint : ∀ m, m.attempt.Stands level → (around.checkpoint m).2.attempt.Stands level

section Recording

variable {σ : Type} {level : Level} {around : Surroundings σ}

/-- Watchers who leave the attempt alone are careful with it. -/
theorem Surroundings.Aloof.careful (aloof : around.Aloof) : around.Careful level where
  told l hl e m standing := by rwa [aloof.told l hl e m]
  pause m standing := by rwa [aloof.pause m]
  checkpoint m standing := by rwa [aloof.checkpoint m]

/-- A run on record whose robot has footing, and had it at every beat. -/
structure Steady (level : Level) (m : Stage (σ × List Beat)) : Prop where
  now : m.attempt.Stands level
  always : ∀ x ∈ m.log, x.attempt.Stands level

theorem Steady.note {m : Stage (σ × List Beat)} (h : Steady level m) (occasion : Occasion) :
    Steady level (m.note occasion) where
  now := h.now
  always := by
    rw [Stage.note_log]
    intro x hx
    rcases List.mem_append.mp hx with hx | hx
    · exact h.always x hx
    · rw [List.mem_singleton.mp hx]
      exact h.now

/-- In a run before careful watchers, everyone keeps the robot's footing. -/
theorem Surroundings.Careful.recorded (careful : around.Careful level) {setup : Setup}
    (board : setup.board = ⟨some level⟩) : around.recorded.Keeps setup (Steady level) where
  walked m path active steady := ⟨steady.now, steady.always⟩
  begun name m steady := by
    refine ⟨?_, steady.always⟩
    rw [Setup.begin, Setup.report, board]
    exact steady.now.execute setup.rules name
  told l hl e m _ steady := by
    rcases List.mem_cons.mp hl with rfl | lifted
    · exact steady.note _
    · obtain ⟨l, there, rfl⟩ := List.mem_map.mp lifted
      exact ⟨careful.told l there e _ steady.now, steady.always⟩
  printed r m steady := ⟨steady.now, steady.always⟩
  pause m steady := ⟨careful.pause _ steady.now, (steady.note .pause).always⟩
  checkpoint m steady := ⟨careful.checkpoint _ steady.now, (steady.note .checkpoint).always⟩

/-- The robot of a run that starts with footing has it at every event and every suspension, and when the run is
over. -/
theorem steady_recording (careful : around.Careful level) {setup : Setup} (board : setup.board = ⟨some level⟩)
    (p : Program) (root : Path) {m : Stage σ} (start : m.attempt.Stands level) :
    Steady level (setup.recording around p root m).2 :=
  (careful.recorded board).play p root ⟨start, fun x hx => by cases hx⟩

end Recording

end Lamplighter
