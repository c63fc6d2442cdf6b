/-
Lamplighter.Proofs.Run.ThinIce — cracked tiles cannot be crossed twice.

* `Attempt.chances` — how many strides may still be aimed at a cracked tile: one, unless it is broken or stood on.
* `Thin`, `Thin.execute`, `thin_strides` — each stride that is aimed at the tile uses a chance up, and nothing gives
  one back.
* `slide` — a level on which every stride carries the robot back onto its cracked tile.

A teleport asks nothing of the tile that it leads to, and is aimed at another one. To leave the tile after that breaks
it all the same.
-/
import Lamplighter.Proofs.Run.Strides

namespace Lamplighter

/-! ## Chances -/

/-- How many strides may still be aimed at a cracked tile: none once it is broken, or while the robot stands on it. -/
def Attempt.chances (tile : Tile) (id : Label) (a : Attempt) : Nat :=
  if a.store.get? id = some false ∨ a.robot.position = tile.position then 0 else 1

/-- How many strides are aimed at a tile. -/
def Tile.entries (tile : Tile) (strides : List Stride) : Nat := strides.countP fun s => s.aim = tile.position

/-- A cracked tile that carries an id which no switch works. -/
structure Level.ThinIce (level : Level) (tile : Tile) (id : Label) : Prop where
  there : tile ∈ level.layout
  cracked : tile.kind = .cracked
  named : tile.id = some id
  unworked : ∀ t ∈ level.layout, t.kind = .switch → t.target ≠ some id

namespace Attempt

variable {level : Level} {tile : Tile} {id : Label} {a : Attempt}

theorem chances_le_one (tile : Tile) (id : Label) (a : Attempt) : a.chances tile id ≤ 1 := by
  unfold chances
  split <;> omega

theorem chances_eq_zero : a.chances tile id = 0 ↔ a.store.get? id = some false ∨ a.robot.position = tile.position := by
  unfold chances
  split <;> simp [*]

section Ice

variable (formed : level.WellFormed) (ice : level.ThinIce tile id) (layout : a.store.layout = level.layout)

include formed ice layout

/-- A step onto the tile ends there, and was a chance. -/
theorem chances_entered (walkable : (⟨some level⟩ : Board).isWalkable a.store tile.position = true)
    (ahead : a.ahead = tile.position) : a.chances tile id = 1 ∧ (a.arrive tile.position).chances tile id = 0 := by
  have found := Level.tileOn?_of_mem formed.distinct ice.there
  have whole : a.store.get? id ≠ some false := by
    intro broken
    have inside := formed.inside tile ice.there
    simp only [Board.isWalkable, Board.tileAt?, if_pos inside, found, Board.canStand, ice.cracked, ice.named,
      broken] at walkable
    cases walkable
  have elsewhere : a.robot.position ≠ tile.position := fun same => a.ahead_ne (ahead.trans same.symm)
  have stays : a.store.destination? tile.position = none := by
    simp [Store.destination?_eq, layout, Level.labelOn?, found, ice.cracked]
  refine ⟨if_neg (by simp [whole, elsewhere]), chances_eq_zero.mpr (.inr ?_)⟩
  rw [arrive, stays]
  rfl

/-- No step gives a chance back: a tile that is left breaks, and stays broken. -/
theorem chances_arrive (target : Position) : (a.arrive target).chances tile id ≤ a.chances tile id := by
  rcases Nat.eq_zero_or_pos (a.chances tile id) with none | one
  · have entered : (a.store.enter target).get? id = a.store.get? id := by
      refine (Store.get?_enter layout id target formed).trans (if_neg ?_)
      rw [Level.works_iff]
      rintro ⟨t, there, -, kind, works⟩
      exact ice.unworked t there kind works
    have broken : (a.arrive target).store.get? id = some false := by
      rcases chances_eq_zero.mp none with broken | on
      · rcases Store.get?_leave_cases (a.store.enter target) a.robot.position id with same | shut
        · exact same.trans (entered.trans broken)
        · exact shut
      · have left : (a.store.enter target).layout = level.layout := by simpa using layout
        have breaks := Store.get?_leave_cracked left id formed ice.there ice.cracked ice.named
        rw [← on] at breaks
        exact breaks
    have after : (a.arrive target).chances tile id = 0 := chances_eq_zero.mpr (.inl broken)
    omega
  · have := (a.arrive target).chances_le_one tile id
    omega

end Ice

end Attempt

/-! ## Runs -/

/-- An attempt on a level in which the strides so far that were aimed at a tile, and the chances that are left, are no
more than there were chances at first. -/
structure Thin (level : Level) (tile : Tile) (id : Label) (chances : Nat) (a : Attempt) (strides : List Stride) :
    Prop where
  layout : a.store.layout = level.layout
  left : tile.entries strides + a.chances tile id ≤ chances

/-- Every command keeps to the chances. -/
theorem Thin.execute {level : Level} {tile : Tile} {id : Label} {chances : Nat} {a : Attempt} {strides : List Stride}
    (h : Thin level tile id chances a strides) (formed : level.WellFormed) (ice : level.ThinIce tile id)
    {setup : Setup} (board : setup.board = ⟨some level⟩) (name : String) :
    Thin level tile id chances (a.execute setup.board setup.rules name).attempt
      (strides ++ (setup.stride? name a).toList) := by
  refine ⟨(a.execute_layout setup.board setup.rules name).trans h.layout, ?_⟩
  have left := h.left
  cases setup.paces name a with
  | strode taken walkable arrived =>
    rw [taken, arrived, Option.toList_some, Tile.entries, List.countP_append, List.countP_singleton]
    by_cases onto : a.ahead = tile.position
    · rw [onto, board] at walkable
      obtain ⟨before, after⟩ := Attempt.chances_entered formed ice h.layout walkable onto
      rw [onto, after, if_pos (by simp)]
      rw [before] at left
      exact left
    · have kept := Attempt.chances_arrive formed ice h.layout a.ahead
      rw [if_neg (by simpa using onto)]
      unfold Tile.entries at left
      omega
  | stayed taken position store =>
    have same : (a.execute setup.board setup.rules name).attempt.chances tile id = a.chances tile id := by
      rw [Attempt.chances, position, store]
      rfl
    rw [taken, Option.toList_none, List.append_nil, same]
    exact left

/-- A run takes no more strides to a cracked tile than it has chances at its start. -/
theorem thin_strides {σ : Type} {setup : Setup} {around : Surroundings σ} {level : Level} {tile : Tile} {id : Label}
    {m : Stage σ} (formed : level.WellFormed) (ice : level.ThinIce tile id) (board : setup.board = ⟨some level⟩)
    (aloof : around.Aloof) (layout : m.attempt.store.layout = level.layout) (p : Program) (root : Path) :
    tile.entries (setup.strides around p root m) ≤ m.attempt.chances tile id := by
  have thin := setup.play_strides around (I := Thin level tile id (m.attempt.chances tile id))
    (fun name a strides h => h.execute formed ice board name)
    (fun l hl e n strides h => by rwa [aloof.told l hl e n]) (fun n strides h => by rwa [aloof.pause n])
    (fun n strides h => by rwa [aloof.checkpoint n]) p root ⟨layout, by simp [Tile.entries]⟩
  exact Nat.le_trans (Nat.le_add_right _ _) thin.left

/-! ## Slides -/

/-- A level whose cracked tile is next to a teleport that leads back onto it. -/
def slide : Level where
  id := 1
  size := 2
  layout := [{ position := ⟨0, 0⟩, kind := .cracked, id := some (.ofString "ice") },
    { position := ⟨1, 0⟩, kind := .teleport, target := some (.ofString "ice") }]
  start := ⟨⟨0, 0⟩, .east⟩
  maxCommands := 5

/-- The stride that is to be had at the start of this level. -/
def slip : Stride := ⟨⟨1, 0⟩, ⟨0, 0⟩⟩

/-- What a run on this level is made with. -/
def sliding : Setup := ⟨⟨some slide⟩, .standard 1, 10, false⟩

/-- The robot is back at the start of this level, whatever the flags are by now. -/
structure Slid (m : Stage Unit × List Stride) (strides : List Stride) : Prop where
  robot : m.1.attempt.robot = slide.start
  layout : m.1.attempt.store.layout = slide.layout
  heeded : m.1.cancelled = false
  strides : m.2 = strides

theorem slide_again (i : Nat) (rest : Program) {m : Stage Unit × List Stride} {strides : List Stride}
    (h : Slid m strides) :
    ∃ n, Slid n (strides ++ [slip]) ∧
      (sliding.pacing deserted).runFrom [] i (.ofCommand (some "MOVE") :: rest) m =
        (sliding.pacing deserted).runFrom [] (i + 1) rest n := by
  obtain ⟨⟨⟨pose, lit, ⟨tiles, flags⟩⟩, cancelled, path, active, failure, world⟩, paced⟩ := m
  obtain rfl : pose = slide.start := h.robot
  obtain rfl : tiles = slide.layout := h.layout
  obtain rfl : cancelled = false := h.heeded
  obtain rfl : paced = strides := h.strides
  -- the command turns out the same whatever the flags are: that the tile is broken does not stop the teleport
  let store : Store := (Store.enter ⟨slide.layout, flags⟩ ⟨1, 0⟩).leave ⟨0, 0⟩
  refine ⟨(⟨⟨slide.start, lit, store⟩, false, [(i : Int)], none, failure, world⟩, paced ++ [slip]),
    ⟨rfl, rfl, rfl, rfl⟩, ?_⟩
  rw [Crew.runFrom_cons]
  rfl

theorem slide_strides (n i : Nat) {m : Stage Unit × List Stride} {strides : List Stride} (h : Slid m strides) :
    ((sliding.pacing deserted).runFrom [] i (List.replicate n (.ofCommand (some "MOVE"))) m).2.2 =
      strides ++ List.replicate n slip := by
  induction n generalizing i m strides with
  | zero =>
    rw [List.replicate_zero, Crew.runFrom_nil, List.replicate_zero, List.append_nil]
    exact h.strides
  | succ n ih =>
    obtain ⟨m', again, same⟩ := slide_again i (List.replicate n (.ofCommand (some "MOVE"))) h
    rw [List.replicate_succ, same, ih (i + 1) again, List.append_assoc, List.replicate_succ]
    rfl

/-! ## Thin ice -/

/-- Levels that have been read have no faults. In every run on a level without faults, before watchers who leave the
attempt alone, at most one stride is aimed at a cracked tile whose id no switch works, and none if the run starts with
the tile broken. Teleports may carry the robot onto such a tile any number of times. -/
theorem thin_ice :
    (∀ (j : Json) (level : Level), Level.decode j = .good level → level.layoutFault? = none) ∧
    (∀ (σ : Type) (setup : Setup) (around : Surroundings σ) (level : Level) (tile : Tile) (id : Label) (p : Program)
      (root : Path) (m : Stage σ), level.layoutFault? = none → level.ThinIce tile id →
      setup.board = ⟨some level⟩ → m.attempt.store.layout = level.layout → around.Aloof →
      let done := setup.play around p root m
      let strides := setup.strides around p root m
      (setup.pacing around).run p root (m, []) = (done.1, done.2, strides) ∧
        tile.entries strides ≤ 1 ∧
        (m.attempt.store.get? id = some false → tile.entries strides = 0)) ∧
    ∀ n : Nat, ∃ (setup : Setup) (around : Surroundings Unit) (level : Level) (tile : Tile) (id : Label) (p : Program)
      (m : Stage Unit), level.layoutFault? = none ∧ level.ThinIce tile id ∧ setup.board = ⟨some level⟩ ∧
      m.attempt = .atStart level ∧ around.Aloof ∧
      (setup.strides around p [] m).countP (fun s => s.landing = tile.position ∧ s.aim ≠ tile.position) = n := by
  refine ⟨fun j level read => Level.layoutFault?_of_decode read, ?_, ?_⟩
  · intro σ setup around level tile id p root m faultless ice board layout aloof done strides
    have few := thin_strides (Level.layoutFault?_eq_none.mp faultless) ice board aloof layout p root
    refine ⟨setup.run_pacing around p root m, Nat.le_trans few (m.attempt.chances_le_one tile id), fun broken => ?_⟩
    rw [Attempt.chances_eq_zero.mpr (.inl broken)] at few
    exact Nat.le_zero.mp few
  · intro n
    have ice : slide.ThinIce { position := ⟨0, 0⟩, kind := .cracked, id := some (.ofString "ice") } (.ofString "ice") :=
      ⟨List.mem_cons_self, rfl, rfl, by decide⟩
    refine ⟨sliding, deserted, slide, _, _, List.replicate n (.ofCommand (some "MOVE")),
      { attempt := .atStart slide, world := () }, by decide, ice, rfl, rfl, deserted_aloof, ?_⟩
    have strides := slide_strides n 0 (m := ({ attempt := .atStart slide, world := () }, [])) ⟨rfl, rfl, rfl, rfl⟩
    rw [Setup.strides, Crew.run, strides, List.nil_append, List.countP_replicate]
    rfl

/-- A level on which the way east leads over a cracked tile. -/
def pond : Level where
  id := 1
  size := 3
  layout := [{ position := ⟨0, 0⟩ },
    { position := ⟨1, 0⟩, kind := .cracked, id := some (.ofString "floe"), state := some true },
    { position := ⟨2, 0⟩ }]
  start := ⟨⟨0, 0⟩, .east⟩
  maxCommands := 8

/-- A program that crosses the tile, and tries to come back. -/
def thereAndBack : Program :=
  [.ofCommand (some "MOVE"), .ofCommand (some "MOVE"), .ofCommand (some "TURN_L"), .ofCommand (some "TURN_L"),
    .ofCommand (some "MOVE")]

theorem thin_ice_pond :
    let setup : Setup := ⟨⟨some pond⟩, .standard 1, 10, false⟩
    let tile : Tile := { position := ⟨1, 0⟩, kind := .cracked, id := some (.ofString "floe"), state := some true }
    let fresh : Stage Unit := { attempt := .atStart pond, world := () }
    let broken : Stage Unit := { fresh with attempt.store := (Store.ofLevel (some pond)).set (.ofString "floe") false }
    (setup.play deserted thereAndBack [] fresh).1 = .failure ∧
      tile.entries (setup.strides deserted thereAndBack [] fresh) = 1 ∧
      tile.entries (setup.strides deserted thereAndBack [] fresh) ≤ 1 ∧
      tile.entries (setup.strides deserted thereAndBack [] broken) = 0 := by
  intro setup tile fresh broken
  have ice : pond.ThinIce tile (.ofString "floe") :=
    ⟨List.mem_cons_of_mem _ List.mem_cons_self, rfl, rfl, by decide⟩
  obtain ⟨-, once, -⟩ := thin_ice.2.1 Unit setup deserted pond tile (.ofString "floe") thereAndBack [] fresh (by decide)
    ice rfl rfl deserted_aloof
  obtain ⟨-, -, never⟩ := thin_ice.2.1 Unit setup deserted pond tile (.ofString "floe") thereAndBack [] broken
    (by decide) ice rfl rfl deserted_aloof
  exact ⟨by decide +kernel, by decide +kernel, once, never (by decide)⟩

end Lamplighter
