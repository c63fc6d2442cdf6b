/-
Lamplighter.Proofs.Store — what triggers do, by the labels of the tiles they are on.

* `Level.labelOn?` — the label that a tile of some kind on a cell carries; `Level.works` — the cells whose switches work
  an id.
* `Store.destination?_eq`, `Store.get?_entered`, `Store.get?_left` — the triggers as they are seen at one id.
* `Store.get?_enter`, `Store.get?_leave`, `Store.get?_leave_cracked` — the same on well-formed levels, by their tiles.
-/
import Lamplighter.Proofs.Level

namespace Lamplighter

/-! ## Labels on cells -/

/-- The flag of an id that a switch has toggled. -/
def Flags.flipped (v : Option Bool) : Option Bool := some (!v.getD false)

namespace Level

/-- The label that a tile of some kind on a cell carries. -/
def labelOn? (layout : List Tile) (kind : TileKind) (label : Tile → Option Label) (p : Position) : Option Label :=
  (tileOn? layout p).bind fun t => if t.kind = kind then label t else none

theorem mem_of_labelOn? {layout : List Tile} {kind : TileKind} {label : Tile → Option Label} {p : Position} {id : Label}
    (found : labelOn? layout kind label p = some id) :
    ∃ t ∈ layout, t.position = p ∧ t.kind = kind ∧ label t = some id := by
  obtain ⟨t, on, found⟩ := Option.bind_eq_some_iff.mp found
  obtain ⟨there, position⟩ := mem_of_tileOn? on
  split at found
  · rename_i sort
    exact ⟨t, there, position, sort, found⟩
  · cases found

theorem labelOn?_eq_some {layout : List Tile} (distinct : (layout.map Tile.position).Nodup) {kind : TileKind}
    {label : Tile → Option Label} {p : Position} {id : Label} :
    labelOn? layout kind label p = some id ↔ ∃ t ∈ layout, t.position = p ∧ t.kind = kind ∧ label t = some id := by
  refine ⟨mem_of_labelOn?, ?_⟩
  rintro ⟨t, there, rfl, rfl, named⟩
  simp [labelOn?, tileOn?_of_mem distinct there, named]

/-- Whether the tile on a cell is a switch that works an id. -/
def works (level : Level) (id : Label) (p : Position) : Bool :=
  level.layout.any fun t => t.position = p ∧ t.kind = .switch ∧ t.target = some id

theorem works_iff {level : Level} {id : Label} {p : Position} :
    level.works id p = true ↔ ∃ t ∈ level.layout, t.position = p ∧ t.kind = .switch ∧ t.target = some id := by
  simp [works]

end Level

/-! ## Triggers by labels -/

namespace Store

/-- Where a teleport carries a robot: to the first tile that carries the teleport's id. -/
theorem destination?_eq (store : Store) (p : Position) :
    store.destination? p = ((Level.labelOn? store.layout .teleport Tile.target p).bind
      (Level.tileNamed? store.layout)).map Tile.position := by
  unfold destination? Level.labelOn?
  rcases Level.tileOn? store.layout p with _ | ⟨position, kind, height, color, name, target, state⟩
  · rfl
  · cases kind <;> cases target <;> rfl

theorem get?_toggle (store : Store) (id target : Label) :
    (store.toggle target).get? id = if target = id then Flags.flipped (store.get? id) else store.get? id := by
  have set := store.flags.get?_set target id (!(store.get? target).getD false)
  refine set.trans ?_
  by_cases same : target = id
  · simp [same, Flags.flipped]
  · rw [if_neg same, if_neg (fun h => same h.symm)]
    rfl

/-- To step on a cell flips the flag of the id that a switch there works, and no other. -/
theorem get?_entered (store : Store) (p : Position) (id : Label) :
    (store.enter p).get? id =
      if Level.labelOn? store.layout .switch Tile.target p = some id then Flags.flipped (store.get? id)
      else store.get? id := by
  unfold enter Level.labelOn?
  rcases Level.tileOn? store.layout p with _ | ⟨position, kind, height, color, name, target, state⟩
  · simp
  · cases kind <;> cases target <;> simp [get?_toggle]

/-- To step off a cell shuts the flag of a cracked tile there, and no other. -/
theorem get?_left (store : Store) (p : Position) (id : Label) :
    (store.leave p).get? id =
      if Level.labelOn? store.layout .cracked Tile.id p = some id then some false else store.get? id := by
  have shut (name : Label) : (store.set name false).get? id = if name = id then some false else store.get? id := by
    refine (store.flags.get?_set name id false).trans ?_
    by_cases same : name = id
    · simp [same]
    · rw [if_neg same, if_neg (fun h => same h.symm)]
      rfl
  unfold leave Level.labelOn?
  rcases Level.tileOn? store.layout p with _ | ⟨position, kind, height, color, name, target, state⟩
  · simp
  · cases kind <;> cases name <;> simp [shut]

/-- To step off a cell shuts flags, and opens none. -/
theorem get?_leave_cases (store : Store) (p : Position) (id : Label) :
    (store.leave p).get? id = store.get? id ∨ (store.leave p).get? id = some false := by
  rw [get?_left]
  split
  · exact .inr rfl
  · exact .inl rfl

/-! ### On well-formed levels -/

section WellFormed

variable {level : Level} {store : Store} (layout : store.layout = level.layout) (id : Label) (p : Position)

include layout

/-- To step on a cell flips the flags of the ids that a switch there works, and no other. -/
theorem get?_enter (formed : level.WellFormed) :
    (store.enter p).get? id = if level.works id p then Flags.flipped (store.get? id) else store.get? id := by
  have works : level.works id p = true ↔ Level.labelOn? store.layout .switch Tile.target p = some id := by
    rw [layout, Level.labelOn?_eq_some formed.distinct, Level.works_iff]
  simp only [get?_entered, works]

/-- To step off a cell changes no flags but those of cracked tiles. -/
theorem get?_leave (whole : ∀ t ∈ level.layout, t.kind = .cracked → t.id ≠ some id) :
    (store.leave p).get? id = store.get? id := by
  rw [get?_left, layout, if_neg]
  intro found
  obtain ⟨t, there, -, kind, named⟩ := Level.mem_of_labelOn? found
  exact whole t there kind named

/-- To step off a cracked tile breaks it. -/
theorem get?_leave_cracked (formed : level.WellFormed) {t : Tile} (there : t ∈ level.layout) (kind : t.kind = .cracked)
    (named : t.id = some id) : (store.leave t.position).get? id = some false := by
  have found := (Level.labelOn?_eq_some formed.distinct).mpr ⟨t, there, rfl, kind, named⟩
  rw [get?_left, layout, if_pos found]

end WellFormed

end Store

end Lamplighter
