/-
Lamplighter.Store — the live state of doors and cracked tiles.

* `Store` — one flag per tile id (a door is open, a cracked tile is safe), over the layout that the
  triggers read.
* `Store.ofLevel` — the flags that a level declares.
* `enter`, `leave` — the triggers of a cell: a switch toggles the id it works, a teleport names a
  destination, a cracked tile breaks when it is left.
-/
import Lamplighter.Level

namespace Lamplighter

/-! ## Flags by id -/

/-- Flags by id, in the order in which the ids were first set. An id has at most one flag. -/
abbrev Flags := List (Label × Bool)

namespace Flags

/-- The flag of an id. -/
def get? (flags : Flags) (id : Label) : Option Bool := flags.lookup id

/-- Set the flag of an id, whether or not it has one. -/
def set (id : Label) (value : Bool) : Flags → Flags
  | [] => [(id, value)]
  | (k, v) :: rest => if k = id then (k, value) :: rest else (k, v) :: set id value rest

@[simp] theorem get?_nil (id : Label) : get? [] id = none := rfl

theorem get?_cons (k : Label) (v : Bool) (rest : Flags) (id : Label) :
    get? ((k, v) :: rest) id = if id = k then some v else get? rest id := by
  by_cases h : id = k
  · simp [get?, h]
  · have : (id == k) = false := by simpa using h
    simp [get?, List.lookup_cons, this, h]

/-- Setting a flag is seen at its own id and at no other. -/
theorem get?_set (flags : Flags) (id other : Label) (value : Bool) :
    (flags.set id value).get? other = if other = id then some value else flags.get? other := by
  induction flags with
  | nil => simp [set, get?_cons]
  | cons entry rest ih =>
    obtain ⟨k, v⟩ := entry
    by_cases hk : k = id
    · subst hk
      by_cases ho : other = k <;> simp [set, get?_cons, ho]
    · by_cases ho : other = k
      · subst ho
        simp [set, get?_cons, hk]
      · simp [set, get?_cons, hk, ho, ih]

end Flags

/-! ## The store -/

/-- The live flags, with the layout whose triggers change them. -/
structure Store where
  layout : List Tile := []
  flags : Flags := []
  deriving DecidableEq, Repr, Inhabited

namespace Store

/-- The flag that a tile declares for its id, set over the others. -/
def declare (flags : Flags) (tile : Tile) : Flags :=
  match tile.id, tile.state with
  | some id, some state => flags.set id state
  | _, _ => flags

/-- The flags that a layout declares. Of two tiles that declare one id, the later one decides. -/
def declared (layout : List Tile) : Flags := layout.foldl declare []

/-- The store of a level, or an empty one without a level. -/
def ofLevel : Option Level → Store
  | none => {}
  | some level => { layout := level.layout, flags := declared level.layout }

/-- The flag of an id; none until the id is declared or a trigger sets it. -/
def get? (store : Store) (id : Label) : Option Bool := store.flags.get? id

/-- Set the flag of an id. -/
def set (store : Store) (id : Label) (value : Bool) : Store :=
  { store with flags := store.flags.set id value }

/-- Flip the flag of an id. An id without a flag counts as false. -/
def toggle (store : Store) (id : Label) : Store :=
  store.set id (!(store.get? id).getD false)

/-- Where a robot that steps on a cell is carried to: the tile that a teleport leads to, if the
teleport leads to one. -/
def destination? (store : Store) (p : Position) : Option Position :=
  match Level.tileOn? store.layout p with
  | some { kind := .teleport, target := some id, .. } =>
    (Level.tileNamed? store.layout id).map Tile.position
  | _ => none

/-- The trigger of stepping on a cell: a switch toggles the id that it works. -/
def enter (store : Store) (p : Position) : Store :=
  match Level.tileOn? store.layout p with
  | some { kind := .switch, target := some id, .. } => store.toggle id
  | _ => store

/-- The trigger of stepping off a cell: a cracked tile with an id breaks. -/
def leave (store : Store) (p : Position) : Store :=
  match Level.tileOn? store.layout p with
  | some { kind := .cracked, id := some id, .. } => store.set id false
  | _ => store

end Store

end Lamplighter
