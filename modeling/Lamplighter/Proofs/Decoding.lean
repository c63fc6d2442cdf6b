/-
Lamplighter.Proofs.Decoding — which levels can be read, and that they can be read from their dumps.

* `Checked.ap_good`, `Decode.list_good`, `Decode.required_good` — when a part of a value is decoded without an issue.
* `Decode.Codec` — a way to read and a way to write values: whatever is read has a property, and whatever has the
  property is read back from what is written. There is one for every kind of scalar, for lists and for what may be null.
* `Level.Fields`, `Level.decode_good` — the members of an object from which a level is read, field by field.
* `Level.Readable`, `Level.codec` — the levels that can be read: their numbers are within bounds and can be written,
  and their layout has no fault. Texts, kinds and palettes may be anything.
-/
import Lamplighter.Decoding.Dump
import Lamplighter.Proofs.Level
import Mathlib.Data.List.Forall2

namespace Lamplighter

/-! ## Checked values -/

namespace Checked

variable {α β : Type}

theorem map_good {f : α → β} {c : Checked α} {b : β} : c.map f = .good b ↔ ∃ a, c = .good a ∧ f a = b := by
  cases c <;> simp [map]

theorem ap_good {f : Checked (α → β)} {c : Checked α} {b : β} :
    f.ap c = .good b ↔ ∃ g a, f = .good g ∧ c = .good a ∧ g a = b := by
  cases f <;> cases c <;> simp [ap]

theorem andThen_good {c : Checked α} {f : α → Checked β} {b : β} :
    c.andThen f = .good b ↔ ∃ a, c = .good a ∧ f a = .good b := by
  cases c <;> simp [andThen]

theorem within_good {place : Place} {c : Checked α} {a : α} : c.within place = .good a ↔ c = .good a := by
  cases c <;> simp [within]

end Checked

namespace Decode

open Checked

variable {α : Type} {read : Json → Checked α}

/-! ## Parts of values -/

theorem items_good {i : Nat} {js : List Json} {l : List α} :
    items read i js = .good l ↔ List.Forall₂ (fun j a => read j = .good a) js l := by
  induction js generalizing i l with
  | nil => simp [items, eq_comm]
  | cons j rest ih =>
    simp only [items, ap_good, map_good, within_good, ih, List.forall₂_cons_left_iff]
    constructor
    · rintro ⟨_, more, ⟨a, first, rfl⟩, rest, rfl⟩
      exact ⟨a, more, first, rest, rfl⟩
    · rintro ⟨a, more, first, rest, rfl⟩
      exact ⟨_, more, ⟨a, first, rfl⟩, rest, rfl⟩

theorem list_good {j : Json} {l : List α} :
    list read j = .good l ↔ ∃ js, j = .arr js ∧ List.Forall₂ (fun j a => read j = .good a) js l := by
  cases j <;> simp [list, Checked.wrong, items_good]

/-- A field with one spelling is the member of that name. -/
theorem Field.find?_of_name (name : String) (m : List (String × Json)) :
    Field.find? ⟨name, none⟩ m = (Json.member? m name).map fun j => (name, j) := by
  unfold Field.find? Field.label
  dsimp only [Option.getD_none]
  cases Json.member? m name <;> rfl

theorem required_good {f : Field} {m : List (String × Json)} {a : α} :
    required f read m = .good a ↔ ∃ found, f.find? m = some found ∧ read found.2 = .good a := by
  unfold required
  split
  · rename_i k j found
    simp [found, within_good]
  · rename_i none
    simp [none]

theorem optional_good {f : Field} {default a : α} {m : List (String × Json)} :
    optional f default read m = .good a ↔
      (f.find? m = none ∧ default = a) ∨ ∃ found, f.find? m = some found ∧ read found.2 = .good a := by
  unfold optional
  split
  · rename_i k j found
    simp [found, within_good]
  · rename_i none
    simp [none]

theorem integer_good {j : Json} {n : Int} :
    integer j = .good n ↔ anyInteger j = .good n ∧ Numeral.isWritable n = true := by
  simp only [integer, andThen_good]
  constructor
  · rintro ⟨m, read, fits⟩
    split at fits
    · cases fits
      exact ⟨read, by assumption⟩
    · cases fits
  · rintro ⟨read, fits⟩
    exact ⟨n, read, if_pos fits⟩

theorem integerFrom_good {bound : Int} {j : Json} {n : Int} :
    integerFrom bound j = .good n ↔ integer j = .good n ∧ bound ≤ n := by
  simp only [integerFrom, andThen_good]
  constructor
  · rintro ⟨m, read, fits⟩
    split at fits
    · cases fits
    · cases fits
      exact ⟨read, by omega⟩
  · rintro ⟨read, fits⟩
    exact ⟨n, read, if_neg (by omega)⟩

/-! ## Reading and writing -/

/-- `read` gives nothing but values with the property `p`, and gives each of them from what `write` makes of it. -/
structure Codec (read : Json → Checked α) (write : α → Json) (p : α → Prop) : Prop where
  sound : ∀ {j a}, read j = .good a → p a
  complete : ∀ {a}, p a → read (write a) = .good a

namespace Codec

/-- What is read is read back from what is written. -/
theorem restores {write : α → Json} {p : α → Prop} (c : Codec read write p) {j : Json} {a : α} (h : read j = .good a) :
    read (write a) = .good a :=
  c.complete (c.sound h)

theorem string : Codec string .str (fun _ => True) := ⟨fun _ => trivial, fun _ => rfl⟩

theorem boolean : Codec boolean .bool (fun _ => True) := ⟨fun _ => trivial, fun _ => rfl⟩

theorem label : Codec label .ofLabel (fun _ => True) where
  sound _ := trivial
  complete {l} _ := by
    unfold Json.ofLabel
    split
    · rename_i s whole
      rw [Label.whole?_eq_some.mp whole]
      rfl
    · rfl

theorem integer : Codec integer .int (fun n => Numeral.isWritable n = true) where
  sound h := (integer_good.mp h).2
  complete h := integer_good.mpr ⟨rfl, h⟩

theorem integerFrom (bound : Int) :
    Codec (integerFrom bound) .int (fun n => Numeral.isWritable n = true ∧ bound ≤ n) where
  sound h := ⟨integer.sound (integerFrom_good.mp h).1, (integerFrom_good.mp h).2⟩
  complete h := integerFrom_good.mpr ⟨integer.complete h.1, h.2⟩

/-- Names that tell the values apart. -/
theorem oneOf {all : List α} {name : α → String}
    (named : ∀ a, all.find? (fun b => name b == name a) = some a) :
    Codec (oneOf all name) (fun a => .str (name a)) (fun _ => True) where
  sound _ := trivial
  complete {a} _ := by simp only [Decode.oneOf, named]

variable {write : α → Json} {p : α → Prop}

/-- A property that every value has need not be asked for. -/
theorem anyway (c : Codec read write p) (all : ∀ a, p a) : Codec read write (fun _ => True) :=
  ⟨fun _ => trivial, fun _ => c.complete (all _)⟩

section Compound

variable (c : Codec read write p)

include c

/-- What may be null, unless null is what a value is written as. -/
theorem nullable {write? : Option α → Json} (absent : write? none = .null) (present : ∀ a, write? (some a) = write a)
    (never : ∀ a, write a ≠ .null) : Codec (nullable read) write? (fun o => ∀ a ∈ o, p a) where
  sound {j o} h := by
    unfold Decode.nullable at h
    split at h
    · cases h
      exact nofun
    · obtain ⟨a, first, rfl⟩ := map_good.mp h
      rintro _ ⟨⟩
      exact c.sound first
  complete {o} h := by
    cases o with
    | none => rw [absent, Decode.nullable]
    | some a =>
      rw [present]
      unfold Decode.nullable
      split
      · rename_i null
        exact absurd null (never a)
      · rw [c.complete (h a rfl), Checked.map]

theorem items (i : Nat) (l : List α) (h : ∀ a ∈ l, p a) : Decode.items read i (l.map write) = .good l := by
  rw [items_good, List.forall₂_map_left_iff, List.forall₂_same]
  exact fun a there => c.complete (h a there)

theorem of_items {i : Nat} {js : List Json} {l : List α} (h : Decode.items read i js = .good l) : ∀ a ∈ l, p a := by
  intro a there
  rw [items_good] at h
  induction h with
  | nil => cases there
  | cons first _ ih =>
    rcases List.mem_cons.mp there with rfl | later
    · exact c.sound first
    · exact ih later

theorem list : Codec (list read) (fun l => .arr (l.map write)) (fun l => ∀ a ∈ l, p a) where
  sound {j _} h := by
    cases j with
    | arr js => exact c.of_items h
    | _ => cases h
  complete {l} h := c.items 0 l h

theorem tuple : Codec (tuple read) (fun l => .arr (l.map write)) (fun l => ∀ a ∈ l, p a) where
  sound {j _} h := by
    cases j with
    | arr js => exact c.of_items h
    | _ => cases h
  complete {l} h := c.items 0 l h

/-! ### Fields -/

variable {f : Field} {m : List (String × Json)} {a default : α} {k : String}

theorem of_required (h : required f read m = .good a) : p a := by
  obtain ⟨_, -, h⟩ := required_good.mp h
  exact c.sound h

theorem of_optional (d : p default) (h : optional f default read m = .good a) : p a := by
  rcases optional_good.mp h with ⟨-, rfl⟩ | ⟨_, -, h⟩
  · exact d
  · exact c.sound h

theorem required (found : f.find? m = some (k, write a)) (h : p a) : required f read m = .good a :=
  required_good.mpr ⟨_, found, c.complete h⟩

theorem optional (found : f.find? m = some (k, write a)) (h : p a) : optional f default read m = .good a :=
  optional_good.mpr (.inr ⟨_, found, c.complete h⟩)

end Compound

/-! ### Texts, labels and truth values that may be absent -/

theorem maybeString : Codec (Decode.nullable Decode.string) Json.ofString? (fun _ => True) :=
  (string.nullable rfl (fun _ => rfl) (by simp)).anyway (by simp)

theorem maybeLabel : Codec (Decode.nullable Decode.label) Json.ofLabel? (fun _ => True) := by
  have never (l : Label) : Json.ofLabel l ≠ .null := by
    unfold Json.ofLabel
    split <;> nofun
  exact (label.nullable rfl (fun _ => rfl) never).anyway (by simp)

theorem maybeBoolean : Codec (Decode.nullable Decode.boolean) Json.ofBool? (fun _ => True) :=
  (boolean.nullable rfl (fun _ => rfl) (by simp)).anyway (by simp)

end Codec

end Decode

open Decode Checked

/-! ## Cells, tiles and poses, field by field -/

theorem Position.decode_good {j : Json} {p : Position} :
    decode j = .good p ↔
      ∃ m, j = .obj m ∧ required ⟨"x", none⟩ integer m = .good p.x ∧ required ⟨"y", none⟩ integer m = .good p.y := by
  cases j with
  | obj m =>
    simp only [decode, model, ap_good, Json.obj.injEq, exists_eq_left']
    constructor
    · rintro ⟨_, _, ⟨_, _, made, x, rfl⟩, y, rfl⟩
      cases made
      exact ⟨x, y⟩
    · rintro ⟨x, y⟩
      exact ⟨_, _, ⟨_, _, rfl, x, rfl⟩, y, rfl⟩
  | _ => simp [decode, model, Checked.wrong]

/-- The members of an object from which a tile is read. -/
structure Tile.Fields (m : List (String × Json)) (t : Tile) : Prop where
  x : required ⟨"x", none⟩ integer m = .good t.position.x
  y : required ⟨"y", none⟩ integer m = .good t.position.y
  kind : optional ⟨"type", none⟩ .ground (oneOf TileKind.all TileKind.name) m = .good t.kind
  height : optional ⟨"height", none⟩ 0 (integerFrom 0) m = .good t.height
  color : maybe ⟨"color", none⟩ label m = .good t.color
  id : maybe ⟨"id", none⟩ label m = .good t.id
  target : maybe targetField label m = .good t.target
  state : maybe ⟨"state", none⟩ boolean m = .good t.state

theorem Tile.decode_good {j : Json} {t : Tile} : decode j = .good t ↔ ∃ m, j = .obj m ∧ t.Fields m := by
  cases j with
  | obj m =>
    simp only [decode, model, ap_good, Json.obj.injEq, exists_eq_left']
    constructor
    · rintro ⟨_, _, ⟨_, _, ⟨_, _, ⟨_, _, ⟨_, _, ⟨_, _, ⟨_, _, ⟨_, _, made, x, rfl⟩, y, rfl⟩, kind, rfl⟩, height, rfl⟩,
        color, rfl⟩, id, rfl⟩, target, rfl⟩, state, rfl⟩
      cases made
      exact ⟨x, y, kind, height, color, id, target, state⟩
    · rintro ⟨x, y, kind, height, color, id, target, state⟩
      exact ⟨_, _, ⟨_, _, ⟨_, _, ⟨_, _, ⟨_, _, ⟨_, _, ⟨_, _, ⟨_, _, rfl, x, rfl⟩, y, rfl⟩, kind, rfl⟩, height, rfl⟩,
        color, rfl⟩, id, rfl⟩, target, rfl⟩, state, rfl⟩
  | _ => simp [decode, model, Checked.wrong]

/-- The members of an object from which a pose is read, with coordinates that are read by `coordinate`. -/
structure Pose.Fields (coordinate : Json → Checked Int) (m : List (String × Json)) (pose : Pose) : Prop where
  x : required ⟨"x", none⟩ coordinate m = .good pose.position.x
  y : required ⟨"y", none⟩ coordinate m = .good pose.position.y
  heading : required ⟨"dir", none⟩ Direction.decode m = .good pose.heading

theorem Pose.fields_good {coordinate : Json → Checked Int} {m : List (String × Json)} {pose : Pose} :
    (((Checked.good ofFields).ap (required ⟨"x", none⟩ coordinate m)).ap (required ⟨"y", none⟩ coordinate m)).ap
        (required ⟨"dir", none⟩ Direction.decode m) = .good pose ↔ Fields coordinate m pose := by
  simp only [ap_good]
  constructor
  · rintro ⟨_, _, ⟨_, _, ⟨_, _, made, x, rfl⟩, y, rfl⟩, heading, rfl⟩
    cases made
    exact ⟨x, y, heading⟩
  · rintro ⟨x, y, heading⟩
    exact ⟨_, _, ⟨_, _, ⟨_, _, rfl, x, rfl⟩, y, rfl⟩, heading, rfl⟩

theorem Pose.decodeStart_good {j : Json} {pose : Pose} :
    decodeStart j = .good pose ↔ ∃ m, j = .obj m ∧ Fields (integerFrom 0) m pose := by
  cases j with
  | obj m => simp only [decodeStart, model, fields_good, Json.obj.injEq, exists_eq_left']
  | _ => simp [decodeStart, model, Checked.wrong]

/-! ## Levels, field by field -/

/-- The members of an object from which a level is read, whatever its layout. -/
structure Level.Fields (m : List (String × Json)) (level : Level) : Prop where
  id : required ⟨"id", none⟩ integer m = .good level.id
  title : optional ⟨"title", none⟩ {} label m = .good level.title
  description : optional ⟨"description", none⟩ {} label m = .good level.description
  size : required sizeField (integerFrom 1) m = .good level.size
  layout : optional ⟨"layout", none⟩ [] (list Tile.decode) m = .good level.layout
  start : required ⟨"start", none⟩ Pose.decodeStart m = .good level.start
  goals : optional ⟨"goals", none⟩ [] (list Position.decode) m = .good level.goals
  palette : optional paletteField [] (list PaletteItem.decode) m = .good level.palette
  budget : required budgetField (integerFrom 1) m = .good level.maxCommands

theorem Level.decodeFields_good {m : List (String × Json)} {level : Level} :
    decodeFields m = .good level ↔ level.Fields m := by
  simp only [decodeFields, ap_good]
  constructor
  · rintro ⟨_, _, ⟨_, _, ⟨_, _, ⟨_, _, ⟨_, _, ⟨_, _, ⟨_, _, ⟨_, _, ⟨_, _, made, id, rfl⟩, title, rfl⟩,
      description, rfl⟩, size, rfl⟩, layout, rfl⟩, start, rfl⟩, goals, rfl⟩, palette, rfl⟩, budget, rfl⟩
    cases made
    exact ⟨id, title, description, size, layout, start, goals, palette, budget⟩
  · rintro ⟨id, title, description, size, layout, start, goals, palette, budget⟩
    exact ⟨_, _, ⟨_, _, ⟨_, _, ⟨_, _, ⟨_, _, ⟨_, _, ⟨_, _, ⟨_, _, ⟨_, _, rfl, id, rfl⟩, title, rfl⟩, description, rfl⟩,
      size, rfl⟩, layout, rfl⟩, start, rfl⟩, goals, rfl⟩, palette, rfl⟩, budget, rfl⟩

theorem Level.decode_good {j : Json} {level : Level} :
    decode j = .good level ↔ ∃ m, j = .obj m ∧ level.Fields m ∧ level.layoutFault? = none := by
  cases j with
  | obj m =>
    simp only [decode, model, andThen_good, decodeFields_good]
    constructor
    · rintro ⟨read, fields, checked⟩
      unfold checkLayout at checked
      split at checked
      · cases checked
      · rename_i faultless
        cases checked
        exact ⟨m, rfl, fields, faultless⟩
    · rintro ⟨m', same, fields, faultless⟩
      obtain rfl : m = m' := Json.obj.inj same
      refine ⟨level, fields, ?_⟩
      rw [checkLayout, faultless]
  | _ => simp [decode, model, Checked.wrong]

/-! ## Levels that can be read -/

/-- A cell whose coordinates can be written. -/
def Position.Readable (p : Position) : Prop := Numeral.isWritable p.x = true ∧ Numeral.isWritable p.y = true

/-- A tile whose numbers can be written, and whose height is none below the ground. -/
structure Tile.Readable (t : Tile) : Prop where
  position : t.position.Readable
  height : Numeral.isWritable t.height = true
  grounded : 0 ≤ t.height

/-- A level whose numbers can be written and are within bounds, and whose layout has no fault. -/
structure Level.Readable (level : Level) : Prop where
  id : Numeral.isWritable level.id = true
  size : Numeral.isWritable level.size = true
  positive : 1 ≤ level.size
  layout : ∀ t ∈ level.layout, t.Readable
  start : level.start.position.Readable
  nonnegative : 0 ≤ level.start.position.x ∧ 0 ≤ level.start.position.y
  goals : ∀ g ∈ level.goals, g.Readable
  budget : Numeral.isWritable level.maxCommands = true
  playable : 1 ≤ level.maxCommands
  faultless : level.layoutFault? = none

theorem Position.codec : Codec decode dump Readable where
  sound h := by
    obtain ⟨m, -, x, y⟩ := decode_good.mp h
    exact ⟨Codec.integer.of_required x, Codec.integer.of_required y⟩
  complete h := decode_good.mpr ⟨_, rfl, Codec.integer.required rfl h.1, Codec.integer.required rfl h.2⟩

theorem TileKind.codec : Codec (oneOf all name) (fun kind => .str kind.name) (fun _ => True) :=
  Codec.oneOf (fun kind => by cases kind <;> rfl)

theorem Direction.codec : Codec decode (fun d => .str d.letter) (fun _ => True) :=
  Codec.oneOf (fun d => by cases d <;> rfl)

theorem PaletteItem.codec : Codec decode (fun item => .str item.name) (fun _ => True) where
  sound _ := trivial
  complete {item} _ := by
    cases item with
    | command c => cases c <;> rfl
    | block kind => cases kind <;> rfl

theorem Tile.codec : Codec decode dump Readable where
  sound h := by
    obtain ⟨m, -, fields⟩ := decode_good.mp h
    have zero : Numeral.isWritable 0 = true := by decide +kernel
    have height := (Codec.integerFrom 0).of_optional ⟨zero, Int.le_refl 0⟩ fields.height
    exact ⟨⟨Codec.integer.of_required fields.x, Codec.integer.of_required fields.y⟩, height.1, height.2⟩
  complete h := decode_good.mpr ⟨_, rfl,
    { x := Codec.integer.required rfl h.position.1
      y := Codec.integer.required rfl h.position.2
      kind := TileKind.codec.optional rfl trivial
      height := (Codec.integerFrom 0).optional rfl ⟨h.height, h.grounded⟩
      color := Codec.maybeLabel.optional rfl trivial
      id := Codec.maybeLabel.optional rfl trivial
      target := Codec.maybeLabel.optional rfl trivial
      state := Codec.maybeBoolean.optional rfl trivial }⟩

/-- A pose at which a level can start. -/
def Pose.StartReadable (pose : Pose) : Prop :=
  pose.position.Readable ∧ 0 ≤ pose.position.x ∧ 0 ≤ pose.position.y

theorem Pose.startCodec : Codec decodeStart dump StartReadable where
  sound h := by
    obtain ⟨m, -, fields⟩ := decodeStart_good.mp h
    have x := (Codec.integerFrom 0).of_required fields.x
    have y := (Codec.integerFrom 0).of_required fields.y
    exact ⟨⟨x.1, y.1⟩, x.2, y.2⟩
  complete h := decodeStart_good.mpr ⟨_, rfl,
    { x := (Codec.integerFrom 0).required rfl ⟨h.1.1, h.2.1⟩
      y := (Codec.integerFrom 0).required rfl ⟨h.1.2, h.2.2⟩
      heading := Direction.codec.required rfl trivial }⟩

/-- The levels that can be read, and read back from their dumps. -/
theorem Level.codec : Codec decode dump Readable where
  sound {_ level} h := by
    obtain ⟨m, -, fields, faultless⟩ := decode_good.mp h
    have size := (Codec.integerFrom 1).of_required fields.size
    have start := Pose.startCodec.of_required fields.start
    have budget := (Codec.integerFrom 1).of_required fields.budget
    exact
      { id := Codec.integer.of_required fields.id
        size := size.1
        positive := size.2
        layout := Tile.codec.list.of_optional (by simp) fields.layout
        start := start.1
        nonnegative := start.2
        goals := Position.codec.list.of_optional (by simp) fields.goals
        budget := budget.1
        playable := budget.2
        faultless }
  complete {level} h := decode_good.mpr ⟨_, rfl,
    { id := Codec.integer.required rfl h.id
      title := Codec.label.optional rfl trivial
      description := Codec.label.optional rfl trivial
      size := (Codec.integerFrom 1).required rfl ⟨h.size, h.positive⟩
      layout := Tile.codec.list.optional rfl h.layout
      start := Pose.startCodec.required rfl ⟨h.start, h.nonnegative⟩
      goals := Position.codec.list.optional rfl h.goals
      palette := PaletteItem.codec.list.optional rfl (fun _ _ => trivial)
      budget := (Codec.integerFrom 1).required rfl ⟨h.budget, h.playable⟩ }, h.faultless⟩

/-- Every level that is read is readable. -/
theorem Level.Readable.of_decode {j : Json} {level : Level} (h : decode j = .good level) : level.Readable :=
  codec.sound h

/-- Every readable level is read from some value. -/
theorem Level.Readable.exists_decode {level : Level} (h : level.Readable) : ∃ j, decode j = .good level :=
  ⟨level.dump, codec.complete h⟩

end Lamplighter
