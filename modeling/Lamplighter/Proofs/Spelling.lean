/-
Lamplighter.Proofs.Spelling — the two spellings of a field are interchangeable.

* `Shape` — the models some of whose fields have two spellings, with these fields, and the members that hold lists of
  such models. `Shape.named` — a value in which each such field, at any depth, is spelled by its name.
* `Json.Distinct` — no object in a value names a member twice. Of a value that is spelled by names this says that
  there was no object with both spellings of a field.
* `Checked.gist` — what is decoded, or the problems, wherever they are.
* `Alike` — members of two objects from which a field is read alike: `Shape.alike_plain`, `alike_spelled` and
  `alike_items` say so of an object and of the same object spelled by names, for the three kinds of field.
* `decode_respelled` — tiles, levels and blocks that differ in the spelling of fields are decoded alike.

Two inputs differ in the spelling of some fields if they are the same once all fields are spelled by their names. So it
is enough to compare one input with what it is then.
-/
import Lamplighter.Proofs.Dump

namespace Lamplighter

open Decode

/-! ## Spelling by names -/

/-- The models some of whose fields have two spellings. -/
inductive Shape where
  | tile
  | level
  | block
  deriving DecidableEq, Repr

namespace Shape

/-- The fields with two spellings. -/
def fields : Shape → List Field
  | tile => [Tile.targetField]
  | level => [Level.sizeField, Level.paletteField, Level.budgetField]
  | block => [Block.colorField]

/-- The models that a list holds which is a member of a model. -/
def items? : Shape → String → Option Shape
  | tile, _ => none
  | level, key => if key = "layout" then some tile else none
  | block, key => if key = "children" then some block else none

/-- The name of a member, if it is a field with another spelling that is used for it. -/
def nameOf (shape : Shape) (key : String) : String :=
  match shape.fields.find? (fun f => f.label = key) with
  | some f => f.name
  | none => key

mutual

/-- A value in which all fields with two spellings are spelled by their names. -/
def named (shape : Shape) : Json → Json
  | .obj members => .obj (namedMembers shape members)
  | j => j
termination_by structural j => j

/-- The members of a model, and of those below it, spelled by their names. -/
def namedMembers (shape : Shape) : List (String × Json) → List (String × Json)
  | [] => []
  | (key, j) :: rest => (shape.nameOf key, namedMember (shape.items? key) j) :: namedMembers shape rest
termination_by structural members => members

/-- The value of a member, which may be a list of models. -/
def namedMember (items : Option Shape) : Json → Json
  | .arr js =>
    match items with
    | some shape => .arr (namedItems shape js)
    | none => .arr js
  | j => j
termination_by structural j => j

/-- The models in a list, each spelled by its names. -/
def namedItems (shape : Shape) : List Json → List Json
  | [] => []
  | j :: rest => named shape j :: namedItems shape rest
termination_by structural js => js

end

theorem namedItems_eq_map (shape : Shape) (js : List Json) : shape.namedItems js = js.map shape.named := by
  induction js with
  | nil => rfl
  | cons j rest ih => rw [namedItems, ih, List.map_cons]

@[simp] theorem namedMember_none (j : Json) : namedMember none j = j := by
  cases j <;> rfl

end Shape

/-- No object in a value names a member twice. -/
inductive Json.Distinct : Json → Prop
  | null : Distinct .null
  | bool (value : Bool) : Distinct (.bool value)
  | int (value : Int) : Distinct (.int value)
  | real (value : Binary64) : Distinct (.real value)
  | str (value : String) : Distinct (.str value)
  | broken (value : Label) : Distinct (.broken value)
  | arr {items : List Json} (each : ∀ j ∈ items, Distinct j) : Distinct (.arr items)
  | obj {members : List (String × Json)} (once : (members.map Prod.fst).Nodup)
      (each : ∀ m ∈ members, Distinct m.2) : Distinct (.obj members)

attribute [simp] Json.Distinct.null Json.Distinct.bool Json.Distinct.int Json.Distinct.real Json.Distinct.str
  Json.Distinct.broken

@[simp] theorem Json.distinct_arr {items : List Json} : (arr items).Distinct ↔ ∀ j ∈ items, j.Distinct :=
  ⟨fun | .arr each => each, .arr⟩

@[simp] theorem Json.distinct_obj {members : List (String × Json)} :
    (obj members).Distinct ↔ (members.map Prod.fst).Nodup ∧ ∀ m ∈ members, m.2.Distinct :=
  ⟨fun | .obj once each => ⟨once, each⟩, fun ⟨once, each⟩ => .obj once each⟩

/-- A value in which no object has both spellings of a field, nor one of them twice. -/
def Shape.Unambiguous (shape : Shape) (j : Json) : Prop := (shape.named j).Distinct

/-! ## The gist of what is decoded -/

namespace Checked

variable {α β : Type}

/-- What is decoded, or the problems in order, wherever they are. -/
def gist : Checked α → Except (List Problem) α
  | good a => .ok a
  | bad issues => .error (issues.map Issue.problem)

theorem gist_within (place : Place) (c : Checked α) : (c.within place).gist = c.gist := by
  cases c with
  | good a => rfl
  | bad issues => simp [within, gist, Issue.under, Function.comp_def]

theorem gist_map {c c' : Checked α} (f : α → β) (same : c'.gist = c.gist) : (c'.map f).gist = (c.map f).gist := by
  cases c <;> cases c' <;> simp_all [gist, map]

theorem gist_ap {f f' : Checked (α → β)} {c c' : Checked α} (same_f : f'.gist = f.gist) (same : c'.gist = c.gist) :
    (f'.ap c').gist = (f.ap c).gist := by
  cases f <;> cases f' <;> cases c <;> cases c' <;> simp_all [gist, ap]

theorem gist_andThen {c c' : Checked α} (f : α → Checked β) (same : c'.gist = c.gist) :
    (c'.andThen f).gist = (c.andThen f).gist := by
  cases c <;> cases c' <;> simp_all [gist, andThen]

end Checked

/-! ## Members and fields -/

/-- The value of a field: that of the member in the other spelling, if there is one. -/
theorem Decode.Field.find?_value (f : Field) (m : List (String × Json)) :
    (f.find? m).map Prod.snd = (Json.member? m f.label).or (Json.member? m f.name) := by
  unfold Field.find?
  cases Json.member? m f.label with
  | some j => rfl
  | none => cases Json.member? m f.name <;> rfl

theorem Json.member?_cons (key name : String) (j : Json) (rest : List (String × Json)) :
    Json.member? ((key, j) :: rest) name = if key = name then some j else Json.member? rest name := by
  by_cases same : key = name <;> simp [Json.member?, same]

theorem Json.member?_eq_none {m : List (String × Json)} {name : String} :
    Json.member? m name = none ↔ ∀ e ∈ m, e.1 ≠ name := by
  simp [Json.member?]

/-! ## Fields that are read alike -/

section Fields

variable {α : Type}

/-- A field is read alike from the members of two objects: from neither, or from values with the same gist. -/
def Alike (f : Field) (read : Json → Checked α) (m m' : List (String × Json)) : Prop :=
  (f.find? m').map (fun found => (read found.2).gist) = (f.find? m).map (fun found => (read found.2).gist)

variable {f : Field} {read : Json → Checked α} {m m' : List (String × Json)}

theorem required_gist (f : Field) (read : Json → Checked α) (m : List (String × Json)) :
    (required f read m).gist =
      ((f.find? m).map fun found => (read found.2).gist).getD (.error [.missing]) := by
  unfold required
  cases f.find? m with
  | none => rfl
  | some found => exact Checked.gist_within _ _

theorem optional_gist (f : Field) (default : α) (read : Json → Checked α) (m : List (String × Json)) :
    (optional f default read m).gist = ((f.find? m).map fun found => (read found.2).gist).getD (.ok default) := by
  unfold Decode.optional
  cases f.find? m with
  | none => rfl
  | some found => exact Checked.gist_within _ _

theorem Alike.required (alike : Alike f read m m') : (required f read m').gist = (required f read m).gist := by
  rw [required_gist, required_gist, alike]

theorem Alike.optional (alike : Alike f read m m') (default : α) :
    (optional f default read m').gist = (optional f default read m).gist := by
  rw [optional_gist, optional_gist, alike]

theorem Alike.maybe (alike : Alike f (nullable read) m m') : (maybe f read m').gist = (maybe f read m).gist :=
  alike.optional none

end Fields

namespace Shape

variable {α : Type} (shape : Shape)

/-- The fields with two spellings have names and other spellings of their own, and hold no lists of models. -/
theorem fields_apart : ∀ f ∈ shape.fields, shape.nameOf f.label = f.name ∧ f.label ≠ f.name ∧
    shape.items? f.label = none ∧ shape.items? f.name = none ∧
    ∀ g ∈ shape.fields, (f.name ≠ g.label) ∧ (f.name = g.name → f.label = g.label) := by
  cases shape <;> decide

/-- A member is named after a field exactly if it is spelled in one of the two ways of the field. -/
theorem nameOf_eq_name {f : Field} (there : f ∈ shape.fields) (key : String) :
    shape.nameOf key = f.name ↔ key = f.label ∨ key = f.name := by
  obtain ⟨label, -, -, -, apart⟩ := shape.fields_apart f there
  constructor
  · intro named
    unfold nameOf at named
    split at named
    · rename_i g found
      have spelled : g.label = key := by simpa using List.find?_some found
      exact .inl (spelled.symm.trans ((apart g (List.mem_of_find?_eq_some found)).2 named.symm).symm)
    · exact .inr named
  · rintro (rfl | rfl)
    · exact label
    · unfold nameOf
      split
      · rename_i g found
        exact absurd (by simpa using List.find?_some found) (apart g (List.mem_of_find?_eq_some found)).1.symm
      · rfl

/-- A member with any other name keeps it, and no other member is named so. -/
theorem nameOf_eq_plain {name : String} (plain : ∀ f ∈ shape.fields, name ≠ f.label ∧ name ≠ f.name) (key : String) :
    shape.nameOf key = name ↔ key = name := by
  unfold nameOf
  split
  · rename_i g found
    have there := List.mem_of_find?_eq_some found
    have spelled : g.label = key := by simpa using List.find?_some found
    constructor
    · exact fun named => absurd named.symm (plain g there).2
    · exact fun same => absurd (same.symm.trans spelled.symm) (plain g there).1
  · exact Iff.rfl

/-- A member with one spelling is found again, and its value is spelled by names. -/
theorem member?_named {name : String} (plain : ∀ f ∈ shape.fields, name ≠ f.label ∧ name ≠ f.name)
    (m : List (String × Json)) :
    Json.member? (shape.namedMembers m) name = (Json.member? m name).map (namedMember (shape.items? name)) := by
  induction m with
  | nil => rfl
  | cons entry rest ih =>
    obtain ⟨key, j⟩ := entry
    have here := shape.nameOf_eq_plain plain key
    rw [namedMembers, Json.member?_cons, Json.member?_cons]
    by_cases same : key = name
    · rw [if_pos (here.mpr same), if_pos same, same, Option.map_some]
    · rw [if_neg (fun named => same (here.mp named)), if_neg same, ih]

/-- Nothing is spelled in the other way of a field any more. -/
theorem nameOf_ne_label {f : Field} (there : f ∈ shape.fields) (key : String) : shape.nameOf key ≠ f.label := by
  intro named
  have other : key ≠ f.label := by
    rintro rfl
    exact (shape.fields_apart f there).2.1 (named.symm.trans (shape.fields_apart f there).1)
  unfold nameOf at named
  split at named
  · rename_i g found
    exact ((shape.fields_apart g (List.mem_of_find?_eq_some found)).2.2.2.2 f there).1 named
  · exact other named

theorem keys_named (m : List (String × Json)) :
    (shape.namedMembers m).map Prod.fst = m.map fun e => shape.nameOf e.1 := by
  induction m with
  | nil => rfl
  | cons entry rest ih => rw [namedMembers, List.map_cons, List.map_cons, ih]

/-- A field with two spellings is found again under its name. -/
theorem member?_named_field {f : Field} (there : f ∈ shape.fields) {m : List (String × Json)}
    (once : ((shape.namedMembers m).map Prod.fst).Nodup) :
    Json.member? (shape.namedMembers m) f.name = (Json.member? m f.label).or (Json.member? m f.name) := by
  obtain ⟨-, -, plain_label, plain_name, -⟩ := shape.fields_apart f there
  induction m with
  | nil => rfl
  | cons entry rest ih =>
    obtain ⟨key, j⟩ := entry
    rw [namedMembers, List.map_cons, List.nodup_cons] at once
    have later := ih once.2
    have here := shape.nameOf_eq_name there key
    rw [namedMembers, Json.member?_cons, Json.member?_cons, Json.member?_cons]
    by_cases label : key = f.label
    · rw [if_pos (here.mpr (.inl label)), if_pos label, label, plain_label, namedMember_none]
      rfl
    · by_cases name : key = f.name
      · -- the object has the other spelling nowhere, or the name would be there twice
        have gone : Json.member? rest f.label = none := by
          refine Json.member?_eq_none.mpr fun e among spelled => once.1 ?_
          rw [keys_named]
          have named : shape.nameOf e.1 = shape.nameOf key :=
            ((shape.nameOf_eq_name there e.1).mpr (.inl spelled)).trans (here.mpr (.inr name)).symm
          exact List.mem_map.mpr ⟨e, among, named⟩
        rw [if_pos (here.mpr (.inr name)), if_neg label, if_pos name, gone, name, plain_name, namedMember_none]
        rfl
      · rw [if_neg (fun named => (here.mp named).elim label name), if_neg label, if_neg name, later]

/-- A field with two spellings is read alike from the members spelled by names. -/
theorem alike_spelled (f : Field) (there : f ∈ shape.fields) (read : Json → Checked α) {m : List (String × Json)}
    (once : ((shape.namedMembers m).map Prod.fst).Nodup) : Alike f read m (shape.namedMembers m) := by
  have gone : Json.member? (shape.namedMembers m) f.label = none := by
    refine Json.member?_eq_none.mpr fun e among => ?_
    have key := List.mem_map_of_mem (f := Prod.fst) among
    rw [keys_named] at key
    obtain ⟨e', -, key⟩ := List.mem_map.mp key
    exact fun spelled => shape.nameOf_ne_label there e'.1 (key.trans spelled)
  have value : ((f.find? (shape.namedMembers m)).map Prod.snd) = (f.find? m).map Prod.snd := by
    rw [Field.find?_value, Field.find?_value, gone, shape.member?_named_field there once, Option.none_or]
  simpa [Alike, Function.comp_def] using congrArg (Option.map fun j => (read j).gist) value

/-- A field with one spelling, which holds no list of models, is read alike. -/
theorem alike_plain (name : String) (plain : ∀ f ∈ shape.fields, name ≠ f.label ∧ name ≠ f.name)
    (alone : shape.items? name = none) (read : Json → Checked α) (m : List (String × Json)) :
    Alike ⟨name, none⟩ read m (shape.namedMembers m) := by
  rw [Alike, Field.find?_of_name, Field.find?_of_name, shape.member?_named plain, alone]
  cases Json.member? m name with
  | none => rfl
  | some j => simp

/-- A field that holds a list of models is read alike if each of the models is. -/
theorem alike_items (name : String) {inner : Shape} (plain : ∀ f ∈ shape.fields, name ≠ f.label ∧ name ≠ f.name)
    (items : shape.items? name = some inner) {read : Json → Checked α} {m : List (String × Json)}
    (each : ∀ j, Json.member? m name = some j → (read (namedMember (some inner) j)).gist = (read j).gist) :
    Alike ⟨name, none⟩ read m (shape.namedMembers m) := by
  rw [Alike, Field.find?_of_name, Field.find?_of_name, shape.member?_named plain, items]
  cases found : Json.member? m name with
  | none => rfl
  | some j => simpa using each j found

/-! ## Lists of models -/

variable {shape}

/-- The models in a list of an unambiguous value are unambiguous. -/
theorem unambiguous_items {name : String} {inner : Shape}
    (plain : ∀ f ∈ shape.fields, name ≠ f.label ∧ name ≠ f.name) (items : shape.items? name = some inner)
    {m : List (String × Json)} (each : ∀ e ∈ shape.namedMembers m, e.2.Distinct) {js : List Json}
    (found : Json.member? m name = some (.arr js)) : ∀ j ∈ js, inner.Unambiguous j := by
  have named := shape.member?_named plain m
  rw [found, items, Option.map_some, namedMember, namedItems_eq_map] at named
  obtain ⟨e, there, value⟩ := Option.map_eq_some_iff.mp named
  have distinct := each e (List.mem_of_find?_eq_some there)
  rw [value, Json.distinct_arr] at distinct
  exact fun j among => distinct _ (List.mem_map_of_mem among)

theorem items_gist {read : Json → Checked α} (i : Nat) {js : List Json}
    (each : ∀ j ∈ js, (read (shape.named j)).gist = (read j).gist) :
    (items read i (js.map shape.named)).gist = (items read i js).gist := by
  induction js generalizing i with
  | nil => rfl
  | cons j rest ih =>
    have first : ((read (shape.named j)).within (.index i)).gist = ((read j).within (.index i)).gist := by
      rw [Checked.gist_within, Checked.gist_within, each j List.mem_cons_self]
    have later := ih (i + 1) (fun j among => each j (List.mem_cons_of_mem _ among))
    exact Checked.gist_ap (Checked.gist_map _ first) later

/-- A list of models is read alike if each of the models is. -/
theorem list_gist {read : Json → Checked α} {j : Json}
    (each : ∀ js, j = .arr js → ∀ item ∈ js, (read (shape.named item)).gist = (read item).gist) :
    (list read (namedMember (some shape) j)).gist = (list read j).gist := by
  cases j with
  | arr js =>
    rw [namedMember, namedItems_eq_map]
    exact items_gist 0 (each js rfl)
  | _ => rfl

end Shape

/-! ## Models that are read alike -/

open Checked Shape

/-- A tile is read alike when it is spelled by names. -/
theorem Tile.decode_named {j : Json} (unambiguous : Shape.tile.Unambiguous j) :
    (decode (Shape.tile.named j)).gist = (decode j).gist := by
  cases j with
  | obj m =>
    obtain ⟨once, -⟩ := Json.distinct_obj.mp unambiguous
    have x := (alike_plain .tile "x" (by decide) rfl integer m).required
    have y := (alike_plain .tile "y" (by decide) rfl integer m).required
    have kind := (alike_plain .tile "type" (by decide) rfl (oneOf TileKind.all TileKind.name) m).optional .ground
    have height := (alike_plain .tile "height" (by decide) rfl (integerFrom 0) m).optional 0
    have color := (alike_plain .tile "color" (by decide) rfl (nullable label) m).maybe
    have id := (alike_plain .tile "id" (by decide) rfl (nullable label) m).maybe
    have target := (alike_spelled .tile targetField (by decide) (nullable label) once).maybe
    have state := (alike_plain .tile "state" (by decide) rfl (nullable boolean) m).maybe
    exact gist_ap (gist_ap (gist_ap (gist_ap (gist_ap (gist_ap (gist_ap (gist_ap rfl x) y) kind) height) color) id)
      target) state
  | _ => rfl

/-- A level is read alike when it is spelled by names, and so are its tiles. -/
theorem Level.decode_named {j : Json} (unambiguous : Shape.level.Unambiguous j) :
    (decode (Shape.level.named j)).gist = (decode j).gist := by
  cases j with
  | obj m =>
    obtain ⟨once, each⟩ := Json.distinct_obj.mp unambiguous
    have id := (alike_plain .level "id" (by decide) rfl integer m).required
    have title := (alike_plain .level "title" (by decide) rfl label m).optional {}
    have description := (alike_plain .level "description" (by decide) rfl label m).optional {}
    have size := (alike_spelled .level sizeField (by decide) (integerFrom 1) once).required
    have tiles : ∀ j, Json.member? m "layout" = some j →
        (list Tile.decode (namedMember (some .tile) j)).gist = (list Tile.decode j).gist := by
      intro j found
      refine list_gist fun js list item among => Tile.decode_named ?_
      exact unambiguous_items (by decide) rfl each (found.trans (congrArg some list)) item among
    have layout := (alike_items .level "layout" (by decide) rfl tiles).optional []
    have start := (alike_plain .level "start" (by decide) rfl Pose.decodeStart m).required
    have goals := (alike_plain .level "goals" (by decide) rfl (list Position.decode) m).optional []
    have palette := (alike_spelled .level paletteField (by decide) (list PaletteItem.decode) once).optional []
    have budget := (alike_spelled .level budgetField (by decide) (integerFrom 1) once).required
    exact gist_andThen _ (gist_ap (gist_ap (gist_ap (gist_ap (gist_ap (gist_ap (gist_ap (gist_ap (gist_ap rfl id) title)
      description) size) layout) start) goals) palette) budget)
  | _ => rfl

/-- Blocks in a list are read alike if each of them is. -/
theorem Block.decodeItems_named {naming : Naming} {room : Nat} {js : List Json}
    (each : ∀ j ∈ js, ∀ naming : Naming,
      (decodeWithin naming room (Shape.block.named j)).gist = (decodeWithin naming room j).gist) (i : Nat) :
    (decodeItems naming room i (js.map Shape.block.named)).gist = (decodeItems naming room i js).gist := by
  induction js generalizing i with
  | nil => rfl
  | cons j rest ih =>
    have first : ((decodeWithin (naming.below i) room (Shape.block.named j)).within (.index i)).gist =
        ((decodeWithin (naming.below i) room j).within (.index i)).gist := by
      rw [Checked.gist_within, Checked.gist_within, each j List.mem_cons_self]
    have later := ih (fun j among => each j (List.mem_cons_of_mem _ among)) (i + 1)
    exact Checked.gist_ap (Checked.gist_map _ first) later

/-- A block is read alike when it is spelled by names, and so are those below it, however deep they may be nested. -/
theorem Block.decodeWithin_named (naming : Naming) (room : Nat) {j : Json} (unambiguous : Shape.block.Unambiguous j) :
    (decodeWithin naming room (Shape.block.named j)).gist = (decodeWithin naming room j).gist := by
  -- the blocks below are read with room for one level less
  induction room generalizing naming j with
  | zero => simp only [decodeWithin]
  | succ room ih =>
    cases j with
    | obj m =>
      obtain ⟨once, each⟩ := Json.distinct_obj.mp unambiguous
      have id := (alike_plain .block "id" (by decide) rfl string m).optional (naming [])
      have kind := (alike_plain .block "type" (by decide) rfl (oneOf BlockKind.all BlockKind.name) m).required
      have command := (alike_plain .block "command" (by decide) rfl (nullable string) m).maybe
      have iterations := (alike_plain .block "iterations" (by decide) rfl (nullable integer) m).maybe
      have color := (alike_spelled .block colorField (by decide) (nullable string) once).maybe
      have below : ∀ j, Json.member? m "children" = some j →
          (nullable (decodeList naming room) (namedMember (some .block) j)).gist =
            (nullable (decodeList naming room) j).gist := by
        intro j found
        cases j with
        | arr js =>
          rw [namedMember, namedItems_eq_map]
          refine gist_map some (decodeItems_named (fun item among naming => ih naming ?_) 0)
          exact unambiguous_items (by decide) rfl each found item among
        | _ => rfl
      have children := (alike_items .block "children" (by decide) rfl below).maybe
      rw [named, decodeWithin, decodeWithin, decodeChildrenOf_eq, decodeChildrenOf_eq]
      exact gist_ap (gist_ap (gist_ap (gist_ap (gist_ap (gist_ap rfl id) kind) command) iterations) color) children
    | _ => rfl

/-- Two inputs that are the same once all fields are spelled by their names, whichever spelling each object has used for
each of its fields, if it has not used both: the two are decoded to the same tile, level or block (whatever ids blocks
get that were written without one), or have the same problems. -/
theorem decode_respelled (j j' : Json) :
    (Shape.tile.Unambiguous j → Shape.tile.named j' = Shape.tile.named j →
        (Tile.decode j').gist = (Tile.decode j).gist) ∧
      (Shape.level.Unambiguous j → Shape.level.named j' = Shape.level.named j →
        (Level.decode j').gist = (Level.decode j).gist) ∧
      (Shape.block.Unambiguous j → Shape.block.named j' = Shape.block.named j →
        ∀ naming, (Block.decode naming j').gist = (Block.decode naming j).gist) := by
  -- the other input is unambiguous, too: that is seen when both are spelled by names
  have other : ∀ shape : Shape, shape.Unambiguous j → shape.named j' = shape.named j → shape.Unambiguous j' := by
    intro shape unambiguous same
    rw [Unambiguous, same]
    exact unambiguous
  refine ⟨fun unambiguous same => ?_, fun unambiguous same => ?_, fun unambiguous same naming => ?_⟩
  · rw [← Tile.decode_named (other .tile unambiguous same), same, Tile.decode_named unambiguous]
  · rw [← Level.decode_named (other .level unambiguous same), same, Level.decode_named unambiguous]
  · unfold Block.decode
    rw [← Block.decodeWithin_named _ _ (other .block unambiguous same), same,
      Block.decodeWithin_named _ _ unambiguous]

/-- A conditional block with another one below it, whose colour is no text. -/
def forked (outer inner : String) : Json :=
  .obj [("type", .str "IF_COLOR"), (outer, .str "red"),
    ("children", .arr [.obj [(inner, .int 7), ("type", .str "IF_COLOR")]])]

/-- A level with a switch and the door that it works. -/
def gatehouse (size palette budget target : String) : Json :=
  .obj [("id", .int 1), (size, .int 2), (palette, .arr [.str "MOVE"]), (budget, .int 3),
    ("layout", .arr [.obj [("x", .int 0), ("y", .int 0)],
      .obj [("x", .int 1), ("y", .int 0), ("type", .str "switch"), (target, .str "door")]]),
    ("start", .obj [("x", .int 0), ("y", .int 0), ("dir", .str "E")])]

theorem decode_respelled_gatehouse :
    Shape.block.Unambiguous (forked "conditionColor" "condition_color") ∧
      (Block.decode placeNames (forked "conditionColor" "condition_color")).gist = .error [.notString] ∧
      (Block.decode placeNames (forked "condition_color" "conditionColor")).gist =
        (Block.decode placeNames (forked "conditionColor" "condition_color")).gist ∧
      Shape.level.Unambiguous (gatehouse "gridSize" "availableBlocks" "max_commands" "targetId") ∧
      (Level.decode (gatehouse "gridSize" "availableBlocks" "max_commands" "targetId")).gist.isOk = true ∧
      (Level.decode (gatehouse "gridSize" "available_blocks" "maxCommands" "target_id")).gist =
        (Level.decode (gatehouse "gridSize" "availableBlocks" "max_commands" "targetId")).gist := by
  have block : Shape.block.Unambiguous (forked "conditionColor" "condition_color") := by
    have named : Shape.block.named (forked "conditionColor" "condition_color") =
        forked "condition_color" "condition_color" := by rfl
    rw [Unambiguous, named]
    simp [forked]
  have level : Shape.level.Unambiguous (gatehouse "gridSize" "availableBlocks" "max_commands" "targetId") := by
    have named : Shape.level.named (gatehouse "gridSize" "availableBlocks" "max_commands" "targetId") =
        gatehouse "grid_size" "available_blocks" "max_commands" "target_id" := by rfl
    rw [Unambiguous, named]
    simp [gatehouse]
  exact ⟨block, by rfl, (decode_respelled _ _).2.2 block (by rfl) placeNames, level, by rfl,
    (decode_respelled _ _).2.1 level (by rfl)⟩

end Lamplighter
