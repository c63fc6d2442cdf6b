/-
Lamplighter.Decoding.Models — levels, programs, poses and events, decoded from JSON.

A model is an object; members that are no field are ignored. Every field is decoded and all their
issues are reported, in the order in which the fields are declared. A level whose fields are in order
is checked for a layout fault. Blocks may be nested `Block.maxDepth` deep; those that were written without an id get
one by a naming that the reader brings.
-/
import Lamplighter.Decoding.Scalar
import Lamplighter.Run.Event

namespace Lamplighter

open Decode

/-! ## Cells, tiles and poses -/

namespace Position

/-- A cell. -/
def decode : Json → Checked Position :=
  model "Position" fun m =>
    ((Checked.good Position.mk).ap (required ⟨"x", none⟩ integer m)).ap
      (required ⟨"y", none⟩ integer m)

end Position

namespace Tile

/-- A tile from its coordinates and the rest of its fields. -/
def ofFields (x y : Int) (kind : TileKind) (height : Int) (color id target : Option Label)
    (state : Option Bool) : Tile :=
  { position := ⟨x, y⟩, kind, height, color, id, target, state }

/-- The field that names what a switch or a teleport works on. -/
def targetField : Field := ⟨"target_id", some "targetId"⟩

/-- A tile. -/
def decode : Json → Checked Tile :=
  model "Tile" fun m =>
    (((((((((Checked.good ofFields).ap
      (required ⟨"x", none⟩ integer m)).ap
      (required ⟨"y", none⟩ integer m)).ap
      (optional ⟨"type", none⟩ .ground (oneOf TileKind.all TileKind.name) m)).ap
      (optional ⟨"height", none⟩ 0 (integerFrom 0) m)).ap
      (maybe ⟨"color", none⟩ label m)).ap
      (maybe ⟨"id", none⟩ label m)).ap
      (maybe targetField label m)).ap
      (maybe ⟨"state", none⟩ boolean m))

end Tile

/-- A heading. -/
def Direction.decode : Json → Checked Direction := oneOf Direction.all Direction.letter

namespace Pose

/-- A pose from its coordinates and its heading. -/
def ofFields (x y : Int) (heading : Direction) : Pose := ⟨⟨x, y⟩, heading⟩

/-- A robot's pose, anywhere. -/
def decode : Json → Checked Pose :=
  model "Robot" fun m =>
    (((Checked.good ofFields).ap
      (required ⟨"x", none⟩ integer m)).ap
      (required ⟨"y", none⟩ integer m)).ap
      (required ⟨"dir", none⟩ Direction.decode m)

/-- The pose at the start of a level, whose coordinates are not negative. -/
def decodeStart : Json → Checked Pose :=
  model "StartPose" fun m =>
    (((Checked.good ofFields).ap
      (required ⟨"x", none⟩ (integerFrom 0) m)).ap
      (required ⟨"y", none⟩ (integerFrom 0) m)).ap
      (required ⟨"dir", none⟩ Direction.decode m)

end Pose

/-! ## Levels -/

namespace PaletteItem

/-- An entry of a palette: a command or a kind of block. One that is neither has both issues. -/
def decode (j : Json) : Checked PaletteItem :=
  match oneOf Command.all Command.name j, oneOf BlockKind.all BlockKind.name j with
  | .good c, _ => .good (.command c)
  | .bad _, .good k => .good (.block k)
  | .bad issues, .bad more =>
    .bad (Issue.under (.choice "str-enum[Command]") issues ++
      Issue.under (.choice "str-enum[BlockType]") more)

end PaletteItem

namespace Level

/-- The field for the side of the grid. -/
def sizeField : Field := ⟨"grid_size", some "gridSize"⟩

/-- The field for the palette. -/
def paletteField : Field := ⟨"available_blocks", some "availableBlocks"⟩

/-- The field for the program budget. -/
def budgetField : Field := ⟨"max_commands", some "maxCommands"⟩

/-- A level's fields, before its layout is checked. -/
def decodeFields (m : List (String × Json)) : Checked Level :=
  (((((((((Checked.good Level.mk).ap
    (required ⟨"id", none⟩ integer m)).ap
    (optional ⟨"title", none⟩ {} label m)).ap
    (optional ⟨"description", none⟩ {} label m)).ap
    (required sizeField (integerFrom 1) m)).ap
    (optional ⟨"layout", none⟩ [] (list Tile.decode) m)).ap
    (required ⟨"start", none⟩ Pose.decodeStart m)).ap
    (optional ⟨"goals", none⟩ [] (list Position.decode) m)).ap
    (optional paletteField [] (list PaletteItem.decode) m)).ap
    (required budgetField (integerFrom 1) m)

/-- A level whose layout has no fault. -/
def checkLayout (level : Level) : Checked Level :=
  match level.layoutFault? with
  | some fault => .wrong (.layout fault)
  | none => .good level

/-- A level. -/
def decode : Json → Checked Level :=
  model "Level" fun m => (decodeFields m).andThen checkLayout

end Level

/-! ## Programs -/

/-- The ids that blocks get which were written without one, by where they stand. -/
abbrev Naming := List Nat → String

/-- The ids of the blocks below the one at an index. -/
def Naming.below (naming : Naming) (i : Nat) : Naming := fun place => naming (i :: place)

namespace Block

/-- The field for the colour of a conditional block. -/
def colorField : Field := ⟨"condition_color", some "conditionColor"⟩

/-- The fields of a block, given its children and the id that it gets if it was written without one. -/
def decodeFields (blank : String) (children : Checked (Option (List Block))) (m : List (String × Json)) :
    Checked Block :=
  ((((((Checked.good Block.mk).ap
    (optional ⟨"id", none⟩ blank string m)).ap
    (required ⟨"type", none⟩ (oneOf BlockKind.all BlockKind.name) m)).ap
    (maybe ⟨"command", none⟩ string m)).ap
    (maybe ⟨"iterations", none⟩ integer m)).ap
    (maybe colorField string m)).ap
    children

mutual

/-- A block, with the blocks below it, which may be nested `room` deep. -/
def decodeWithin (naming : Naming) : Nat → Json → Checked Block
  | 0, _ => .wrong .nestedTooDeep
  | room + 1, .obj members => decodeFields (naming []) (decodeChildrenOf naming room members) members
  | _ + 1, _ => .wrong (.notModel "ProgramBlock")
termination_by structural _ j => j

/-- The children of a block, from its members. -/
def decodeChildrenOf (naming : Naming) (room : Nat) :
    List (String × Json) → Checked (Option (List Block))
  | [] => .good none
  | (k, j) :: rest =>
    if k = "children" then (decodeChildren naming room j).within (.key "children")
    else decodeChildrenOf naming room rest
termination_by structural ms => ms

/-- The children of a block: a list of blocks, or null. -/
def decodeChildren (naming : Naming) (room : Nat) : Json → Checked (Option (List Block))
  | .null => .good none
  | .arr js => (decodeItems naming room 0 js).map some
  | _ => .wrong .notList
termination_by structural j => j

/-- Blocks in a list; `i` is the index of the first. -/
def decodeItems (naming : Naming) (room : Nat) (i : Nat) : List Json → Checked (List Block)
  | [] => .good []
  | j :: rest =>
    (((decodeWithin (naming.below i) room j).within (.index i)).map List.cons).ap
      (decodeItems naming room (i + 1) rest)
termination_by structural js => js

end

/-- A block, with the blocks below it. -/
def decode (naming : Naming) (j : Json) : Checked Block := decodeWithin naming maxDepth j

/-- A command block from its command, as an editor asks for it. -/
def makeCommand (command : Json) (id : String) : Except Invalid Block :=
  (((nullable string command).within (.key "command")).map (fun c => ofCommand c id)).toExcept
    "ProgramBlock"

/-- A loop block from its count. -/
def makeLoop (iterations : Json) (children : List Block) (id : String) : Except Invalid Block :=
  (((nullable integer iterations).within (.key "iterations")).map
    (fun n => ofLoop n children id)).toExcept "ProgramBlock"

/-- A conditional block from its colour. -/
def makeColor (color : Json) (children : List Block) (id : String) : Except Invalid Block :=
  (((nullable string color).within (.key "condition_color")).map
    (fun q => ofColor q children id)).toExcept "ProgramBlock"

/-- The rounds of a loop that an editor adds. -/
def defaultIterations : Int := 2

/-- The colour of a conditional block that an editor adds. -/
def defaultColor : String := "red"

/-- The block that an editor adds for an entry of its palette: an empty loop or conditional block, or
else a command block. -/
def ofPalette (kind : Json) (id : String) : Except Invalid Block :=
  match kind with
  | .str s =>
    if s = BlockKind.loop.name then .ok (ofLoop (some defaultIterations) [] id)
    else if s = BlockKind.ifColor.name then .ok (ofColor (some defaultColor) [] id)
    else makeCommand kind id
  | _ => makeCommand kind id

end Block

/-- Blocks in a list, each on its own; `i` is the index of the first. The first that is not one decides the error. -/
def Program.decodeFrom (naming : Naming) (i : Nat) : List Json → Except Invalid Program
  | [] => .ok []
  | j :: rest =>
    match (Block.decode (naming.below i) j).toExcept "ProgramBlock" with
    | .error invalid => .error invalid
    | .ok b => (Program.decodeFrom naming (i + 1) rest).map (b :: ·)

/-- A program, block by block. -/
def Program.decode (naming : Naming) (js : List Json) : Except Invalid Program :=
  Program.decodeFrom naming 0 js

/-! ## Events -/

/-- Flags by id. -/
def Flags.decode (j : Json) : Checked Flags :=
  (dictionary boolean j).map (fun entries => entries.map (fun e => (.ofString e.1, e.2)))

namespace Event

/-- An event. -/
def decode : Json → Checked Event :=
  model "StepEvent" fun m =>
    (((((((((Checked.good Event.mk).ap
      (required ⟨"kind", none⟩ (oneOf EventKind.all EventKind.name) m)).ap
      (optional ⟨"path", none⟩ [] (tuple integer) m)).ap
      (maybe ⟨"block_id", none⟩ string m)).ap
      (maybe ⟨"command", none⟩ string m)).ap
      (maybe ⟨"success", none⟩ boolean m)).ap
      (required ⟨"robot", none⟩ Pose.decode m)).ap
      (optional ⟨"lit_goals", none⟩ [] (list Position.decode) m)).ap
      (optional ⟨"interactive_state", none⟩ [] Flags.decode m)).ap
      (maybe ⟨"outcome", none⟩ (oneOf Outcome.all Outcome.name) m)

end Event

end Lamplighter
