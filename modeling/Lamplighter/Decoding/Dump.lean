/-
Lamplighter.Decoding.Dump — levels, programs, poses and events as JSON.

A dump is an object with every field under its name; what is absent is null. Decoding a dump gives
back the value that was dumped. Blocks that are nested deeper than a file may nest them are refused
(`Block.tryDump`), so that whatever is dumped can be decoded.
-/
import Lamplighter.Decoding.Models

namespace Lamplighter

/-- A cell as JSON. -/
def Position.dump (p : Position) : Json := .obj [("x", .int p.x), ("y", .int p.y)]

/-- A tile as JSON. -/
def Tile.dump (t : Tile) : Json :=
  .obj [("x", .int t.position.x), ("y", .int t.position.y), ("type", .str t.kind.name),
    ("height", .int t.height), ("color", .ofLabel? t.color), ("id", .ofLabel? t.id),
    ("target_id", .ofLabel? t.target), ("state", .ofBool? t.state)]

/-- A pose as JSON. -/
def Pose.dump (p : Pose) : Json :=
  .obj [("x", .int p.position.x), ("y", .int p.position.y), ("dir", .str p.heading.letter)]

/-- A level as JSON. -/
def Level.dump (l : Level) : Json :=
  .obj [("id", .int l.id), ("title", .ofLabel l.title), ("description", .ofLabel l.description),
    ("grid_size", .int l.size), ("layout", .arr (l.layout.map Tile.dump)),
    ("start", l.start.dump), ("goals", .arr (l.goals.map Position.dump)),
    ("available_blocks", .arr (l.palette.map (fun i => .str i.name))),
    ("max_commands", .int l.maxCommands)]

mutual

/-- A block as JSON. -/
def Block.dump : Block → Json
  | ⟨id, kind, command, iterations, color, none⟩ =>
    .obj [("id", .str id), ("type", .str kind.name), ("command", .ofString? command),
      ("iterations", .ofInt? iterations), ("condition_color", .ofString? color),
      ("children", .null)]
  | ⟨id, kind, command, iterations, color, some kids⟩ =>
    .obj [("id", .str id), ("type", .str kind.name), ("command", .ofString? command),
      ("iterations", .ofInt? iterations), ("condition_color", .ofString? color),
      ("children", .arr (Program.dump kids))]
termination_by structural b => b

/-- A program as JSON, block by block. -/
def Program.dump : List Block → List Json
  | [] => []
  | b :: rest => b.dump :: Program.dump rest
termination_by structural p => p

end

/-- Why there is no dump. -/
inductive DumpFault where
  | nestedTooDeep
  deriving DecidableEq, Repr

/-- The text of a dump fault. -/
def DumpFault.message : DumpFault → String
  | nestedTooDeep => "Maximum serialization depth exceeded"

/-- A block as JSON, unless it is nested too deep. -/
def Block.tryDump (b : Block) : Except DumpFault Json :=
  if b.depth ≤ Block.maxDepth then .ok b.dump else .error .nestedTooDeep

/-- A program as JSON, unless a block of it is nested too deep. -/
def Program.tryDump (p : Program) : Except DumpFault (List Json) :=
  if Program.depth p ≤ Block.maxDepth then .ok (Program.dump p) else .error .nestedTooDeep

/-- Flags by id as JSON. -/
def Flags.dump (flags : Flags) : Json := .obj (flags.map (fun f => (f.1.text, .bool f.2)))

/-- An event as JSON. -/
def Event.dump (e : Event) : Json :=
  .obj [("kind", .str e.kind.name), ("path", .arr (e.path.map .int)),
    ("block_id", .ofString? e.blockId), ("command", .ofString? e.command),
    ("success", .ofBool? e.success), ("robot", e.robot.dump),
    ("lit_goals", .arr (e.lit.map Position.dump)), ("interactive_state", e.flags.dump),
    ("outcome", .ofString? (e.outcome.map Outcome.name))]

end Lamplighter
