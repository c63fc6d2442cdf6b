/-
Lamplighter.Program — the programs that players write.

* `Command`, `BlockKind` — the primitive commands and the kinds of block.
* `Block` — one node of a program tree. Only its kind is required; a command block without a command,
  or a loop without a count, can be written down and does nothing when it runs.
* `Program` — the blocks at the root, in order, with the operations of an editor on them: `size`,
  `find?`, `modify?` and `remove`.
* `Block.depth` — how deep blocks are nested.
-/

namespace Lamplighter

/-! ## Names -/

/-- The commands that the editor offers. `procedure` is a palette slot that does nothing yet. -/
inductive Command where
  | move
  | turnLeft
  | turnRight
  | jump
  | light
  | procedure
  deriving DecidableEq, Repr, Inhabited

namespace Command

/-- The name of a command in programs and palettes. -/
def name : Command → String
  | move => "MOVE"
  | turnLeft => "TURN_L"
  | turnRight => "TURN_R"
  | jump => "JUMP"
  | light => "LIGHT"
  | procedure => "P1"

/-- The commands in the order in which they are listed to the reader of an error. -/
def all : List Command := [move, turnLeft, turnRight, jump, light, procedure]

/-- The command that a name stands for. -/
def ofName? (s : String) : Option Command := all.find? (fun c => c.name == s)

end Command

/-- The kinds of block. -/
inductive BlockKind where
  | command
  | loop
  | ifColor
  deriving DecidableEq, Repr, Inhabited

namespace BlockKind

/-- The name of a kind in programs and palettes. -/
def name : BlockKind → String
  | command => "COMMAND"
  | loop => "LOOP"
  | ifColor => "IF_COLOR"

/-- The kinds in the order in which they are listed to the reader of an error. -/
def all : List BlockKind := [command, loop, ifColor]

end BlockKind

/-- An entry of a level's palette: a command, or a kind of block. -/
inductive PaletteItem where
  | command (c : Command)
  | block (k : BlockKind)
  deriving DecidableEq, Repr, Inhabited

/-- The name of a palette entry. -/
def PaletteItem.name : PaletteItem → String
  | command c => c.name
  | block k => k.name

/-! ## Blocks -/

/-- One node of a program tree. `id` is what an editor refers to; it has no meaning when the block
runs, and several blocks may share one. -/
structure Block where
  id : String
  kind : BlockKind
  command : Option String := none
  iterations : Option Int := none
  color : Option String := none
  children : Option (List Block) := none
  deriving Inhabited

/-- A program: the blocks at its root, in order. -/
abbrev Program := List Block

namespace Block

/-- A command block. -/
def ofCommand (name : Option String) (id : String := "") : Block :=
  { id, kind := .command, command := name }

/-- A loop block. -/
def ofLoop (iterations : Option Int) (children : List Block) (id : String := "") : Block :=
  { id, kind := .loop, iterations, children := some children }

/-- A block whose children run on tiles of one colour only. -/
def ofColor (color : Option String) (children : List Block) (id : String := "") : Block :=
  { id, kind := .ifColor, color, children := some children }

/-- A block that runs a command of its own. Its pause is the command's, where every other block ends
with a checkpoint. -/
def isPaced (b : Block) : Bool := b.kind = .command && b.command.isSome

/-- The block with one more child, after the others. -/
def addChild (child : Block) (b : Block) : Block :=
  { b with children := some (b.children.getD [] ++ [child]) }

end Block

/-! ## Measuring and searching -/

mutual

/-- The number of blocks in a subtree, its root included. -/
def Block.size : Block → Nat
  | ⟨_, _, _, _, _, none⟩ => 1
  | ⟨_, _, _, _, _, some kids⟩ => 1 + Program.size kids
termination_by structural b => b

/-- The number of blocks in a program, nested ones included. -/
def Program.size : List Block → Nat
  | [] => 0
  | b :: rest => b.size + Program.size rest
termination_by structural p => p

end

mutual

/-- The number of blocks on the longest way down a subtree, its root included. -/
def Block.depth : Block → Nat
  | ⟨_, _, _, _, _, none⟩ => 1
  | ⟨_, _, _, _, _, some kids⟩ => 1 + Program.depth kids
termination_by structural b => b

/-- The number of blocks on the longest way down a program. -/
def Program.depth : List Block → Nat
  | [] => 0
  | b :: rest => max b.depth (Program.depth rest)
termination_by structural p => p

end

/-- How deep blocks may be nested in a file. -/
def Block.maxDepth : Nat := 255

mutual

/-- The first block of a subtree, in preorder, that carries an id. -/
def Block.find? (id : String) : Block → Option Block
  | ⟨i, k, c, n, q, none⟩ => if i = id then some ⟨i, k, c, n, q, none⟩ else none
  | ⟨i, k, c, n, q, some kids⟩ =>
    if i = id then some ⟨i, k, c, n, q, some kids⟩ else Program.find? id kids
termination_by structural b => b

/-- The first block of a program, in preorder, that carries an id. -/
def Program.find? (id : String) : List Block → Option Block
  | [] => none
  | b :: rest =>
    match b.find? id with
    | some found => some found
    | none => Program.find? id rest
termination_by structural p => p

end

mutual

/-- A subtree in which `f` is applied to the first block, in preorder, that carries an id. -/
def Block.modify? (id : String) (f : Block → Block) : Block → Option Block
  | ⟨i, k, c, n, q, none⟩ => if i = id then some (f ⟨i, k, c, n, q, none⟩) else none
  | ⟨i, k, c, n, q, some kids⟩ =>
    if i = id then some (f ⟨i, k, c, n, q, some kids⟩)
    else (Program.modify? id f kids).map (fun kids => ⟨i, k, c, n, q, some kids⟩)
termination_by structural b => b

/-- A program in which `f` is applied to the first block, in preorder, that carries an id. -/
def Program.modify? (id : String) (f : Block → Block) : List Block → Option (List Block)
  | [] => none
  | b :: rest =>
    match b.modify? id f with
    | some b => some (b :: rest)
    | none => (Program.modify? id f rest).map (b :: ·)
termination_by structural p => p

end

/-! ## Removing -/

mutual

/-- Take the block that carries an id out of what is below a block, and tell whether there was one: one of its
children, or else a block further down. -/
def Block.removeBelow (id : String) : Block → Bool × Block
  | ⟨i, k, c, n, q, none⟩ => (false, ⟨i, k, c, n, q, none⟩)
  | ⟨i, k, c, n, q, some kids⟩ =>
    match kids.findIdx? (fun b => b.id = id) with
    | some place => (true, ⟨i, k, c, n, q, some (kids.eraseIdx place)⟩)
    | none =>
      let (found, kids) := Program.removeInside id kids
      (found, ⟨i, k, c, n, q, some kids⟩)
termination_by structural b => b

/-- Take the block that carries an id out of what is below the siblings of a list. They are searched one after the
other, and what a search in vain leaves behind stays in the list. -/
def Program.removeInside (id : String) : List Block → Bool × List Block
  | [] => (false, [])
  | b :: rest =>
    match b.removeBelow id with
    | (true, b) => (true, b :: rest)
    | (false, b) =>
      let (found, rest) := Program.removeInside id rest
      (found, b :: rest)
termination_by structural p => p

end

/-- Take one block that carries an id out of a program, together with its subtree, and tell whether there was one. A
whole list of siblings is searched before any of their children. -/
def Program.remove (id : String) (p : Program) : Bool × Program :=
  match p.findIdx? (fun b => b.id = id) with
  | some i => (true, p.eraseIdx i)
  | none => Program.removeInside id p

end Lamplighter
