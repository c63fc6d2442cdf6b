/-
Lamplighter.Proofs.Dump — what is decoded can be dumped, and its dump is decoded to it.

* `Block.Readable`, `Block.codec` — the blocks that can be read: their counts can be written, and they are not nested too
  deep. `Event.Readable`, `Event.codec` — the events that can be read.
* `Restores` — dumping undoes decoding, so decoding and dumping once more changes nothing: `dump_restores`, for cells,
  tiles, start poses, levels, blocks, robots and events.
-/
import Lamplighter.Proofs.Decoding

namespace Lamplighter

open Decode Checked

/-! ## Robots -/

theorem Pose.decode_good {j : Json} {pose : Pose} :
    decode j = .good pose ↔ ∃ m, j = .obj m ∧ Fields integer m pose := by
  cases j with
  | obj m => simp only [decode, model, fields_good, Json.obj.injEq, exists_eq_left']
  | _ => simp [decode, model, Checked.wrong]

theorem Pose.codec : Codec decode dump (fun pose => pose.position.Readable) where
  sound h := by
    obtain ⟨m, -, fields⟩ := decode_good.mp h
    exact ⟨Codec.integer.of_required fields.x, Codec.integer.of_required fields.y⟩
  complete h := decode_good.mpr ⟨_, rfl,
    { x := Codec.integer.required rfl h.1
      y := Codec.integer.required rfl h.2
      heading := Direction.codec.required rfl trivial }⟩

/-! ## Blocks -/

theorem Program.dump_eq_map (p : Program) : Program.dump p = p.map Block.dump := by
  induction p with
  | nil => rfl
  | cons b rest ih => rw [Program.dump, ih, List.map_cons]

theorem Program.depth_le {n : Nat} {p : Program} (each : ∀ b ∈ p, b.depth ≤ n) :
    Program.depth p ≤ n := by
  induction p with
  | nil => exact Nat.zero_le n
  | cons b rest ih =>
    rw [Program.depth]
    exact Nat.max_le.mpr ⟨each b List.mem_cons_self, ih (fun c there => each c (List.mem_cons_of_mem b there))⟩

namespace Block

section Reading

variable {naming : Naming} {room : Nat} {m : List (String × Json)} {j : Json} {b : Block}

/-- A list of blocks. -/
def decodeList (naming : Naming) (room : Nat) : Json → Checked (List Block)
  | .arr js => decodeItems naming room 0 js
  | _ => .wrong .notList

theorem decodeChildren_eq (j : Json) : decodeChildren naming room j = nullable (decodeList naming room) j := by
  cases j <;> rfl

/-- The children of a block are read like any other field that may be left out or null. -/
theorem decodeChildrenOf_eq (m : List (String × Json)) :
    decodeChildrenOf naming room m = maybe ⟨"children", none⟩ (decodeList naming room) m := by
  induction m with
  | nil => rfl
  | cons entry rest ih =>
    obtain ⟨k, j⟩ := entry
    rw [decodeChildrenOf, decodeChildren_eq, ih]
    simp only [maybe, Decode.optional, Field.find?_of_name, Json.member?, List.find?_cons]
    by_cases here : k = "children" <;> simp [here]

/-- Blocks in a list are read one after the other. -/
theorem decodeItems_cons_good {i : Nat} {rest : List Json} {l : List Block} :
    decodeItems naming room i (j :: rest) = .good l ↔
      ∃ b kids, decodeWithin (naming.below i) room j = .good b ∧ decodeItems naming room (i + 1) rest = .good kids ∧
        l = b :: kids := by
  simp only [decodeItems, ap_good, map_good, within_good]
  constructor
  · rintro ⟨_, kids, ⟨b, first, rfl⟩, later, rfl⟩
    exact ⟨b, kids, first, later, rfl⟩
  · rintro ⟨b, kids, first, later, rfl⟩
    exact ⟨_, kids, ⟨b, first, rfl⟩, later, rfl⟩

/-- The members of an object from which a block is read, with children that may be nested `room` deep. -/
structure Fields (naming : Naming) (room : Nat) (m : List (String × Json)) (b : Block) : Prop where
  id : optional ⟨"id", none⟩ (naming []) string m = .good b.id
  kind : required ⟨"type", none⟩ (oneOf BlockKind.all BlockKind.name) m = .good b.kind
  command : maybe ⟨"command", none⟩ string m = .good b.command
  iterations : maybe ⟨"iterations", none⟩ integer m = .good b.iterations
  color : maybe colorField string m = .good b.color
  children : maybe ⟨"children", none⟩ (decodeList naming room) m = .good b.children

theorem decodeWithin_good :
    decodeWithin naming (room + 1) j = .good b ↔ ∃ m, j = .obj m ∧ b.Fields naming room m := by
  cases j with
  | obj m =>
    simp only [decodeWithin, decodeFields, decodeChildrenOf_eq, ap_good, Json.obj.injEq, exists_eq_left']
    constructor
    · rintro ⟨_, _, ⟨_, _, ⟨_, _, ⟨_, _, ⟨_, _, ⟨_, _, made, id, rfl⟩, kind, rfl⟩, command, rfl⟩, iterations, rfl⟩,
        color, rfl⟩, children, rfl⟩
      cases made
      exact ⟨id, kind, command, iterations, color, children⟩
    · rintro ⟨id, kind, command, iterations, color, children⟩
      obtain ⟨_, _, _, _, _, _⟩ := b
      exact ⟨_, _, ⟨_, _, ⟨_, _, ⟨_, _, ⟨_, _, ⟨_, _, rfl, id, rfl⟩, kind, rfl⟩, command, rfl⟩, iterations, rfl⟩,
        color, rfl⟩, children, rfl⟩
  | _ => simp [decodeWithin, Checked.wrong]

end Reading

/-! ### Dumps of blocks -/

/-- Blocks as JSON, or null. -/
def dumpChildren : Option (List Block) → Json
  | some kids => .arr (kids.map dump)
  | none => .null

theorem dump_eq (b : Block) :
    b.dump = .obj [("id", .str b.id), ("type", .str b.kind.name), ("command", .ofString? b.command),
      ("iterations", .ofInt? b.iterations), ("condition_color", .ofString? b.color),
      ("children", dumpChildren b.children)] := by
  obtain ⟨id, kind, command, iterations, color, kids⟩ := b
  cases kids with
  | none => rfl
  | some kids => rw [dump, Program.dump_eq_map, dumpChildren]

/-- The blocks that can be read where blocks may be nested `room` deep: the counts of all of them can be written. -/
def Readable : Nat → Block → Prop
  | 0, _ => False
  | room + 1, b =>
    (∀ n ∈ b.iterations, Numeral.isWritable n = true) ∧ ∀ kids ∈ b.children, ∀ kid ∈ kids, Readable room kid

theorem kindCodec : Codec (oneOf BlockKind.all BlockKind.name) (fun kind => .str kind.name) (fun _ => True) :=
  Codec.oneOf (fun kind => by cases kind <;> rfl)

theorem countCodec : Codec (nullable integer) Json.ofInt? (fun o => ∀ n ∈ o, Numeral.isWritable n = true) :=
  Codec.integer.nullable rfl (fun _ => rfl) (by simp)

theorem listCodec {room : Nat} (each : ∀ naming, Codec (decodeWithin naming room) dump (Readable room))
    (naming : Naming) :
    Codec (decodeList naming room) (fun l => .arr (l.map dump)) (fun l => ∀ b ∈ l, Readable room b) where
  sound {j l} h := by
    have sound (i : Nat) (js : List Json) (l : List Block) (h : decodeItems naming room i js = .good l) :
        ∀ b ∈ l, Readable room b := by
      induction js generalizing i l with
      | nil =>
        cases h
        simp
      | cons j rest ih =>
        obtain ⟨b, kids, first, later, rfl⟩ := decodeItems_cons_good.mp h
        exact List.forall_mem_cons.mpr ⟨(each _).sound first, ih (i + 1) kids later⟩
    cases j with
    | arr js => exact sound 0 js l h
    | _ => cases h
  complete {l} h := by
    have complete (i : Nat) : decodeItems naming room i (l.map dump) = .good l := by
      induction l generalizing i with
      | nil => rfl
      | cons b rest ih =>
        obtain ⟨first, later⟩ := List.forall_mem_cons.mp h
        exact decodeItems_cons_good.mpr ⟨b, rest, (each _).complete first, ih later (i + 1), rfl⟩
    exact complete 0

theorem codecWithin (naming : Naming) (room : Nat) : Codec (decodeWithin naming room) dump (Readable room) := by
  -- The children of a block are a field like the others, read with room for one level less.
  induction room generalizing naming with
  | zero => exact ⟨fun h => by simp [decodeWithin, Checked.wrong] at h, False.elim⟩
  | succ room ih =>
    have children : Codec (nullable (decodeList naming room)) dumpChildren
        (fun o => ∀ kids ∈ o, ∀ kid ∈ kids, Readable room kid) :=
      (listCodec ih naming).nullable rfl (fun _ => rfl) (by simp)
    constructor
    · intro j b h
      obtain ⟨m, -, fields⟩ := decodeWithin_good.mp h
      exact ⟨countCodec.of_optional (by simp) fields.iterations, children.of_optional (by simp) fields.children⟩
    · intro b h
      rw [dump_eq]
      exact decodeWithin_good.mpr ⟨_, rfl,
        { id := Codec.string.optional rfl trivial
          kind := kindCodec.required rfl trivial
          command := Codec.maybeString.optional rfl trivial
          iterations := countCodec.optional rfl h.1
          color := Codec.maybeString.optional rfl trivial
          children := children.optional rfl h.2 }⟩

/-! ### Depth -/

/-- What can be read is not nested deeper than a file may nest it. -/
theorem Readable.depth_le {room : Nat} {b : Block} (h : b.Readable room) : b.depth ≤ room := by
  induction room generalizing b with
  | zero => exact h.elim
  | succ room ih =>
    obtain ⟨id, kind, command, iterations, color, kids⟩ := b
    cases kids with
    | none =>
      rw [depth]
      omega
    | some kids =>
      have below := Program.depth_le (fun kid there => ih (h.2 kids rfl kid there))
      rw [depth]
      omega

theorem codec (naming : Naming) : Codec (decode naming) dump (Readable maxDepth) := codecWithin naming maxDepth

end Block

/-! ## Events -/

theorem Decode.entries_dump (l : List (String × Bool)) :
    entries boolean (l.map fun e => (e.1, Json.bool e.2)) = .good l := by
  induction l with
  | nil => rfl
  | cons e rest ih =>
    rw [List.map_cons, entries, ih]
    rfl

/-- Flags whose ids are texts. -/
theorem Flags.codec : Codec decode dump (fun flags => ∀ f ∈ flags, Label.ofString f.1.text = f.1) where
  sound h := by
    obtain ⟨entries, -, rfl⟩ := map_good.mp h
    intro f there
    obtain ⟨e, -, rfl⟩ := List.mem_map.mp there
    exact congrArg _ (Label.text_ofString e.1)
  complete {flags} h := by
    have read := entries_dump (flags.map fun f => (f.1.text, f.2))
    rw [List.map_map] at read
    have same : (flags.map fun f => (f.1.text, f.2)).map (fun e => (Label.ofString e.1, e.2)) = flags := by
      rw [List.map_map]
      conv_rhs => rw [← List.map_id flags]
      exact List.map_congr_left (fun f there => Prod.ext (h f there) rfl)
    exact map_good.mpr ⟨_, read, same⟩

namespace Event

/-- The members of an object from which an event is read. -/
structure Fields (m : List (String × Json)) (e : Event) : Prop where
  kind : required ⟨"kind", none⟩ (oneOf EventKind.all EventKind.name) m = .good e.kind
  path : Decode.optional ⟨"path", none⟩ [] (tuple integer) m = .good e.path
  blockId : maybe ⟨"block_id", none⟩ string m = .good e.blockId
  command : maybe ⟨"command", none⟩ string m = .good e.command
  success : maybe ⟨"success", none⟩ boolean m = .good e.success
  robot : required ⟨"robot", none⟩ Pose.decode m = .good e.robot
  lit : Decode.optional ⟨"lit_goals", none⟩ [] (list Position.decode) m = .good e.lit
  flags : Decode.optional ⟨"interactive_state", none⟩ [] Flags.decode m = .good e.flags
  outcome : maybe ⟨"outcome", none⟩ (oneOf Outcome.all Outcome.name) m = .good e.outcome

theorem decode_good {j : Json} {e : Event} : decode j = .good e ↔ ∃ m, j = .obj m ∧ e.Fields m := by
  cases j with
  | obj m =>
    simp only [decode, model, ap_good, Json.obj.injEq, exists_eq_left']
    constructor
    · rintro ⟨_, _, ⟨_, _, ⟨_, _, ⟨_, _, ⟨_, _, ⟨_, _, ⟨_, _, ⟨_, _, ⟨_, _, made, kind, rfl⟩, path, rfl⟩, blockId, rfl⟩,
        command, rfl⟩, success, rfl⟩, robot, rfl⟩, lit, rfl⟩, flags, rfl⟩, outcome, rfl⟩
      cases made
      exact ⟨kind, path, blockId, command, success, robot, lit, flags, outcome⟩
    · rintro ⟨kind, path, blockId, command, success, robot, lit, flags, outcome⟩
      exact ⟨_, _, ⟨_, _, ⟨_, _, ⟨_, _, ⟨_, _, ⟨_, _, ⟨_, _, ⟨_, _, ⟨_, _, rfl, kind, rfl⟩, path, rfl⟩, blockId, rfl⟩,
        command, rfl⟩, success, rfl⟩, robot, rfl⟩, lit, rfl⟩, flags, rfl⟩, outcome, rfl⟩
  | _ => simp [decode, model, Checked.wrong]

/-- An event whose numbers can be written, and whose flags have texts for ids. -/
structure Readable (e : Event) : Prop where
  path : ∀ n ∈ e.path, Numeral.isWritable n = true
  robot : e.robot.position.Readable
  lit : ∀ p ∈ e.lit, p.Readable
  flags : ∀ f ∈ e.flags, Label.ofString f.1.text = f.1

theorem kindCodec : Codec (oneOf EventKind.all EventKind.name) (fun kind => .str kind.name) (fun _ => True) :=
  Codec.oneOf (fun kind => by cases kind <;> rfl)

theorem outcomeCodec :
    Codec (nullable (oneOf Outcome.all Outcome.name)) (fun o => .ofString? (o.map Outcome.name)) (fun _ => True) :=
  have named : Codec (oneOf Outcome.all Outcome.name) (fun o => .str o.name) (fun _ => True) :=
    Codec.oneOf (fun o => by cases o <;> rfl)
  (named.nullable rfl (fun _ => rfl) (by simp)).anyway (by simp)

theorem codec : Codec decode dump Readable where
  sound h := by
    obtain ⟨m, -, fields⟩ := decode_good.mp h
    exact
      { path := Codec.integer.tuple.of_optional (by simp) fields.path
        robot := Pose.codec.of_required fields.robot
        lit := Position.codec.list.of_optional (by simp) fields.lit
        flags := Flags.codec.of_optional (by simp) fields.flags }
  complete h := decode_good.mpr ⟨_, rfl,
    { kind := kindCodec.required rfl trivial
      path := Codec.integer.tuple.optional rfl h.path
      blockId := Codec.maybeString.optional rfl trivial
      command := Codec.maybeString.optional rfl trivial
      success := Codec.maybeBoolean.optional rfl trivial
      robot := Pose.codec.required rfl h.robot
      lit := Position.codec.list.optional rfl h.lit
      flags := Flags.codec.optional rfl h.flags
      outcome := outcomeCodec.optional rfl trivial }⟩

end Event

/-! ## Dumping undoes decoding -/

section Restoring

variable {α : Type}

/-- What a value is dumped as, once it is decoded. -/
def normal? (decode : Json → Checked α) (dump : α → Except DumpFault Json) (j : Json) : Option Json :=
  match decode j with
  | .good a => (dump a).toOption
  | .bad _ => none

/-- Whatever is decoded can be dumped, and its dump is decoded to it; so that a dump stays as it is when it is decoded
and dumped again. -/
structure Restores (decode : Json → Checked α) (dump : α → Except DumpFault Json) : Prop where
  restored : ∀ {j a}, decode j = .good a → ∃ d, dump a = .ok d ∧ decode d = .good a
  settled : ∀ {j d}, normal? decode dump j = some d → normal? decode dump d = some d

theorem Decode.Codec.restoring {decode : Json → Checked α} {write : α → Json} {p : α → Prop}
    (c : Codec decode write p) {dump : α → Except DumpFault Json} (dumps : ∀ {a}, p a → dump a = .ok (write a)) :
    Restores decode dump where
  restored h := ⟨_, dumps (c.sound h), c.restores h⟩
  settled {j d} h := by
    unfold normal? at h
    split at h
    · rename_i a read
      rw [dumps (c.sound read)] at h
      cases h
      rw [normal?, c.restores read]
      exact congrArg Except.toOption (dumps (c.sound read))
    · cases h

/-- Dumping undoes decoding, for cells, tiles, start poses, levels, blocks nested to any depth (whatever ids they get
that were written without one), robots and events. -/
theorem dump_restores :
    Restores Position.decode (fun p => .ok p.dump) ∧ Restores Tile.decode (fun t => .ok t.dump) ∧
      Restores Pose.decodeStart (fun pose => .ok pose.dump) ∧ Restores Level.decode (fun level => .ok level.dump) ∧
      (∀ naming, Restores (Block.decode naming) Block.tryDump) ∧ Restores Pose.decode (fun pose => .ok pose.dump) ∧
      Restores Event.decode (fun e => .ok e.dump) :=
  ⟨Position.codec.restoring (fun _ => rfl), Tile.codec.restoring (fun _ => rfl),
    Pose.startCodec.restoring (fun _ => rfl), Level.codec.restoring (fun _ => rfl),
    fun naming => (Block.codec naming).restoring (fun h => if_pos h.depth_le), Pose.codec.restoring (fun _ => rfl),
    Event.codec.restoring (fun _ => rfl)⟩

end Restoring

/-- A level with numbers in texts, truth values and numbers in each other's places, and other spellings. -/
def scribbledFile : Json :=
  .obj [("id", .str " 7 "), ("gridSize", .real (.finite false 2 0)), ("maxCommands", .str "1_0"),
    ("layout", .arr [.obj [("x", .str "0"), ("y", .bool false), ("type", .str "switch"), ("targetId", .str "gate")],
      .obj [("x", .bool true), ("y", .int 0), ("type", .str "door"), ("id", .str "gate"), ("state", .int 0)]]),
    ("start", .obj [("x", .int 0), ("y", .str "+0"), ("dir", .str "E")]), ("availableBlocks", .arr [.str "LOOP"])]

/-- What it says. -/
def scribbled : Level where
  id := 7
  size := 2
  layout :=
    [{ position := ⟨0, 0⟩, kind := .switch, target := some (.ofString "gate") },
      { position := ⟨1, 0⟩, kind := .door, id := some (.ofString "gate"), state := some false }]
  start := ⟨⟨0, 0⟩, .east⟩
  palette := [.block .loop]
  maxCommands := 10

/-- A loop with its count in a text, over a conditional block without children. -/
def scribbledLoop : Json :=
  .obj [("type", .str "LOOP"), ("iterations", .str "3"), ("note", .null),
    ("children", .arr [.obj [("type", .str "IF_COLOR"), ("id", .str "q"), ("conditionColor", .str "red")]])]

/-- Blocks are named by their places. -/
def placeNames : Naming := fun place => String.ofList (place.map Nat.digitChar)

theorem dump_restores_scribbled :
    (Level.decode scribbledFile = .good scribbled ∧ Level.decode scribbled.dump = .good scribbled) ∧
      Block.decode placeNames scribbledLoop =
        .good (.ofLoop (some 3) [{ id := "q", kind := .ifColor, color := some "red" }]) ∧
      (∃ d, (Block.ofLoop (some 3) [{ id := "q", kind := .ifColor, color := some "red" }]).tryDump = .ok d ∧
        Block.decode placeNames d = .good (.ofLoop (some 3) [{ id := "q", kind := .ifColor, color := some "red" }])) := by
  obtain ⟨-, -, -, levels, blocks, -, -⟩ := dump_restores
  have level : Level.decode scribbledFile = .good scribbled := by rfl
  have block : Block.decode placeNames scribbledLoop =
      .good (.ofLoop (some 3) [{ id := "q", kind := .ifColor, color := some "red" }]) := by rfl
  obtain ⟨d, dumped, read⟩ := levels.restored level
  cases dumped
  exact ⟨⟨level, read⟩, block, (blocks placeNames).restored block⟩

end Lamplighter
