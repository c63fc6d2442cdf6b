/-
Lamplighter.Proofs.Editing — what an edit does to the blocks of a program, and what it leaves alone.

* `Program.Swapped` — a program in which one block has been swapped for others, told from its blocks in preorder.
* `Program.find?_eq` — the block that is found is the first one in preorder; `Program.modify?_swapped` — it is the one
  that is changed.
* `Program.erase?_swapped` — of the blocks with an id, one is removed with all that is below it;
  `Program.Swapped.of_nodup` — where no two blocks share an id, it is the one that is found.
* `Program.erase?_addChild` — to remove a block that has just been added undoes the addition, but for a missing list of
  children, which is now an empty one.
* `Program.Added`, `Program.Restored` — the program after an addition, and after its removal.

Looking a block up goes through a program in preorder, and removing one looks at a whole list of siblings before it
looks below any of them. Where several blocks share an id, these need not be one block.
-/
import Lamplighter.Proofs.Program
import Mathlib.Data.List.Nodup

namespace Lamplighter

/-! ## Blocks by their fields -/

namespace Block

/-- A block without the blocks below it: its own fields. -/
def bare (b : Block) : Block := { b with children := none }

/-- A block whose list of children, if it is missing, is an empty one. -/
def opened (b : Block) : Block := { b with children := some (b.children.getD []) }

@[simp] theorem bare_children (b : Block) (kids : Option (List Block)) : { b with children := kids }.bare = b.bare := rfl

@[simp] theorem id_bare (b : Block) : b.bare.id = b.id := rfl

/-- A block is made of its own fields and its children. -/
theorem with_children {b : Block} {kids : Option (List Block)} (children : b.children = kids) :
    { b with children := kids } = b := by
  subst children
  cases b
  rfl

/-- A list of children that is there stays as it is. -/
theorem opened_of_children {b : Block} (there : b.children ≠ none) : b.opened = b := by
  obtain ⟨kids, children⟩ := Option.ne_none_iff_exists'.mp there
  rw [opened, children, Option.getD_some, with_children children]

section

variable (id : String) (f : Block → Block) (b : Block)

theorem size_eq : b.size = 1 + Program.size (b.children.getD []) := by
  obtain ⟨i, kind, command, iterations, color, kids⟩ := b
  cases kids <;> rfl

theorem find?_eq : b.find? id = if b.id = id then some b else Program.find? id (b.children.getD []) := by
  obtain ⟨i, kind, command, iterations, color, kids⟩ := b
  cases kids <;> rfl

theorem modify?_eq :
    b.modify? id f = if b.id = id then some (f b)
      else (Program.modify? id f (b.children.getD [])).map fun kids => { b with children := some kids } := by
  obtain ⟨i, kind, command, iterations, color, kids⟩ := b
  cases kids <;> rfl

/-- Below a block, a block is removed as from a program. -/
theorem eraseBelow?_eq :
    b.eraseBelow? id = (Program.erase? id (b.children.getD [])).map fun kids => { b with children := some kids } := by
  obtain ⟨i, kind, command, iterations, color, kids⟩ := b
  cases kids with
  | none => rfl
  | some kids =>
    simp only [eraseBelow?, Program.erase?, Option.getD_some]
    cases Program.eraseSibling? id kids <;> rfl

end

end Block

/-! ## Blocks in preorder -/

@[simp] theorem Program.blocks_append (p q : List Block) : blocks (p ++ q) = blocks p ++ blocks q := by
  induction p with
  | nil => rfl
  | cons b rest ih => simp [ih]

/-- A program has as many blocks as its size says. -/
theorem Program.length_blocks (p : List Block) : (blocks p).length = size p := by
  refine (Block.induction (P := fun b => b.blocks.length = b.size) (Q := fun p => (blocks p).length = size p)
    (fun b kids => ?_) rfl (fun b rest here later => ?_)).2 p
  · rw [Block.blocks_eq, Block.size_eq, List.length_cons]
    cases children : b.children with
    | none => rfl
    | some below => simp [kids below children, Nat.add_comm]
  · rw [blocks_cons, size, List.length_append, here, later]

theorem Block.length_blocks (b : Block) : b.blocks.length = b.size := by
  have single := Program.length_blocks [b]
  simpa [Program.size] using single

theorem Program.size_append (p q : List Block) : size (p ++ q) = size p + size q := by
  rw [← length_blocks, blocks_append, List.length_append, length_blocks, length_blocks]

/-- With one more child, a block is as much larger as the child is. -/
theorem Block.size_addChild (child b : Block) : (addChild child b).size = b.size + child.size := by
  rw [size_eq, size_eq b, addChild, Option.getD_some, Program.size_append, ← Nat.add_assoc]
  rfl

/-- A block is found in a subtree exactly when its id is there. -/
theorem Block.find?_eq_none (id : String) (b : Block) : b.find? id = none ↔ id ∉ b.ids := by
  have single := Program.find?_eq_none id (p := [b])
  rw [Program.find?] at single
  cases found : b.find? id <;> simp_all [Program.find?]

/-- A block is changed in a subtree exactly when its id is there. -/
theorem Block.modify?_eq_none (id : String) (f : Block → Block) (b : Block) : b.modify? id f = none ↔ id ∉ b.ids := by
  have single := Program.modify?_eq_none id (f := f) (p := [b])
  rw [Program.modify?] at single
  cases changed : b.modify? id f <;> simp_all [Program.modify?]

/-- Whether a block is changed does not depend on the change. -/
theorem Block.modify?_eq_none_congr {id : String} {f g : Block → Block} {b : Block} :
    b.modify? id f = none ↔ b.modify? id g = none := by
  rw [modify?_eq_none, modify?_eq_none]

theorem Program.ids_eq (p : List Block) : ids p = (blocks p).map Block.id := by
  refine (Block.induction (P := fun b => b.ids = b.blocks.map Block.id) (Q := fun p => ids p = (blocks p).map Block.id)
    (fun b kids => ?_) rfl (fun b rest here later => ?_)).2 p
  · rw [Block.ids_eq, Block.blocks_eq, List.map_cons]
    cases children : b.children with
    | none => rfl
    | some below => simp [kids below children]
  · rw [ids_cons, blocks_cons, here, later, List.map_append]

theorem Block.ids_eq_map (b : Block) : b.ids = b.blocks.map Block.id := by
  simpa using Program.ids_eq [b]

/-- The block that is found is the first one in preorder that carries the id. -/
theorem Program.find?_eq (id : String) (p : List Block) : find? id p = (blocks p).find? (fun b => b.id = id) := by
  refine (Block.induction (P := fun b => b.find? id = b.blocks.find? (fun b => b.id = id))
    (Q := fun p => find? id p = (blocks p).find? (fun b => b.id = id)) (fun b kids => ?_) rfl
    (fun b rest here later => ?_)).2 p
  · rw [Block.find?_eq, Block.blocks_eq]
    by_cases same : b.id = id
    · simp [same]
    · cases children : b.children with
      | none => simp [same, find?]
      | some below => simp [same, kids below children]
  · rw [find?, blocks_cons, List.find?_append, ← here, later]
    cases b.find? id <;> rfl

/-! ## Swapping a block -/

namespace Program

/-- In the program `p`, the block `b` comes right after the blocks `before` in preorder, and `q` is `p` with `b`, and
all that is below it, swapped for `new`. The blocks that come after are the same. Those that come before have kept their
own fields; and their children too, unless `b` is below them: the subtree of a block is as many blocks as its size says,
from the block itself on, and theirs go beyond `before`. -/
structure Swapped (before : List Block) (b : Block) (new p q : List Block) : Prop where
  blocks : ∃ before' after, Program.blocks p = before ++ b.blocks ++ after ∧
    Program.blocks q = before' ++ Program.blocks new ++ after ∧
    before'.map Block.bare = before.map Block.bare ∧
    ∀ i c, before[i]? = some c → i + c.size ≤ before.length → before'[i]? = some c

namespace Swapped

variable {before : List Block} {b : Block} {new p q : List Block}

/-- The first block is swapped. -/
theorem here (b : Block) (new rest : List Block) : Swapped [] b new (b :: rest) (new ++ rest) :=
  ⟨[], Program.blocks rest, by simp, by simp, rfl, by simp⟩

/-- A block is swapped below the first one. -/
theorem below {c : Block} {kids kids' : List Block} (children : c.children = some kids)
    (swapped : Swapped before b new kids kids') (rest : List Block) :
    Swapped (c :: before) b new (c :: rest) ({ c with children := some kids' } :: rest) := by
  obtain ⟨before', after, old, made, fields, apart⟩ := swapped
  refine ⟨{ c with children := some kids' } :: before', after ++ Program.blocks rest, ?_, ?_, ?_, ?_⟩
  · simp [Block.blocks_eq c, children, old]
  · simp [Block.blocks_eq, made]
  · simp [fields]
  · intro i d there short
    cases i with
    | zero =>
      -- the subtree of the first block holds the one that is swapped
      obtain rfl : c = d := by simpa using there
      have whole := Program.length_blocks kids
      have some := b.length_blocks
      rw [b.size_eq] at some
      rw [c.size_eq, children, Option.getD_some, ← whole, old] at short
      simp only [List.length_append, List.length_cons] at short
      omega
    | succ i =>
      rw [List.getElem?_cons_succ] at there ⊢
      exact apart i d there (by simp only [List.length_cons] at short; omega)

/-- A block is swapped after the first one. -/
theorem later (c : Block) (swapped : Swapped before b new p q) :
    Swapped (c.blocks ++ before) b new (c :: p) (c :: q) := by
  obtain ⟨before', after, old, made, fields, apart⟩ := swapped
  refine ⟨c.blocks ++ before', after, by simp [old], by simp [made], by simp [fields], ?_⟩
  intro i d there short
  by_cases inside : i < c.blocks.length
  · rw [List.getElem?_append_left inside] at there ⊢
    exact there
  · rw [List.getElem?_append_right (by omega)] at there ⊢
    exact apart _ d there (by simp only [List.length_append] at short; omega)

/-- The sizes of the programs differ as those of what is swapped. -/
theorem size_add (h : Swapped before b new p q) : size p + size new = size q + b.size := by
  obtain ⟨before', after, old, made, fields, -⟩ := h
  have same : before'.length = before.length := by simpa using congrArg List.length fields
  rw [← length_blocks, ← length_blocks q, old, made]
  simp only [List.length_append, length_blocks, b.length_blocks, same]
  omega

/-- Where no two blocks share an id, the block that is swapped is the one that is found, and its id is gone with it. -/
theorem of_nodup (h : Swapped before b [] p q) (distinct : (ids p).Nodup) :
    find? b.id p = some b ∧ find? b.id q = none := by
  obtain ⟨before', after, old, made, fields, -⟩ := h
  have ids_before : before'.map Block.id = before.map Block.id := by
    have same := congrArg (List.map Block.id) fields
    simpa [Function.comp_def] using same
  -- the id stands at one place in the list of all ids
  have alone : b.id ∉ before.map Block.id ∧ b.id ∉ after.map Block.id := by
    have split : ids p = before.map Block.id ++ b.id :: (ids (b.children.getD []) ++ after.map Block.id) := by
      simp [ids_eq, old, Block.blocks_eq]
    have once := List.nodup_middle.mp (split ▸ distinct)
    simp only [List.nodup_cons, List.mem_append, not_or] at once
    exact ⟨once.1.1, once.1.2.2⟩
  constructor
  · have unseen : before.find? (fun c => c.id = b.id) = none := by
      simpa using alone.1
    rw [find?_eq, old, List.append_assoc, List.find?_append, unseen, Block.blocks_eq]
    simp
  · rw [find?_eq_none, ids_eq, made]
    simp only [blocks_nil, List.append_nil, List.map_append, ids_before, List.mem_append, not_or]
    exact alone

end Swapped

variable {id : String} {p q : List Block}

/-! ## Changing a block -/

/-- The block that is changed is the one that is found, and none before it carries the id. -/
theorem modify?_swapped {f : Block → Block} (changed : modify? id f p = some q) :
    ∃ before b, find? id p = some b ∧ (∀ c ∈ before, c.id ≠ id) ∧ Swapped before b [f b] p q := by
  refine (Block.induction
    (P := fun c => ∀ c', c.modify? id f = some c' → ∀ rest, ∃ before b,
      c.find? id = some b ∧ (∀ c ∈ before, c.id ≠ id) ∧ Swapped before b [f b] (c :: rest) (c' :: rest))
    (Q := fun p => ∀ q, modify? id f p = some q →
      ∃ before b, find? id p = some b ∧ (∀ c ∈ before, c.id ≠ id) ∧ Swapped before b [f b] p q)
    (fun c kids => ?_) (by simp [modify?]) (fun c rest here later => ?_)).2 p q changed
  · intro c' changed rest
    rw [Block.modify?_eq] at changed
    rw [Block.find?_eq]
    by_cases same : c.id = id
    · rw [if_pos same] at changed ⊢
      obtain rfl := Option.some.inj changed
      exact ⟨[], c, rfl, by simp, .here c [f c] rest⟩
    · rw [if_neg same] at changed ⊢
      obtain ⟨kids', deeper, rfl⟩ := Option.map_eq_some_iff.mp changed
      cases children : c.children with
      | none => simp [children, modify?] at deeper
      | some below =>
        rw [children] at deeper
        obtain ⟨before, b, found, unseen, swapped⟩ := kids below children kids' deeper
        refine ⟨c :: before, b, found, ?_, swapped.below children rest⟩
        simpa [same] using unseen
  · intro q changed
    rw [modify?] at changed
    rw [find?]
    cases first : c.modify? id f with
    | some c' =>
      obtain ⟨before, b, found, unseen, swapped⟩ := here c' first rest
      rw [first] at changed
      obtain rfl := Option.some.inj changed
      exact ⟨before, b, by rw [found], unseen, swapped⟩
    | none =>
      -- the id is not in the first block at all
      have absent : id ∉ c.ids := (c.modify?_eq_none id f).mp first
      have unfound : c.find? id = none := (c.find?_eq_none id).mpr absent
      rw [first] at changed
      obtain ⟨rest', further, rfl⟩ := Option.map_eq_some_iff.mp changed
      obtain ⟨before, b, found, unseen, swapped⟩ := later rest' further
      refine ⟨c.blocks ++ before, b, by rw [unfound]; exact found, ?_, swapped.later c⟩
      intro d there
      rcases List.mem_append.mp there with inside | after
      · intro same
        rw [Block.ids_eq_map] at absent
        exact absent (List.mem_map.mpr ⟨d, inside, same⟩)
      · exact unseen d after

/-- A change that leaves the block as it is leaves the program as it is. -/
theorem modify?_same {f : Block → Block} {b : Block} (found : find? id p = some b) (same : f b = b) :
    modify? id f p = some p := by
  refine (Block.induction (P := fun c => c.find? id = some b → c.modify? id f = some c)
    (Q := fun p => find? id p = some b → modify? id f p = some p) (fun c kids => ?_) (by simp [find?])
    (fun c rest here later => ?_)).2 p found
  · intro found
    rw [Block.find?_eq] at found
    rw [Block.modify?_eq]
    by_cases carries : c.id = id
    · rw [if_pos carries] at found ⊢
      rw [Option.some.inj found, same]
    · rw [if_neg carries] at found ⊢
      cases children : c.children with
      | none => simp [children, find?] at found
      | some below =>
        rw [children] at found
        rw [Option.getD_some, kids below children found, Option.map_some, Block.with_children children]
  · intro found
    rw [find?] at found
    rw [modify?]
    cases first : c.find? id with
    | some d =>
      rw [first] at found
      rw [here (first.trans found)]
    | none =>
      rw [first] at found
      rw [(c.modify?_eq_none id f).mpr ((c.find?_eq_none id).mp first), later found]
      rfl

/-! ## Removing a block -/

theorem eraseSibling?_swapped (removed : eraseSibling? id p = some q) :
    ∃ before b, b.id = id ∧ Swapped before b [] p q := by
  induction p generalizing q with
  | nil => simp [eraseSibling?] at removed
  | cons c rest ih =>
    rw [eraseSibling?] at removed
    by_cases same : c.id = id
    · rw [if_pos same] at removed
      obtain rfl := Option.some.inj removed
      exact ⟨[], c, same, .here c [] rest⟩
    · rw [if_neg same] at removed
      obtain ⟨rest', further, rfl⟩ := Option.map_eq_some_iff.mp removed
      obtain ⟨before, b, carried, swapped⟩ := ih further
      exact ⟨c.blocks ++ before, b, carried, swapped.later c⟩

/-- A block is removed at the root of a program if there is one, and otherwise below. -/
theorem erase?_eq_some (removed : erase? id p = some q) :
    eraseSibling? id p = some q ∨ eraseInside? id p = some q := by
  rw [erase?] at removed
  cases beside : eraseSibling? id p with
  | some r => exact .inl (by rwa [beside] at removed)
  | none => exact .inr (by rwa [beside] at removed)

theorem erase?_eq_none_iff : erase? id p = none ↔ eraseSibling? id p = none ∧ eraseInside? id p = none := by
  rw [erase?]
  cases eraseSibling? id p <;> simp

theorem eraseInside?_swapped (removed : eraseInside? id p = some q) :
    ∃ before b, b.id = id ∧ Swapped before b [] p q := by
  refine (Block.induction
    (P := fun c => ∀ c', c.eraseBelow? id = some c' → ∀ rest, ∃ before b,
      b.id = id ∧ Swapped before b [] (c :: rest) (c' :: rest))
    (Q := fun p => ∀ q, eraseInside? id p = some q → ∃ before b, b.id = id ∧ Swapped before b [] p q)
    (fun c kids => ?_) (by simp [eraseInside?]) (fun c rest here later => ?_)).2 p q removed
  · intro c' removed rest
    rw [Block.eraseBelow?_eq] at removed
    obtain ⟨kids', inside, rfl⟩ := Option.map_eq_some_iff.mp removed
    cases children : c.children with
    | none => simp [children, erase?, eraseSibling?, eraseInside?] at inside
    | some below =>
      rw [children] at inside
      obtain ⟨before, b, carried, swapped⟩ : ∃ before b, b.id = id ∧ Swapped before b [] below kids' := by
        rcases erase?_eq_some inside with beside | deeper
        · exact eraseSibling?_swapped beside
        · exact kids below children kids' deeper
      exact ⟨c :: before, b, carried, swapped.below children rest⟩
  · intro q removed
    rw [eraseInside?] at removed
    cases first : c.eraseBelow? id with
    | some c' =>
      rw [first] at removed
      obtain rfl := Option.some.inj removed
      exact here c' first rest
    | none =>
      rw [first] at removed
      obtain ⟨rest', further, rfl⟩ := Option.map_eq_some_iff.mp removed
      obtain ⟨before, b, carried, swapped⟩ := later rest' further
      exact ⟨c.blocks ++ before, b, carried, swapped.later c⟩

/-- What is removed is one block with the id, with all that is below it. -/
theorem erase?_swapped (removed : erase? id p = some q) : ∃ before b, b.id = id ∧ Swapped before b [] p q := by
  rcases erase?_eq_some removed with beside | deeper
  · exact eraseSibling?_swapped beside
  · exact eraseInside?_swapped deeper

/-! ## Removing what has been added -/

/-- After siblings without the id comes one that carries it. -/
theorem eraseSibling?_concat {b : Block} (fresh : b.id ∉ ids p) : eraseSibling? b.id (p ++ [b]) = some p := by
  induction p with
  | nil => simp [eraseSibling?]
  | cons c rest ih =>
    simp only [ids_cons, Block.ids_eq, List.cons_append, List.mem_cons, List.mem_append, not_or] at fresh
    have other : c.id ≠ b.id := fun same => fresh.1 same.symm
    simp [eraseSibling?, other, ih fresh.2.2]

/-- To remove a block from the end of a program, where nothing else carries its id, is to undo its addition. -/
theorem erase?_concat {b : Block} (fresh : b.id ∉ ids p) : erase? b.id (p ++ [b]) = some p := by
  rw [erase?, eraseSibling?_concat fresh]

/-- To remove a block that is a last child, where nothing else carries its id, is to undo its addition, but for a
missing list of children, which is an empty one then. -/
theorem erase?_addChild {b : Block} {place : String} (fresh : b.id ∉ ids p)
    (added : modify? place (Block.addChild b) p = some q) :
    erase? b.id q = modify? place Block.opened p := by
  -- of the roots none is removed, as none of them is new
  suffices both : eraseSibling? b.id q = none ∧ eraseInside? b.id q = modify? place Block.opened p by
    rw [erase?, both.1, both.2]
  refine (Block.induction
    (P := fun c => b.id ∉ c.ids → ∀ c', c.modify? place (Block.addChild b) = some c' →
      c'.id = c.id ∧ c'.eraseBelow? b.id = c.modify? place Block.opened)
    (Q := fun p => b.id ∉ ids p → ∀ q, modify? place (Block.addChild b) p = some q →
      eraseSibling? b.id q = none ∧ eraseInside? b.id q = modify? place Block.opened p)
    (fun c kids => ?_) (by simp [modify?]) (fun c rest here later => ?_)).2 p fresh q added
  · intro fresh c' added
    rw [Block.ids_eq, List.mem_cons, not_or] at fresh
    rw [Block.modify?_eq] at added ⊢
    by_cases same : c.id = place
    · rw [if_pos same] at added ⊢
      obtain rfl := Option.some.inj added
      refine ⟨rfl, ?_⟩
      rw [Block.eraseBelow?_eq]
      simp only [Block.addChild, Option.getD_some, erase?_concat fresh.2]
      rfl
    · rw [if_neg same] at added ⊢
      obtain ⟨kids', inside, rfl⟩ := Option.map_eq_some_iff.mp added
      refine ⟨rfl, ?_⟩
      cases children : c.children with
      | none => simp [children, modify?] at inside
      | some below =>
        rw [children] at fresh inside
        obtain ⟨beside, deeper⟩ := kids below children fresh.2 kids' inside
        rw [Block.eraseBelow?_eq]
        simp only [Option.getD_some, erase?, beside, deeper]
  · intro fresh q added
    rw [ids_cons, List.mem_append, not_or] at fresh
    rw [modify?] at added ⊢
    cases first : c.modify? place (Block.addChild b) with
    | some c' =>
      rw [first] at added
      obtain rfl := Option.some.inj added
      obtain ⟨same, below⟩ := here fresh.1 c' first
      have missed := (erase?_eq_none b.id).mpr fresh.2
      have other : c'.id ≠ b.id := by
        intro carries
        apply fresh.1
        rw [Block.ids_eq, ← carries, same]
        exact List.mem_cons_self
      constructor
      · simp [eraseSibling?, other, (erase?_eq_none_iff.mp missed).1]
      · rw [eraseInside?, below]
        cases opened : c.modify? place Block.opened with
        | some d => rfl
        | none =>
          rw [Block.modify?_eq_none_congr.mp opened] at first
          cases first
    | none =>
      rw [first] at added
      obtain ⟨rest', further, rfl⟩ := Option.map_eq_some_iff.mp added
      obtain ⟨beside, deeper⟩ := later fresh.2 rest' further
      have missed := (erase?_eq_none b.id (p := [c])).mpr (by simpa using fresh.1)
      rw [erase?_eq_none_iff, eraseInside?_cons] at missed
      have other : c.id ≠ b.id := by
        intro carries
        simp [eraseSibling?, carries] at missed
      have closed : c.modify? place Block.opened = none := Block.modify?_eq_none_congr.mp first
      constructor
      · simp [eraseSibling?, other, beside]
      · rw [eraseInside?, missed.2.1, closed, deeper]

/-! ## Additions -/

/-- The program `q` is `p` with the block `b` added: at the end, or as the last child of the first block in preorder
that has the id of the parent, which is no command. No other block is changed. -/
inductive Added (b : Block) (p : Program) : Option String → Program → Prop
  | root : Added b p none (p ++ [b])
  | child {place : String} {q : Program} (before : List Block) (container : Block)
      (found : find? place p = some container) (unseen : ∀ c ∈ before, c.id ≠ place)
      (holds : container.kind ≠ .command) (swapped : Swapped before container [Block.addChild b container] p q) :
      Added b p (some place) q

/-- The program `q` is `p` with an empty list of children in place of a missing one, at the first block that has the id
of the parent, if that is where the list is missing. -/
inductive Restored (p : Program) : Option String → Program → Prop
  | root : Restored p none p
  | listed {place : String} (container : Block) (found : find? place p = some container)
      (there : container.children ≠ none) : Restored p (some place) p
  | opened {place : String} {q : Program} (before : List Block) (container : Block)
      (found : find? place p = some container) (missing : container.children = none)
      (swapped : Swapped before container [{ container with children := some [] }] p q) : Restored p (some place) q

/-- A program to which a block has been added is as much larger as the block is. -/
theorem Added.size_eq {b : Block} {p q : Program} {parent : Option String} (added : Added b p parent q) :
    size q = size p + b.size := by
  cases added with
  | root => exact size_append p [b]
  | child before container found unseen holds swapped =>
    have sizes := swapped.size_add
    have grown : size [Block.addChild b container] = container.size + b.size := Block.size_addChild b container
    omega

/-- Changing the first block that has the parent's id is an addition if it is no command. -/
theorem Added.of_modify? {b container : Block} {place : String} {p q : Program}
    (found : find? place p = some container) (holds : container.kind ≠ .command)
    (changed : modify? place (Block.addChild b) p = some q) : Added b p (some place) q := by
  obtain ⟨before, first, found', unseen, swapped⟩ := modify?_swapped changed
  obtain rfl : first = container := Option.some.inj (found'.symm.trans found)
  exact .child before first found unseen holds swapped

/-- Removing a block that has just been added under a parent restores the program: but for a list of children that the
parent has now, it is what it was. -/
theorem Restored.of_modify? {b container : Block} {place : String} {p q : Program}
    (found : find? place p = some container) (changed : modify? place (Block.addChild b) p = some q)
    (fresh : b.id ∉ ids p) :
    ∃ r, erase? b.id q = some r ∧ modify? place Block.opened p = some r ∧ Restored p (some place) r := by
  obtain ⟨r, opened⟩ := exists_modify? place found Block.opened
  refine ⟨r, (erase?_addChild fresh changed).trans opened, opened, ?_⟩
  by_cases missing : container.children = none
  · obtain ⟨before, first, found', -, swapped⟩ := modify?_swapped opened
    obtain rfl : first = container := Option.some.inj (found'.symm.trans found)
    have empty : first.opened = { first with children := some [] } := by
      rw [Block.opened, missing, Option.getD_none]
    rw [empty] at swapped
    exact .opened before first found missing swapped
  · have same := modify?_same found (Block.opened_of_children missing)
    obtain rfl := Option.some.inj (opened.symm.trans same)
    exact .listed container found missing

end Program

end Lamplighter
