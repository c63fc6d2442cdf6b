/-
Lamplighter.Proofs.Program — which blocks an editor finds.

* `Program.blocks`, `Program.ids` — the blocks of a program, and their ids, in preorder.
* `Program.erase?` — a program without one block that carries an id, if there is one. `Program.remove_eq` — that is what
  removing a block in place leaves, and a search in vain changes nothing.
* `Program.find?_eq_none`, `Program.modify?_eq_none`, `Program.erase?_eq_none` — to look a block up, to change it and to
  remove it all fail for the ids that no block carries, and for no others.
-/
import Lamplighter.Proofs.Run.Walk
import Mathlib.Logic.Basic

namespace Lamplighter

/-! ## Preorder -/

mutual

/-- The blocks of a subtree, its root first. -/
def Block.blocks : Block → List Block
  | ⟨i, k, c, n, q, none⟩ => [⟨i, k, c, n, q, none⟩]
  | ⟨i, k, c, n, q, some kids⟩ => ⟨i, k, c, n, q, some kids⟩ :: Program.blocks kids
termination_by structural b => b

/-- The blocks of a program, nested ones included: each before those that are below it. -/
def Program.blocks : List Block → List Block
  | [] => []
  | b :: rest => b.blocks ++ Program.blocks rest
termination_by structural p => p

end

theorem Block.blocks_eq (b : Block) : b.blocks = b :: Program.blocks (b.children.getD []) := by
  obtain ⟨id, kind, command, iterations, color, kids⟩ := b
  cases kids <;> rfl

@[simp] theorem Program.blocks_nil : Program.blocks [] = [] := rfl

@[simp] theorem Program.blocks_cons (b : Block) (rest : List Block) :
    Program.blocks (b :: rest) = b.blocks ++ Program.blocks rest := rfl

mutual

/-- The ids of the blocks of a subtree, in preorder. -/
def Block.ids : Block → List String
  | ⟨id, _, _, _, _, none⟩ => [id]
  | ⟨id, _, _, _, _, some kids⟩ => id :: Program.ids kids
termination_by structural b => b

/-- The ids of the blocks of a program, in preorder. -/
def Program.ids : List Block → List String
  | [] => []
  | b :: rest => b.ids ++ Program.ids rest
termination_by structural p => p

end

theorem Block.ids_eq (b : Block) : b.ids = b.id :: Program.ids (b.children.getD []) := by
  obtain ⟨id, kind, command, iterations, color, kids⟩ := b
  cases kids <;> rfl

@[simp] theorem Program.ids_nil : Program.ids [] = [] := rfl

@[simp] theorem Program.ids_cons (b : Block) (rest : List Block) : Program.ids (b :: rest) = b.ids ++ Program.ids rest :=
  rfl

/-- An id is carried by a block at the root, or below one. -/
theorem Program.mem_ids {id : String} {p : List Block} :
    id ∈ Program.ids p ↔ (∃ b ∈ p, b.id = id) ∨ ∃ b ∈ p, id ∈ Program.ids (b.children.getD []) := by
  induction p with
  | nil => simp
  | cons b rest ih =>
    simp only [Program.ids_cons, Block.ids_eq, List.mem_append, List.mem_cons, ih, exists_eq_or_imp]
    constructor
    · rintro ((here | below) | later | later)
      · exact .inl (.inl here.symm)
      · exact .inr (.inl below)
      · exact .inl (.inr later)
      · exact .inr (.inr later)
    · rintro ((here | later) | below | later)
      · exact .inl (.inl here.symm)
      · exact .inr (.inl later)
      · exact .inl (.inr below)
      · exact .inr (.inr later)

/-! ## Programs without a block -/

/-- A list of siblings without the first one that carries an id. -/
def Program.eraseSibling? (id : String) : List Block → Option (List Block)
  | [] => none
  | b :: rest => if b.id = id then some rest else (Program.eraseSibling? id rest).map (b :: ·)

mutual

/-- A block without the block below it that carries an id: one of its children if there is one,
otherwise a block further down. -/
def Block.eraseBelow? (id : String) : Block → Option Block
  | ⟨_, _, _, _, _, none⟩ => none
  | ⟨i, k, c, n, q, some kids⟩ =>
    match Program.eraseSibling? id kids with
    | some kids => some ⟨i, k, c, n, q, some kids⟩
    | none => (Program.eraseInside? id kids).map (fun kids => ⟨i, k, c, n, q, some kids⟩)
termination_by structural b => b

/-- A list of siblings without the block that carries an id below the first sibling to have one. -/
def Program.eraseInside? (id : String) : List Block → Option (List Block)
  | [] => none
  | b :: rest =>
    match b.eraseBelow? id with
    | some b => some (b :: rest)
    | none => (Program.eraseInside? id rest).map (b :: ·)
termination_by structural p => p

end

/-- A program without one block that carries an id, together with its subtree; `none` if there is
none. A whole list of siblings is searched before any of their children. -/
def Program.erase? (id : String) (p : Program) : Option Program :=
  match Program.eraseSibling? id p with
  | some p => some p
  | none => Program.eraseInside? id p

theorem Program.eraseSibling?_eq (id : String) (p : List Block) :
    eraseSibling? id p = (p.findIdx? fun b => b.id = id).map p.eraseIdx := by
  induction p with
  | nil => rfl
  | cons b rest ih =>
    by_cases here : b.id = id
    · simp [eraseSibling?, List.findIdx?_cons, here]
    · simp [eraseSibling?, List.findIdx?_cons, here, ih, Function.comp_def]

/-- What a search through siblings leaves behind: the siblings without the block, or the siblings as they were. -/
theorem Program.removeInside_eq (id : String) (p : List Block) :
    removeInside id p = (((eraseInside? id p).isSome), (eraseInside? id p).getD p) := by
  refine (Block.induction (P := fun b => b.removeBelow id = ((b.eraseBelow? id).isSome, (b.eraseBelow? id).getD b))
    (Q := fun p => removeInside id p = ((eraseInside? id p).isSome, (eraseInside? id p).getD p)) (fun b kids => ?_) rfl
    (fun b rest here later => ?_)).2 p
  · obtain ⟨i, kind, command, iterations, color, children⟩ := b
    cases children with
    | none => rfl
    | some below =>
      rw [Block.removeBelow, Block.eraseBelow?, eraseSibling?_eq]
      cases below.findIdx? fun b => b.id = id with
      | some place => rfl
      | none =>
        rw [kids below rfl]
        cases eraseInside? id below <;> rfl
  · rw [removeInside, eraseInside?, here]
    cases b.eraseBelow? id with
    | some b' => rfl
    | none =>
      rw [later]
      cases eraseInside? id rest <;> rfl

/-- A block is removed exactly if there is a program without it, and a search in vain leaves the program as it was. -/
theorem Program.remove_eq (id : String) (p : Program) : remove id p = ((erase? id p).isSome, (erase? id p).getD p) := by
  rw [remove, erase?, eraseSibling?_eq]
  cases p.findIdx? fun b => b.id = id with
  | some place => rfl
  | none => exact removeInside_eq id p

section

variable (id : String)

/-! ## Finding and changing -/

/-- No block of a program is found if none carries the id. -/
theorem Program.find?_eq_none {p : Program} : find? id p = none ↔ id ∉ ids p := by
  refine (Block.induction (P := fun b => b.find? id = none ↔ id ∉ b.ids) (Q := fun p => find? id p = none ↔ id ∉ ids p)
    (fun b kids => ?_) (by simp [find?]) (fun b rest here later => ?_)).2 p
  · obtain ⟨i, kind, command, iterations, color, children⟩ := b
    cases children with
    | none => simp [Block.find?, Block.ids, eq_comm]
    | some below =>
      have deeper := kids below rfl
      rcases eq_or_ne i id with rfl | other
      · simp [Block.find?, Block.ids]
      · simp [Block.find?, Block.ids, other, other.symm, deeper]
  · rw [Program.find?]
    cases found : b.find? id <;> simp_all

/-- No block of a program is changed if none carries the id. -/
theorem Program.modify?_eq_none {f : Block → Block} {p : Program} : modify? id f p = none ↔ id ∉ ids p := by
  refine (Block.induction (P := fun b => b.modify? id f = none ↔ id ∉ b.ids)
    (Q := fun p => modify? id f p = none ↔ id ∉ ids p) (fun b kids => ?_) (by simp [modify?])
    (fun b rest here later => ?_)).2 p
  · obtain ⟨i, kind, command, iterations, color, children⟩ := b
    cases children with
    | none => simp [Block.modify?, Block.ids, eq_comm]
    | some below =>
      have deeper := kids below rfl
      rcases eq_or_ne i id with rfl | other
      · simp [Block.modify?, Block.ids]
      · simp [Block.modify?, Block.ids, other, other.symm, deeper]
  · rw [Program.modify?]
    cases found : b.modify? id f <;> simp_all

/-- A block that is found can be changed. -/
theorem Program.exists_modify? {b : Block} {p : Program} (found : find? id p = some b) (f : Block → Block) :
    ∃ q, modify? id f p = some q := by
  rw [← Option.ne_none_iff_exists', ne_eq, modify?_eq_none, ← find?_eq_none, found]
  nofun

/-! ## Removing -/

theorem Program.eraseSibling?_eq_none {p : Program} : eraseSibling? id p = none ↔ ∀ b ∈ p, b.id ≠ id := by
  induction p with
  | nil => simp [eraseSibling?]
  | cons b rest ih => by_cases here : b.id = id <;> simp [eraseSibling?, here, ih]

theorem Program.eraseInside?_cons (b : Block) (rest : List Block) :
    eraseInside? id (b :: rest) = none ↔ b.eraseBelow? id = none ∧ eraseInside? id rest = none := by
  rw [eraseInside?]
  cases b.eraseBelow? id <;> simp

/-- Nothing is removed below the blocks of a program if no block there carries the id. -/
theorem Program.eraseInside?_eq_none {p : Program} :
    eraseInside? id p = none ↔ ∀ b ∈ p, id ∉ ids (b.children.getD []) := by
  refine (Block.induction (P := fun b => b.eraseBelow? id = none ↔ id ∉ ids (b.children.getD []))
    (Q := fun p => eraseInside? id p = none ↔ ∀ b ∈ p, id ∉ ids (b.children.getD [])) (fun b kids => ?_)
    (by simp [eraseInside?]) (fun b rest here later => ?_)).2 p
  · obtain ⟨i, kind, command, iterations, color, children⟩ := b
    cases children with
    | none => simp [Block.eraseBelow?]
    | some below =>
      have deeper := kids below rfl
      have siblings := Program.eraseSibling?_eq_none id (p := below)
      rw [Block.eraseBelow?, Option.getD_some, Program.mem_ids]
      cases beside : Program.eraseSibling? id below <;> simp_all
  · rw [Program.eraseInside?_cons, here, later]
    simp

/-- Nothing is removed from a program if no block carries the id. -/
theorem Program.erase?_eq_none {p : Program} : Program.erase? id p = none ↔ id ∉ Program.ids p := by
  have siblings := eraseSibling?_eq_none id (p := p)
  have deeper := eraseInside?_eq_none id (p := p)
  rw [erase?, mem_ids]
  cases beside : eraseSibling? id p <;> simp_all

end

end Lamplighter
