/-
Lamplighter.Proofs.Sharing — programs in which one list of children may stand at several places.

* `Piece` — a block as an object that keeps its children on a shelf; `Piece.block`, `Pieces.program` — how it reads.
* `Pieces.put` — a child is put on a shelf, and is there wherever the shelf stands. `Pieces.shelves_put`,
  `Pieces.size_put` — it is counted once for each of these places.
* `Pieces.add?` — the addition of a child to the first block that carries an id. `Pieces.add?_eq` — where no shelf
  stands at two places this is the addition to a tree, and `Pieces.nodup_add?` — then none does afterwards.

Whoever puts a block into a program twice, or puts in a copy that has kept the list of its children, has one shelf at
two places. No file has one, and no addition makes one.
-/
import Lamplighter.Proofs.Editing
import Mathlib.Data.List.Nodup

namespace Lamplighter

/-- A block as an object: its own fields, and its children. The shelf is the list in which it keeps them, or the block
itself if it has no list yet. Two places that have one shelf have the same children. -/
structure Piece where
  shelf : Nat
  own : Block
  children : Option (List Piece) := none

namespace Piece

mutual

theorem induction_piece {P : Piece → Prop} {Q : List Piece → Prop}
    (piece : ∀ x, (∀ kids, x.children = some kids → Q kids) → P x) (nil : Q [])
    (cons : ∀ x rest, P x → Q rest → Q (x :: rest)) : (x : Piece) → P x
  | ⟨_, _, none⟩ => piece _ (fun _ h => by cases h)
  | ⟨_, _, some kids⟩ => piece _ (fun _ h => by cases h; exact induction_pieces piece nil cons kids)

theorem induction_pieces {P : Piece → Prop} {Q : List Piece → Prop}
    (piece : ∀ x, (∀ kids, x.children = some kids → Q kids) → P x) (nil : Q [])
    (cons : ∀ x rest, P x → Q rest → Q (x :: rest)) : (p : List Piece) → Q p
  | [] => nil
  | x :: rest => cons x rest (induction_piece piece nil cons x) (induction_pieces piece nil cons rest)

end

/-- Induction over pieces: one from its children, a list from its first piece and the rest. -/
theorem induction {P : Piece → Prop} {Q : List Piece → Prop}
    (piece : ∀ x, (∀ kids, x.children = some kids → Q kids) → P x) (nil : Q [])
    (cons : ∀ x rest, P x → Q rest → Q (x :: rest)) : (∀ x, P x) ∧ ∀ p, Q p :=
  ⟨induction_piece piece nil cons, induction_pieces piece nil cons⟩

end Piece

/-! ## How pieces read -/

mutual

/-- The block that a piece is read as. -/
def Piece.block : Piece → Block
  | ⟨_, own, none⟩ => { own with children := none }
  | ⟨_, own, some kids⟩ => { own with children := some (Pieces.program kids) }
termination_by structural x => x

/-- The program that pieces are read as. -/
def Pieces.program : List Piece → Program
  | [] => []
  | x :: rest => x.block :: Pieces.program rest
termination_by structural p => p

end

mutual

/-- The shelves of a piece and of all that is below it, in preorder: one for each place. -/
def Piece.shelves : Piece → List Nat
  | ⟨n, _, none⟩ => [n]
  | ⟨n, _, some kids⟩ => n :: Pieces.shelves kids
termination_by structural x => x

/-- The shelves of pieces, and of all that is below them. -/
def Pieces.shelves : List Piece → List Nat
  | [] => []
  | x :: rest => x.shelves ++ Pieces.shelves rest
termination_by structural p => p

end

mutual

/-- The shelf of the first block, in preorder, that carries an id. -/
def Piece.shelf? (id : String) : Piece → Option Nat
  | ⟨n, own, none⟩ => if own.id = id then some n else none
  | ⟨n, own, some kids⟩ => if own.id = id then some n else Pieces.shelf? id kids
termination_by structural x => x

/-- The shelf of the first block among pieces that carries an id. -/
def Pieces.shelf? (id : String) : List Piece → Option Nat
  | [] => none
  | x :: rest => (x.shelf? id).or (Pieces.shelf? id rest)
termination_by structural p => p

end

mutual

/-- A piece after a child has been put on a shelf, after the others there. -/
def Piece.put (n : Nat) (child : Piece) : Piece → Piece
  | ⟨m, own, none⟩ => ⟨m, own, if m = n then some [child] else none⟩
  | ⟨m, own, some kids⟩ =>
    ⟨m, own, some (Pieces.put n child kids ++ if m = n then [child] else [])⟩
termination_by structural x => x

/-- Pieces after a child has been put on a shelf: it is there wherever the shelf stands. -/
def Pieces.put (n : Nat) (child : Piece) : List Piece → List Piece
  | [] => []
  | x :: rest => Piece.put n child x :: Pieces.put n child rest
termination_by structural p => p

end

/-- Pieces with one more child on the shelf of the first block, in preorder, that carries an id. -/
def Pieces.add? (id : String) (child : Piece) (p : List Piece) : Option (List Piece) :=
  (shelf? id p).map fun n => put n child p

namespace Piece

variable (x : Piece) (id : String) (n : Nat) (child : Piece)

theorem block_eq : x.block = { x.own with children := x.children.map Pieces.program } := by
  obtain ⟨m, own, kids⟩ := x
  cases kids <;> rfl

theorem shelves_eq : x.shelves = x.shelf :: Pieces.shelves (x.children.getD []) := by
  obtain ⟨m, own, kids⟩ := x
  cases kids <;> rfl

theorem shelf?_eq : x.shelf? id = if x.own.id = id then some x.shelf else Pieces.shelf? id (x.children.getD []) := by
  obtain ⟨m, own, kids⟩ := x
  cases kids <;> rfl

/-- Where the shelf is not its own, a child is put below the piece, or nowhere. -/
theorem put_of_ne (other : x.shelf ≠ n) :
    put n child x = { x with children := x.children.map (Pieces.put n child) } := by
  obtain ⟨m, own, kids⟩ := x
  cases kids with
  | none => simp [put, show m ≠ n from other]
  | some kids => simp [put, show m ≠ n from other]

/-- On its own shelf, a child is put after the other children. -/
theorem put_shelf :
    put x.shelf child x =
      { x with children := some (Pieces.put x.shelf child (x.children.getD []) ++ [child]) } := by
  obtain ⟨m, own, kids⟩ := x
  cases kids <;> simp [put, Pieces.put]

end Piece

namespace Pieces

theorem program_append (p q : List Piece) : program (p ++ q) = program p ++ program q := by
  induction p with
  | nil => rfl
  | cons x rest ih => simp only [List.cons_append, program, ih]

theorem shelves_append (p q : List Piece) : shelves (p ++ q) = shelves p ++ shelves q := by
  induction p with
  | nil => rfl
  | cons x rest ih => simp only [List.cons_append, shelves, ih, List.append_assoc]

end Pieces

/-! ## Putting a child on a shelf -/

section Putting

variable (n : Nat) (child : Piece)

/-- Pieces have as many places as the program that they are read as has blocks. -/
theorem Pieces.size_program (p : List Piece) : Program.size (program p) = (shelves p).length := by
  refine (Piece.induction (P := fun x => x.block.size = x.shelves.length)
    (Q := fun p => Program.size (program p) = (shelves p).length) (fun x kids => ?_) rfl
    (fun x rest here later => ?_)).2 p
  · rw [Piece.shelves_eq, List.length_cons, Block.size_eq, Piece.block_eq, Nat.add_comm]
    cases children : x.children with
    | none => rfl
    | some below => exact congrArg (· + 1) (kids below children)
  · rw [program, Program.size, shelves, List.length_append, here, later]

/-- A child is put down once for each place where the shelf stands. -/
theorem Pieces.shelves_put (p : List Piece) :
    (shelves (put n child p)).Perm (shelves p ++ (List.replicate ((shelves p).count n) child.shelves).flatten) := by
  refine (Piece.induction
    (P := fun x => (Piece.put n child x).shelves.Perm
      (x.shelves ++ (List.replicate (x.shelves.count n) child.shelves).flatten))
    (Q := fun p => (shelves (put n child p)).Perm
      (shelves p ++ (List.replicate ((shelves p).count n) child.shelves).flatten))
    (fun x kids => ?_) (by simp [put, shelves]) (fun x rest here later => ?_)).2 p
  · have below : (shelves (put n child (x.children.getD []))).Perm (shelves (x.children.getD []) ++
        (List.replicate ((shelves (x.children.getD [])).count n) child.shelves).flatten) := by
      cases children : x.children with
      | none => simp [put, shelves]
      | some kids' => exact kids kids' children
    rw [Piece.shelves_eq, Piece.shelves_eq x]
    by_cases own : x.shelf = n
    · subst own
      rw [Piece.put_shelf, List.count_cons_self, List.replicate_succ', List.flatten_append]
      have grown := below.append_right child.shelves
      simpa [shelves_append, shelves] using grown
    · rw [Piece.put_of_ne x n child own, List.count_cons_of_ne own]
      refine List.Perm.cons _ ?_
      cases children : x.children with
      | none => simp [shelves]
      | some kids' => exact kids kids' children
  · simp only [put, shelves, List.count_append, List.replicate_add, List.flatten_append]
    refine (here.append later).trans ?_
    simp only [List.append_assoc]
    exact List.Perm.append_left _ (List.perm_append_comm_assoc _ _ _)

/-- Each place with the shelf makes the program longer by the child. -/
theorem Pieces.size_put (p : List Piece) :
    Program.size (program (put n child p)) = Program.size (program p) + (shelves p).count n * child.block.size := by
  have alone := size_program [child]
  simp only [program, Program.size, shelves, List.append_nil, Nat.add_zero] at alone
  rw [size_program, size_program, (shelves_put n child p).length_eq, alone]
  simp

/-- A shelf that stands nowhere is not seen. -/
theorem Pieces.put_of_not_mem {p : List Piece} (absent : n ∉ shelves p) : put n child p = p := by
  refine (Piece.induction (P := fun x => n ∉ x.shelves → Piece.put n child x = x)
    (Q := fun p => n ∉ shelves p → put n child p = p) (fun x kids => ?_) (fun _ => rfl)
    (fun x rest here later => ?_)).2 p absent
  · intro absent
    rw [Piece.shelves_eq, List.mem_cons, not_or] at absent
    rw [Piece.put_of_ne x n child (Ne.symm absent.1)]
    obtain ⟨m, own, _ | below⟩ := x
    · rfl
    · rw [Option.map_some, kids below rfl absent.2]
  · intro absent
    rw [shelves, List.mem_append, not_or] at absent
    rw [put, here absent.1, later absent.2]

theorem Piece.put_of_not_mem {x : Piece} (absent : n ∉ x.shelves) : put n child x = x := by
  have alone := Pieces.put_of_not_mem n child (p := [x]) (by simpa [Pieces.shelves] using absent)
  exact (List.cons.inj alone).1

end Putting

/-! ## Adding a child -/

namespace Pieces

variable {id : String} {child : Piece} {p q : List Piece}

/-- The shelf of a block that is found stands where the block is. -/
theorem mem_of_shelf? {n : Nat} (found : shelf? id p = some n) : n ∈ shelves p := by
  refine (Piece.induction (P := fun x => x.shelf? id = some n → n ∈ x.shelves)
    (Q := fun p => shelf? id p = some n → n ∈ shelves p) (fun x kids => ?_) (by simp [shelf?])
    (fun x rest here later => ?_)).2 p found
  · intro found
    rw [Piece.shelf?_eq] at found
    rw [Piece.shelves_eq]
    split at found
    · exact List.mem_cons.mpr (.inl (Option.some.inj found).symm)
    · cases children : x.children with
      | none => simp [children, shelf?] at found
      | some below =>
        rw [children] at found
        exact List.mem_cons_of_mem _ (kids below children found)
  · intro found
    rw [shelves, List.mem_append]
    rcases Option.or_eq_some_iff.mp found with first | ⟨-, further⟩
    · exact .inl (here first)
    · exact .inr (later further)

/-- Where no shelf stands at two places, a child is added as to a tree: to the first block that carries the id. -/
theorem add?_eq (id : String) (child : Piece) (unshared : (shelves p).Nodup) :
    (add? id child p).map program = Program.modify? id (Block.addChild child.block) (program p) := by
  rw [add?, Option.map_map]
  refine (Piece.induction
    (P := fun x => x.shelves.Nodup → (x.shelf? id).map (fun n => (Piece.put n child x).block) =
      x.block.modify? id (Block.addChild child.block))
    (Q := fun p => (shelves p).Nodup → (shelf? id p).map (program ∘ fun n => put n child p) =
      Program.modify? id (Block.addChild child.block) (program p))
    (fun x kids => ?_) (fun _ => rfl) (fun x rest here later => ?_)).2 p unshared
  · intro unshared
    rw [Piece.shelves_eq, List.nodup_cons] at unshared
    obtain ⟨apart, distinct⟩ := unshared
    rw [Piece.shelf?_eq, Block.modify?_eq]
    by_cases same : x.own.id = id
    · rw [if_pos same, if_pos (by rw [Piece.block_eq]; exact same), Option.map_some, Piece.put_shelf,
        put_of_not_mem x.shelf child apart, Piece.block_eq, Piece.block_eq x, Block.addChild]
      cases children : x.children <;> simp [program_append, program]
    · rw [if_neg same, if_neg (by rw [Piece.block_eq]; exact same)]
      cases children : x.children with
      | none => simp [Piece.block_eq x, children, shelf?, Program.modify?]
      | some below =>
        rw [children] at apart distinct
        have deeper := kids below children distinct
        rw [Piece.block_eq x, children, Option.map_some, Option.getD_some, Option.getD_some, ← deeper, Option.map_map]
        refine Option.map_congr fun n found => ?_
        have other : x.shelf ≠ n := fun equal => apart (equal ▸ mem_of_shelf? found)
        rw [Piece.put_of_ne x n child other, Piece.block_eq, children]
        rfl
  · intro unshared
    rw [shelves, List.nodup_append'] at unshared
    obtain ⟨first, further, apart⟩ := unshared
    rw [shelf?, program, Program.modify?, ← here first]
    cases found : x.shelf? id with
    | some n =>
      have there : n ∈ x.shelves := by
        have alone : n ∈ shelves [x] := mem_of_shelf? (show shelf? id [x] = some n by simp [shelf?, found])
        simpa [shelves] using alone
      simp [put, program, put_of_not_mem n child (apart there)]
    | none =>
      rw [Option.none_or, Option.map_none, ← later further, Option.map_map]
      refine Option.map_congr fun n found => ?_
      have absent : n ∉ x.shelves := fun there => apart there (mem_of_shelf? found)
      simp [put, program, Piece.put_of_not_mem n child absent]

/-- Then no shelf stands at two places afterwards either, if the child brings new ones. -/
theorem nodup_add? (unshared : (shelves p ++ child.shelves).Nodup) (added : add? id child p = some q) :
    (shelves q).Nodup := by
  obtain ⟨n, found, rfl⟩ := Option.map_eq_some_iff.mp added
  obtain ⟨distinct, -, -⟩ := List.nodup_append'.mp unshared
  have once : (shelves p).count n = 1 := List.count_eq_one_of_mem distinct (mem_of_shelf? found)
  have placed := shelves_put n child p
  rw [once, List.replicate_one, List.flatten_singleton] at placed
  exact placed.nodup_iff.mpr unshared

end Pieces

end Lamplighter
