/-
Lamplighter.Proofs.Run.Address — where the blocks of a program stand.

* `Program.at?` — the block at an address, counted from the roots of a program.
* `Program.Found` — a block of a program, at an address below an enclosing one.
* `Placed` — siblings of which each one is at its address. From `Program.Found` of a block follows that its
  children are placed below it, and that is all that a walk needs to know.
-/
import Lamplighter.Console
import Lamplighter.Program

namespace Lamplighter

namespace Program

/-! ## Blocks by address -/

/-- A sibling by its index. -/
def sibling? (p : List Block) (i : Int) : Option Block := if i < 0 then none else p[i.toNat]?

/-- The block at an address: an index for each level of the tree, the outermost first. At the empty address
there is none. -/
def at? : List Block → Path → Option Block
  | _, [] => none
  | p, [i] => sibling? p i
  | p, i :: j :: rest => (sibling? p i).bind fun b => at? (b.children.getD []) (j :: rest)

@[simp] theorem sibling?_natCast (p : List Block) (i : Nat) : sibling? p i = p[i]? := by
  rw [sibling?, if_neg (by omega), Int.toNat_natCast]

@[simp] theorem at?_nil (p : List Block) : at? p [] = none := rfl

theorem at?_root (p : List Block) (i : Nat) : at? p [(i : Int)] = p[i]? := sibling?_natCast p i

/-- The children of a block are found below it. -/
theorem at?_child {p : List Block} {x : Path} {b kid : Block} {kids : List Block} {i : Nat}
    (found : at? p x = some b) (children : b.children = some kids) (there : kids[i]? = some kid) :
    at? p (x ++ [(i : Int)]) = some kid := by
  induction x generalizing p with
  | nil => cases found
  | cons j rest ih =>
    cases rest with
    | nil =>
      have here : sibling? p j = some b := found
      change (sibling? p j).bind (fun b => at? (b.children.getD []) [(i : Int)]) = some kid
      rw [here, Option.bind_some, children, Option.getD_some, at?_root, there]
    | cons k rest =>
      obtain ⟨above, here, found⟩ := Option.bind_eq_some_iff.mp found
      change (sibling? p j).bind (fun b => at? (b.children.getD []) (k :: rest ++ [(i : Int)])) = some kid
      rw [here, Option.bind_some]
      exact ih found

/-! ## Blocks below an enclosing address -/

/-- A block of a program that is walked at the address `root` stands at `path`. -/
def Found (p : List Block) (root path : Path) (b : Block) : Prop := ∃ x, path = root ++ x ∧ at? p x = some b

theorem Found.child {p : List Block} {root path : Path} {b kid : Block} {kids : List Block}
    (found : Found p root path b) (children : b.children = some kids) {i : Nat}
    (there : kids[i]? = some kid) : Found p root (path ++ [(i : Int)]) kid := by
  obtain ⟨x, rfl, found⟩ := found
  exact ⟨x ++ [(i : Int)], List.append_assoc _ _ _, at?_child found children there⟩

end Program

/-! ## Siblings -/

/-- Siblings, the first of them at index `i` below `path`, each of which is at its address. -/
def Placed (At : Path → Block → Prop) (path : Path) (i : Nat) (p : List Block) : Prop :=
  ∀ (j : Nat) b, p[j]? = some b → At (path ++ [((i + j : Nat) : Int)]) b

namespace Placed

variable {At : Path → Block → Prop} {path : Path} {i : Nat} {b : Block} {rest : List Block}

theorem head (h : Placed At path i (b :: rest)) : At (path ++ [(i : Int)]) b := h 0 b rfl

theorem tail (h : Placed At path i (b :: rest)) : Placed At path (i + 1) rest := by
  intro j c there
  have next := h (j + 1) c there
  rwa [show i + (j + 1) = i + 1 + j by omega] at next

/-- The roots of a program are placed at its enclosing address. -/
theorem roots (p : List Block) (root : Path) : Placed (Program.Found p root) root 0 p := by
  intro j b there
  refine ⟨[(j : Int)], ?_, ?_⟩
  · rw [Nat.zero_add]
  · rw [Program.at?_root, there]

/-- The children of a block are placed below it. -/
theorem children {p : List Block} {root : Path} {kids : List Block} (found : Program.Found p root path b)
    (children : b.children = some kids) : Placed (Program.Found p root) path 0 kids := by
  intro j kid there
  rw [Nat.zero_add]
  exact found.child children there

end Placed

end Lamplighter
