/-
Lamplighter.Proofs.Run.Shallow — no walk can tell a missing list of children from an empty one.

* `Crew.Shallow` — a crew that looks at nothing of a block but its own fields; those of runs are such.
* `Crew.Shallow.runBlock_congr` — blocks with the same fields are run alike if their children are.
* `Crew.Shallow.runFrom_opened` — so it makes no difference to a walk whether a list of children is missing or empty.
-/
import Lamplighter.Proofs.Editing
import Lamplighter.Run.Stage

namespace Lamplighter

/-! ## The tasks of blocks without children -/

namespace Block

/-- A block with nothing below it has the task that its own fields give it. -/
theorem task_of_empty {b : Block} (empty : b.children.getD [] = []) : b.task = b.bare.task := by
  obtain ⟨id, kind, command, iterations, color, children⟩ := b
  cases children with
  | none => rfl
  | some kids =>
    obtain rfl : kids = [] := empty
    cases kind <;> cases command <;> cases iterations <;> cases color <;> rfl

theorem exists_children {b : Block} (filled : b.children.getD [] ≠ []) :
    ∃ kid rest, b.children = some (kid :: rest) := by
  cases children : b.children with
  | none => simp [children] at filled
  | some kids =>
    cases kids with
    | nil => simp [children] at filled
    | cons kid rest => exact ⟨kid, rest, rfl⟩

end Block

/-! ## Walks -/

section

variable {μ : Type} {crew : Crew μ}

/-- A crew that looks at nothing of a block but its own fields. -/
structure Crew.Shallow (crew : Crew μ) : Prop where
  announce : ∀ path b, crew.announce path b.bare = crew.announce path b
  perform : ∀ path b name, crew.perform path b.bare name = crew.perform path b name
  skip : ∀ path b why, crew.skip path b.bare why = crew.skip path b why

/-- The crews of runs are such. -/
theorem Setup.crew_shallow {σ : Type} (setup : Setup) (around : Surroundings σ) : (setup.crew around).Shallow where
  announce _ _ := rfl
  perform _ _ _ := rfl
  skip _ _ _ := rfl

namespace Crew.Shallow

variable {b b' : Block}

theorem skip_congr (h : crew.Shallow) (fields : b'.bare = b.bare) (path : Path) (why : Idle) :
    crew.skip path b' why = crew.skip path b why := by
  rw [← h.skip path b', fields, h.skip]

theorem announce_congr (h : crew.Shallow) (fields : b'.bare = b.bare) (path : Path) :
    crew.announce path b' = crew.announce path b := by
  rw [← h.announce path b', fields, h.announce]

theorem command_congr (h : crew.Shallow) (fields : b'.bare = b.bare) (path : Path) (name : String) :
    crew.command path b' name = crew.command path b name := by
  have perform : crew.perform path b' name = crew.perform path b name := by
    rw [← h.perform path b', fields, h.perform]
  funext m
  rw [command, command, perform]

/-- With nothing below it, a block is run by its own fields. -/
theorem runBlock_of_empty (h : crew.Shallow) (fields : b'.bare = b.bare) (empty : b.children.getD [] = [])
    (empty' : b'.children.getD [] = []) (path : Path) : crew.runBlock path b' = crew.runBlock path b := by
  have task : b'.task = b.task := by
    rw [b'.task_of_empty empty', fields, b.task_of_empty empty]
  rw [runBlock_eq, runBlock_eq, task]
  cases own : b.task with
  | command name => exact h.command_congr fields path name
  | idle why => simp only [doTask, h.skip_congr fields]
  | loop n kids =>
    obtain ⟨children, filled⟩ := Block.children_of_task_loop own
    simp [children, filled] at empty
  | onColor color kids =>
    obtain ⟨children, filled⟩ := Block.children_of_task_onColor own
    simp [children, filled] at empty

/-- A block that has children is run by its own fields and by them. -/
theorem runBlock_of_filled (h : crew.Shallow) (fields : b'.bare = b.bare) {kid kid' : Block} {rest rest' : List Block}
    (children : b.children = some (kid :: rest)) (children' : b'.children = some (kid' :: rest')) (path : Path)
    (kids : crew.runFrom path 0 (kid' :: rest') = crew.runFrom path 0 (kid :: rest)) :
    crew.runBlock path b' = crew.runBlock path b := by
  have skip := h.skip_congr fields path
  have command := h.command_congr fields path
  obtain ⟨id, kind, c, n, q, _⟩ := b
  obtain ⟨id', kind', c', n', q', _⟩ := b'
  simp only [Block.bare, Block.mk.injEq] at fields
  obtain ⟨rfl, rfl, rfl, rfl, rfl, -⟩ := fields
  obtain rfl : _ = some (kid :: rest) := children
  obtain rfl : _ = some (kid' :: rest') := children'
  rw [runBlock_eq, runBlock_eq]
  cases kind' with
  | command =>
    cases c' with
    | none => simp only [Block.task, doTask, skip]
    | some name => simp only [Block.task, doTask, command]
  | loop =>
    cases n' with
    | none => simp only [Block.task, doTask, skip]
    | some n =>
      simp only [Block.task]
      split
      · simp only [doTask, skip]
      · simp only [doTask, round, kids]
  | ifColor =>
    cases q' with
    | none => simp only [Block.task, doTask, skip]
    | some color => simp only [Block.task, doTask, kids]

/-- Two blocks are run alike if their own fields are the same and their children are run alike, where one has none if the
other has none. -/
theorem runBlock_congr (h : crew.Shallow) (fields : b'.bare = b.bare)
    (void : b'.children.getD [] = [] ↔ b.children.getD [] = []) (path : Path)
    (kids : crew.runFrom path 0 (b'.children.getD []) = crew.runFrom path 0 (b.children.getD [])) :
    crew.runBlock path b' = crew.runBlock path b := by
  by_cases empty : b.children.getD [] = []
  · exact h.runBlock_of_empty fields empty (void.mpr empty) path
  · have filled : b'.children.getD [] ≠ [] := fun none => empty (void.mp none)
    obtain ⟨kid, rest, children⟩ := Block.exists_children empty
    obtain ⟨kid', rest', children'⟩ := Block.exists_children filled
    rw [children, children'] at kids
    exact h.runBlock_of_filled fields children children' path kids

/-- For a walk, a missing list of children is as good as an empty one. -/
theorem runFrom_opened (h : crew.Shallow) {id : String} {p q : List Block}
    (opened : Program.modify? id Block.opened p = some q) (path : Path) (i : Nat) :
    crew.runFrom path i q = crew.runFrom path i p := by
  refine ((Block.induction
    (P := fun b => ∀ b', b.modify? id Block.opened = some b' →
      b'.bare = b.bare ∧ ∀ path, crew.runBlock path b' = crew.runBlock path b)
    (Q := fun p => ∀ q, Program.modify? id Block.opened p = some q →
      (q = [] ↔ p = []) ∧ ∀ path i, crew.runFrom path i q = crew.runFrom path i p)
    (fun b kids => ?_) (by simp [Program.modify?]) (fun b rest here later => ?_)).2 p q opened).2 path i
  · intro b' opened
    rw [Block.modify?_eq] at opened
    by_cases same : b.id = id
    · rw [if_pos same] at opened
      obtain rfl := Option.some.inj opened
      have fields : b.opened.bare = b.bare := rfl
      exact ⟨fields, fun path => h.runBlock_congr fields Iff.rfl path rfl⟩
    · rw [if_neg same] at opened
      obtain ⟨kids', inside, rfl⟩ := Option.map_eq_some_iff.mp opened
      cases children : b.children with
      | none => simp [children, Program.modify?] at inside
      | some below =>
        rw [children] at inside
        obtain ⟨void, alike⟩ := kids below children kids' inside
        have fields := b.bare_children (some kids')
        refine ⟨fields, fun path => h.runBlock_congr fields ?_ path ?_⟩
        · simpa [children] using void
        · simpa [children] using alike path 0
  · intro q opened
    rw [Program.modify?] at opened
    cases first : b.modify? id Block.opened with
    | some b' =>
      rw [first] at opened
      obtain rfl := Option.some.inj opened
      obtain ⟨fields, alike⟩ := here b' first
      refine ⟨by simp, fun path i => ?_⟩
      have settle : crew.settle b' = crew.settle b := by
        have paced : b'.bare.isPaced = b.bare.isPaced := by rw [fields]
        rw [settle, settle, show b'.isPaced = b.isPaced from paced]
      rw [runFrom_cons, runFrom_cons, h.announce_congr fields, alike, settle]
    | none =>
      rw [first] at opened
      obtain ⟨rest', further, rfl⟩ := Option.map_eq_some_iff.mp opened
      obtain ⟨-, alike⟩ := later rest' further
      refine ⟨by simp, fun path i => ?_⟩
      rw [runFrom_cons, runFrom_cons, alike]

end Crew.Shallow

end

end Lamplighter
