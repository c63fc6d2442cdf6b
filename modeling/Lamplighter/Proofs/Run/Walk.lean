/-
Lamplighter.Proofs.Run.Walk — how to reason about the walk over a program tree.

* `Task`, `Block.task` — what a block asks of a walk, apart from how the block is written down.
* `Crew.runBlock_eq`, `Crew.runFrom_cons` — the walk by tasks; nothing after this unfolds the walk itself.
* `Block.induction` — induction over a program tree: blocks from the lists of their children.
-/
import Lamplighter.Run.Walk

namespace Lamplighter

/-! ## Tasks -/

/-- What a block asks of a walk: to carry out a command, to be passed over, or to walk its children,
some number of times or on one colour only. -/
inductive Task where
  | command (name : String)
  | idle (why : Idle)
  | loop (n : Int) (kids : List Block)
  | onColor (color : String) (kids : List Block)

/-- The kind of block that is passed over for a reason. -/
def Idle.kind : Idle → BlockKind
  | loopWithoutWork => .loop
  | colorWithoutWork => .ifColor
  | commandWithoutName => .command

/-- The kind of block that has a task. -/
def Task.kind : Task → BlockKind
  | command _ => .command
  | idle why => why.kind
  | loop _ _ => .loop
  | onColor _ _ => .ifColor

namespace Block

/-- The task of a block. -/
def task : Block → Task
  | ⟨_, .command, some name, _, _, _⟩ => .command name
  | ⟨_, .command, none, _, _, _⟩ => .idle .commandWithoutName
  | ⟨_, .loop, _, some n, _, some (kid :: kids)⟩ =>
    if n < 1 then .idle .loopWithoutWork else .loop n (kid :: kids)
  | ⟨_, .loop, _, _, _, _⟩ => .idle .loopWithoutWork
  | ⟨_, .ifColor, _, _, some color, some (kid :: kids)⟩ => .onColor color (kid :: kids)
  | ⟨_, .ifColor, _, _, _, _⟩ => .idle .colorWithoutWork

theorem kind_eq (b : Block) : b.kind = b.task.kind := by
  unfold task
  split
  case h_3 => split <;> rfl
  all_goals rfl

/-- A block is paced exactly when its task is a command. -/
theorem isPaced_iff (b : Block) : b.isPaced = true ↔ ∃ name, b.task = .command name := by
  unfold task
  split <;> simp [isPaced]
  split <;> simp

/-- The command that a block is to carry out is its own. -/
theorem command_of_task_command {b : Block} {name : String} (h : b.task = .command name) :
    b.kind = .command ∧ b.command = some name := by
  unfold task at h
  split at h
  case h_1 => cases h; exact ⟨rfl, rfl⟩
  case h_3 => split at h <;> cases h
  all_goals cases h

/-- A loop walks the children of its block, of which there is at least one. -/
theorem children_of_task_loop {b : Block} {n : Int} {kids : List Block} (h : b.task = .loop n kids) :
    b.children = some kids ∧ kids ≠ [] := by
  unfold task at h
  split at h
  case h_3 =>
    split at h
    · cases h
    · cases h; exact ⟨rfl, List.cons_ne_nil _ _⟩
  all_goals cases h

/-- A block for one colour walks its children, of which there is at least one. -/
theorem children_of_task_onColor {b : Block} {color : String} {kids : List Block}
    (h : b.task = .onColor color kids) : b.children = some kids ∧ kids ≠ [] := by
  unfold task at h
  split at h
  case h_3 => split at h <;> cases h
  case h_5 => cases h; exact ⟨rfl, List.cons_ne_nil _ _⟩
  all_goals cases h

mutual

theorem induction_block {P : Block → Prop} {Q : List Block → Prop}
    (block : ∀ b, (∀ kids, b.children = some kids → Q kids) → P b) (nil : Q [])
    (cons : ∀ b rest, P b → Q rest → Q (b :: rest)) : (b : Block) → P b
  | ⟨_, _, _, _, _, none⟩ => block _ (fun _ h => by cases h)
  | ⟨_, _, _, _, _, some kids⟩ =>
    block _ (fun _ h => by cases h; exact induction_list block nil cons kids)

theorem induction_list {P : Block → Prop} {Q : List Block → Prop}
    (block : ∀ b, (∀ kids, b.children = some kids → Q kids) → P b) (nil : Q [])
    (cons : ∀ b rest, P b → Q rest → Q (b :: rest)) : (p : List Block) → Q p
  | [] => nil
  | b :: rest => cons b rest (induction_block block nil cons b) (induction_list block nil cons rest)

end

/-- Induction over program trees: a block from its children, a list from its first block and the rest. -/
theorem induction {P : Block → Prop} {Q : List Block → Prop}
    (block : ∀ b, (∀ kids, b.children = some kids → Q kids) → P b) (nil : Q [])
    (cons : ∀ b rest, P b → Q rest → Q (b :: rest)) : (∀ b, P b) ∧ ∀ p, Q p :=
  ⟨induction_block block nil cons, induction_list block nil cons⟩

end Block

/-! ## The walk by tasks -/

variable {μ : Type}

namespace Crew

/-- The command of a block, without the pause after it. -/
def carryOut (crew : Crew μ) (path : Path) (b : Block) (name : String) : Act μ := fun m =>
  match crew.perform path b name m with
  | (.ok true, m) => (.success, m)
  | (.ok false, m) => (.failure, m)
  | (.error fault, m) => (.broken fault, m)

/-- A command is carried out, and then the walk pauses. -/
theorem command_eq (crew : Crew μ) (path : Path) (b : Block) (name : String) :
    crew.command path b name = (crew.carryOut path b name).andThen (Act.call crew.pause) := by
  funext m
  simp only [command, carryOut, Act.andThen]
  rcases crew.perform path b name m with ⟨fault | ok, m'⟩
  · rfl
  · cases ok <;> rfl

/-- One round of a loop: a checkpoint, a look at whether to go on, and the children. -/
def round (crew : Crew μ) (path : Path) (kids : List Block) : Act μ :=
  crew.rest.andThen (crew.poll.andThen (crew.runFrom path 0 kids))

/-- What is done for a task of a block. -/
def doTask (crew : Crew μ) (path : Path) (b : Block) : Task → Act μ
  | .command name => crew.command path b name
  | .idle why => Act.change (crew.skip path b why)
  | .loop n kids => (crew.noteClamp path n).andThen ((crew.round path kids).times (crew.rounds n))
  | .onColor color kids => fun m =>
    if crew.onColor color m then crew.runFrom path 0 kids m else (.success, m)

/-- A block is run by doing its task. -/
theorem runBlock_eq (crew : Crew μ) (path : Path) (b : Block) :
    crew.runBlock path b = crew.doTask path b b.task := by
  obtain ⟨id, kind, command, iterations, color, children⟩ := b
  cases kind with
  | command => cases command <;> rfl
  | loop =>
    rcases iterations with _ | n <;> rcases children with _ | _ | ⟨kid, kids⟩ <;> try rfl
    simp only [runBlock, Block.task]
    split <;> rfl
  | ifColor => rcases color with _ | color <;> rcases children with _ | _ | ⟨kid, kids⟩ <;> rfl

theorem runFrom_nil (crew : Crew μ) (path : Path) (i : Nat) : crew.runFrom path i [] = Act.done := by
  simp only [runFrom]

/-- The walk over a first block and the rest. -/
theorem runFrom_cons (crew : Crew μ) (path : Path) (i : Nat) (b : Block) (rest : List Block) :
    crew.runFrom path i (b :: rest) =
      crew.poll.andThen ((Act.call (crew.announce (path ++ [(i : Int)]) b)).andThen
        (crew.poll.andThen
          (((crew.runBlock (path ++ [(i : Int)]) b).andThen (crew.settle b)).andThen
            (crew.runFrom path (i + 1) rest)))) := by
  simp only [runFrom, Act.andThen_assoc]

end Crew

/-- Whether or not a hook raises, it has left the state as it did. -/
theorem Act.call_left (hook : μ → Option Fault × μ) (m : μ) : (Act.call hook m).2 = (hook m).2 := by
  unfold Act.call
  rcases hook m with ⟨_ | fault, m'⟩ <;> rfl

/-- To call a hook succeeds if and only if it does not raise. -/
theorem Act.call_eq_success {hook : μ → Option Fault × μ} {m : μ} :
    (Act.call hook m).1 = .success ↔ (hook m).1 = none := by
  unfold Act.call
  rcases hook m with ⟨_ | fault, m'⟩ <;> simp

/-- A hook that never raises just changes the state. -/
theorem Act.call_of_none {hook : μ → Option Fault × μ} (quiet : ∀ m, (hook m).1 = none) :
    Act.call hook = Act.change fun m => (hook m).2 := by
  funext m
  have went : hook m = (none, (hook m).2) := Prod.ext (quiet m) rfl
  unfold Act.call Act.change
  rw [went]

theorem Act.change_andThen (f : μ → μ) (a : Act μ) (m : μ) : (Act.change f).andThen a m = a (f m) := rfl

/-- After a success, what comes next is done. -/
theorem Act.andThen_of_success {first second : Act μ} {m : μ} (h : (first m).1 = .success) :
    first.andThen second m = second (first m).2 := by
  simp only [andThen]
  generalize first m = done at h ⊢
  obtain ⟨e, m'⟩ := done
  obtain rfl : e = .success := h
  rfl

/-- Anything but a success stops. -/
theorem Act.andThen_of_ne {first second : Act μ} {m : μ} (h : (first m).1 ≠ .success) :
    first.andThen second m = first m := by
  simp only [andThen]
  generalize first m = done at h ⊢
  obtain ⟨e, m'⟩ := done
  cases e with
  | success => exact absurd rfl h
  | failure | cancelled | broken => rfl

end Lamplighter
