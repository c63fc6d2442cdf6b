/-
Lamplighter.Run.Walk — how a program tree is walked, whatever its blocks do.

* `Ending` — how a walk ends; it goes on to the next block only after a success.
* `Act` — something done to a state, with an ending; `Act.andThen` does one thing after another.
* `Crew` — what a walk needs from its surroundings: announce a block, carry out a command, look at
  the colour under the robot, remark on a block that is skipped, pause, and tell whether the walk has
  been cancelled.
* `Crew.runFrom` — the walk: before each block, and again once the block is announced, cancellation
  is looked at; a block that carries out no command of its own ends at a checkpoint, and so does the
  head of every round of a loop.
-/
import Lamplighter.Console
import Lamplighter.Program

namespace Lamplighter

/-! ## Endings and acts -/

/-- How a walk ends. -/
inductive Ending where
  | success
  | failure
  | cancelled
  | broken (fault : Fault)
  deriving DecidableEq, Repr

/-- The name of an ending. -/
def Ending.name : Ending → String
  | success => "success"
  | failure => "failure"
  | cancelled => "cancelled"
  | broken _ => "broken"

/-- Something done to a state. -/
abbrev Act (μ : Type) := μ → Ending × μ

namespace Act

variable {μ : Type}

/-- Do nothing. -/
def done : Act μ := fun m => (.success, m)

/-- Change the state. -/
def change (f : μ → μ) : Act μ := fun m => (.success, f m)

/-- Do one thing and, after a success, another. -/
def andThen (first second : Act μ) : Act μ := fun m =>
  match first m with
  | (.success, m) => second m
  | stopped => stopped

/-- Call something that may break off. -/
def call (hook : μ → Option Fault × μ) : Act μ := fun m =>
  match hook m with
  | (none, m) => (.success, m)
  | (some fault, m) => (.broken fault, m)

/-- Do a thing some number of times, while it succeeds. -/
def times (act : Act μ) : Nat → Act μ
  | 0, m => (.success, m)
  | n + 1, m =>
    match act m with
    | (.success, m) => times act n m
    | stopped => stopped

@[simp] theorem times_zero (act : Act μ) : act.times 0 = done := rfl

theorem times_succ (act : Act μ) (n : Nat) : act.times (n + 1) = act.andThen (act.times n) := by
  funext m
  simp only [times, andThen]

@[simp] theorem done_andThen (a : Act μ) : done.andThen a = a := rfl

@[simp] theorem andThen_done (a : Act μ) : a.andThen done = a := by
  funext m
  unfold andThen
  rcases a m with ⟨e, m'⟩
  cases e <;> rfl

theorem andThen_assoc (a b c : Act μ) : (a.andThen b).andThen c = a.andThen (b.andThen c) := by
  funext m
  simp only [andThen]
  rcases a m with ⟨e, m'⟩
  cases e <;> rfl

/-- Doing a thing `m + n` times is doing it `m` times and then `n` times. -/
theorem times_add (a : Act μ) (m n : Nat) : a.times (m + n) = (a.times m).andThen (a.times n) := by
  induction m with
  | zero => simp
  | succ m ih => rw [Nat.succ_add, times_succ, ih, times_succ, andThen_assoc]

end Act

/-! ## The walk -/

/-- Why a block is passed over. -/
inductive Idle where
  | loopWithoutWork
  | colorWithoutWork
  | commandWithoutName
  deriving DecidableEq, Repr

/-- The text of a reason to pass over a block. -/
def Idle.reason : Idle → String
  | loopWithoutWork => "loop without iterations or children"
  | colorWithoutWork => "condition without colour or children"
  | commandWithoutName => "command block without a command"

/-- What a walk needs from its surroundings. `cap` bounds the rounds of every loop. -/
structure Crew (μ : Type) where
  cap : Int
  cancelled : μ → Bool
  announce : Path → Block → μ → Option Fault × μ
  perform : Path → Block → String → μ → Except Fault Bool × μ
  onColor : String → μ → Bool
  skip : Path → Block → Idle → μ → μ
  clamp : Path → Int → μ → Option Fault × μ
  pause : μ → Option Fault × μ
  checkpoint : μ → Option Fault × μ

namespace Crew

variable {μ : Type}

/-- Stop here if the walk has been cancelled. -/
def poll (crew : Crew μ) : Act μ := fun m =>
  if crew.cancelled m then (.cancelled, m) else (.success, m)

/-- Wait until the surroundings let the walk go on, at a block that carries out no command. -/
def rest (crew : Crew μ) : Act μ := Act.call crew.checkpoint

/-- Carry out the command of a block. The walk fails with the command, breaks off with it, and pauses
after a success. -/
def command (crew : Crew μ) (path : Path) (b : Block) (name : String) : Act μ := fun m =>
  match crew.perform path b name m with
  | (.ok true, m) => Act.call crew.pause m
  | (.ok false, m) => (.failure, m)
  | (.error fault, m) => (.broken fault, m)

/-- The rounds that a loop gets when it asks for `n`. -/
def rounds (crew : Crew μ) (n : Int) : Nat := (min n crew.cap).toNat

/-- Remark on a loop that asks for more rounds than the cap. -/
def noteClamp (crew : Crew μ) (path : Path) (n : Int) : Act μ :=
  if crew.cap < n then Act.call (crew.clamp path n) else Act.done

/-- What the end of a block asks for: a checkpoint, unless the block paused for its command. -/
def settle (crew : Crew μ) (b : Block) : Act μ := if b.isPaced then Act.done else crew.rest

mutual

/-- Run one block. -/
def runBlock (crew : Crew μ) (path : Path) : Block → Act μ
  | ⟨id, .command, some name, n, q, kids⟩ =>
    crew.command path ⟨id, .command, some name, n, q, kids⟩ name
  | ⟨id, .command, none, n, q, kids⟩ =>
    Act.change (crew.skip path ⟨id, .command, none, n, q, kids⟩ .commandWithoutName)
  | ⟨id, .loop, c, some n, q, some (kid :: kids)⟩ =>
    if n < 1 then
      Act.change (crew.skip path ⟨id, .loop, c, some n, q, some (kid :: kids)⟩ .loopWithoutWork)
    else
      (crew.noteClamp path n).andThen
        ((crew.rest.andThen (crew.poll.andThen (runFrom crew path 0 (kid :: kids)))).times
          (crew.rounds n))
  | ⟨id, .loop, c, n, q, kids⟩ =>
    Act.change (crew.skip path ⟨id, .loop, c, n, q, kids⟩ .loopWithoutWork)
  | ⟨_, .ifColor, _, _, some color, some (kid :: kids)⟩ => fun m =>
    if crew.onColor color m then runFrom crew path 0 (kid :: kids) m else (.success, m)
  | ⟨id, .ifColor, c, n, q, kids⟩ =>
    Act.change (crew.skip path ⟨id, .ifColor, c, n, q, kids⟩ .colorWithoutWork)
termination_by structural b => b

/-- Run blocks in order, the first of them at index `i` of its siblings. -/
def runFrom (crew : Crew μ) (path : Path) (i : Nat) : List Block → Act μ
  | [] => Act.done
  | b :: rest =>
    crew.poll.andThen <|
      (Act.call (crew.announce (path ++ [(i : Int)]) b)).andThen <|
        crew.poll.andThen <|
          (runBlock crew (path ++ [(i : Int)]) b).andThen <|
            (crew.settle b).andThen <|
              runFrom crew path (i + 1) rest
termination_by structural p => p

end

/-- Run a program under an enclosing address. -/
def run (crew : Crew μ) (p : Program) (path : Path := []) : Act μ := crew.runFrom path 0 p

/-- Running `p ++ q` is running `p` and then `q`, whose indices go on where those of `p` end. -/
theorem runFrom_append (crew : Crew μ) (path : Path) (i : Nat) (p q : List Block) :
    crew.runFrom path i (p ++ q)
      = (crew.runFrom path i p).andThen (crew.runFrom path (i + p.length) q) := by
  induction p generalizing i with
  | nil => simp [runFrom]
  | cons b rest ih =>
    simp only [List.cons_append, runFrom, ih, Act.andThen_assoc, List.length_cons]
    rw [Nat.add_assoc, Nat.add_comm 1]

end Crew

end Lamplighter
