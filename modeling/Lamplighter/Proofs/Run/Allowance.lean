/-
Lamplighter.Proofs.Run.Allowance — how many blocks a run can start.

* `Program.allowance` — the most blocks that a run of a program can start: one for a command, one more than its children
  for a condition, and for a loop one more than its children as often as it can get rounds.
* `Act.AddsAtMost` — an act that adds no more than so much to a measure of the state, however it ends.
* `Crew.Frugal.runFrom` — what a walk adds to a measure, of which blocks, commands and checkpoints each use up some.
* `Crew.Counts.runFrom` — what a walk adds that succeeds, over a program without conditions.
* `Bounded`, `bounded_recording` — so every run is bounded by the allowance of its program.

A loop may ask for any number of rounds. It is the bound on loops that makes the allowance what it is, at every depth.
-/
import Lamplighter.Proofs.Program
import Lamplighter.Proofs.Run.Suspension
import Lamplighter.Proofs.Run.Unrolling

namespace Lamplighter

variable {σ μ : Type}

/-! ## Allowances -/

mutual

/-- The most blocks that a run of a subtree can start, its root included. What is below a command never starts. -/
def Block.allowance (cap : Int) : Block → Nat
  | ⟨_, .command, _, _, _, _⟩ => 1
  | ⟨_, .ifColor, _, _, _, none⟩ => 1
  | ⟨_, .ifColor, _, _, _, some kids⟩ => 1 + Program.allowance cap kids
  | ⟨_, .loop, _, _, _, none⟩ => 1
  | ⟨_, .loop, _, n, _, some kids⟩ => 1 + copies cap n * Program.allowance cap kids
termination_by structural b => b

/-- The most blocks that a run of a program can start. -/
def Program.allowance (cap : Int) : List Block → Nat
  | [] => 0
  | b :: rest => b.allowance cap + Program.allowance cap rest
termination_by structural p => p

end

@[simp] theorem Program.allowance_nil (cap : Int) : allowance cap [] = 0 := rfl

@[simp] theorem Program.allowance_cons (cap : Int) (b : Block) (rest : List Block) :
    allowance cap (b :: rest) = b.allowance cap + allowance cap rest := rfl

namespace Block

variable {b : Block} {cap : Int}

theorem allowance_of_command (kind : b.kind = .command) : b.allowance cap = 1 := by
  obtain ⟨id, k, c, n, q, kids⟩ := b
  obtain rfl : k = .command := kind
  rfl

theorem allowance_of_ifColor (kind : b.kind = .ifColor) :
    b.allowance cap = 1 + Program.allowance cap (b.children.getD []) := by
  obtain ⟨id, k, c, n, q, kids⟩ := b
  obtain rfl : k = .ifColor := kind
  cases kids <;> rfl

theorem allowance_of_loop (kind : b.kind = .loop) :
    b.allowance cap = 1 + copies cap b.iterations * Program.allowance cap (b.children.getD []) := by
  obtain ⟨id, k, c, n, q, kids⟩ := b
  obtain rfl : k = .loop := kind
  cases kids <;> rfl

/-- Every block is allowed for. -/
theorem allowance_pos (b : Block) (cap : Int) : 1 ≤ b.allowance cap := by
  cases kind : b.kind with
  | command => rw [allowance_of_command kind]
  | loop =>
    rw [allowance_of_loop kind]
    omega
  | ifColor =>
    rw [allowance_of_ifColor kind]
    omega

/-- A loop allows for its children in every round that it gets. -/
theorem allowance_of_task_loop (crew : Crew μ) {n : Int} {kids : List Block} (h : b.task = .loop n kids) :
    b.allowance crew.cap = 1 + crew.rounds n * Program.allowance crew.cap kids := by
  have kind : b.kind = .loop := by rw [kind_eq, h, Task.kind]
  rcases task_of_loop kind with ⟨n', kids', loop, iterations, children⟩ | ⟨idle, -⟩
  · rw [loop] at h
    cases h
    rw [allowance_of_loop kind, iterations, children, crew.copies_eq_rounds, Option.getD_some]
  · rw [idle] at h
    cases h

/-- A loop that is passed over allows for itself alone. -/
theorem allowance_of_workless (kind : b.kind = .loop)
    (workless : b.iterations.all (· < 1) ∨ b.children.getD [] = []) : b.allowance cap = 1 := by
  rw [allowance_of_loop kind]
  rcases workless with few | childless
  · have none : copies cap b.iterations = 0 := copies_of_few few
    simp [none]
  · simp [childless]

end Block

theorem Program.allowance_pos {p : List Block} (some : p ≠ []) (cap : Int) : 1 ≤ allowance cap p := by
  cases p with
  | nil => exact absurd rfl some
  | cons b rest =>
    have first := b.allowance_pos cap
    simp only [allowance_cons]
    omega

/-! ## Acts that add no more than so much -/

/-- An act adds at most `k` to a measure of the state, however it ends. -/
def Act.AddsAtMost (f : μ → Nat) (k : Nat) (a : Act μ) : Prop := ∀ m, f (a m).2 ≤ f m + k

namespace Act.AddsAtMost

variable {f : μ → Nat} {k l : Nat} {a b : Act μ}

theorem mono (h : a.AddsAtMost f k) (more : k ≤ l) : a.AddsAtMost f l :=
  fun m => Nat.le_trans (h m) (Nat.add_le_add_left more _)

theorem change {g : μ → μ} (h : ∀ m, f (g m) ≤ f m + k) : (Act.change g).AddsAtMost f k := h

theorem call {hook : μ → Option Fault × μ} (h : ∀ m, f (hook m).2 ≤ f m + k) : (Act.call hook).AddsAtMost f k :=
  fun m => (congrArg f (Act.call_left hook m)).trans_le (h m)

theorem done : Act.done.AddsAtMost f 0 := fun _ => Nat.le_refl _

theorem andThen (first : a.AddsAtMost f k) (second : b.AddsAtMost f l) : (a.andThen b).AddsAtMost f (k + l) := by
  intro m
  have before := first m
  by_cases success : (a m).1 = .success
  · have after := second (a m).2
    rw [Act.andThen_of_success success]
    omega
  · rw [Act.andThen_of_ne success]
    omega

theorem times (h : a.AddsAtMost f k) (n : Nat) : (a.times n).AddsAtMost f (n * k) := by
  induction n with
  | zero =>
    rw [Nat.zero_mul]
    exact done
  | succ n ih =>
    rw [Act.times_succ, Nat.succ_mul, Nat.add_comm]
    exact h.andThen ih

/-- What is done under a condition. -/
theorem cond {p : μ → Bool} (h : a.AddsAtMost f k) :
    Act.AddsAtMost f k (fun m => if p m then a m else (.success, m)) := by
  intro m
  dsimp only
  split
  · exact h m
  · exact Nat.le_add_right _ _

theorem poll {c : Crew μ} : c.poll.AddsAtMost f 0 := by
  intro m
  unfold Crew.poll
  split <;> exact Nat.le_refl _

end Act.AddsAtMost

/-! ## Walks within an allowance -/

/-- A crew whose acts add to a measure of the state no more than `k` for a block that starts, `l` for a command with its
pause, and `j` for a checkpoint. Each block is worth `K`, which makes up for its start, its command or its own
checkpoint, and one more checkpoint: that of the round which the block opens, if it opens one. -/
structure Crew.Frugal (c : Crew μ) (f : μ → Nat) (K k l j : Nat) : Prop where
  command_worth : k + l + j ≤ K
  plain_worth : k + j + j ≤ K
  announce : ∀ x b m, f (c.announce x b m).2 ≤ f m + k
  command : ∀ x b name, (c.command x b name).AddsAtMost f l
  skip : ∀ x b why m, f (c.skip x b why m) ≤ f m
  clamp : ∀ x n m, f (c.clamp x n m).2 ≤ f m
  rest : c.rest.AddsAtMost f j

namespace Crew.Frugal

variable {c : Crew μ} {f : μ → Nat} {K k l j : Nat} (h : c.Frugal f K k l j)

include h

theorem noteClamp (x : Path) (n : Int) : (c.noteClamp x n).AddsAtMost f 0 := by
  unfold Crew.noteClamp
  split
  · exact .call (fun m => h.clamp x n m)
  · exact .done

theorem settle (b : Block) : (c.settle b).AddsAtMost f j := by
  unfold Crew.settle
  split
  · exact Act.AddsAtMost.done.mono (Nat.zero_le j)
  · exact h.rest

/-- Children are worth the checkpoint of a round. -/
theorem worth {p : List Block} (some : p ≠ []) : j ≤ K * Program.allowance c.cap p := by
  have plain_worth := h.plain_worth
  have one : K * 1 ≤ K * Program.allowance c.cap p := Nat.mul_le_mul_left K (Program.allowance_pos some c.cap)
  omega

/-- A block that has started, with what it asks for at its end. -/
theorem runBlock {x : Path} {b : Block} (kids_walk : ∀ kids, b.children = some kids →
      (c.runFrom x 0 kids).AddsAtMost f (K * Program.allowance c.cap kids - j)) :
    ∃ t, ((c.runBlock x b).andThen (c.settle b)).AddsAtMost f t ∧ k + t + j ≤ K * b.allowance c.cap := by
  have command_worth := h.command_worth
  have plain_worth := h.plain_worth
  rw [runBlock_eq]
  cases task : b.task with
  | command name =>
    have kind : b.kind = .command := by rw [b.kind_eq, task, Task.kind]
    have paced : b.isPaced = true := b.isPaced_iff.mpr ⟨name, task⟩
    refine ⟨l, ?_, ?_⟩
    · rw [Crew.settle, if_pos paced, Act.andThen_done]
      exact h.command x b name
    · rw [Block.allowance_of_command kind]
      omega
  | idle why =>
    have skipped : (c.doTask x b (.idle why)).AddsAtMost f 0 := .change (fun m => h.skip x b why m)
    refine ⟨0 + j, skipped.andThen (h.settle b), ?_⟩
    have worth : K * 1 ≤ K * b.allowance c.cap := Nat.mul_le_mul_left K (b.allowance_pos c.cap)
    omega
  | loop n kids =>
    obtain ⟨children, some⟩ := Block.children_of_task_loop task
    have worth := h.worth some
    have walk := kids_walk kids children
    have allowed : b.allowance c.cap = 1 + c.rounds n * Program.allowance c.cap kids :=
      Block.allowance_of_task_loop c task
    have look : c.poll.AddsAtMost f 0 := .poll
    have round : (c.round x kids).AddsAtMost f (K * Program.allowance c.cap kids) :=
      (h.rest.andThen (look.andThen walk)).mono (by omega)
    refine ⟨0 + c.rounds n * (K * Program.allowance c.cap kids) + j,
      ((h.noteClamp x n).andThen (round.times (c.rounds n))).andThen (h.settle b), ?_⟩
    rw [allowed, Nat.mul_add, Nat.mul_left_comm K]
    omega
  | onColor color kids =>
    obtain ⟨children, some⟩ := Block.children_of_task_onColor task
    have worth := h.worth some
    have walk := kids_walk kids children
    have kind : b.kind = .ifColor := by rw [b.kind_eq, task, Task.kind]
    have looked : (c.doTask x b (.onColor color kids)).AddsAtMost f (K * Program.allowance c.cap kids - j) := .cond walk
    refine ⟨_, looked.andThen (h.settle b), ?_⟩
    rw [Block.allowance_of_ifColor kind, children, Option.getD_some, Nat.mul_add]
    omega

/-- A walk over siblings uses up no more than they are worth, but for the checkpoint of the round that they open. -/
theorem runFrom (p : List Block) (x : Path) (i : Nat) :
    (c.runFrom x i p).AddsAtMost f (K * Program.allowance c.cap p - j) := by
  refine (Block.induction
    (P := fun b => ∀ x, ∃ t,
      ((c.runBlock x b).andThen (c.settle b)).AddsAtMost f t ∧ k + t + j ≤ K * b.allowance c.cap)
    (Q := fun p => ∀ x i, (c.runFrom x i p).AddsAtMost f (K * Program.allowance c.cap p - j)) ?_ ?_ ?_).2 p x i
  · intro b kids_walk x
    exact h.runBlock (fun kids children => kids_walk kids children x 0)
  · intro x i
    rw [runFrom_nil]
    exact Act.AddsAtMost.done.mono (Nat.zero_le _)
  · intro b rest block_walk rest_walk x i
    obtain ⟨t, block, worth⟩ := block_walk (x ++ [(i : Int)])
    have announced : (Act.call (c.announce (x ++ [(i : Int)]) b)).AddsAtMost f k := .call (h.announce _ b)
    have look : c.poll.AddsAtMost f 0 := .poll
    have whole := look.andThen (announced.andThen (look.andThen (block.andThen (rest_walk x (i + 1)))))
    rw [runFrom_cons]
    refine whole.mono ?_
    rw [Program.allowance_cons, Nat.mul_add]
    omega

/-- A walk over a whole program uses up no more than it is worth. -/
theorem run (p : List Block) (root : Path) : (c.run p root).AddsAtMost f (K * Program.allowance c.cap p) :=
  (h.runFrom p root 0).mono (Nat.sub_le _ _)

end Crew.Frugal

/-! ## Walks that use up their allowance -/

/-- No block of a program is a condition, at whatever depth. -/
def Program.Unconditional (p : List Block) : Prop := ∀ b ∈ Program.blocks p, b.kind ≠ .ifColor

instance (p : List Block) : Decidable (Program.Unconditional p) :=
  inferInstanceAs (Decidable (∀ b ∈ Program.blocks p, _))

namespace Program.Unconditional

variable {b : Block} {rest : List Block}

theorem head (h : Unconditional (b :: rest)) : Unconditional [b] := fun a there => h a (by simp_all)

theorem tail (h : Unconditional (b :: rest)) : Unconditional rest := fun a there => h a (by simp_all)

theorem kind (h : Unconditional [b]) : b.kind ≠ .ifColor := h b (by simp [Block.blocks_eq])

theorem children (h : Unconditional [b]) {kids : List Block} (children : b.children = some kids) : Unconditional kids :=
  fun a there => h a (by simp [Block.blocks_eq, children, there])

end Program.Unconditional

/-- A crew whose acts, as long as they succeed, add one to a measure of the state for every block that starts, and
nothing else. -/
structure Crew.Counts (c : Crew μ) (f : μ → Int) : Prop where
  announce : ∀ x b m, f (c.announce x b m).2 = f m + 1
  command : ∀ x b name, (c.command x b name).Adds f 0
  skip : ∀ x b why m, f (c.skip x b why m) = f m
  clamp : ∀ x n m, f (c.clamp x n m).2 = f m
  rest : c.rest.Adds f 0

namespace Crew.Counts

variable {c : Crew μ} {f : μ → Int} (h : c.Counts f)

include h

theorem noteClamp (x : Path) (n : Int) : (c.noteClamp x n).Adds f 0 := by
  unfold Crew.noteClamp
  split
  · exact .call (fun m => by rw [h.clamp, Int.add_zero])
  · exact .done

theorem settle (b : Block) : (c.settle b).Adds f 0 := by
  unfold Crew.settle
  split
  · exact .done
  · exact h.rest

/-- A block that has started counts what is below it, with all the rounds that it gets. -/
theorem doTask {x : Path} {b : Block} (unconditional : Program.Unconditional [b])
    (kids_walk : ∀ kids, b.children = some kids → (c.runFrom x 0 kids).Adds f (Program.allowance c.cap kids)) :
    (c.doTask x b b.task).Adds f (b.allowance c.cap - 1 : Nat) := by
  cases task : b.task with
  | command name =>
    have kind : b.kind = .command := by rw [b.kind_eq, task, Task.kind]
    rw [Block.allowance_of_command kind]
    exact h.command x b name
  | idle why =>
    have alone : b.allowance c.cap = 1 := by
      cases kind : b.kind with
      | command => exact Block.allowance_of_command kind
      | ifColor => exact absurd kind unconditional.kind
      | loop =>
        rcases Block.task_of_loop kind with ⟨n, kids, loop, -⟩ | ⟨-, workless⟩
        · rw [loop] at task
          cases task
        · exact Block.allowance_of_workless kind workless
    rw [alone]
    exact .change (fun m => by simp [h.skip])
  | loop n kids =>
    have walk := kids_walk kids (Block.children_of_task_loop task).1
    have look : c.poll.Adds f 0 := .poll
    have round : (c.round x kids).Adds f (0 + (0 + Program.allowance c.cap kids)) := h.rest.andThen (look.andThen walk)
    refine ((h.noteClamp x n).andThen (round.times (c.rounds n))).congr ?_
    rw [Block.allowance_of_task_loop c task, Nat.add_sub_cancel_left]
    simp
  | onColor color kids =>
    have kind : b.kind = .ifColor := by rw [b.kind_eq, task, Task.kind]
    exact absurd kind unconditional.kind

/-- A walk that succeeds over a program without conditions uses up its whole allowance. -/
theorem runFrom (p : List Block) (unconditional : Program.Unconditional p) (x : Path) (i : Nat) :
    (c.runFrom x i p).Adds f (Program.allowance c.cap p) := by
  refine (Block.induction
    (P := fun b => Program.Unconditional [b] → ∀ x,
      ((c.runBlock x b).andThen (c.settle b)).Adds f (b.allowance c.cap - 1 : Nat))
    (Q := fun p => Program.Unconditional p → ∀ x i, (c.runFrom x i p).Adds f (Program.allowance c.cap p))
    ?_ ?_ ?_).2 p unconditional x i
  · intro b kids_walk unconditional x
    have task := h.doTask unconditional
      (fun kids children => kids_walk kids children (unconditional.children children) x 0)
    rw [runBlock_eq]
    exact (task.andThen (h.settle b)).congr (Int.add_zero _)
  · intro _ x i
    rw [runFrom_nil]
    exact .done
  · intro b rest block_walk rest_walk unconditional x i
    have announced : (Act.call (c.announce (x ++ [(i : Int)]) b)).Adds f 1 := .call (h.announce _ b)
    have look : c.poll.Adds f 0 := .poll
    have block := block_walk unconditional.head (x ++ [(i : Int)])
    have later := rest_walk unconditional.tail x (i + 1)
    have pos := b.allowance_pos c.cap
    rw [runFrom_cons]
    refine (look.andThen (announced.andThen (look.andThen (block.andThen later)))).congr ?_
    rw [Program.allowance_cons]
    omega

end Crew.Counts

/-! ## Runs on record -/

/-- The number of beats on record that are of some kind. -/
def Stage.count (q : Beat → Bool) (m : Stage (σ × List Beat)) : Nat := m.log.countP q

theorem Stage.count_concat {q : Beat → Bool} {m m' : Stage (σ × List Beat)} {x : Beat} (log : m'.log = m.log ++ [x]) :
    m'.count q = m.count q + (q x).toNat := by
  rw [count, count, log, List.countP_append, List.countP_singleton]
  cases q x <;> rfl

/-- A start weighs one, and all else nothing. -/
theorem weight_starts (m : Stage (σ × List Beat)) : weight (fun x => x.starts.toNat) m = m.count Beat.starts := by
  unfold weight Stage.count
  induction m.log with
  | nil => rfl
  | cons x log ih =>
    rw [List.map_cons, List.sum_cons, ih, List.countP_cons]
    cases x.starts <;> simp [Int.add_comm]

section Runs

variable (setup : Setup) (around : Surroundings σ)

/-- Beats of some kind, counted by the act that puts them on record. -/
theorem recorded_frugal {q : Beat → Bool} {K l n j : Nat} (command_worth : 1 + (l + n) + j ≤ K)
    (plain_worth : 1 + j + j ≤ K)
    (finished : ∀ x b ok a a' c, (q ⟨.told (Event.ofBlock .commandFinished x b ok a), a', c⟩).toNat ≤ l)
    (paused : ∀ a c, (q ⟨.pause, a, c⟩).toNat ≤ n) (rested : ∀ a c, (q ⟨.checkpoint, a, c⟩).toNat ≤ j) :
    (setup.crew around.recorded).Frugal (Stage.count q) K 1 (l + n) j where
  command_worth := command_worth
  plain_worth := plain_worth
  announce x b m := by
    rw [Stage.count_concat (recorded_announce setup around x b m)]
    exact Nat.add_le_add_left (Bool.toNat_le _) _
  command x b name := by
    rw [Crew.command_eq]
    refine Act.AddsAtMost.andThen ?_ ?_
    · intro m
      have done := recorded_carryOut setup around x b m name
      split at done
      · rw [Stage.count_concat done.2]
        exact Nat.add_le_add_left (finished _ _ _ _ _ _) _
      · rw [Stage.count, done.2]
        exact Nat.le_add_right _ _
    · intro m
      rw [Stage.count_concat (recorded_pause setup around m)]
      exact Nat.add_le_add_left (paused _ _) _
  skip _ _ _ _ := Nat.le_refl _
  clamp x n m := by rw [Stage.count, recorded_clamp, ← Stage.count]
  rest m := by
    rw [Stage.count_concat (recorded_rest setup around m)]
    exact Nat.add_le_add_left (rested _ _) _

/-- Of what a run puts on record, the blocks that start. -/
theorem recorded_counts : (setup.crew around.recorded).Counts (weight fun x => x.starts.toNat) where
  announce x b m := weight_concat (recorded_announce setup around x b m)
  command _ _ _ := command_adds setup around (k := 0) (l := 0) (fun _ _ _ _ => rfl) (fun _ _ => rfl)
  skip _ _ _ _ := rfl
  clamp x n m := by rw [weight, recorded_clamp, ← weight]
  rest := rest_adds setup around (fun _ _ => rfl)

end Runs

/-- The record of a run that stays within the allowance of its program. There is an end to it: it tells of no more than
four events and suspensions for each block that is allowed for. -/
structure Bounded (cap : Int) (p : Program) (ending : Ending) (log : List Beat) : Prop where
  starts : log.countP Beat.starts ≤ Program.allowance cap p
  length : log.length ≤ 4 * Program.allowance cap p
  spent : Program.Unconditional p → ending = .success → log.countP Beat.starts = Program.allowance cap p

/-- Runs stay within the allowances of their programs, whoever watches them and whatever these do: no more blocks start
than are allowed for, and the run comes to an end. If there is no condition in the program and the run succeeds, just as
many blocks have started. -/
theorem bounded_recording (setup : Setup) (around : Surroundings σ) (p : Program) (root : Path) (m : Stage σ) :
    setup.play around p root m =
        ((setup.recording around p root m).1, (setup.recording around p root m).2.through Prod.fst) ∧
      Bounded setup.cap p (setup.recording around p root m).1 (setup.recording around p root m).2.log := by
  refine ⟨play_recorded setup around p root m, ?_, ?_, ?_⟩
  · have frugal := recorded_frugal setup around (q := Beat.starts) (K := 1) (l := 0) (n := 0) (j := 0) (by omega)
      (by omega) (fun _ _ _ _ _ _ => Nat.le_refl 0) (fun _ _ => Nat.le_refl 0) (fun _ _ => Nat.le_refl 0)
    have within : (setup.recording around p root m).2.count Beat.starts ≤ 0 + 1 * Program.allowance setup.cap p :=
      frugal.run p root (m.keeping [])
    rwa [Nat.zero_add, Nat.one_mul] at within
  · have frugal := recorded_frugal setup around (q := fun _ => true) (K := 4) (l := 1) (n := 1) (j := 1) (by omega)
      (by omega) (fun _ _ _ _ _ _ => Nat.le_refl 1) (fun _ _ => Nat.le_refl 1) (fun _ _ => Nat.le_refl 1)
    have within : (setup.recording around p root m).2.count (fun _ => true) ≤ 0 + 4 * Program.allowance setup.cap p :=
      frugal.run p root (m.keeping [])
    rwa [Nat.zero_add, Stage.count, List.countP_true] at within
  · intro unconditional success
    have walk := (recorded_counts setup around).runFrom p unconditional root 0 (m.keeping []) success
    have spent : weight (fun x => x.starts.toNat) (setup.recording around p root m).2 =
        0 + (Program.allowance setup.cap p : Int) := walk
    rw [weight_starts, Int.zero_add] at spent
    exact Int.ofNat_inj.mp spent

/-- Two loops, one in the other, that ask for any number of rounds each. -/
example :
    Program.allowance 3 [.ofLoop (some 1000000000) [.ofLoop (some 1000000000) [.ofCommand (some "MOVE")]]] = 13 := by
  decide

end Lamplighter
