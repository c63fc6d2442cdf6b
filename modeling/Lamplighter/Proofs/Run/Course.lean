/-
Lamplighter.Proofs.Run.Course — what holds in the course of a walk.

* `Act.Leads` — an act goes on from states of one kind to states of another, and leaves a third when it stops.
* `Crew.Course` — what holds before each block, once it has started, and after it, act by act.
* `Crew.Course.runFrom` — so it does over any walk.
* `Act.Adds` — an act that succeeds adds a fixed amount to a measure of the state.

Where `Crew.Ensures` asks for one property between any two acts, a course may depend on the address of the
walk, and each act may rely on the block that it belongs to.
-/
import Lamplighter.Proofs.Run.Address
import Lamplighter.Proofs.Run.Pairing

namespace Lamplighter

variable {μ : Type}

/-! ## Acts that lead on -/

/-- From states with one property an act goes on to states with another, and it leaves a third when it
stops. -/
def Act.Leads (P S : μ → Prop) (Q : Ending → μ → Prop) (a : Act μ) : Prop :=
  ∀ m, P m → ((a m).1 = .success → S (a m).2) ∧ ((a m).1 ≠ .success → Q (a m).1 (a m).2)

namespace Act.Leads

variable {P P' S S' T : μ → Prop} {Q : Ending → μ → Prop} {a b : Act μ}

theorem mono (h : a.Leads P S Q) (pre : ∀ m, P' m → P m) (post : ∀ m, S m → S' m) : a.Leads P' S' Q :=
  fun m hm => ⟨fun success => post _ ((h m (pre m hm)).1 success), (h m (pre m hm)).2⟩

theorem change {f : μ → μ} (h : ∀ m, P m → S (f m)) : (Act.change f).Leads P S Q :=
  fun m hm => ⟨fun _ => h m hm, fun stop => absurd rfl stop⟩

theorem done : Act.done.Leads P P Q := change (f := id) (fun _ => id)

theorem andThen (first : a.Leads P S Q) (second : b.Leads S T Q) : (a.andThen b).Leads P T Q := by
  intro m hm
  by_cases success : (a m).1 = .success
  · rw [Act.andThen_of_success success]
    exact second _ ((first m hm).1 success)
  · rw [Act.andThen_of_ne success]
    exact ⟨fun went => absurd went success, (first m hm).2⟩

theorem times (h : a.Leads P P Q) (k : Nat) : (a.times k).Leads P P Q := by
  induction k with
  | zero => exact done
  | succ k ih =>
    rw [Act.times_succ]
    exact h.andThen ih

/-- A hook that is called and may raise. -/
theorem call {hook : μ → Option Fault × μ} (went : ∀ m, P m → (hook m).1 = none → S (hook m).2)
    (raised : ∀ m fault, P m → (hook m).1 = some fault → Q (.broken fault) (hook m).2) :
    (Act.call hook).Leads P S Q := by
  intro m hm
  have went := went m hm
  have raised := fun fault => raised m fault hm
  unfold Act.call
  generalize hook m = x at went raised ⊢
  obtain ⟨fault, m'⟩ := x
  cases fault with
  | none => exact ⟨fun _ => went rfl, fun stop => absurd rfl stop⟩
  | some fault => exact ⟨fun success => (by cases success), fun _ => raised fault rfl⟩

/-- A hook that leads on by what it leaves, whether or not it raises. -/
theorem call_through {hook : μ → Option Fault × μ} (left : ∀ m, P m → S (hook m).2)
    (stopped : ∀ m fault, S m → Q (.broken fault) m) : (Act.call hook).Leads P S Q :=
  call (fun m hm _ => left m hm) (fun m fault hm _ => stopped _ fault (left m hm))

/-- What is done under a condition. -/
theorem cond {p : μ → Bool} (h : a.Leads P S Q) (skipped : ∀ m, P m → S m) :
    Act.Leads P S Q (fun m => if p m then a m else (.success, m)) := by
  intro m hm
  dsimp only
  split
  · exact h m hm
  · exact ⟨fun _ => skipped m hm, fun stop => absurd rfl stop⟩

theorem poll {c : Crew μ} (stopped : ∀ m, P m → c.cancelled m = true → Q .cancelled m) :
    c.poll.Leads P P Q := by
  intro m hm
  unfold Crew.poll
  split
  · rename_i stop
    exact ⟨fun success => (by cases success), fun _ => stopped m hm stop⟩
  · exact ⟨fun _ => hm, fun stop => absurd rfl stop⟩

end Act.Leads

/-! ## The course of a walk -/

/-- What holds in the course of a walk whose blocks stand where `At` says: before the `i`-th block below an
address, once a block has started, and after it has been settled. Whatever is done preserves it, or leaves `Q`
when it stops. -/
structure Crew.Course (c : Crew μ) (At : Path → Block → Prop) (before : Path → Nat → μ → Prop)
    (started : Path → Block → μ → Prop) (after : μ → Prop) (Q : Ending → μ → Prop) : Prop where
  placed : ∀ x b kids, At x b → b.children = some kids → Placed At x 0 kids
  next : ∀ x i m, after m → before x i m
  stopped : ∀ x i m, before x i m → c.cancelled m = true → Q .cancelled m
  announce : ∀ x i b, At (x ++ [((i : Nat) : Int)]) b →
    (Act.call (c.announce (x ++ [(i : Int)]) b)).Leads (before x i) (started (x ++ [(i : Int)]) b) Q
  stopped_started : ∀ x b m, started x b m → c.cancelled m = true → Q .cancelled m
  command : ∀ x b name, At x b → b.task = .command name → (c.command x b name).Leads (started x b) after Q
  skip : ∀ x b why m, b.task = .idle why → started x b m → started x b (c.skip x b why m)
  clamp : ∀ x b n kids, b.task = .loop n kids → c.cap < n →
    (Act.call (c.clamp x n)).Leads (started x b) (started x b) Q
  enter : ∀ x b m, At x b → b.kind = .ifColor → started x b m → before x 0 m
  rest : ∀ x b, b.isPaced = false → c.rest.Leads (started x b) after Q
  rest_after : c.rest.Leads after after Q

namespace Crew.Course

variable {c : Crew μ} {At : Path → Block → Prop} {before : Path → Nat → μ → Prop}
  {started : Path → Block → μ → Prop} {after : μ → Prop} {Q : Ending → μ → Prop}
  {x : Path} {b : Block}

/-- Siblings that are walked one after the other. -/
def Walks (c : Crew μ) (before : Path → Nat → μ → Prop) (after : μ → Prop) (Q : Ending → μ → Prop)
    (x : Path) (i : Nat) (p : List Block) : Prop :=
  (p ≠ [] → (c.runFrom x i p).Leads (before x i) after Q) ∧ (c.runFrom x i p).Leads after after Q

variable (h : c.Course At before started after Q)

include h

theorem noteClamp {n : Int} {kids : List Block} (task : b.task = .loop n kids) :
    (c.noteClamp x n).Leads (started x b) (started x b) Q := by
  unfold Crew.noteClamp
  split
  · rename_i beyond
    exact h.clamp x b n kids task beyond
  · exact .done

/-- A block that rests at its end has its children behind it, or there was nothing to be done. -/
theorem settled (there : At x b) (paced : b.isPaced = false)
    (kids_walk : ∀ kids, b.children = some kids → Walks c before after Q x 0 kids) :
    (c.doTask x b b.task).Leads (started x b) (fun m => started x b m ∨ after m) Q := by
  cases task : b.task with
  | command name =>
    rw [b.isPaced_iff.mpr ⟨name, task⟩] at paced
    cases paced
  | idle why => exact .change (fun m hm => .inl (h.skip x b why m task hm))
  | loop n kids =>
    obtain ⟨children, some⟩ := Block.children_of_task_loop task
    have kids_walk := (kids_walk kids children).1 some
    have look : c.poll.Leads (before x 0) (before x 0) Q := .poll (h.stopped x 0)
    have head : c.rest.Leads (fun m => started x b m ∨ after m) (before x 0) Q := by
      intro m hm
      rcases hm with hm | hm
      · exact (h.rest x b paced).mono (fun _ => id) (h.next x 0) m hm
      · exact h.rest_after.mono (fun _ => id) (h.next x 0) m hm
    have round : (c.round x kids).Leads (fun m => started x b m ∨ after m)
        (fun m => started x b m ∨ after m) Q :=
      (head.andThen (look.andThen kids_walk)).mono (fun _ => id) (fun _ => .inr)
    have noted : (c.noteClamp x n).Leads (started x b) (fun m => started x b m ∨ after m) Q :=
      (h.noteClamp task).mono (fun _ => id) (fun _ => .inl)
    exact noted.andThen (round.times _)
  | onColor color kids =>
    obtain ⟨children, some⟩ := Block.children_of_task_onColor task
    have kind : b.kind = .ifColor := by rw [b.kind_eq, task, Task.kind]
    have kids_walk := (kids_walk kids children).1 some
    exact .cond (kids_walk.mono (fun m hm => h.enter x b m there kind hm) (fun _ => .inr)) (fun _ => .inl)

/-- A block that has started, with what it asks for at its end. -/
theorem runBlock (there : At x b)
    (kids_walk : ∀ kids, b.children = some kids → Walks c before after Q x 0 kids) :
    ((c.runBlock x b).andThen (c.settle b)).Leads (started x b) after Q := by
  rw [runBlock_eq]
  unfold Crew.settle
  cases paced : b.isPaced with
  | true =>
    obtain ⟨name, task⟩ := b.isPaced_iff.mp paced
    rw [if_pos rfl, Act.andThen_done, task]
    exact h.command x b name there task
  | false =>
    have rest : c.rest.Leads (fun m => started x b m ∨ after m) after Q := by
      intro m hm
      rcases hm with hm | hm
      · exact h.rest x b paced m hm
      · exact h.rest_after m hm
    exact (h.settled there paced kids_walk).andThen rest

/-- The walk over siblings that are placed, from before the first of them to after the last. -/
theorem runFrom (p : List Block) (x : Path) (i : Nat) (placed : Placed At x i p) :
    Walks c before after Q x i p := by
  -- children are walked at the address of their block, so both parts of the induction speak of all addresses
  refine (Block.induction
    (P := fun b => ∀ x, At x b → ((c.runBlock x b).andThen (c.settle b)).Leads (started x b) after Q)
    (Q := fun p => ∀ x i, Placed At x i p → Walks c before after Q x i p) ?_ ?_ ?_).2 p x i placed
  · intro b kids_walk x there
    exact h.runBlock there (fun kids children => kids_walk kids children x 0 (h.placed x b kids there children))
  · intro x i _
    rw [Walks, runFrom_nil]
    exact ⟨fun some => absurd rfl some, .done⟩
  · intro b rest block_walk rest_walk x i placed
    have block := block_walk (x ++ [(i : Int)]) placed.head
    have later := (rest_walk x (i + 1) placed.tail).2
    have announced := h.announce x i b placed.head
    have look : c.poll.Leads (before x i) (before x i) Q := .poll (h.stopped x i)
    have look_again : c.poll.Leads (started (x ++ [(i : Int)]) b) (started (x ++ [(i : Int)]) b) Q :=
      .poll (h.stopped_started _ b)
    have whole : (c.runFrom x i (b :: rest)).Leads (before x i) after Q := by
      rw [runFrom_cons]
      exact look.andThen (announced.andThen (look_again.andThen (block.andThen later)))
    exact ⟨fun _ => whole, whole.mono (h.next x i) (fun _ => id)⟩

/-- The walk over a whole program. -/
theorem run (p : List Block) (root : Path) (placed : Placed At root 0 p) :
    (c.run p root).Leads (before root 0) (fun m => before root 0 m ∨ after m) Q := by
  have walks := h.runFrom p root 0 placed
  unfold Crew.run
  cases p with
  | nil =>
    rw [runFrom_nil]
    exact Act.Leads.done.mono (fun _ => id) (fun _ => .inl)
  | cons b rest => exact (walks.1 (List.cons_ne_nil b rest)).mono (fun _ => id) (fun _ => .inr)

end Crew.Course

/-! ## What acts add -/

/-- An act that succeeds adds `k` to a measure of the state. -/
def Act.Adds (f : μ → Int) (k : Int) (a : Act μ) : Prop :=
  ∀ m, (a m).1 = .success → f (a m).2 = f m + k

namespace Act.Adds

variable {f : μ → Int} {k l : Int} {a b : Act μ}

theorem change {g : μ → μ} (h : ∀ m, f (g m) = f m + k) : (Act.change g).Adds f k := fun m _ => h m

theorem call {hook : μ → Option Fault × μ} (h : ∀ m, f (hook m).2 = f m + k) : (Act.call hook).Adds f k :=
  fun m _ => (congrArg f (Act.call_left hook m)).trans (h m)

theorem done : Act.done.Adds f 0 := change (g := id) (fun m => (Int.add_zero (f m)).symm)

theorem andThen (first : a.Adds f k) (second : b.Adds f l) : (a.andThen b).Adds f (k + l) := by
  intro m success
  by_cases went : (a m).1 = .success
  · rw [Act.andThen_of_success went] at success ⊢
    rw [second _ success, first m went, Int.add_assoc]
  · rw [Act.andThen_of_ne went] at success
    exact absurd success went

theorem times (h : a.Adds f k) (n : Nat) : (a.times n).Adds f (n * k) := by
  induction n with
  | zero =>
    rw [Int.natCast_zero, Int.zero_mul]
    exact done
  | succ n ih =>
    have grown : ((n + 1 : Nat) : Int) * k = k + n * k := by
      rw [Int.natCast_succ, Int.add_mul, Int.one_mul, Int.add_comm]
    rw [Act.times_succ, grown]
    exact h.andThen ih

theorem congr (h : a.Adds f k) (same : k = l) : a.Adds f l := same ▸ h

/-- What is done under a condition. -/
theorem cond {p : μ → Bool} (h : a.Adds f 0) : Act.Adds f 0 (fun m => if p m then a m else (.success, m)) := by
  intro m success
  dsimp only at success ⊢
  split at success
  · rename_i holds
    rw [if_pos holds]
    exact h m success
  · rename_i fails
    rw [if_neg fails, Int.add_zero]

theorem poll {c : Crew μ} : c.poll.Adds f 0 := by
  intro m _
  unfold Crew.poll
  split <;> simp

end Act.Adds

end Lamplighter
