/-
Lamplighter.Proofs.Run.Pairing — two walks side by side.

* `Abreast`, `Act.Agree` — acts that go on together and stop together, whatever their states are.
* `Crew.Agree`, `Crew.Agree.runFrom` — crews whose every act agrees walk any program side by side.
* `Act.Ensures`, `Crew.Ensures`, `Crew.Ensures.runFrom` — what every act of one crew keeps while it goes on, and
  leaves when it stops.
* `Act.Keeps`, `Crew.Keeps`, `Crew.runFrom_keeps` — what every act of a crew keeps however it ends, a whole walk
  keeps; and a walk breaks off only with the faults of its acts.

The crews may have different states, and walk at different addresses. A property of one walk is the case of
a walk beside itself.
-/
import Lamplighter.Proofs.Run.Walk

namespace Lamplighter

variable {μ ν : Type}

/-! ## Acts side by side -/

/-- How two acts come out that are done side by side: both succeed, and their states belong together (`R`); or
both stop, with one ending, and are left as `Q` says. -/
inductive Abreast (R : μ → ν → Prop) (Q : Ending → μ → ν → Prop) : Ending × μ → Ending × ν → Prop
  | going {m : μ} {n : ν} (together : R m n) : Abreast R Q (.success, m) (.success, n)
  | stopped {e : Ending} {m : μ} {n : ν} (ended : e ≠ .success) (left : Q e m n) :
      Abreast R Q (e, m) (e, n)

/-- Acts that come out side by side end in the same way, and leave states that belong together if those of acts
that stopped do. -/
theorem Abreast.left {R : μ → ν → Prop} {Q : Ending → μ → ν → Prop} {x : Ending × μ} {y : Ending × ν}
    (h : Abreast R Q x y) (still : ∀ e m n, Q e m n → R m n) : y.1 = x.1 ∧ R x.2 y.2 := by
  cases h with
  | going together => exact ⟨rfl, together⟩
  | stopped _ left => exact ⟨rfl, still _ _ _ left⟩

/-- Acts that end in the same way come out side by side if the states that they leave belong together. -/
theorem Abreast.of_left {R : μ → ν → Prop} {x : Ending × μ} {y : Ending × ν} (ending : y.1 = x.1)
    (together : R x.2 y.2) : Abreast R (fun _ => R) x y := by
  obtain ⟨e, m⟩ := x
  obtain ⟨e', n⟩ := y
  obtain rfl : e' = e := ending
  by_cases ended : e' = .success
  · subst ended
    exact .going together
  · exact .stopped ended together

/-- Two acts that come out side by side whenever they are begun with states that belong together. -/
def Act.Agree (R : μ → ν → Prop) (Q : Ending → μ → ν → Prop) (a : Act μ) (b : Act ν) : Prop :=
  ∀ m n, R m n → Abreast R Q (a m) (b n)

namespace Act

variable {R : μ → ν → Prop} {Q : Ending → μ → ν → Prop} {a a' : Act μ} {b b' : Act ν}

theorem done_agree : Agree R Q done done := fun _ _ together => .going together

theorem change_agree {f : μ → μ} {g : ν → ν} (h : ∀ m n, R m n → R (f m) (g n)) :
    Agree R Q (change f) (change g) :=
  fun m n together => .going (h m n together)

theorem andThen_agree (first : Agree R Q a b) (second : Agree R Q a' b') :
    Agree R Q (a.andThen a') (b.andThen b') := by
  intro m n together
  have came := first m n together
  unfold andThen
  generalize a m = x at came ⊢
  generalize b n = y at came ⊢
  cases came with
  | going together => exact second _ _ together
  | @stopped e m n ended left =>
    cases e with
    | success => exact absurd rfl ended
    | failure | cancelled | broken => exact .stopped ended left

/-- Two hooks that are called side by side, and raise alike. -/
theorem call_agree {f : μ → Option Fault × μ} {g : ν → Option Fault × ν}
    (alike : ∀ m n, R m n → (g n).1 = (f m).1)
    (went : ∀ m n, R m n → (f m).1 = none → R (f m).2 (g n).2)
    (raised : ∀ m n fault, R m n → (f m).1 = some fault → Q (.broken fault) (f m).2 (g n).2) :
    Agree R Q (call f) (call g) := by
  intro m n together
  have alike := alike m n together
  have went := went m n together
  have raised := fun fault => raised m n fault together
  unfold call
  generalize f m = x at alike went raised ⊢
  generalize g n = y at alike went raised ⊢
  obtain ⟨fault, m⟩ := x
  obtain ⟨fault', n⟩ := y
  obtain rfl : fault' = fault := alike
  cases fault' with
  | none => exact .going (went rfl)
  | some fault => exact .stopped (by simp) (raised fault rfl)

/-- Two acts that are done under a condition, which holds of both states or of neither. -/
theorem cond_agree {p : μ → Bool} {q : ν → Bool} (same : ∀ m n, R m n → p m = q n) (h : Agree R Q a b) :
    Agree R Q (fun m => if p m then a m else (.success, m)) (fun n => if q n then b n else (.success, n)) := by
  intro m n together
  dsimp only
  rw [same m n together]
  split
  · exact h m n together
  · exact .going together

theorem times_agree (h : Agree R Q a b) (k : Nat) : Agree R Q (a.times k) (b.times k) := by
  induction k with
  | zero => exact done_agree
  | succ k ih =>
    rw [times_succ, times_succ]
    exact andThen_agree h ih

end Act

/-! ## Walks side by side -/

/-- Two crews whose every act agrees, at addresses that belong together (`P`). -/
structure Crew.Agree (P : Path → Path → Prop) (R : μ → ν → Prop) (Q : Ending → μ → ν → Prop) (c : Crew μ)
    (d : Crew ν) : Prop where
  below : ∀ x y i, P x y → P (x ++ [i]) (y ++ [i])
  cap : c.cap = d.cap
  poll : Act.Agree R Q c.poll d.poll
  announce : ∀ x y b, P x y → Act.Agree R Q (Act.call (c.announce x b)) (Act.call (d.announce y b))
  carryOut : ∀ x y b name, b.task = .command name → P x y →
    Act.Agree R Q (c.carryOut x b name) (d.carryOut y b name)
  onColor : ∀ color m n, R m n → c.onColor color m = d.onColor color n
  skip : ∀ x y b why m n, P x y → R m n → R (c.skip x b why m) (d.skip y b why n)
  clamp : ∀ x y k, P x y → Act.Agree R Q (Act.call (c.clamp x k)) (Act.call (d.clamp y k))
  pause : Act.Agree R Q (Act.call c.pause) (Act.call d.pause)
  rest : Act.Agree R Q c.rest d.rest

theorem Crew.poll_agree {R : μ → ν → Prop} {Q : Ending → μ → ν → Prop} {c : Crew μ} {d : Crew ν}
    (same : ∀ m n, R m n → d.cancelled n = c.cancelled m)
    (stopped : ∀ m n, R m n → c.cancelled m = true → Q .cancelled m n) : Act.Agree R Q c.poll d.poll := by
  intro m n together
  unfold Crew.poll
  rw [same m n together]
  cases stop : c.cancelled m with
  | true => exact .stopped (by simp) (stopped m n together stop)
  | false => exact .going together

namespace Crew.Agree

variable {P : Path → Path → Prop} {R : μ → ν → Prop} {Q : Ending → μ → ν → Prop} {c : Crew μ} {d : Crew ν}
  {x y : Path}

theorem settle (h : c.Agree P R Q d) (b : Block) : Act.Agree R Q (c.settle b) (d.settle b) := by
  unfold Crew.settle
  split
  · exact Act.done_agree
  · exact h.rest

theorem noteClamp (h : c.Agree P R Q d) (hp : P x y) (k : Int) :
    Act.Agree R Q (c.noteClamp x k) (d.noteClamp y k) := by
  unfold Crew.noteClamp
  rw [h.cap]
  split
  · exact h.clamp x y k hp
  · exact Act.done_agree

theorem rounds (h : c.Agree P R Q d) (k : Int) : c.rounds k = d.rounds k := by
  simp only [Crew.rounds, h.cap]

theorem doTask (h : c.Agree P R Q d) (hp : P x y) (b : Block)
    (kids_agree : ∀ kids, b.children = some kids → Act.Agree R Q (c.runFrom x 0 kids) (d.runFrom y 0 kids)) :
    Act.Agree R Q (c.doTask x b b.task) (d.doTask y b b.task) := by
  cases task : b.task with
  | command name =>
    dsimp only [Crew.doTask]
    rw [command_eq, command_eq]
    exact Act.andThen_agree (h.carryOut x y b name task hp) h.pause
  | idle why => exact Act.change_agree (fun m n together => h.skip x y b why m n hp together)
  | loop k kids =>
    have kids := kids_agree kids (Block.children_of_task_loop task).1
    have round := Act.andThen_agree h.rest (Act.andThen_agree h.poll kids)
    dsimp only [Crew.doTask]
    rw [h.rounds]
    exact Act.andThen_agree (h.noteClamp hp k) (Act.times_agree round _)
  | onColor color kids =>
    exact Act.cond_agree (h.onColor color) (kids_agree kids (Block.children_of_task_onColor task).1)

/-- The walks of two crews that agree come out side by side, over any program. -/
theorem runFrom (h : c.Agree P R Q d) (p : List Block) (x y : Path) (i : Nat) (hp : P x y) :
    Act.Agree R Q (c.runFrom x i p) (d.runFrom y i p) := by
  -- the block part of the induction speaks of all addresses, since children are walked below it
  refine (Block.induction
    (P := fun b => ∀ x y, P x y → Act.Agree R Q (c.runBlock x b) (d.runBlock y b))
    (Q := fun p => ∀ x y i, P x y → Act.Agree R Q (c.runFrom x i p) (d.runFrom y i p)) ?_ ?_ ?_).2 p x y i hp
  · intro b kids_agree x y hp
    rw [runBlock_eq, runBlock_eq]
    exact h.doTask hp b (fun kids e => kids_agree kids e x y 0 hp)
  · intro x y i _
    rw [runFrom_nil, runFrom_nil]
    exact Act.done_agree
  · intro b rest block_agree rest_agree x y i hp
    have there := h.below x y i hp
    rw [runFrom_cons, runFrom_cons]
    exact Act.andThen_agree h.poll
      (Act.andThen_agree (h.announce _ _ b there)
        (Act.andThen_agree h.poll
          (Act.andThen_agree (Act.andThen_agree (block_agree _ _ there) (h.settle b))
            (rest_agree x y (i + 1) hp))))

end Crew.Agree

/-! ## One act beside itself -/

/-- One and the same state, with a property. -/
def Same (I : μ → Prop) (m n : μ) : Prop := n = m ∧ I m

/-- An act that keeps a property (`I`) while it goes on, and leaves another (`Q`) when it stops: it agrees with
itself. -/
def Act.Ensures (I : μ → Prop) (Q : Ending → μ → Prop) (a : Act μ) : Prop :=
  Act.Agree (Same I) (fun e => Same (Q e)) a a

theorem Act.ensures_iff {I : μ → Prop} {Q : Ending → μ → Prop} {a : Act μ} :
    a.Ensures I Q ↔
      ∀ m, I m → ((a m).1 = .success → I (a m).2) ∧ ((a m).1 ≠ .success → Q (a m).1 (a m).2) := by
  constructor
  · intro h m hm
    have came := h m m ⟨rfl, hm⟩
    generalize a m = x at came ⊢
    cases came with
    | going together => exact ⟨fun _ => together.2, fun stop => absurd rfl stop⟩
    | stopped ended left => exact ⟨fun going => absurd going ended, fun _ => left.2⟩
  · rintro h _ m ⟨rfl, hm⟩
    obtain ⟨went, left⟩ := h _ hm
    generalize a m = x at went left ⊢
    obtain ⟨e, m'⟩ := x
    by_cases ended : e = .success
    · subst ended
      exact .going ⟨rfl, went rfl⟩
    · exact .stopped ended ⟨rfl, left ended⟩

theorem Act.call_ensures {I : μ → Prop} {Q : Ending → μ → Prop} {hook : μ → Option Fault × μ}
    (went : ∀ m, I m → (hook m).1 = none → I (hook m).2)
    (raised : ∀ m fault, I m → (hook m).1 = some fault → Q (.broken fault) (hook m).2) : (call hook).Ensures I Q := by
  refine call_agree ?_ ?_ ?_
  · rintro m _ ⟨rfl, -⟩
    rfl
  · rintro m _ ⟨rfl, hm⟩ none
    exact ⟨rfl, went _ hm none⟩
  · rintro m _ fault ⟨rfl, hm⟩ some
    exact ⟨rfl, raised _ fault hm some⟩

/-- A crew whose every act at an address below `root` ensures the same. -/
structure Crew.Ensures (root : Path) (I : μ → Prop) (Q : Ending → μ → Prop) (c : Crew μ) : Prop where
  poll : ∀ m, I m → c.cancelled m = true → Q .cancelled m
  announce : ∀ path b, root <+: path → (Act.call (c.announce path b)).Ensures I Q
  carryOut : ∀ path b name, b.task = .command name → root <+: path →
    (c.carryOut path b name).Ensures I Q
  skip : ∀ path b why m, root <+: path → I m → I (c.skip path b why m)
  clamp : ∀ path n, root <+: path → (Act.call (c.clamp path n)).Ensures I Q
  pause : (Act.call c.pause).Ensures I Q
  rest : c.rest.Ensures I Q

namespace Crew.Ensures

variable {root : Path} {I : μ → Prop} {Q : Ending → μ → Prop} {c : Crew μ}

theorem agree (h : c.Ensures root I Q) :
    c.Agree (Same (root <+: ·)) (Same I) (fun e => Same (Q e)) c where
  below := by
    rintro x _ i ⟨rfl, hx⟩
    exact ⟨rfl, hx.trans (List.prefix_append _ _)⟩
  cap := rfl
  poll := by
    refine Crew.poll_agree ?_ ?_
    · rintro m _ ⟨rfl, -⟩
      rfl
    · rintro m _ ⟨rfl, hm⟩ stop
      exact ⟨rfl, h.poll _ hm stop⟩
  announce := by
    rintro x _ b ⟨rfl, hx⟩
    exact h.announce _ b hx
  carryOut := by
    rintro x _ b name task ⟨rfl, hx⟩
    exact h.carryOut _ b name task hx
  onColor := by
    rintro color m _ ⟨rfl, -⟩
    rfl
  skip := by
    rintro x _ b why m _ ⟨rfl, hx⟩ ⟨rfl, hm⟩
    exact ⟨rfl, h.skip _ b why _ hx hm⟩
  clamp := by
    rintro x _ k ⟨rfl, hx⟩
    exact h.clamp _ k hx
  pause := h.pause
  rest := h.rest

/-- The walk over a program ensures what its crew does. -/
theorem runFrom (h : c.Ensures root I Q) (p : List Block) (path : Path) (i : Nat) (hp : root <+: path) :
    (c.runFrom path i p).Ensures I Q :=
  h.agree.runFrom p path path i ⟨rfl, hp⟩

end Crew.Ensures

/-! ## What acts keep, however they end -/

/-- An act keeps a property of the state, and what breaks it off is a fault of some kind. -/
def Act.Keeps (I : μ → Prop) (B : Fault → Prop) (act : Act μ) : Prop :=
  ∀ m, I m → I (act m).2 ∧ ∀ fault, (act m).1 = .broken fault → B fault

/-- A state with a property, left by an act that has broken off, if it has, with a fault of some kind. -/
def Remains (I : μ → Prop) (B : Fault → Prop) (e : Ending) (m : μ) : Prop :=
  I m ∧ ∀ fault, e = .broken fault → B fault

namespace Act

variable {I : μ → Prop} {B : Fault → Prop}

/-- Acts that keep a property are those that ensure it both when they go on and when they stop. -/
theorem keeps_iff {act : Act μ} : act.Keeps I B ↔ act.Ensures I (Remains I B) := by
  rw [ensures_iff]
  constructor
  · intro h m hm
    exact ⟨fun _ => (h m hm).1, fun _ => h m hm⟩
  · intro h m hm
    by_cases success : (act m).1 = .success
    · exact ⟨(h m hm).1 success, fun fault broken => by rw [success] at broken; cases broken⟩
    · exact (h m hm).2 success

theorem andThen_keeps {first second : Act μ} (h₁ : first.Keeps I B) (h₂ : second.Keeps I B) :
    (first.andThen second).Keeps I B :=
  keeps_iff.mpr (andThen_agree (keeps_iff.mp h₁) (keeps_iff.mp h₂))

theorem times_keeps {act : Act μ} (h : act.Keeps I B) (n : Nat) : (act.times n).Keeps I B :=
  keeps_iff.mpr (times_agree (keeps_iff.mp h) n)

theorem call_keeps {hook : μ → Option Fault × μ} (hook_keeps : ∀ m, I m → I (hook m).2)
    (hook_fault : ∀ m fault, I m → (hook m).1 = some fault → B fault) : (call hook).Keeps I B := by
  refine keeps_iff.mpr (call_ensures (fun m hm _ => hook_keeps m hm) (fun m fault hm raised => ?_))
  refine ⟨hook_keeps m hm, fun other e => ?_⟩
  cases e
  exact hook_fault m fault hm raised

end Act

/-- Everything that a crew does at addresses below `root` keeps a property of the state, and breaks off
only with faults of some kind. -/
structure Crew.Keeps (root : Path) (I : μ → Prop) (B : Fault → Prop) (crew : Crew μ) : Prop where
  announce : ∀ path b, root <+: path → (Act.call (crew.announce path b)).Keeps I B
  perform : ∀ path b name m, root <+: path → I m → I (crew.perform path b name m).2
  perform_fault : ∀ path b name m fault, root <+: path → I m →
    (crew.perform path b name m).1 = .error fault → B fault
  skip : ∀ path b why m, root <+: path → I m → I (crew.skip path b why m)
  clamp : ∀ path n, root <+: path → (Act.call (crew.clamp path n)).Keeps I B
  pause : ∀ m, I m → I (crew.pause m).2
  pause_fault : ∀ m fault, I m → (crew.pause m).1 = some fault → B fault
  checkpoint : ∀ m, I m → I (crew.checkpoint m).2
  checkpoint_fault : ∀ m fault, I m → (crew.checkpoint m).1 = some fault → B fault

namespace Crew

variable {I : μ → Prop} {B : Fault → Prop} {crew : Crew μ} {root : Path}

theorem poll_keeps : crew.poll.Keeps I B := by
  intro m hm
  unfold poll
  split
  · exact ⟨hm, fun fault h => by simp at h⟩
  · exact ⟨hm, fun fault h => by simp at h⟩

namespace Keeps

theorem carryOut (h : crew.Keeps root I B) {path : Path} (hp : root <+: path) (b : Block) (name : String) :
    (crew.carryOut path b name).Keeps I B := by
  intro m hm
  have kept := h.perform path b name m hp hm
  have faults := fun fault => h.perform_fault path b name m fault hp hm
  revert kept faults
  unfold Crew.carryOut
  rcases crew.perform path b name m with ⟨fault | ok, m'⟩
  · intro kept faults
    refine ⟨kept, fun other e => faults other ?_⟩
    exact congrArg Except.error (Ending.broken.inj e)
  · intro kept _
    cases ok with
    | true | false => exact ⟨kept, fun fault e => by simp at e⟩

theorem rest (h : crew.Keeps root I B) : crew.rest.Keeps I B :=
  Act.call_keeps h.checkpoint h.checkpoint_fault

theorem ensures (h : crew.Keeps root I B) : crew.Ensures root I (Remains I B) where
  poll m hm _ := ⟨hm, fun fault e => by cases e⟩
  announce path b hp := Act.keeps_iff.mp (h.announce path b hp)
  carryOut path b name _ hp := Act.keeps_iff.mp (h.carryOut hp b name)
  skip := h.skip
  clamp path n hp := Act.keeps_iff.mp (h.clamp path n hp)
  pause := Act.keeps_iff.mp (Act.call_keeps h.pause h.pause_fault)
  rest := Act.keeps_iff.mp h.rest

theorem settle (h : crew.Keeps root I B) (b : Block) : (crew.settle b).Keeps I B :=
  Act.keeps_iff.mpr (h.ensures.agree.settle b)

end Keeps

/-- The walk over a program keeps what its crew keeps. -/
theorem runFrom_keeps (h : crew.Keeps root I B) (p : List Block) (path : Path) (i : Nat)
    (hp : root <+: path) : (crew.runFrom path i p).Keeps I B :=
  Act.keeps_iff.mpr (h.ensures.runFrom p path i hp)

/-- Running one block keeps what its crew keeps. -/
theorem runBlock_keeps (h : crew.Keeps root I B) (b : Block) (path : Path) (hp : root <+: path) :
    (crew.runBlock path b).Keeps I B := by
  rw [runBlock_eq]
  exact Act.keeps_iff.mpr
    (h.ensures.agree.doTask ⟨rfl, hp⟩ b (fun kids _ => h.ensures.runFrom kids path 0 hp))

end Crew

end Lamplighter
