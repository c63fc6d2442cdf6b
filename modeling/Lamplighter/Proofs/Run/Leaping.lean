/-
Lamplighter.Proofs.Run.Leaping — a jump does whatever a move does.

* `Program.recast` — a program with other commands, named by the addresses of their blocks; `Program.leaping` is the
  one in which chosen moves are jumps.
* `Act.Follows` — an act that succeeds wherever another does, and then leaves what belongs to it.
* `Crew.Follows.recast` — the walks of two crews, one over a program and one over it recast, where each command of the
  second succeeds if that of the first does.
* `Setup.Eases`, `Setup.eases_jump` — a command that does all that another does, wherever that one succeeds; under
  the standard rules a jump does so for a move.
* `SameCourse`, `play_leaping` — a program run before onlookers, beside the program with jumps.

Nothing is said of runs that fail: a jump may well succeed where a move does not, and the runs part there.
-/
import Lamplighter.Proofs.Run.Address
import Lamplighter.Proofs.Run.Stepping
import Lamplighter.Proofs.Run.Unrolling

namespace Lamplighter

/-! ## Recasting -/

mutual

/-- A subtree with other commands: `f` names the command at an address, from that address and the name that was there.
Only command blocks change, and a block whose command is missing is left without one. -/
def Block.recast (f : Path → String → String) (path : Path) : Block → Block
  | ⟨id, k, c, n, q, none⟩ => ⟨id, k, if k = .command then c.map (f path) else c, n, q, none⟩
  | ⟨id, k, c, n, q, some kids⟩ =>
    ⟨id, k, if k = .command then c.map (f path) else c, n, q, some (Program.recast f path 0 kids)⟩
termination_by structural b => b

/-- Siblings with other commands, the first of them at index `i` below `path`. -/
def Program.recast (f : Path → String → String) (path : Path) (i : Nat) : List Block → List Block
  | [] => []
  | b :: rest => b.recast f (path ++ [(i : Int)]) :: Program.recast f path (i + 1) rest
termination_by structural p => p

end

theorem Block.recast_eq (f : Path → String → String) (path : Path) (b : Block) :
    b.recast f path =
      { b with
        command := if b.kind = .command then b.command.map (f path) else b.command
        children := b.children.map (Program.recast f path 0) } := by
  obtain ⟨id, k, c, n, q, kids⟩ := b
  cases kids <;> rfl

/-- The moves at chosen addresses are jumps, and all other commands are what they are. -/
def leapt (chosen : Path → Bool) (path : Path) (name : String) : String :=
  if chosen path ∧ name = Command.move.name then Command.jump.name else name

/-- A program in which the moves at chosen addresses are jumps. -/
def Program.leaping (chosen : Path → Bool) (p : Program) : Program := recast (leapt chosen) [] 0 p

namespace Program

variable (f : Path → String → String) (path : Path)

theorem getElem?_recast (p : List Block) (i j : Nat) :
    (recast f path i p)[j]? = p[j]?.map (Block.recast f (path ++ [((i + j : Nat) : Int)])) := by
  induction p generalizing i j with
  | nil => rfl
  | cons b rest ih =>
    cases j with
    | zero => rfl
    | succ j =>
      have later := ih (i + 1) j
      rwa [show i + 1 + j = i + (j + 1) by omega] at later

theorem sibling?_recast (p : List Block) (i : Int) :
    sibling? (recast f path 0 p) i = (sibling? p i).map (Block.recast f (path ++ [i])) := by
  unfold sibling?
  split
  · rfl
  · rw [getElem?_recast, Nat.zero_add, Int.toNat_of_nonneg (by omega)]

/-- At each address of a program recast is the block that was there, recast. -/
theorem at?_recast (p : List Block) (x : Path) :
    at? (recast f path 0 p) x = (at? p x).map (Block.recast f (path ++ x)) := by
  induction x generalizing p path with
  | nil => simp
  | cons i rest ih =>
    cases rest with
    | nil => exact sibling?_recast f path p i
    | cons j rest =>
      rw [at?, at?, sibling?_recast]
      cases sibling? p i with
      | none => rfl
      | some b =>
        have kids : (b.recast f (path ++ [i])).children.getD [] =
            recast f (path ++ [i]) 0 (b.children.getD []) := by
          rw [Block.recast_eq]
          cases b.children <;> rfl
        have below := ih (path ++ [i]) (b.children.getD [])
        rw [Option.map_some, Option.bind_some, Option.bind_some, kids, below, List.append_assoc]
        rfl

end Program

/-! ## Tasks of blocks recast -/

/-- What a block at `path` is to do when it is recast. -/
def Task.recast (f : Path → String → String) (path : Path) : Task → Task
  | command name => command (f path name)
  | idle why => idle why
  | loop n kids => loop n (Program.recast f path 0 kids)
  | onColor color kids => onColor color (Program.recast f path 0 kids)

namespace Block

variable (f : Path → String → String) (path : Path) (b : Block)

theorem task_recast : (b.recast f path).task = b.task.recast f path := by
  obtain ⟨id, k, c, n, q, kids⟩ := b
  cases k with
  | command => cases c <;> cases kids <;> rfl
  | loop =>
    rcases n with _ | n <;> rcases kids with _ | _ | ⟨kid, kids⟩ <;> try rfl
    by_cases few : n < 1
    · simp [recast, Program.recast, task, Task.recast, few]
    · simp [recast, Program.recast, task, Task.recast, few]
  | ifColor => rcases q with _ | q <;> rcases kids with _ | _ | ⟨kid, kids⟩ <;> rfl

theorem isPaced_recast : (b.recast f path).isPaced = b.isPaced := by
  obtain ⟨id, k, c, n, q, kids⟩ := b
  cases k <;> cases c <;> cases kids <;> rfl

end Block

/-! ## Acts that follow -/

section Follows

variable {μ ν : Type} {R : μ → ν → Prop}

/-- An act that succeeds wherever another does, when they are begun with states that belong together; and then they
leave states that do. -/
def Act.Follows (R : μ → ν → Prop) (a : Act μ) (b : Act ν) : Prop :=
  ∀ m n, R m n → (a m).1 = .success → (b n).1 = .success ∧ R (a m).2 (b n).2

namespace Act

variable {a a' : Act μ} {b b' : Act ν}

theorem done_follows : Follows R done done := fun _ _ together _ => ⟨rfl, together⟩

theorem change_follows {f : μ → μ} {g : ν → ν} (h : ∀ m n, R m n → R (f m) (g n)) :
    Follows R (change f) (change g) :=
  fun m n together _ => ⟨rfl, h m n together⟩

theorem andThen_follows (first : Follows R a b) (second : Follows R a' b') :
    Follows R (a.andThen a') (b.andThen b') := by
  intro m n together success
  by_cases went : (a m).1 = .success
  · obtain ⟨went', together'⟩ := first m n together went
    rw [andThen_of_success went] at success ⊢
    rw [andThen_of_success went']
    exact second _ _ together' success
  · rw [andThen_of_ne went] at success
    exact absurd success went

theorem times_follows (h : Follows R a b) (k : Nat) : Follows R (a.times k) (b.times k) := by
  induction k with
  | zero => exact done_follows
  | succ k ih =>
    rw [times_succ, times_succ]
    exact andThen_follows h ih

theorem cond_follows {p : μ → Bool} {q : ν → Bool} (same : ∀ m n, R m n → p m = q n) (h : Follows R a b) :
    Follows R (fun m => if p m then a m else (.success, m)) (fun n => if q n then b n else (.success, n)) := by
  intro m n together
  dsimp only
  rw [same m n together]
  split
  · exact h m n together
  · exact fun success => ⟨success, together⟩

end Act

/-- Two crews, of which the second carries out other commands, named by `f`. At a command it succeeds wherever the
first does, and in all else as well. -/
structure Crew.Follows (f : Path → String → String) (R : μ → ν → Prop) (c : Crew μ) (d : Crew ν) : Prop where
  cap : d.cap = c.cap
  poll : Act.Follows R c.poll d.poll
  announce : ∀ x y b, Act.Follows R (Act.call (c.announce x b)) (Act.call (d.announce x (b.recast f y)))
  carryOut : ∀ x y b name, b.task = .command name →
    Act.Follows R (c.carryOut x b name) (d.carryOut x (b.recast f y) (f y name))
  onColor : ∀ color m n, R m n → c.onColor color m = d.onColor color n
  skip : ∀ x y b why m n, R m n → R (c.skip x b why m) (d.skip x (b.recast f y) why n)
  clamp : ∀ x k, Act.Follows R (Act.call (c.clamp x k)) (Act.call (d.clamp x k))
  pause : Act.Follows R (Act.call c.pause) (Act.call d.pause)
  rest : Act.Follows R c.rest d.rest

namespace Crew.Follows

variable {f : Path → String → String} {c : Crew μ} {d : Crew ν} (h : c.Follows f R d)

include h

theorem settle (y : Path) (b : Block) : Act.Follows R (c.settle b) (d.settle (b.recast f y)) := by
  unfold Crew.settle
  rw [b.isPaced_recast f y]
  split
  · exact Act.done_follows
  · exact h.rest

theorem noteClamp (x : Path) (k : Int) : Act.Follows R (c.noteClamp x k) (d.noteClamp x k) := by
  unfold Crew.noteClamp
  rw [h.cap]
  split
  · exact h.clamp x k
  · exact Act.done_follows

theorem doTask (x y : Path) (b : Block) (kids_follow : ∀ kids, b.children = some kids →
      Act.Follows R (c.runFrom x 0 kids) (d.runFrom x 0 (Program.recast f y 0 kids))) :
    Act.Follows R (c.doTask x b b.task) (d.doTask x (b.recast f y) (b.recast f y).task) := by
  rw [b.task_recast f y]
  cases task : b.task with
  | command name =>
    simp only [Task.recast, Crew.doTask, command_eq]
    exact Act.andThen_follows (h.carryOut x y b name task) h.pause
  | idle why => exact Act.change_follows (h.skip x y b why)
  | loop k kids =>
    have kids_follow := kids_follow kids (Block.children_of_task_loop task).1
    have round := Act.andThen_follows h.rest (Act.andThen_follows h.poll kids_follow)
    have rounds : d.rounds k = c.rounds k := by rw [Crew.rounds, Crew.rounds, h.cap]
    simp only [Task.recast, Crew.doTask, rounds]
    exact Act.andThen_follows (h.noteClamp x k) (Act.times_follows round _)
  | onColor color kids =>
    exact Act.cond_follows (h.onColor color) (kids_follow kids (Block.children_of_task_onColor task).1)

/-- The walk over a program recast succeeds wherever the walk over the program does. -/
theorem recast (p : List Block) (x y : Path) (i : Nat) :
    Act.Follows R (c.runFrom x i p) (d.runFrom x i (Program.recast f y i p)) := by
  -- the walk is at `x`, and `f` is told of `y`: children are below both
  refine (Block.induction
    (P := fun b => ∀ x y, Act.Follows R (c.runBlock x b) (d.runBlock x (b.recast f y)))
    (Q := fun p => ∀ x y i, Act.Follows R (c.runFrom x i p) (d.runFrom x i (Program.recast f y i p)))
    ?_ ?_ ?_).2 p x y i
  · intro b kids_follow x y
    rw [runBlock_eq, runBlock_eq]
    exact h.doTask x y b (fun kids children => kids_follow kids children x y 0)
  · intro x y i
    rw [Program.recast, runFrom_nil, runFrom_nil]
    exact Act.done_follows
  · intro b rest block_follows rest_follow x y i
    rw [Program.recast, runFrom_cons, runFrom_cons]
    exact Act.andThen_follows h.poll
      (Act.andThen_follows (h.announce _ _ b)
        (Act.andThen_follows h.poll
          (Act.andThen_follows (Act.andThen_follows (block_follows _ _) (h.settle _ b))
            (rest_follow x y (i + 1)))))

end Crew.Follows

end Follows

/-! ## Commands that do what others do -/

/-- A command that is not refused, and of which everything can be told. -/
def Report.succeeds (r : Report) : Bool := r.ok && r.deeds.all Deed.isTellable

namespace Attempt

variable {board : Board} {rules : Rules} {gait : Gait} {a : Attempt}

/-- A step succeeds if and only if nothing refuses it. -/
theorem step_succeeds : (a.step board rules gait).succeeds = true ↔ IsFree board rules gait a := by
  by_cases free : IsFree board rules gait a
  · obtain ⟨deeds, done, told⟩ := step_of_free free
    exact iff_of_true (by simp [done, Report.succeeds, Report.ok, told]) free
  · obtain ⟨deeds, done, -⟩ := step_of_not_free free
    exact iff_of_false (by simp [done, Report.succeeds, Report.ok]) free

theorem step_attempt (free : IsFree board rules gait a) : (a.step board rules gait).attempt = a.arrive a.ahead := by
  obtain ⟨deeds, done, -⟩ := step_of_free free
  rw [done]

/-- Where a move is free, so is a jump: it covers no height at all. -/
theorem IsFree.jump {reach : Int} (able : 0 ≤ reach) (free : IsFree board (.standard reach) .move a) :
    IsFree board (.standard reach) .jump a := by
  obtain ⟨walkable, level⟩ := free
  refine ⟨walkable, ?_⟩
  simp only [Gait.allowed, Rules.standard, beq_iff_eq] at level
  simpa [Gait.allowed, Rules.standard, level] using able

end Attempt

namespace Setup

/-- A command that succeeds wherever another does, and then does the same to an attempt. -/
def Eases (setup : Setup) (name name' : String) : Prop :=
  ∀ a : Attempt, (a.execute setup.board setup.rules name).succeeds = true →
    (a.execute setup.board setup.rules name').succeeds = true ∧
      (a.execute setup.board setup.rules name').attempt = (a.execute setup.board setup.rules name).attempt

theorem eases_self (setup : Setup) (name : String) : setup.Eases name name := fun _ success => ⟨success, rfl⟩

/-- Under the standard rules, a jump does what a move does. -/
theorem eases_jump {setup : Setup} {reach : Int} (rules : setup.rules = .standard reach) (able : 0 ≤ reach) :
    setup.Eases Command.move.name Command.jump.name := by
  intro a success
  have move : a.execute setup.board setup.rules Command.move.name = a.step setup.board setup.rules .move := rfl
  have jump : a.execute setup.board setup.rules Command.jump.name = a.step setup.board setup.rules .jump := rfl
  rw [move, rules] at success
  rw [move, jump, rules]
  have free := Attempt.step_succeeds.mp success
  have free' := free.jump able
  exact ⟨Attempt.step_succeeds.mpr free', (Attempt.step_attempt free').trans (Attempt.step_attempt free).symm⟩

/-- Whatever moves are made jumps, each command does what was done before. -/
theorem eases_leapt {setup : Setup} {reach : Int} (rules : setup.rules = .standard reach) (able : 0 ≤ reach)
    (chosen : Path → Bool) (path : Path) (name : String) : setup.Eases name (leapt chosen path name) := by
  unfold leapt
  split
  · rename_i move
    rw [move.2]
    exact eases_jump rules able
  · exact setup.eases_self name

end Setup

/-! ## Runs before onlookers -/

variable {σ τ ι : Type}

/-- A moment of a run, whatever the command is of which listeners are told. -/
def Occasion.veiled : Occasion → Occasion
  | .told e => .told { e with command := none }
  | .pause => .pause
  | .checkpoint => .checkpoint

/-- The address of the block that starts. -/
def Occasion.started? (x : Occasion) : Option Path :=
  x.event?.bind fun e => if e.kind = .blockStarted then some e.path else none

/-- A pause or a checkpoint. -/
def Occasion.suspension? : Occasion → Option Occasion
  | .told _ => none
  | .pause => some .pause
  | .checkpoint => some .checkpoint

namespace Occasion

@[simp] theorem started?_veiled (x : Occasion) : x.veiled.started? = x.started? := by cases x <;> rfl

@[simp] theorem suspension?_veiled (x : Occasion) : x.veiled.suspension? = x.suspension? := by cases x <;> rfl

end Occasion

/-- How a run comes out, beside another that has succeeded: it succeeds as well, with the same attempt and the same
refusal before it. The same blocks have started in the same order, and the run was suspended at the same moments in
between; all events are the same, but for the commands that they show. -/
structure SameCourse (x : Ending × Stage (σ × List Beat)) (y : Ending × Stage (τ × List Beat)) : Prop where
  ending : y.1 = .success
  attempt : y.2.attempt = x.2.attempt
  failure : y.2.failure = x.2.failure
  started : y.2.log.filterMap Beat.started? = x.2.log.filterMap Beat.started?
  suspended : marks Occasion.suspension? y.2.log = marks Occasion.suspension? x.2.log
  occasions : y.2.log.map (fun beat => beat.occasion.veiled) = x.2.log.map fun beat => beat.occasion.veiled

/-- What does not depend on the commands that events show can be read off occasions that do not show them. -/
theorem marks_veiled {g : Occasion → Option ι} (blind : ∀ x, g x.veiled = g x) (log : List Beat) :
    marks g log = (log.map fun beat => beat.occasion.veiled).filterMap g := by
  simp [marks, List.filterMap_map, blind]

/-- The addresses of the blocks that have started. -/
theorem started_eq (log : List Beat) : log.filterMap Beat.started? = marks Occasion.started? log := by
  have each (x : Beat) : x.started? = x.occasion.started? := by
    obtain ⟨occasion, attempt, cancelled⟩ := x
    cases occasion <;> rfl
  exact congrArg (log.filterMap ·) (funext each)

/-- What counts: all, but for the commands that events show. -/
def unveiled (x : Occasion) : Option Occasion := some x.veiled

theorem marks_unveiled (log : List Beat) : marks unveiled log = log.map fun beat => beat.occasion.veiled := by
  simp [marks, unveiled]

/-- Runs that have come to the same, but for the commands that events show, have taken the same course. -/
theorem InStep.sameCourse {x : Ending × Stage (σ × List Beat)} {y : Ending × Stage (τ × List Beat)}
    (together : InStep unveiled x.2 y.2) (ending : y.1 = .success) : SameCourse x y := by
  have occasions := together.marks
  rw [marks_unveiled, marks_unveiled] at occasions
  exact
    { ending
      attempt := together.attempt
      failure := together.failure
      started := by
        rw [started_eq, started_eq, marks_veiled Occasion.started?_veiled, marks_veiled Occasion.started?_veiled,
          occasions]
      suspended := by
        rw [marks_veiled Occasion.suspension?_veiled, marks_veiled Occasion.suspension?_veiled, occasions]
      occasions }

section Commands

variable (f : Occasion → Option ι) (setup : Setup) (o : Onlookers σ) (x : Path) (b : Block) (name : String)
  (m : Stage (σ × List Beat))

theorem succeeds_of_carryOut (success : ((setup.before o.patient).carryOut x b name m).1 = .success) :
    (setup.report name m).succeeds = true := by
  have done := marked_carryOut (fun _ => some ()) o setup x b m name
  split at done
  · rename_i tellable
    cases ok : (setup.report name m).ok with
    | true => exact Bool.and_eq_true_iff.mpr ⟨ok, tellable⟩
    | false =>
      rw [done.1, ok] at success
      cases success
  · rw [done.1] at success
    cases success

/-- A command that succeeds is carried out before patient onlookers, and what counts of it is on the log. -/
theorem carryOut_of_succeeds (succeeds : (setup.report name m).succeeds = true) :
    ((setup.before o.patient).carryOut x b name m).1 = .success ∧
      Marked f { setup.begin name m with active := none }
        (f (.told (Event.ofBlock .commandFinished x b (some true) (setup.report name m).attempt))).toList
        ((setup.before o.patient).carryOut x b name m).2 := by
  obtain ⟨ok, tellable⟩ := Bool.and_eq_true_iff.mp succeeds
  have done := marked_carryOut f o setup x b m name
  rw [if_pos (show setup.isTellable name m = true from tellable), ok] at done
  exact done

end Commands

section Crews

variable {setup : Setup} {f : Path → String → String} (o : Onlookers σ) (o' : Onlookers τ)

/-- The event of a block recast is the same, but for the command. -/
theorem veiled_recast (kind : EventKind) (x y : Path) (b : Block) (success : Option Bool) (a : Attempt) :
    unveiled (.told (Event.ofBlock kind x (b.recast f y) success a)) =
      unveiled (.told (Event.ofBlock kind x b success a)) := by
  rw [Block.recast_eq]
  rfl

/-- A command that does what another does is carried out in its place. -/
theorem InStep.carryOut_eased {name name' : String} (eases : setup.Eases name name') (x y : Path) (b : Block) :
    Act.Follows (InStep unveiled) ((setup.before o.patient).carryOut x b name)
      ((setup.before o'.patient).carryOut x (b.recast f y) name') := by
  intro m n together success
  have succeeds := succeeds_of_carryOut setup o x b name m success
  obtain ⟨succeeds', attempt⟩ := eases m.attempt succeeds
  have report : setup.report name' n = m.attempt.execute setup.board setup.rules name' := by
    rw [Setup.report, together.attempt]
  rw [← report] at succeeds' attempt
  obtain ⟨-, left⟩ := carryOut_of_succeeds unveiled setup o x b name m succeeds
  obtain ⟨success', right⟩ := carryOut_of_succeeds unveiled setup o' x (b.recast f y) name' n succeeds'
  -- a command that succeeds leaves the last refusal as it was
  have begun : InStep unveiled { setup.begin name m with active := none }
      { setup.begin name' n with active := none } :=
    { going := together.going
      going' := together.going'
      attempt
      failure := by
        have calm := Option.isNone_iff_eq_none.mp (Bool.and_eq_true_iff.mp succeeds).1
        have calm' := Option.isNone_iff_eq_none.mp (Bool.and_eq_true_iff.mp succeeds').1
        simp [Setup.begin, calm, calm', together.failure]
      marks := together.marks }
  rw [veiled_recast, attempt] at right
  exact ⟨success', begun.noted left right⟩

/-- Before patient onlookers, the walk over a program recast follows the walk over the program, if each command does
what was done before. -/
theorem crew_follows (eases : ∀ path name, setup.Eases name (f path name)) :
    (setup.before o.patient).Follows f (InStep unveiled) (setup.before o'.patient) where
  cap := rfl
  poll m n together _ := by
    rw [poll_going setup together.going, poll_going setup together.going']
    exact ⟨rfl, together⟩
  announce x y b := by
    rw [o.patient.call_announce, o'.patient.call_announce]
    refine Act.change_follows (fun m n together => ?_)
    have left := marked_announce unveiled o setup x b m
    have right := marked_announce unveiled o' setup x (b.recast f y) n
    have alike : unveiled (.told (Event.ofBlock .blockStarted x (b.recast f y) none n.attempt)) =
        unveiled (.told (Event.ofBlock .blockStarted x b none m.attempt)) := by
      rw [veiled_recast, together.attempt]
    rw [alike] at right
    have there : InStep unveiled { m with path := x } { n with path := x } := { together with }
    exact there.noted left right
  carryOut x y b name _ := InStep.carryOut_eased o o' (eases y name) x y b
  onColor color m n together := by simp only [Setup.crew, together.attempt]
  skip x y b why m n together :=
    together.noted ((patient_bystanders unveiled o).say _ trivial) ((patient_bystanders unveiled o').say _ trivial)
  clamp x k m n together success := by
    have alike : ((setup.before o'.patient).clamp x k n).1 = ((setup.before o.patient).clamp x k m).1 := by
      simp only [Setup.crew, Setup.clamp]
      split <;> rfl
    refine ⟨Act.call_eq_success.mpr (alike.trans (Act.call_eq_success.mp success)), ?_⟩
    rw [Act.call_left, Act.call_left]
    exact together.noted (marked_clamp unveiled o setup x m k) (marked_clamp unveiled o' setup x n k)
  pause m n together _ :=
    ⟨rfl, together.noted (marked_attend _ .pause o.pause m) (marked_attend _ .pause o'.pause n)⟩
  rest m n together _ :=
    ⟨rfl, together.noted (marked_attend _ .checkpoint o.checkpoint m)
      (marked_attend _ .checkpoint o'.checkpoint n)⟩

end Crews

/-! ## Runs -/

section Runs

variable {setup : Setup} (o : Onlookers σ) (o' : Onlookers τ) (p : Program) (path : Path)
  (m : Stage (σ × List Beat)) (n : Stage (τ × List Beat))

/-- A run that is never cancelled and succeeds, beside a run of the program recast, in which each command does what was
done before. -/
theorem play_recast {f : Path → String → String} (eases : ∀ path name, setup.Eases name (f path name)) (y : Path)
    (attempt : n.attempt = m.attempt) (failure : n.failure = m.failure) (blank : m.log = []) (blank' : n.log = [])
    (uncancelled : (setup.play o.around p path m).2.cancelled = false)
    (uncancelled' : (setup.play o'.around (Program.recast f y 0 p) path n).2.cancelled = false)
    (success : (setup.play o.around p path m).1 = .success) :
    SameCourse (setup.play o.around p path m) (setup.play o'.around (Program.recast f y 0 p) path n) := by
  have start : InStep unveiled m n :=
    { going := going_of_uncancelled setup o p path m uncancelled
      going' := going_of_uncancelled setup o' _ path n uncancelled'
      attempt
      failure
      marks := by rw [blank, blank'] }
  rw [play_of_uncancelled setup o p path m uncancelled] at success ⊢
  rw [play_of_uncancelled setup o' _ path n uncancelled']
  obtain ⟨ending, together⟩ := (crew_follows o o' eases).recast p path y 0 m n start success
  exact together.sameCourse ending

/-- Under the standard rules, a run that is never cancelled and succeeds does so as well when any of the moves of its
program are jumps, and takes the same course: whatever the program, the bound on loops and the start are, and whoever
looks on. -/
theorem play_leaping {reach : Int} (rules : setup.rules = .standard reach) (able : 0 ≤ reach) (chosen : Path → Bool)
    (attempt : n.attempt = m.attempt) (failure : n.failure = m.failure) (blank : m.log = []) (blank' : n.log = [])
    (uncancelled : (setup.play o.around p path m).2.cancelled = false)
    (uncancelled' : (setup.play o'.around (p.leaping chosen) path n).2.cancelled = false)
    (success : (setup.play o.around p path m).1 = .success) :
    SameCourse (setup.play o.around p path m) (setup.play o'.around (p.leaping chosen) path n) :=
  play_recast o o' p path m n (Setup.eases_leapt rules able chosen) [] attempt failure blank blank' uncancelled
    uncancelled' success

end Runs

/-- A loop that asks for too many rounds: a move, and on red a light and the way back. -/
def pacing : Program :=
  let around : Program := [.ofCommand (some "TURN_L"), .ofCommand (some "TURN_L")]
  [.ofLoop (some 9)
    [.ofCommand (some "MOVE"),
      .ofColor (some "red") (.ofCommand (some "LIGHT") :: around ++ .ofCommand (some "MOVE") :: around)]]

theorem play_leaping_pacing :
    (Program.at? (pacing.leaping (· = [0, 1, 3])) [0, 1, 3]).bind Block.command = some "JUMP" ∧
      SameCourse
        (alley.play fussy.around pacing [4] { attempt := { robot := ⟨⟨0, 0⟩, .east⟩ }, world := (0, []) })
        (alley.play impatient.patient.around (pacing.leaping (· = [0, 1, 3])) [4]
          { attempt := { robot := ⟨⟨0, 0⟩, .east⟩ }, world := ((), []) }) :=
  ⟨by decide +kernel, play_leaping fussy impatient.patient pacing [4] _ _ rfl (by decide) (· = [0, 1, 3]) rfl rfl rfl
    rfl (by decide +kernel) (by decide +kernel) (by decide +kernel)⟩

end Lamplighter
