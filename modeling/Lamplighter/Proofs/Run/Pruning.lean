/-
Lamplighter.Proofs.Run.Pruning — a program does the same without its dead blocks.

* `Block.isDead`, `Program.prune` — blocks that can do nothing, and a program without them, at whatever depth.
* `Block.task_pruneKids`, `Task.isDead` — the same, seen from what blocks ask of a walk.
* `Crew.Spares`, `Crew.Spares.prune` — two crews that do alike the commands that do something, and the walks of
  such crews, one over a program and one over it pruned.
* `SameEffect`, `play_prune` — a program run before onlookers, beside the program pruned if the loops can be
  remarked on. `play_prune_fails` — not so if they cannot, or if a hook raises.

A dead block is announced, passed over or paused for, and its loops take their checkpoints: none of this changes
the attempt, and none of it is a command that does something. A container dies with the last of its children.
-/
import Lamplighter.Proofs.Run.Account
import Lamplighter.Proofs.Run.Unrolling

namespace Lamplighter

/-! ## Dead blocks -/

/-- The names of the commands that do something. -/
def Command.working : List String := [move.name, turnLeft.name, turnRight.name, jump.name, light.name]

/-- Whether a block has no children. -/
def Block.isChildless (b : Block) : Bool := (b.children.getD []).isEmpty

/-- Whether a block can do nothing: a command that is missing or does nothing, a loop without rounds, a condition
without a colour, or a container without children. -/
def Block.isDead (b : Block) : Bool :=
  match b.kind with
  | .command => b.command.all (· ∉ Command.working)
  | .loop => b.iterations.all (· < 1) || b.isChildless
  | .ifColor => b.color.isNone || b.isChildless

/-- A block, unless it is dead. -/
def Block.living? (b : Block) : Option Block := if b.isDead then none else some b

mutual

/-- What remains of a block when the dead blocks below it are removed: nothing, if it is dead then. -/
def Block.prune : Block → Option Block
  | ⟨id, k, c, n, q, none⟩ => Block.living? ⟨id, k, c, n, q, none⟩
  | ⟨id, k, c, n, q, some kids⟩ => Block.living? ⟨id, k, c, n, q, some (Program.prune kids)⟩
termination_by structural b => b

/-- A program without its dead blocks. -/
def Program.prune : List Block → List Block
  | [] => []
  | b :: rest => b.prune.toList ++ Program.prune rest
termination_by structural p => p

end

/-- A block without the dead blocks below it. -/
def Block.pruneKids (b : Block) : Block := { b with children := b.children.map Program.prune }

theorem Block.prune_eq (b : Block) : b.prune = b.pruneKids.living? := by
  obtain ⟨id, k, c, n, q, kids⟩ := b
  cases kids <;> simp [prune, pruneKids]

theorem Program.prune_eq (p : List Block) : prune p = p.flatMap fun b => b.prune.toList := by
  induction p with
  | nil => rw [prune, List.flatMap_nil]
  | cons b rest ih => rw [prune, ih, List.flatMap_cons]

/-- Nothing that remains is dead, however deep it stands: pruning again removes nothing. -/
theorem Program.prune_prune (p : List Block) : prune (prune p) = prune p := by
  refine (Block.induction (P := fun b => ∀ b', b.prune = some b' → b'.prune = some b')
    (Q := fun p => prune (prune p) = prune p) ?_ ?_ ?_).2 p
  · intro b kids_again b' pruned
    rw [Block.prune_eq] at pruned
    have same : b' = b.pruneKids := by
      unfold Block.living? at pruned
      split at pruned
      · cases pruned
      · exact (Option.some.inj pruned).symm
    have again : b.pruneKids.pruneKids = b.pruneKids := by
      obtain ⟨id, k, c, n, q, kids⟩ := b
      cases kids with
      | none => rfl
      | some kids => simp [Block.pruneKids, kids_again kids rfl]
    rw [Block.prune_eq, same, again, pruned, same]
  · simp [prune]
  · intro b rest block_again rest_again
    cases pruned : b.prune with
    | none => simpa [prune, pruned] using rest_again
    | some b' => simp [prune, pruned, block_again b' pruned, rest_again]

/-! ## Tasks of pruned blocks -/

namespace Task

/-- Whether a task is to do nothing. -/
def isDead : Task → Bool
  | command name => name ∉ Command.working
  | idle _ => true
  | loop .. | onColor .. => false

/-- What remains of a task when the dead blocks below its block are removed. -/
def prune : Task → Task
  | command name => command name
  | idle why => idle why
  | loop n kids => if Program.prune kids = [] then idle .loopWithoutWork else loop n (Program.prune kids)
  | onColor color kids =>
    if Program.prune kids = [] then idle .colorWithoutWork else onColor color (Program.prune kids)

end Task

namespace Block

/-- A block is dead exactly when its task is to do nothing. -/
theorem isDead_eq (b : Block) : b.isDead = b.task.isDead := by
  obtain ⟨id, k, c, n, q, kids⟩ := b
  cases k with
  | command => cases c <;> simp [isDead, task, Task.isDead]
  | loop =>
    rcases n with _ | n
    · simp [isDead, task, Task.isDead]
    rcases kids with _ | _ | ⟨kid, kids⟩
    · simp [isDead, isChildless, task, Task.isDead]
    · simp [isDead, isChildless, task, Task.isDead]
    · by_cases few : n < 1
      · simp [isDead, task, Task.isDead, few]
      · simp [isDead, isChildless, task, Task.isDead, few]
  | ifColor =>
    rcases q with _ | q
    · simp [isDead, task, Task.isDead]
    rcases kids with _ | _ | ⟨kid, kids⟩ <;> simp [isDead, isChildless, task, Task.isDead]

/-- Without the dead blocks below it, a block asks for what remains of its task. -/
theorem task_pruneKids (b : Block) : b.pruneKids.task = b.task.prune := by
  obtain ⟨id, k, c, n, q, kids⟩ := b
  cases k with
  | command => cases c <;> rfl
  | loop =>
    rcases n with _ | n
    · rfl
    rcases kids with _ | _ | ⟨kid, kids⟩
    · rfl
    · simp [pruneKids, Program.prune, task, Task.prune]
    · by_cases few : n < 1
      · cases pruned : Program.prune (kid :: kids) <;> simp [pruneKids, task, Task.prune, few, pruned]
      · cases pruned : Program.prune (kid :: kids) <;> simp [pruneKids, task, Task.prune, few, pruned]
  | ifColor =>
    rcases q with _ | q
    · rfl
    rcases kids with _ | _ | ⟨kid, kids⟩
    · rfl
    · simp [pruneKids, Program.prune, task, Task.prune]
    · cases pruned : Program.prune (kid :: kids) <;> simp [pruneKids, task, Task.prune, pruned]

/-- A block remains exactly when something remains of its task. -/
theorem prune_eq_task (b : Block) : b.prune = if b.task.prune.isDead then none else some b.pruneKids := by
  rw [prune_eq, living?, isDead_eq, task_pruneKids]

end Block

/-! ## Crews that spare what is dead -/

section Spares

variable {μ ν : Type}

/-- Two crews that do alike the commands that do something, at whatever addresses and with whatever children.
All that they do besides, each of them does on its own, while the other does nothing. -/
structure Crew.Spares (R : μ → ν → Prop) (Q : Ending → μ → ν → Prop) (c : Crew μ) (d : Crew ν) : Prop where
  cap : d.cap = c.cap
  left : c.Idles (fun a => Act.Agree R Q a Act.done)
  right : d.Idles (fun b => Act.Agree R Q Act.done b)
  carryOut : ∀ x y b name, b.task = .command name →
    Act.Agree R Q (c.carryOut x b name) (d.carryOut y b.pruneKids name)
  futile : ∀ x b name, b.task = .command name → name ∉ Command.working →
    Act.Agree R Q (c.carryOut x b name) Act.done
  pause_left : Act.Agree R Q (Act.call c.pause) Act.done
  pause_right : Act.Agree R Q Act.done (Act.call d.pause)
  onColor : ∀ color m n, R m n → c.onColor color m = d.onColor color n

namespace Crew.Spares

variable {R : μ → ν → Prop} {Q : Ending → μ → ν → Prop} {c : Crew μ} {d : Crew ν} (h : c.Spares R Q d)

include h

/-- A round of a loop, beside a round of it pruned. -/
theorem round {x y : Path} {kids kids' : List Block}
    (kids_agree : Act.Agree R Q (c.runFrom x 0 kids) (d.runFrom y 0 kids')) :
    Act.Agree R Q (c.round x kids) (d.round y kids') :=
  Act.first_left h.left.rest (Act.first_left h.left.poll
    (Act.first_right h.right.rest (Act.first_right h.right.poll kids_agree)))

/-- A task that is dead, or dies with the children of its block, does nothing that counts. -/
theorem doTask_left {b : Block} (notable : b.isNotable c.cap = true)
    (kids_agree : ∀ kids, b.children = some kids → Program.isNotable c.cap kids = true → ∀ x i y j,
      Act.Agree R Q (c.runFrom x i kids) (d.runFrom y j (Program.prune kids)))
    (dead : b.task.prune.isDead = true) (x : Path) : Act.Agree R Q (c.doTask x b b.task) Act.done := by
  have kids_idle (kids : List Block) (children : b.children = some kids)
      (notable : Program.isNotable c.cap kids = true) (none : Program.prune kids = []) :
      Act.Agree R Q (c.runFrom x 0 kids) Act.done := by
    have agree := kids_agree kids children notable x 0 x 0
    rwa [none, runFrom_nil] at agree
  cases task : b.task with
  | command name =>
    rw [task] at dead
    have futile : name ∉ Command.working := by simpa [Task.prune, Task.isDead] using dead
    rw [Crew.doTask, command_eq]
    exact Act.first_left (h.futile x b name task futile) h.pause_left
  | idle why => exact h.left.skip x b why
  | loop n kids =>
    have none : Program.prune kids = [] := by
      by_contra some
      simp [task, Task.prune, Task.isDead, some] at dead
    obtain ⟨own, below⟩ := Block.notable_loop task notable
    refine Act.first_left (h.left.noteClamp x own) ?_
    rcases below with never | below
    · rw [never, Act.times_zero]
      exact Act.done_agree
    · have idle := kids_idle kids (Block.children_of_task_loop task).1 below none
      exact Act.times_left (Act.first_left h.left.rest (Act.first_left h.left.poll idle)) (c.rounds n)
  | onColor color kids =>
    have none : Program.prune kids = [] := by
      by_contra some
      simp [task, Task.prune, Task.isDead, some] at dead
    exact Act.cond_left
      (kids_idle kids (Block.children_of_task_onColor task).1 (Block.notable_onColor task notable) none)

/-- A task of which something remains, beside what remains of it. -/
theorem doTask {b : Block} (notable : b.isNotable c.cap = true)
    (kids_agree : ∀ kids, b.children = some kids → Program.isNotable c.cap kids = true → ∀ x i y j,
      Act.Agree R Q (c.runFrom x i kids) (d.runFrom y j (Program.prune kids)))
    (alive : ¬ b.task.prune.isDead = true) (x y : Path) :
    Act.Agree R Q (c.doTask x b b.task) (d.doTask y b.pruneKids b.task.prune) := by
  cases task : b.task with
  | command name =>
    rw [Task.prune, Crew.doTask, Crew.doTask, command_eq, command_eq]
    exact Act.andThen_agree (h.carryOut x y b name task) (Act.each_alone h.pause_left h.pause_right)
  | idle why =>
    rw [task] at alive
    exact absurd rfl alive
  | loop n kids =>
    have some : ¬ Program.prune kids = [] := by
      intro none
      simp [task, Task.prune, Task.isDead, none] at alive
    obtain ⟨own, below⟩ := Block.notable_loop task notable
    have rounds : d.rounds n = c.rounds n := by rw [Crew.rounds, Crew.rounds, h.cap]
    rw [Task.prune, if_neg some, Crew.doTask, Crew.doTask, rounds]
    refine Act.andThen_agree (Act.each_alone (h.left.noteClamp x own) (h.right.noteClamp y (h.cap ▸ own))) ?_
    rcases below with never | below
    · rw [never, Act.times_zero, Act.times_zero]
      exact Act.done_agree
    · have agree := kids_agree kids (Block.children_of_task_loop task).1 below x 0 y 0
      exact Act.times_agree (h.round agree) (c.rounds n)
  | onColor color kids =>
    have some : ¬ Program.prune kids = [] := by
      intro none
      simp [task, Task.prune, Task.isDead, none] at alive
    have agree :=
      kids_agree kids (Block.children_of_task_onColor task).1 (Block.notable_onColor task notable) x 0 y 0
    rw [Task.prune, if_neg some]
    exact Act.cond_agree (h.onColor color) agree

/-- The walk over a program and the walk over it pruned come out side by side. -/
theorem prune {p : List Block} (notable : Program.isNotable c.cap p = true) (x : Path) (i : Nat) (y : Path)
    (j : Nat) : Act.Agree R Q (c.runFrom x i p) (d.runFrom y j (Program.prune p)) := by
  rw [Program.prune_eq]
  refine Crew.runFrom_flatMap (fun b notable kids_agree x i y j => ?_) notable x i y j
  simp only [← Program.prune_eq] at kids_agree
  rw [Block.prune_eq_task]
  split
  · rename_i dead
    rw [Option.toList_none, runFrom_nil]
    exact h.left.block_left (h.doTask_left notable kids_agree dead)
  · rename_i alive
    rw [Option.toList_some]
    refine h.left.block_left (fun x => h.right.block_right (fun y => ?_))
    rw [Block.task_pruneKids]
    exact h.doTask notable kids_agree alive x y

end Crew.Spares

end Spares

/-! ## Runs before onlookers -/

variable {σ τ : Type}

/-- Whether an event tells of a command that does something. -/
def Event.tellsWork (e : Event) : Bool := e.kind = .commandFinished ∧ e.command.any (· ∈ Command.working)

/-- What counts of the moments at which someone outside a run gets to act: that a command that does something has
finished, wherever it stands. -/
def Occasion.work? : Occasion → Option Event
  | .told e => if e.tellsWork then some { e with path := [] } else none
  | .pause | .checkpoint => none

/-- The events on record that tell of commands that do something, wherever these stand: with the name of each
command, whether it succeeded, and what it left. -/
def Stage.work (m : Stage (σ × List Beat)) : List Event :=
  (m.events.filter Event.tellsWork).map fun e => { e with path := [] }

/-- How a run comes out, beside another: they end in the same way, with the same attempt and the same refusal,
and have told of the same commands that do something. -/
structure SameEffect (x : Ending × Stage (σ × List Beat)) (y : Ending × Stage (τ × List Beat)) : Prop where
  ending : y.1 = x.1
  attempt : y.2.attempt = x.2.attempt
  failure : y.2.failure = x.2.failure
  work : y.2.work = x.2.work

theorem Stage.work_eq (m : Stage (σ × List Beat)) : m.work = marks Occasion.work? m.log := by
  have each (x : Beat) :
      (x.event?.filter Event.tellsWork).map (fun e => { e with path := [] }) = x.occasion.work? := by
    obtain ⟨occasion, attempt, cancelled⟩ := x
    cases occasion with
    | pause | checkpoint => rfl
    | told e =>
      cases works : e.tellsWork with
      | true | false => simp [Beat.event?, Occasion.work?, Option.filter, works]
  unfold work events marks
  rw [List.filter_filterMap, List.map_filterMap]
  exact congrArg (m.log.filterMap ·) (funext each)

/-- A command that does nothing leaves the attempt as it is, and cannot fail. -/
theorem Attempt.execute_of_futile (board : Board) (rules : Rules) {name : String}
    (futile : name ∉ Command.working) (a : Attempt) : a.execute board rules name = { attempt := a } := by
  unfold execute
  cases found : Command.ofName? name with
  | none => rfl
  | some c =>
    obtain rfl := Command.ofName?_eq_some.mp found
    cases c with
    | procedure => rfl
    | move | turnLeft | turnRight | jump | light => exact absurd (by decide) futile

section Crews

variable (setup : Setup) (o : Onlookers σ) (o' : Onlookers τ)

/-- What a crew does before patient onlookers is no work, but for commands. -/
theorem work_quiet : (setup.before o.patient).Idles (Quiet Occasion.work?) :=
  crew_quiet setup o (fun e starts => by simp [Occasion.work?, Event.tellsWork, starts]) rfl

/-- A command that does nothing is no work either. -/
theorem futile_quiet (path : Path) {b : Block} {name : String} (task : b.task = .command name)
    (futile : name ∉ Command.working) :
    Quiet Occasion.work? ((setup.before o.patient).carryOut path b name) := by
  intro m _
  have report : setup.report name m = { attempt := m.attempt } := Attempt.execute_of_futile _ _ futile _
  have tellable : setup.isTellable name m = true := by rw [Setup.isTellable, report]; rfl
  have idle (a : Attempt) :
      Occasion.work? (.told (Event.ofBlock .commandFinished path b (some true) a)) = none := by
    obtain ⟨kind, command⟩ := Block.command_of_task_command task
    simp [Occasion.work?, Event.tellsWork, Event.ofBlock, kind, command, futile]
  have done := marked_carryOut Occasion.work? o setup path b m name
  rw [if_pos tellable, report] at done
  obtain ⟨success, noted⟩ := done
  rw [show (Report.ok { attempt := m.attempt }) = true from rfl, idle] at noted
  have same := noted.unchanged
  refine ⟨success, same.cancelled, same.attempt.trans ?_, same.failure.trans ?_, same.marks⟩
  · simp [Setup.begin, report]
  · simp [Setup.begin, report]

/-- The crews of one setup spare what is dead before patient onlookers, whoever these are. -/
theorem crew_spares :
    (setup.before o.patient).Spares (InStep Occasion.work?) (fun _ => InStep Occasion.work?)
      (setup.before o'.patient) where
  cap := rfl
  left := (work_quiet setup o).mono (fun _ => Quiet.left)
  right := (work_quiet setup o').mono (fun _ => Quiet.right)
  carryOut x y b name _ := by
    refine InStep.carryOut setup o o' (fun ok a => ?_) name
    rfl
  futile x b name task futile := (futile_quiet setup o x task futile).left
  pause_left := (attend_quiet o.pause rfl).left
  pause_right := (attend_quiet o'.pause rfl).right
  onColor color m n together := by
    simp only [Setup.crew, together.attempt]

end Crews

/-! ## Runs -/

section Runs

variable (setup : Setup) (o : Onlookers σ) (o' : Onlookers τ) (p : Program) (path path' : Path)
  (m : Stage (σ × List Beat)) (n : Stage (τ × List Beat))

/-- A run that is never cancelled has the same effect as a run of the program without its dead blocks, if its loops
can be remarked on: whatever the program, the bound on loops and the start are, and whoever looks on. -/
theorem play_prune (notable : Program.isNotable setup.cap p = true) (attempt : n.attempt = m.attempt)
    (failure : n.failure = m.failure) (blank : m.log = []) (blank' : n.log = [])
    (whole : (setup.play o.around p path m).2.cancelled = false)
    (pruned : (setup.play o'.around (Program.prune p) path' n).2.cancelled = false) :
    SameEffect (setup.play o.around p path m) (setup.play o'.around (Program.prune p) path' n) := by
  have start : InStep Occasion.work? m n :=
    { going := going_of_uncancelled setup o p path m whole
      going' := going_of_uncancelled setup o' _ path' n pruned
      attempt
      failure
      marks := by rw [blank, blank'] }
  rw [play_of_uncancelled setup o p path m whole, play_of_uncancelled setup o' _ path' n pruned]
  have came := (crew_spares setup o o').prune notable path 0 path' 0 m n start
  obtain ⟨ending, together⟩ := came.left (fun _ _ _ left => left)
  have work := (Stage.work_eq _).trans (together.marks.trans (Stage.work_eq _).symm)
  exact { ending, attempt := together.attempt, failure := together.failure, work }

end Runs

/-- A loop over a condition in which nothing is alive, and over a step whose block has children that never run. -/
def overgrown : Program :=
  [.ofLoop (some 9)
    [.ofColor (some "red") [.ofCommand (some "P1"), .ofLoop (some 3) [], .ofCommand none],
      { Block.ofCommand (some "MOVE") with children := some [.ofCommand (some "JUMP"), .ofColor none []] }]]

theorem play_prune_overgrown :
    ((alley.play fussy.around overgrown [] { attempt := { robot := ⟨⟨0, 0⟩, .east⟩ }, world := (0, []) }).1
        = .failure ∧ Program.size overgrown = 8 ∧ Program.size (Program.prune overgrown) = 3) ∧
      SameEffect
        (alley.play fussy.around overgrown [] { attempt := { robot := ⟨⟨0, 0⟩, .east⟩ }, world := (0, []) })
        (alley.play impatient.patient.around (Program.prune overgrown) [4]
          { attempt := { robot := ⟨⟨0, 0⟩, .east⟩ }, world := ((), []) }) :=
  ⟨by decide +kernel, play_prune alley fussy impatient.patient overgrown [] [4] _ _ (by decide +kernel) rfl rfl rfl rfl
    (by decide +kernel) (by decide +kernel)⟩

/-- A dead loop that asks for more rounds than can be told breaks a run off, and so does a hook that raises at a
checkpoint of a dead loop. Without the loop, there is nothing to break the run off. -/
theorem play_prune_fails :
    let idles (n : Int) : Program := [.ofLoop (some n) [.ofCommand (some "P1")]]
    let start : Stage (Unit × List Beat) := { attempt := { robot := ⟨⟨0, 0⟩, .east⟩ }, world := ((), []) }
    let start' : Stage Unit := { attempt := { robot := ⟨⟨0, 0⟩, .east⟩ }, world := () }
    (alley.play impatient.patient.around (idles Numeral.limit) [] start).1 = .broken .untellable ∧
      (alley.play impatient.patient.around (Program.prune (idles Numeral.limit)) [] start).1 = .success ∧
      (alley.play barred (idles 1) [] start').1 = .broken (.voiced "closed") ∧
      (alley.play barred (Program.prune (idles 1)) [] start').1 = .success := by
  decide +kernel

end Lamplighter
