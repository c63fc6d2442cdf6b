/-
Lamplighter.Proofs.Run.Unrolling — a program means the same when its loops are written out.

* `Program.unroll` — every loop, at whatever depth, as so many copies of its children as it gets rounds.
* `Crew.Matches` — two crews that do alike what counts; all else, each of them does on its own, and it makes no
  difference.
* `Crew.Matches.unroll` — the walks of such crews, one over a program and one over it unrolled.
* `Occasion.brief?` — what counts of a log: commands that have finished, and pauses.
* `SameMeaning`, `play_unroll` — a program run before onlookers, beside the program unrolled if the loops can be
  remarked on. `play_unroll_fails` — not so if they cannot, or if a hook raises.

A loop takes a checkpoint at the head of every round and at its end, and tells listeners that it starts; its
copies do none of this, and stand at other addresses. All the rest is the same.
-/
import Lamplighter.Proofs.Run.Rewriting

namespace Lamplighter

/-! ## Unrolling -/

/-- How many copies of its children a loop is written out as. -/
def copies (cap : Int) : Option Int → Nat
  | none => 0
  | some n => (max 0 (min n cap)).toNat

/-- A loop that asks for less than one round is not written out at all. -/
theorem copies_of_few {cap : Int} {n : Option Int} (few : n.all (· < 1)) : copies cap n = 0 := by
  cases n with
  | none => rfl
  | some n =>
    have few : n < 1 := by simpa using few
    simp only [copies]
    omega

/-- A loop is written out as often as it gets rounds. -/
theorem Crew.copies_eq_rounds {μ : Type} (crew : Crew μ) (n : Int) : copies crew.cap (some n) = crew.rounds n := by
  simp only [copies, rounds]
  omega

mutual

/-- A block with its loops written out: a loop is as many copies of its children, and any other block is
itself. -/
def Block.unroll (cap : Int) : Block → List Block
  | ⟨_, .loop, _, n, _, some kids⟩ => (List.replicate (copies cap n) (Program.unroll cap kids)).flatten
  | ⟨_, .loop, _, _, _, none⟩ => []
  | ⟨id, .command, c, n, q, some kids⟩ => [⟨id, .command, c, n, q, some (Program.unroll cap kids)⟩]
  | ⟨id, .command, c, n, q, none⟩ => [⟨id, .command, c, n, q, none⟩]
  | ⟨id, .ifColor, c, n, q, some kids⟩ => [⟨id, .ifColor, c, n, q, some (Program.unroll cap kids)⟩]
  | ⟨id, .ifColor, c, n, q, none⟩ => [⟨id, .ifColor, c, n, q, none⟩]
termination_by structural b => b

/-- A program with its loops written out. -/
def Program.unroll (cap : Int) : List Block → List Block
  | [] => []
  | b :: rest => b.unroll cap ++ Program.unroll cap rest
termination_by structural p => p

end

theorem Program.unroll_eq (cap : Int) (p : List Block) : unroll cap p = p.flatMap (Block.unroll cap) := by
  induction p with
  | nil => rw [unroll, List.flatMap_nil]
  | cons b rest ih => rw [unroll, ih, List.flatMap_cons]

/-- A block with the loops in its children written out. -/
def Block.unrollKids (cap : Int) (b : Block) : Block :=
  { b with children := b.children.map (Program.unroll cap) }

namespace Block

variable {b : Block} {cap : Int}

theorem unroll_loop (kind : b.kind = .loop) :
    b.unroll cap =
      (List.replicate (copies cap b.iterations) (Program.unroll cap (b.children.getD []))).flatten := by
  obtain ⟨id, k, c, n, q, kids⟩ := b
  obtain rfl : k = .loop := kind
  cases kids with
  | none => simp [unroll, Program.unroll]
  | some kids => simp [unroll]

theorem unroll_of_ne (kind : b.kind ≠ .loop) : b.unroll cap = [b.unrollKids cap] := by
  obtain ⟨id, k, c, n, q, kids⟩ := b
  cases k with
  | loop => exact absurd rfl kind
  | command | ifColor => cases kids <;> simp [unroll, unrollKids]

/-- A loop either has rounds and children to walk in them, or it is passed over. -/
theorem task_of_loop (kind : b.kind = .loop) :
    (∃ n kids, b.task = .loop n kids ∧ b.iterations = some n ∧ b.children = some kids) ∨
      (b.task = .idle .loopWithoutWork ∧ (b.iterations.all (· < 1) ∨ b.children.getD [] = [])) := by
  obtain ⟨id, k, c, n, q, kids⟩ := b
  obtain rfl : k = .loop := kind
  rcases n with _ | n
  · exact .inr ⟨rfl, .inl rfl⟩
  rcases kids with _ | _ | ⟨kid, kids⟩
  · exact .inr ⟨rfl, .inr rfl⟩
  · exact .inr ⟨rfl, .inr rfl⟩
  by_cases few : n < 1
  · exact .inr ⟨if_pos few, .inl (by simpa using few)⟩
  · exact .inl ⟨n, kid :: kids, if_neg few, rfl, rfl⟩

/-- A command stays what it is. -/
theorem unroll_command (cap : Int) {name : String} (h : b.task = .command name) :
    b.unroll cap = [b.unrollKids cap] ∧ (b.unrollKids cap).task = .command name := by
  obtain ⟨kind, command⟩ := command_of_task_command h
  refine ⟨unroll_of_ne (by simp [kind]), ?_⟩
  obtain ⟨id, k, c, n, q, kids⟩ := b
  obtain rfl : k = .command := kind
  obtain rfl : c = some name := command
  rfl

/-- Of a loop without rounds or without children nothing remains. -/
theorem unroll_of_workless (kind : b.kind = .loop)
    (workless : b.iterations.all (· < 1) ∨ b.children.getD [] = []) : b.unroll cap = [] := by
  rw [unroll_loop kind]
  rcases workless with few | childless
  · rw [copies_of_few few]
    rfl
  · rw [childless]
    simp [Program.unroll]

/-- A block that is passed over either is a loop, of which nothing remains, or is still passed over. -/
theorem unroll_idle (cap : Int) {why : Idle} (h : b.task = .idle why) :
    b.unroll cap = [] ∨ (b.unroll cap = [b.unrollKids cap] ∧ (b.unrollKids cap).task = .idle why) := by
  by_cases kind : b.kind = .loop
  · rcases task_of_loop kind with ⟨n, kids, loop, -⟩ | ⟨-, workless⟩
    · rw [loop] at h
      cases h
    · exact .inl (unroll_of_workless kind workless)
  · refine .inr ⟨unroll_of_ne kind, ?_⟩
    obtain ⟨id, k, c, n, q, kids⟩ := b
    cases k with
    | loop => exact absurd rfl kind
    | command =>
      cases c with
      | none => exact h
      | some name => cases h
    | ifColor =>
      rcases q with _ | q
      · exact h
      rcases kids with _ | _ | ⟨kid, kids⟩
      · exact h
      · exact h
      · cases h

/-- A loop is written out as its children, as often as there are rounds. -/
theorem unroll_rounds {μ : Type} (crew : Crew μ) {n : Int} {kids : List Block} (h : b.task = .loop n kids) :
    b.unroll crew.cap = (List.replicate (crew.rounds n) (Program.unroll crew.cap kids)).flatten := by
  have kind : b.kind = .loop := by rw [kind_eq, h, Task.kind]
  rcases task_of_loop kind with ⟨n', kids', loop, iterations, children⟩ | ⟨idle, -⟩
  · rw [loop] at h
    cases h
    rw [unroll_loop kind, iterations, children, crew.copies_eq_rounds]
    rfl
  · rw [idle] at h
    cases h

/-- A block for one colour walks its children unrolled, if anything remains of them. -/
theorem unroll_onColor (cap : Int) {color : String} {kids : List Block}
    (h : b.task = .onColor color kids) :
    b.unroll cap = [b.unrollKids cap] ∧
      (b.unrollKids cap).task =
        if Program.unroll cap kids = [] then .idle .colorWithoutWork
        else .onColor color (Program.unroll cap kids) := by
  have kind : b.kind = .ifColor := by rw [kind_eq, h, Task.kind]
  refine ⟨unroll_of_ne (by simp [kind]), ?_⟩
  obtain ⟨id, k, c, n, q, children⟩ := b
  obtain rfl : k = .ifColor := kind
  rcases q with _ | q
  · cases h
  rcases children with _ | _ | ⟨kid, rest⟩
  · cases h
  · cases h
  cases h
  simp only [unrollKids, Option.map_some]
  cases Program.unroll cap (kid :: rest) <;> rfl

end Block

/-! ## Crews that match -/

section Matches

variable {μ ν : Type}

/-- Two crews that do commands and pauses alike, at whatever addresses. All that they do besides, each of them
does on its own, while the other does nothing. -/
structure Crew.Matches (R : μ → ν → Prop) (Q : Ending → μ → ν → Prop) (c : Crew μ) (d : Crew ν) : Prop where
  left : c.Idles (fun a => Act.Agree R Q a Act.done)
  right : d.Idles (fun b => Act.Agree R Q Act.done b)
  carryOut : ∀ x y b cap name, b.task = .command name →
    Act.Agree R Q (c.carryOut x b name) (d.carryOut y (b.unrollKids cap) name)
  pause : Act.Agree R Q (Act.call c.pause) (Act.call d.pause)
  onColor : ∀ color m n, R m n → c.onColor color m = d.onColor color n

namespace Crew.Matches

variable {R : μ → ν → Prop} {Q : Ending → μ → ν → Prop} {c : Crew μ} {d : Crew ν} (h : c.Matches R Q d)

include h

/-- The rounds of a loop, beside as many copies of its children. -/
theorem rounds {x : Path} {kids copy : List Block}
    (kids_agree : ∀ y j, Act.Agree R Q (c.runFrom x 0 kids) (d.runFrom y j copy)) (k : Nat) (y : Path)
    (j : Nat) :
    Act.Agree R Q ((c.round x kids).times k) (d.runFrom y j (List.replicate k copy).flatten) := by
  induction k generalizing j with
  | zero =>
    rw [List.replicate_zero, List.flatten_nil, runFrom_nil]
    exact Act.done_agree
  | succ k ih =>
    rw [List.replicate_succ, List.flatten_cons, runFrom_append, Act.times_succ]
    exact Act.andThen_agree (Act.first_left h.left.rest (Act.first_left h.left.poll (kids_agree y j))) (ih _)

/-- A block, beside what it is written out as. -/
theorem unroll_block {block : Block} (notable : block.isNotable c.cap = true)
    (kids_agree : ∀ kids, block.children = some kids → Program.isNotable c.cap kids = true → ∀ x i y j,
      Act.Agree R Q (c.runFrom x i kids) (d.runFrom y j (Program.unroll c.cap kids))) (x : Path) (i : Nat)
    (y : Path) (j : Nat) :
    Act.Agree R Q (c.runFrom x i [block]) (d.runFrom y j (block.unroll c.cap)) := by
  cases task : block.task with
  | command name =>
    obtain ⟨one, task'⟩ := Block.unroll_command c.cap task
    rw [one]
    refine h.left.block_left (fun x => h.right.block_right (fun y => ?_))
    rw [task, task', doTask, doTask, command_eq, command_eq]
    exact Act.andThen_agree (h.carryOut x y block _ name task) h.pause
  | idle why =>
    rcases Block.unroll_idle c.cap task with none | ⟨one, task'⟩
    · rw [none, runFrom_nil]
      refine h.left.block_left (fun x => ?_)
      rw [task, doTask]
      exact h.left.skip x block why
    · rw [one]
      refine h.left.block_left (fun x => h.right.block_right (fun y => ?_))
      rw [task, task', doTask, doTask]
      exact Act.last_right (b := Act.done) (h.left.skip x block why) (h.right.skip y _ why)
  | loop n kids =>
    have children := (Block.children_of_task_loop task).1
    obtain ⟨own, below⟩ := Block.notable_loop task notable
    rw [Block.unroll_rounds c task]
    refine h.left.block_left (fun x => ?_)
    rw [task, doTask]
    refine Act.first_left (h.left.noteClamp x own) ?_
    rcases below with never | below
    · rw [never, Act.times_zero, List.replicate_zero, List.flatten_nil, runFrom_nil]
      exact Act.done_agree
    · exact h.rounds (fun y j => kids_agree kids children below x 0 y j) (c.rounds n) y j
  | onColor color kids =>
    have children := (Block.children_of_task_onColor task).1
    have kids_agree := kids_agree kids children (Block.notable_onColor task notable)
    obtain ⟨one, task'⟩ := Block.unroll_onColor c.cap task
    rw [one]
    refine h.left.block_left (fun x => h.right.block_right (fun y => ?_))
    rw [task, task']
    split
    · -- nothing remains of the children, so whatever the colour is, nothing that counts is done on the left
      rename_i none
      have kids_agree : Act.Agree R Q (c.runFrom x 0 kids) Act.done := by
        have agree := kids_agree x 0 y 0
        rwa [none, runFrom_nil] at agree
      change Act.Agree R Q _ (Act.change (d.skip y _ _))
      exact Act.last_right (Act.cond_left kids_agree) (h.right.skip y _ _)
    · exact Act.cond_agree (h.onColor color) (kids_agree x 0 y 0)

/-- The walk over a program and the walk over it unrolled come out side by side. -/
theorem unroll {p : List Block} (notable : Program.isNotable c.cap p = true) (x : Path) (i : Nat) (y : Path)
    (j : Nat) : Act.Agree R Q (c.runFrom x i p) (d.runFrom y j (Program.unroll c.cap p)) := by
  rw [Program.unroll_eq]
  refine Crew.runFrom_flatMap (fun b notable kids_agree => ?_) notable x i y j
  simp only [← Program.unroll_eq] at kids_agree
  exact h.unroll_block notable kids_agree

end Crew.Matches

end Matches

/-! ## Runs before onlookers -/

variable {σ τ : Type}

/-- What counts of the moments at which someone outside a run gets to act: that a command has finished, wherever
it stands, and that there is a pause. -/
def Occasion.brief? : Occasion → Option Occasion
  | .told e => if e.kind = .commandFinished then some (.told { e with path := [] }) else none
  | .pause => some .pause
  | .checkpoint => none

namespace Stage

/-- The events on record that tell of commands, wherever these stand. -/
def finished (m : Stage (σ × List Beat)) : List Event :=
  (m.events.filter fun e => e.kind = .commandFinished).map fun e => { e with path := [] }

/-- The number of pauses on record. -/
def pauses (m : Stage (σ × List Beat)) : Nat := m.log.countP fun x => x.occasion = .pause

end Stage

/-- How a run comes out, beside another: they end in the same way, with the same attempt and the same refusal,
and have told of the same commands and paused as often. -/
structure SameMeaning (x : Ending × Stage (σ × List Beat)) (y : Ending × Stage (τ × List Beat)) : Prop where
  ending : y.1 = x.1
  attempt : y.2.attempt = x.2.attempt
  failure : y.2.failure = x.2.failure
  finished : y.2.finished = x.2.finished
  pauses : y.2.pauses = x.2.pauses

/-- The event that is told. -/
def Occasion.event? : Occasion → Option Event
  | .told e => some e
  | .pause | .checkpoint => none

namespace Stage

theorem finished_eq (m : Stage (σ × List Beat)) :
    m.finished = (marks Occasion.brief? m.log).filterMap Occasion.event? := by
  have each (x : Beat) :
      ((x.event?.filter fun e => e.kind = .commandFinished).map fun e => { e with path := [] }) =
        x.occasion.brief?.bind Occasion.event? := by
    obtain ⟨occasion, attempt, cancelled⟩ := x
    cases occasion with
    | pause | checkpoint => rfl
    | told e =>
      by_cases kind : e.kind = .commandFinished
      · simp [Beat.event?, Occasion.brief?, Occasion.event?, Option.filter, kind]
      · simp [Beat.event?, Occasion.brief?, Option.filter, kind]
  unfold finished events marks
  rw [List.filter_filterMap, List.map_filterMap, List.filterMap_filterMap]
  exact congrArg (m.log.filterMap ·) (funext each)

theorem pauses_eq (m : Stage (σ × List Beat)) : m.pauses = (marks Occasion.brief? m.log).countP (· = .pause) := by
  have each (x : Beat) :
      decide (x.occasion = .pause) = (x.occasion.brief?.map fun y => decide (y = .pause)).getD false := by
    obtain ⟨occasion, attempt, cancelled⟩ := x
    cases occasion with
    | pause | checkpoint => rfl
    | told e =>
      by_cases kind : e.kind = .commandFinished
      · simp [Occasion.brief?, kind]
      · simp [Occasion.brief?, kind]
  unfold pauses marks
  rw [List.countP_filterMap]
  exact congrArg (m.log.countP ·) (funext each)

end Stage

/-! ## Crews before onlookers -/

/-- What a crew does before patient onlookers changes nothing that counts, but for commands and pauses. -/
theorem brief_quiet (setup : Setup) (o : Onlookers σ) :
    (setup.before o.patient).Idles (Quiet Occasion.brief?) :=
  crew_quiet setup o (fun e starts => by simp [Occasion.brief?, starts]) rfl

/-- The crews of one setup match before patient onlookers, whoever these are. -/
theorem crew_matches (setup : Setup) (o : Onlookers σ) (o' : Onlookers τ) :
    (setup.before o.patient).Matches (InStep Occasion.brief?) (fun _ => InStep Occasion.brief?)
      (setup.before o'.patient) where
  left := (brief_quiet setup o).mono (fun _ => Quiet.left)
  right := (brief_quiet setup o').mono (fun _ => Quiet.right)
  carryOut x y b cap name _ := by
    refine InStep.carryOut setup o o' (fun ok a => ?_) name
    rfl
  pause m n together :=
    .going (together.noted (marked_attend _ .pause o.pause m) (marked_attend _ .pause o'.pause n))
  onColor color m n together := by
    simp only [Setup.crew, together.attempt]

/-! ## Runs -/

section Runs

variable (setup : Setup) (o : Onlookers σ) (o' : Onlookers τ) (p : Program) (path path' : Path)
  (m : Stage (σ × List Beat)) (n : Stage (τ × List Beat))

/-- A run that is never cancelled means the same as a run of the program unrolled, if its loops can be remarked on:
whatever the program, the bound on loops and the start are, and whoever looks on. -/
theorem play_unroll (notable : Program.isNotable setup.cap p = true) (attempt : n.attempt = m.attempt)
    (failure : n.failure = m.failure) (blank : m.log = []) (blank' : n.log = [])
    (rolled : (setup.play o.around p path m).2.cancelled = false)
    (unrolled : (setup.play o'.around (Program.unroll setup.cap p) path' n).2.cancelled = false) :
    SameMeaning (setup.play o.around p path m)
      (setup.play o'.around (Program.unroll setup.cap p) path' n) := by
  have start : InStep Occasion.brief? m n :=
    { going := going_of_uncancelled setup o p path m rolled
      going' := going_of_uncancelled setup o' _ path' n unrolled
      attempt
      failure
      marks := by rw [blank, blank'] }
  rw [play_of_uncancelled setup o p path m rolled, play_of_uncancelled setup o' _ path' n unrolled]
  have came := (crew_matches setup o o').unroll notable path 0 path' 0 m n start
  obtain ⟨ending, together⟩ := came.left (fun _ _ _ left => left)
  exact
    { ending
      attempt := together.attempt
      failure := together.failure
      finished := (Stage.finished_eq _).trans ((congrArg _ together.marks).trans (Stage.finished_eq _).symm)
      pauses := (Stage.pauses_eq _).trans ((congrArg _ together.marks).trans (Stage.pauses_eq _).symm) }

end Runs

/-- Someone who raises whenever a block starts, and counts events and pauses. -/
def fussy : Onlookers Nat where
  listeners := [fun e m => (if e.kind = .blockStarted then some "seen" else none, false, m.world + 1)]
  pause m := (false, m.world + 1)
  checkpoint m := (false, m.world)
  print _ w := w

/-- Two cells in a row, of which the second is red and a goal, and loops of two rounds at most. -/
def alley : Setup where
  board :=
    ⟨some
      { id := 1, size := 2
        layout := [{ position := ⟨0, 0⟩ }, { position := ⟨1, 0⟩, color := some (.ofString "red") }]
        start := ⟨⟨0, 0⟩, .east⟩, goals := [⟨1, 0⟩], maxCommands := 5 }⟩
  rules := .standard 1
  cap := 2
  verbose := true

/-- A loop that asks for too many rounds: on red a loop without rounds and a light, and then a move. -/
def winding : Program :=
  [.ofLoop (some 9)
    [.ofColor (some "red") [.ofLoop none [.ofCommand (some "JUMP")] "spare", .ofCommand (some "LIGHT")],
      .ofCommand (some "MOVE")]]

theorem play_unroll_winding :
    (alley.play fussy.around winding [] { attempt := { robot := ⟨⟨0, 0⟩, .east⟩ }, world := (0, []) }).1
        = .failure ∧
      SameMeaning
        (alley.play fussy.around winding [] { attempt := { robot := ⟨⟨0, 0⟩, .east⟩ }, world := (0, []) })
        (alley.play impatient.patient.around (Program.unroll alley.cap winding) [4]
          { attempt := { robot := ⟨⟨0, 0⟩, .east⟩ }, world := ((), []) }) :=
  ⟨by decide +kernel, play_unroll alley fussy impatient.patient winding [] [4] _ _ (by decide +kernel) rfl rfl rfl rfl
    (by decide +kernel) (by decide +kernel)⟩

/-- Someone who lets nobody pass a checkpoint. -/
def barred : Surroundings Unit where
  listeners := []
  pause m := (none, m)
  checkpoint m := (some (.voiced "closed"), m)
  print _ w := w

/-- A loop that asks for more rounds than can be told breaks a run off, and so does a hook that raises at a checkpoint.
The copies of the children do neither. -/
theorem play_unroll_fails :
    let turns (n : Int) : Program := [.ofLoop (some n) [.ofCommand (some "TURN_L")]]
    let start : Stage (Unit × List Beat) := { attempt := { robot := ⟨⟨0, 0⟩, .east⟩ }, world := ((), []) }
    let start' : Stage Unit := { attempt := { robot := ⟨⟨0, 0⟩, .east⟩ }, world := () }
    (alley.play impatient.patient.around (turns Numeral.limit) [] start).1 = .broken .untellable ∧
      (alley.play impatient.patient.around (Program.unroll alley.cap (turns Numeral.limit)) [] start).1 = .success ∧
      (alley.play barred (turns 1) [] start').1 = .broken (.voiced "closed") ∧
      (alley.play barred (Program.unroll alley.cap (turns 1)) [] start').1 = .success := by
  decide +kernel

end Lamplighter
