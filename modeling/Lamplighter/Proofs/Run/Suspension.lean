/-
Lamplighter.Proofs.Run.Suspension — when a run lets others act, and what it does in between.

* `Phase`, `Phase.Run` — what may come next on the record of a run, by what has come since it was suspended last.
* `Descent` — what is told between two suspensions: one way down the program, and at its end a command.
* `Crew.Owes` — every block that starts owes a suspension, and so does every round of a loop.
* `Disciplined`, `disciplined_recording` — the suspensions of every run are where they should be.

The phases say what is between suspensions, and that nothing follows a failure. They cannot say how many
suspensions there are, since a block owes its own only when all that is below it has been walked: this is counted
along the program tree.
-/
import Lamplighter.Proofs.Run.Course
import Lamplighter.Proofs.Run.Recording
import Mathlib.Algebra.Ring.Int.Defs
import Mathlib.Data.List.Chain
import Mathlib.Data.List.Induction

namespace Lamplighter

variable {σ μ : Type}

/-! ## Beats -/

namespace Beat

/-- A pause after a command. -/
def isPause (x : Beat) : Bool := x.occasion = .pause

/-- A checkpoint. -/
def isCheckpoint (x : Beat) : Bool := x.occasion = .checkpoint

/-- A command has finished. -/
def finishes (x : Beat) : Bool := x.event?.any fun e => e.kind = .commandFinished

/-- A block starts that is to carry out no command of its own. -/
def startsPlain (x : Beat) : Bool := x.event?.any fun e => e.kind = .blockStarted && e.command.isNone

end Beat

/-- Whether a block is the first child of a loop in a program that is walked at the address `root`: it starts when
a round of that loop does. -/
def Program.opensRound (p : Program) (root path : Path) : Bool :=
  path.getLast? = some 0 && (Program.at? p (path.dropLast.drop root.length)).any fun b => b.kind = .loop

/-- A round of a loop begins. -/
def Beat.opensRound (p : Program) (root : Path) (x : Beat) : Bool :=
  x.event?.any fun e => e.kind = .blockStarted && p.opensRound root e.path

/-- The event of a block shows a command just if the block is to carry one out. -/
theorem ofBlock_command_isSome (kind : EventKind) (path : Path) (b : Block) (success : Option Bool) (a : Attempt) :
    (Event.ofBlock kind path b success a).command.isSome = b.isPaced := by
  unfold Event.ofBlock Block.isPaced
  dsimp only
  by_cases command : b.kind = .command
  · simp [command]
  · simp [command]

/-! ## Phases -/

/-- What a run has done since it was suspended last: nothing; it has come to the start of a block, which is to
carry out a command (`paced`) or not; it has carried a command out; or a command has failed. -/
inductive Phase where
  | rested
  | within (path : Path) (paced : Bool)
  | carried
  | failed

namespace Phase

/-- What may come next. A block starts right after a suspension, or as the first child of the block that started
last; the command of a block finishes right after its start; and a suspension may come at any time, but not after
a failure. -/
inductive Step : Phase → Beat → Phase → Prop
  | start {x : Beat} {e : Event} (told : x.event? = some e) (kind : e.kind = .blockStarted) :
      Step .rested x (.within e.path e.command.isSome)
  | descend {x : Beat} {e : Event} {path : Path} (told : x.event? = some e) (kind : e.kind = .blockStarted)
      (below : e.path = path ++ [0]) : Step (.within path false) x (.within e.path e.command.isSome)
  | finish {x : Beat} {e : Event} {path : Path} (told : x.event? = some e) (kind : e.kind = .commandFinished)
      (went : x.failed = false) : Step (.within path true) x .carried
  | fail {x : Beat} {e : Event} {path : Path} (told : x.event? = some e) (kind : e.kind = .commandFinished)
      (failed : x.failed = true) : Step (.within path true) x .failed
  | halt {x : Beat} {phase : Phase} (quiet : x.event? = none) (going : phase ≠ .failed) : Step phase x .rested

/-- What may come on the record of a run. -/
inductive Run : Phase → List Beat → Phase → Prop
  | nil {a : Phase} : Run a [] a
  | cons {a b c : Phase} {x : Beat} {log : List Beat} (step : Step a x b) (rest : Run b log c) : Run a (x :: log) c

namespace Run

variable {a b c : Phase} {x : Beat} {log more : List Beat}

theorem concat (h : Run a log b) (step : Step b x c) : Run a (log ++ [x]) c := by
  induction h with
  | nil => exact .cons step .nil
  | cons first _ ih => exact .cons first (ih step)

theorem split (h : Run a (log ++ more) c) : ∃ b, Run a log b ∧ Run b more c := by
  induction log generalizing a with
  | nil => exact ⟨a, .nil, h⟩
  | cons x log ih =>
    cases h with
    | cons first rest =>
      obtain ⟨b, before, after⟩ := ih rest
      exact ⟨b, .cons first before, after⟩

/-- After a failure nothing comes. -/
theorem failed_eq_nil (h : Run .failed log c) : log = [] := by
  cases h with
  | nil => rfl
  | cons step rest =>
    cases step with
    | halt quiet going => exact absurd rfl going

/-- A command that has failed is the last thing on record. -/
theorem failed_last (h : Run a (log ++ x :: more) c) (failed : x.failed = true) : more = [] := by
  obtain ⟨b, -, rest⟩ := h.split
  cases rest with
  | cons step later =>
    cases step with
    | fail => exact later.failed_eq_nil
    | finish told kind went =>
      rw [went] at failed
      cases failed
    | start told kind => simp [Beat.failed, told, Event.tellsFailure, kind] at failed
    | descend told kind => simp [Beat.failed, told, Event.tellsFailure, kind] at failed
    | halt quiet => simp [Beat.failed, quiet] at failed

/-- On record are events of blocks, and not that a run has ended. -/
theorem midrun (h : Run a log b) : ∀ x ∈ log, ∀ e, x.event? = some e → e.kind ≠ .runFinished := by
  induction h with
  | nil => exact fun x hx => by cases hx
  | cons step rest ih =>
    intro y hy e told
    rcases List.mem_cons.mp hy with rfl | later
    · cases step with
      | start said kind | descend said kind | finish said kind | fail said kind =>
        rw [said] at told
        cases told
        rw [kind]
        simp
      | halt quiet =>
        rw [quiet] at told
        cases told
    · exact ih y later e told

/-- Right after a suspension, or at the beginning, a run has done nothing. -/
theorem eq_rested (h : Run .rested log b) (halted : ∀ x, log.getLast? = some x → x.event? = none) :
    b = .rested := by
  cases log using List.reverseRecOn with
  | nil =>
    cases h
    rfl
  | append_singleton log x =>
    have quiet := halted x List.getLast?_concat
    obtain ⟨c, -, last⟩ := h.split
    cases last with
    | cons step rest =>
      cases rest
      cases step with
      | halt => rfl
      | start told | descend told | finish told | fail told =>
        rw [told] at quiet
        cases quiet

end Run

end Phase

/-! ## Between suspensions -/

/-- The events that tell of blocks that start. -/
def starts (events : List Event) : List Event := events.filter fun e => e.kind = .blockStarted

/-- What is told between two suspensions. The blocks that start are one way down the program: each of them after
the first is the first child of the one before it. At most one command is carried out. -/
structure Descent (events : List Event) : Prop where
  chain : ((starts events).map Event.path).IsChain (fun x y => y = x ++ [0])
  commands : ((starts events).filter fun e => e.command.isSome).length ≤ 1
  finished : (events.filter fun e => e.kind = .commandFinished).length ≤ 1

namespace Phase

/-- What may be told from a phase on, until the next suspension. -/
def allows : Phase → List Event → Prop
  | .rested, events => Descent events
  | .within path false, events =>
    Descent events ∧ ∀ y ∈ ((starts events).map Event.path).head?, y = path ++ [0]
  | .within _ true, events => starts events = [] ∧ Descent events
  | .carried, events | .failed, events => events = []

theorem allows_nil (a : Phase) : a.allows [] := by
  have none : Descent [] := ⟨.nil, by simp [starts], by simp⟩
  cases a with
  | rested => exact none
  | within path paced =>
    cases paced with
    | false => exact ⟨none, by simp [starts]⟩
    | true => exact ⟨rfl, none⟩
  | carried | failed => rfl

/-- A block that starts, with what may be told after its start. -/
theorem allows_start {e : Event} {events : List Event} (kind : e.kind = .blockStarted)
    (h : (Phase.within e.path e.command.isSome).allows events) : Descent (e :: events) := by
  have first : starts (e :: events) = e :: starts events := List.filter_cons_of_pos (by simp [kind])
  have unfinished : (e :: events).filter (fun e => e.kind = .commandFinished) =
      events.filter (fun e => e.kind = .commandFinished) := List.filter_cons_of_neg (by simp [kind])
  cases command : e.command.isSome with
  | false =>
    rw [command] at h
    obtain ⟨rest, below⟩ := h
    refine ⟨?_, ?_, ?_⟩
    · rw [first, List.map_cons]
      exact List.isChain_cons.mpr ⟨below, rest.chain⟩
    · rw [first, List.filter_cons_of_neg (by simp [command])]
      exact rest.commands
    · rw [unfinished]
      exact rest.finished
  | true =>
    rw [command] at h
    obtain ⟨last, rest⟩ := h
    refine ⟨?_, ?_, ?_⟩
    · rw [first, last]
      exact .singleton _
    · rw [first, last]
      simp [command]
    · rw [unfinished]
      exact rest.finished

/-- The end of a command, with what may be told after it. -/
theorem allows_finish {e : Event} (kind : e.kind = .commandFinished) : starts [e] = [] ∧ Descent [e] := by
  have none : starts [e] = [] := List.filter_cons_of_neg (by simp [kind])
  refine ⟨none, ?_, ?_, ?_⟩
  · rw [none]
    exact .nil
  · rw [none]
    simp
  · simp [kind]

/-- What comes on record until the next suspension is what the phase allows. -/
theorem Run.allows {a c : Phase} {log : List Beat} (h : Run a log c) (told : ∀ x ∈ log, x.event?.isSome = true) :
    a.allows (log.filterMap Beat.event?) := by
  induction h with
  | nil => exact allows_nil _
  | @cons a b c x log step rest ih =>
    have later := ih (fun y hy => told y (List.mem_cons_of_mem x hy))
    have loud := told x List.mem_cons_self
    cases step with
    | @start _ e said kind =>
      rw [List.filterMap_cons_some said]
      exact allows_start kind later
    | @descend _ e path said kind below =>
      rw [List.filterMap_cons_some said]
      refine ⟨allows_start kind later, ?_⟩
      have first : starts (e :: log.filterMap Beat.event?) = e :: starts (log.filterMap Beat.event?) :=
        List.filter_cons_of_pos (by simp [kind])
      simp [first, below]
    | finish said kind =>
      have none : log.filterMap Beat.event? = [] := later
      rw [List.filterMap_cons_some said, none]
      exact allows_finish kind
    | fail said kind =>
      have none : log.filterMap Beat.event? = [] := later
      rw [List.filterMap_cons_some said, none]
      exact allows_finish kind
    | halt quiet =>
      rw [quiet] at loud
      cases loud

end Phase

/-! ## The course of a run -/

/-- The phase of a run that is on record from its beginning. -/
def Reached (phase : Phase) (m : Stage (σ × List Beat)) : Prop := Phase.Run .rested m.log phase

section Phases

variable (setup : Setup) (around : Surroundings σ) (p : Program) (root : Path)

/-- A command of a block that has started: it finishes, and the run pauses; or it fails, or breaks off. -/
theorem command_phase (x : Path) (b : Block) (name : String) (task : b.task = .command name) :
    ((setup.crew around.recorded).command x b name).Leads (Reached (.within x b.isPaced)) (Reached .rested)
      (fun _ m => ∃ phase, Reached phase m) := by
  have paced : b.isPaced = true := b.isPaced_iff.mpr ⟨name, task⟩
  rw [Crew.command_eq, paced]
  refine Act.Leads.andThen (S := Reached .carried) ?_ ?_
  · intro m started
    have done := recorded_carryOut setup around x b m name
    split at done
    · obtain ⟨ending, log⟩ := done
      rw [ending]
      cases ok : (setup.report name m).ok with
      | true =>
        have carried : Reached .carried ((setup.crew around.recorded).carryOut x b name m).2 := by
          rw [Reached, log, ok]
          exact started.concat (.finish rfl rfl rfl)
        exact ⟨fun _ => carried, fun _ => ⟨_, carried⟩⟩
      | false =>
        have failed : Reached .failed ((setup.crew around.recorded).carryOut x b name m).2 := by
          rw [Reached, log, ok]
          exact started.concat (.fail rfl rfl rfl)
        exact ⟨fun success => (by simp at success), fun _ => ⟨_, failed⟩⟩
    · -- a command that breaks off is not on record, and the run stops at the start of its block
      obtain ⟨ending, log⟩ := done
      have still : Reached (.within x true) ((setup.crew around.recorded).carryOut x b name m).2 := by
        rw [Reached, log]
        exact started
      rw [ending]
      exact ⟨fun success => (by cases success), fun _ => ⟨_, still⟩⟩
  · intro m carried
    have rested : Reached .rested (Act.call (setup.crew around.recorded).pause m).2 := by
      rw [Reached, recorded_pause]
      exact carried.concat (.halt rfl (by simp))
    exact ⟨fun _ => rested, fun _ => ⟨_, rested⟩⟩

/-- A checkpoint, whenever no command has failed. -/
theorem rest_phase {phase : Phase} (going : phase ≠ .failed) :
    (setup.crew around.recorded).rest.Leads (Reached phase) (Reached .rested)
      (fun _ m => ∃ phase, Reached phase m) := by
  intro m before
  have rested : Reached .rested ((setup.crew around.recorded).rest m).2 := by
    rw [Reached, recorded_rest]
    exact before.concat (.halt rfl going)
  exact ⟨fun _ => rested, fun _ => ⟨_, rested⟩⟩

theorem crew_phase :
    (setup.crew around.recorded).Course (Program.Found p root)
      (fun x i m => Reached .rested m ∨ i = 0 ∧ Reached (.within x false) m)
      (fun x b => Reached (.within x b.isPaced)) (Reached .rested) (fun _ m => ∃ phase, Reached phase m) where
  placed x b kids there children := .children there children
  next x i m rested := .inl rested
  stopped x i m before _ := by
    rcases before with rested | ⟨-, above⟩
    · exact ⟨_, rested⟩
    · exact ⟨_, above⟩
  stopped_started x b m started _ := ⟨_, started⟩
  announce x i b _ := by
    refine .call_through (fun m before => ?_) (fun m fault started => ⟨_, started⟩)
    have paced := ofBlock_command_isSome .blockStarted (x ++ [(i : Int)]) b none m.attempt
    rw [Reached, recorded_announce, ← paced]
    rcases before with rested | ⟨rfl, above⟩
    · exact rested.concat (.start (e := Event.ofBlock .blockStarted (x ++ [(i : Int)]) b none m.attempt) rfl rfl)
    · exact above.concat (.descend (e := Event.ofBlock .blockStarted (x ++ [0]) b none m.attempt) rfl rfl rfl)
  command x b name _ task := command_phase setup around x b name task
  skip x b why m _ started := started
  clamp x b n kids _ _ :=
    .call_through (fun m started => setup.clamp_keeps _ (fun _ _ started => started) started)
      (fun m fault started => ⟨_, started⟩)
  enter x b m _ kind started := by
    have plain : b.isPaced = false := by simp [Block.isPaced, kind]
    rw [plain] at started
    exact .inr ⟨rfl, started⟩
  rest x b _ := rest_phase setup around (by simp)
  rest_after := rest_phase setup around (by simp)

/-- What comes on the record of a run is what may come. -/
theorem recording_phase (m : Stage σ) : ∃ phase, Reached phase (setup.recording around p root m).2 := by
  have walk := (crew_phase setup around p root).run p root (.roots p root) (m.keeping []) (.inl .nil)
  by_cases success : (setup.recording around p root m).1 = .success
  · rcases walk.1 success with (run | ⟨-, run⟩) | run
    · exact ⟨_, run⟩
    · exact ⟨_, run⟩
    · exact ⟨_, run⟩
  · exact walk.2 success

end Phases

/-! ## What is owed -/

/-- A crew whose acts owe suspensions, as a measure of the state counts them. Each block that carries out no
command of its own owes some (`k`) from its start on, and so does each round of a loop that begins; every checkpoint
makes up for as many. -/
structure Crew.Owes (c : Crew μ) (p : Program) (root : Path) (f : μ → Int) (k : Int) : Prop where
  announce : ∀ x b m,
    f (c.announce x b m).2 = f m + (if b.isPaced then 0 else k) + (if p.opensRound root x then k else 0)
  command : ∀ x b name, b.task = .command name → (c.command x b name).Adds f 0
  skip : ∀ x b why m, f (c.skip x b why m) = f m
  clamp : ∀ x n m, f (c.clamp x n m).2 = f m
  rest : c.rest.Adds f (-k)

/-- The first child of a loop is the only one that opens a round. -/
theorem Program.Found.opensRound {p : Program} {root x : Path} {b : Block} (found : Program.Found p root x b)
    (i : Nat) : p.opensRound root (x ++ [(i : Int)]) = (decide (i = 0) && b.kind = .loop) := by
  obtain ⟨y, rfl, found⟩ := found
  have above : ((root ++ y) ++ [(i : Int)]).dropLast.drop root.length = y := by
    rw [List.dropLast_concat, List.drop_left]
  unfold Program.opensRound
  rw [above, found, List.getLast?_concat]
  simp

/-- The roots of a program open none. -/
theorem Program.opensRound_root (p : Program) (root : Path) (i : Int) : p.opensRound root (root ++ [i]) = false := by
  unfold Program.opensRound
  rw [List.dropLast_concat, List.drop_length, Program.at?_nil]
  simp

namespace Crew.Owes

variable {c : Crew μ} {p : Program} {root x : Path} {b : Block} {f : μ → Int} {k : Int}

/-- What is owed when siblings have been walked that is not made up for: the round that they open. -/
def opened (p : Program) (root : Path) (k : Int) (x : Path) (i : Nat) (q : List Block) : Int :=
  if q ≠ [] ∧ p.opensRound root (x ++ [(i : Int)]) = true then k else 0

theorem opened_of_other {q : List Block} (found : Program.Found p root x b) (other : b.kind ≠ .loop) (i : Nat) :
    opened p root k x i q = 0 := by
  refine if_neg (fun opens => ?_)
  rw [found.opensRound] at opens
  simp [other] at opens

theorem opened_succ {i : Nat} {q : List Block} : opened p root k x (i + 1) q = 0 := by
  refine if_neg (fun opens => ?_)
  have last := opens.2
  unfold Program.opensRound at last
  rw [List.getLast?_concat] at last
  simp at last
  omega

variable (h : c.Owes p root f k)

include h

theorem noteClamp (n : Int) : (c.noteClamp x n).Adds f 0 := by
  unfold Crew.noteClamp
  split
  · exact .call (fun m => by rw [h.clamp, Int.add_zero])
  · exact .done

/-- A block with what is below it, between its start and its own suspension. -/
theorem doTask (found : Program.Found p root x b)
    (kids_walk : ∀ kids, b.children = some kids → (c.runFrom x 0 kids).Adds f (opened p root k x 0 kids)) :
    (c.doTask x b b.task).Adds f 0 := by
  cases task : b.task with
  | command name => exact h.command x b name task
  | idle why => exact .change (fun m => by rw [h.skip, Int.add_zero])
  | loop n kids =>
    obtain ⟨children, some⟩ := Block.children_of_task_loop task
    have kind : b.kind = .loop := by rw [b.kind_eq, task, Task.kind]
    have opens : opened p root k x 0 kids = k := if_pos ⟨some, (found.opensRound 0).trans (by simp [kind])⟩
    have walk := kids_walk kids children
    have look : c.poll.Adds f 0 := .poll
    rw [opens] at walk
    have round : (c.round x kids).Adds f 0 := by
      have made_up : -k + (0 + k) = 0 := by omega
      rw [← made_up]
      exact h.rest.andThen (look.andThen walk)
    have noted : (c.noteClamp x n).Adds f 0 := h.noteClamp n
    have rounds := noted.andThen (round.times (c.rounds n))
    rwa [Int.mul_zero] at rounds
  | onColor color kids =>
    have children := (Block.children_of_task_onColor task).1
    have kind : b.kind = .ifColor := by rw [b.kind_eq, task, Task.kind]
    have walk := kids_walk kids children
    rw [opened_of_other found (by simp [kind])] at walk
    exact .cond walk

/-- A block that has started, with its own suspension. -/
theorem runBlock (found : Program.Found p root x b)
    (kids_walk : ∀ kids, b.children = some kids → (c.runFrom x 0 kids).Adds f (opened p root k x 0 kids)) :
    ((c.runBlock x b).andThen (c.settle b)).Adds f (if b.isPaced then 0 else -k) := by
  have task := h.doTask found kids_walk
  rw [runBlock_eq]
  unfold Crew.settle
  split
  · rw [Act.andThen_done]
    exact task
  · have both := task.andThen h.rest
    rwa [Int.zero_add] at both

theorem runFrom (q : List Block) (x : Path) (i : Nat) (placed : Placed (Program.Found p root) x i q) :
    (c.runFrom x i q).Adds f (opened p root k x i q) := by
  refine (Block.induction
    (P := fun b => ∀ x, Program.Found p root x b →
      ((c.runBlock x b).andThen (c.settle b)).Adds f (if b.isPaced then 0 else -k))
    (Q := fun q => ∀ x i, Placed (Program.Found p root) x i q →
      (c.runFrom x i q).Adds f (opened p root k x i q)) ?_ ?_ ?_).2 q x i placed
  · intro b kids_walk x found
    exact h.runBlock found (fun kids children => kids_walk kids children x 0 (.children found children))
  · intro x i _
    rw [runFrom_nil]
    exact .done
  · -- what a block owes from its start on is made up for when all that is below it has been walked; the round
    -- that a first sibling opens is left, for the loop above to make up for
    intro b rest block_walk rest_walk x i placed
    have later := rest_walk x (i + 1) placed.tail
    rw [opened_succ] at later
    have announced : (Act.call (c.announce (x ++ [(i : Int)]) b)).Adds f
        ((if b.isPaced then 0 else k) + (if p.opensRound root (x ++ [(i : Int)]) then k else 0)) :=
      .call (fun m => by rw [h.announce, Int.add_assoc])
    have look : c.poll.Adds f 0 := .poll
    have whole := look.andThen (announced.andThen (look.andThen ((block_walk _ placed.head).andThen later)))
    rw [runFrom_cons]
    refine whole.congr ?_
    unfold opened
    cases b.isPaced <;> cases p.opensRound root (x ++ [(i : Int)]) <;> simp

/-- Nothing is owed after a whole program. -/
theorem run : (c.run p root).Adds f 0 := by
  have walk := h.runFrom p root 0 (.roots p root)
  have none : opened p root k root 0 p = 0 := if_neg (fun opens => by
    rw [Program.opensRound_root] at opens
    exact absurd opens.2 (by simp))
  rwa [none] at walk

end Crew.Owes

/-- The weights of all beats on record, together. -/
def weight (w : Beat → Int) (m : Stage (σ × List Beat)) : Int := (m.log.map w).sum

theorem weight_concat {w : Beat → Int} {m m' : Stage (σ × List Beat)} {x : Beat} (log : m'.log = m.log ++ [x]) :
    weight w m' = weight w m + w x := by
  simp [weight, log]

/-- A pause is owed for every command that finishes. -/
def Beat.pauseDue (x : Beat) : Int := (if x.finishes then 1 else 0) - (if x.isPause then 1 else 0)

/-- A checkpoint is owed for every block that starts and carries out no command of its own, and for every round of
a loop. -/
def Beat.checkpointDue (p : Program) (root : Path) (x : Beat) : Int :=
  (if x.startsPlain then 1 else 0) + (if x.opensRound p root then 1 else 0) - (if x.isCheckpoint then 1 else 0)

theorem sum_pauseDue (log : List Beat) :
    (log.map Beat.pauseDue).sum = log.countP Beat.finishes - log.countP Beat.isPause := by
  induction log with
  | nil => rfl
  | cons x log ih =>
    rw [List.map_cons, List.sum_cons, ih, List.countP_cons, List.countP_cons, Beat.pauseDue]
    split <;> split <;> omega

theorem sum_checkpointDue (p : Program) (root : Path) (log : List Beat) :
    (log.map (Beat.checkpointDue p root)).sum =
      log.countP Beat.startsPlain + log.countP (Beat.opensRound p root) - log.countP Beat.isCheckpoint := by
  induction log with
  | nil => rfl
  | cons x log ih =>
    rw [List.map_cons, List.sum_cons, ih, List.countP_cons, List.countP_cons, List.countP_cons,
      Beat.checkpointDue]
    split <;> split <;> split <;> omega

section Debts

variable (setup : Setup) (around : Surroundings σ) (p : Program) (root : Path)

/-- What a command that goes well puts on record. -/
theorem command_adds {w : Beat → Int} {x : Path} {b : Block} {name : String} {k l : Int}
    (finished : ∀ ok a a' c, w ⟨.told (Event.ofBlock .commandFinished x b (some ok) a), a', c⟩ = k)
    (paused : ∀ a c, w ⟨.pause, a, c⟩ = l) :
    ((setup.crew around.recorded).command x b name).Adds (weight w) (k + l) := by
  rw [Crew.command_eq]
  refine Act.Adds.andThen ?_ ?_
  · intro m success
    have done := recorded_carryOut setup around x b m name
    split at done
    · rw [weight_concat done.2, finished]
    · rw [done.1] at success
      cases success
  · intro m _
    rw [weight_concat (recorded_pause setup around m), paused]

theorem rest_adds {w : Beat → Int} {k : Int} (rested : ∀ a c, w ⟨.checkpoint, a, c⟩ = k) :
    (setup.crew around.recorded).rest.Adds (weight w) k := by
  intro m _
  rw [weight_concat (recorded_rest setup around m), rested]

theorem owes_pauses : (setup.crew around.recorded).Owes p root (weight Beat.pauseDue) 0 where
  announce x b m := by
    rw [weight_concat (recorded_announce setup around x b m)]
    simp [Beat.pauseDue, Beat.finishes, Beat.isPause, Beat.event?, Event.ofBlock]
  command x b name _ := command_adds setup around (k := 1) (l := -1) (fun _ _ _ _ => rfl) (fun _ _ => rfl)
  skip x b why m := rfl
  clamp x n m := by rw [weight, recorded_clamp, ← weight]
  rest := rest_adds setup around (fun _ _ => rfl)

theorem owes_checkpoints : (setup.crew around.recorded).Owes p root (weight (Beat.checkpointDue p root)) 1 where
  announce x b m := by
    have plain := ofBlock_command_isSome .blockStarted x b none m.attempt
    have kind : (Event.ofBlock .blockStarted x b none m.attempt).kind = .blockStarted := rfl
    have path : (Event.ofBlock .blockStarted x b none m.attempt).path = x := rfl
    rw [weight_concat (recorded_announce setup around x b m), Int.add_assoc]
    congr 1
    generalize Event.ofBlock .blockStarted x b none m.attempt = e at plain kind path
    rw [← plain, ← path]
    simp only [Beat.checkpointDue, Beat.startsPlain, Beat.opensRound, Beat.isCheckpoint, Beat.event?]
    cases command : e.command <;> simp [kind, command]
  command x b name _ := command_adds setup around (k := 0) (l := 0) (fun _ _ _ _ => rfl) (fun _ _ => rfl)
  skip x b why m := rfl
  clamp x n m := by rw [weight, recorded_clamp, ← weight]
  rest := rest_adds setup around (fun _ _ => rfl)

end Debts

/-! ## Discipline -/

/-- The record of a run of a program under an enclosing address in which suspensions are where they should be. -/
structure Disciplined (p : Program) (root : Path) (ending : Ending) (log : List Beat) : Prop where
  descents : ∀ before during after, log = before ++ during ++ after →
    (∀ x ∈ during, x.event?.isSome = true) → (∀ x, before.getLast? = some x → x.event? = none) →
      Descent (during.filterMap Beat.event?)
  failed_last : ∀ before x after, log = before ++ x :: after → x.failed = true → after = []
  pauses : ending = .success → log.countP Beat.isPause = log.countP Beat.finishes
  checkpoints : ending = .success →
    log.countP Beat.isCheckpoint = log.countP Beat.startsPlain + log.countP (Beat.opensRound p root)

/-- Runs are suspended where they should be, whoever watches them. Between two suspensions, before the first and
after the last, a run goes one way down the program and carries out at most one command. Nothing comes after a
command that has failed. And a run that succeeds has paused once for every command that has finished, and has come
to a checkpoint once for every block that started to carry out no command of its own, and once for every round of
a loop. -/
theorem disciplined_recording (setup : Setup) (around : Surroundings σ) (p : Program) (root : Path) (m : Stage σ) :
    setup.play around p root m =
        ((setup.recording around p root m).1, (setup.recording around p root m).2.through Prod.fst) ∧
      Disciplined p root (setup.recording around p root m).1 (setup.recording around p root m).2.log := by
  obtain ⟨phase, run⟩ := recording_phase setup around p root m
  refine ⟨play_recorded setup around p root m, ?_, ?_, ?_, ?_⟩
  · intro before during after log told halted
    rw [Reached, log] at run
    obtain ⟨_, upto, -⟩ := run.split
    obtain ⟨b, first, between⟩ := upto.split
    obtain rfl := first.eq_rested halted
    exact between.allows told
  · intro before x after log failed
    rw [Reached, log] at run
    exact run.failed_last failed
  · intro success
    have balance := (owes_pauses setup around p root).run (m.keeping []) success
    have even := sum_pauseDue (setup.recording around p root m).2.log
    change weight _ (setup.recording around p root m).2 = 0 + 0 at balance
    rw [weight] at balance
    omega
  · intro success
    have balance := (owes_checkpoints setup around p root).run (m.keeping []) success
    have even := sum_checkpointDue p root (setup.recording around p root m).2.log
    change weight _ (setup.recording around p root m).2 = 0 + 0 at balance
    rw [weight] at balance
    omega

end Lamplighter
