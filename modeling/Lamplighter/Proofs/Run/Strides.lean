/-
Lamplighter.Proofs.Run.Strides — where the steps of a run go.

* `Attempt.Gone`, `Attempt.execute_gone` — what a command does to the robot's cell and to the flags: a step that
  nothing refuses arrives at the cell ahead, and no other command changes either.
* `Crew.noting` — a walk in which something is noted of every command; `run_noting` — that changes nothing of it.
* `Stride`, `Setup.strides` — the steps of a run that succeed: the cell that each is aimed at, and the one on which
  it ends. `play_strides` — an invariant of the attempt and of the strides so far.

A stride ends somewhere else than it was aimed when a teleport has carried the robot on. Triggers fire for the cell
that is aimed at and for the one that is left, and for no other.
-/
import Lamplighter.Proofs.Attempt
import Lamplighter.Proofs.Store
import Lamplighter.Proofs.Run.Account
import Lamplighter.Proofs.Run.Watching

namespace Lamplighter

/-! ## Commands -/

namespace Attempt

/-- Whether a command is one of the two that change cells. -/
def IsGait (name : String) : Prop := name = Command.move.name ∨ name = Command.jump.name

instance (name : String) : Decidable (IsGait name) := inferInstanceAs (Decidable (_ ∨ _))

/-- What a command does to the robot's cell and to the flags. -/
inductive Gone (board : Board) (a : Attempt) (name : String) : Report → Prop
  | strode (deeds : List Deed) (gait : IsGait name) (walkable : board.isWalkable a.store a.ahead = true) :
      Gone board a name ⟨a.arrive a.ahead, none, deeds⟩
  | refused (why : Failure) (deeds : List Deed) : Gone board a name ⟨a, some why, deeds⟩
  | stayed (after : Attempt) (deeds : List Deed) (other : ¬IsGait name)
      (position : after.robot.position = a.robot.position) (store : after.store = a.store) :
      Gone board a name ⟨after, none, deeds⟩

variable (board : Board) (rules : Rules) (a : Attempt)

theorem step_gone (gait : Gait) {name : String} (named : IsGait name) :
    Gone board a name (a.step board rules gait) := by
  by_cases free : IsFree board rules gait a
  · obtain ⟨deeds, done, -⟩ := step_of_free free
    rw [done]
    exact .strode _ named free.1
  · obtain ⟨deeds, done, -⟩ := step_of_not_free free
    rw [done]
    exact .refused _ _

theorem light_gone {name : String} (other : ¬IsGait name) : Gone board a name (a.light board) := by
  unfold light
  dsimp only
  split
  · exact .stayed _ _ other rfl rfl
  · split
    · exact .stayed _ _ other rfl rfl
    · exact .stayed _ _ other rfl rfl

/-- A step that nothing refuses arrives at the cell ahead. No other command changes cells or flags. -/
theorem execute_gone (name : String) : Gone board a name (a.execute board rules name) := by
  unfold execute
  cases found : Command.ofName? name with
  | none =>
    refine .stayed _ _ (fun gait => ?_) rfl rfl
    rcases gait with rfl | rfl <;> cases found
  | some c =>
    obtain rfl := Command.ofName?_eq_some.mp found
    cases c with
    | move => exact step_gone board rules a .move (.inl rfl)
    | jump => exact step_gone board rules a .jump (.inr rfl)
    | light => exact light_gone board a (by decide)
    | turnLeft | turnRight | procedure => exact .stayed _ _ (by decide) rfl rfl

/-- The cell ahead is another one. -/
theorem ahead_ne (a : Attempt) : a.ahead ≠ a.robot.position := by
  unfold ahead Position.ahead
  intro same
  have x : a.robot.position.x + a.robot.heading.delta.1 = a.robot.position.x := congrArg Position.x same
  have y : a.robot.position.y + a.robot.heading.delta.2 = a.robot.position.y := congrArg Position.y same
  cases heading : a.robot.heading <;> rw [heading, Direction.delta] at x y <;> omega

end Attempt

/-! ## Walks that are noted -/

namespace Crew

variable {μ ν : Type}

/-- A crew that notes something of each command before it is carried out. -/
def noting (crew : Crew μ) (note : String → μ → List ν) : Crew (μ × List ν) where
  cap := crew.cap
  cancelled m := crew.cancelled m.1
  announce x b m := ((crew.announce x b m.1).1, (crew.announce x b m.1).2, m.2)
  perform x b name m :=
    ((crew.perform x b name m.1).1, (crew.perform x b name m.1).2, m.2 ++ note name m.1)
  onColor color m := crew.onColor color m.1
  skip x b why m := (crew.skip x b why m.1, m.2)
  clamp x n m := ((crew.clamp x n m.1).1, (crew.clamp x n m.1).2, m.2)
  pause m := ((crew.pause m.1).1, (crew.pause m.1).2, m.2)
  checkpoint m := ((crew.checkpoint m.1).1, (crew.checkpoint m.1).2, m.2)

variable (crew : Crew μ) (note : String → μ → List ν)

/-- A hook that is called while something has been noted. -/
theorem noting_call (hook : μ → Option Fault × μ) :
    Act.Agree (fun (m : μ × List ν) n => m.1 = n) (fun _ m n => m.1 = n)
      (Act.call fun m => ((hook m.1).1, (hook m.1).2, m.2)) (Act.call hook) := by
  refine Act.call_agree ?_ ?_ ?_
  · rintro m _ rfl; rfl
  · rintro m _ rfl _; rfl
  · rintro m _ fault rfl _; rfl

theorem noting_agree :
    (crew.noting note).Agree Eq (fun m n => m.1 = n) (fun _ m n => m.1 = n) crew where
  below := by rintro x _ i rfl; rfl
  cap := rfl
  poll := Crew.poll_agree (by rintro m _ rfl; rfl) (fun _ _ same _ => same)
  announce := by rintro x _ b rfl; exact noting_call _
  carryOut := by
    rintro x _ b name - rfl m _ rfl
    have done : (crew.noting note).perform x b name m =
        ((crew.perform x b name m.1).1, (crew.perform x b name m.1).2, m.2 ++ note name m.1) := rfl
    unfold Crew.carryOut
    rw [done]
    rcases crew.perform x b name m.1 with ⟨fault | ok, m'⟩
    · exact .of_left rfl rfl
    · cases ok with
      | true => exact .going rfl
      | false => exact .of_left rfl rfl
  onColor := by rintro color m _ rfl; rfl
  skip := by rintro x _ b why m _ rfl rfl; rfl
  clamp := by rintro x _ k rfl; exact noting_call _
  pause := noting_call _
  rest := noting_call _

/-- To note something of its commands changes nothing of a walk. -/
theorem run_noting (p : Program) (path : Path) (m : μ) (noted : List ν) :
    crew.run p path m =
      (((crew.noting note).run p path (m, noted)).1, ((crew.noting note).run p path (m, noted)).2.1) := by
  have agree := (crew.noting_agree note).runFrom p path path 0 rfl (m, noted) m rfl
  obtain ⟨ending, left⟩ := agree.left (fun _ _ _ same => same)
  exact Prod.ext ending left.symm

end Crew

/-! ## Strides -/

/-- A step that succeeds: the cell that it is aimed at, and the one on which it ends. -/
structure Stride where
  aim : Position
  landing : Position
  deriving DecidableEq, Repr

namespace Setup

variable {σ : Type} (setup : Setup)

/-- The stride that a command takes, if it takes one. -/
def stride? (name : String) (a : Attempt) : Option Stride :=
  if Attempt.IsGait name ∧ (a.execute setup.board setup.rules name).ok then
    some ⟨a.ahead, (a.execute setup.board setup.rules name).attempt.robot.position⟩
  else none

/-- The crew of a run whose strides are noted. -/
def pacing (around : Surroundings σ) : Crew (Stage σ × List Stride) :=
  (setup.crew around).noting fun name m => (setup.stride? name m.attempt).toList

/-- The strides of a run, in order. -/
def strides (around : Surroundings σ) (p : Program) (path : Path) (m : Stage σ) : List Stride :=
  ((setup.pacing around).run p path (m, [])).2.2

/-- To note its strides changes nothing of a run. -/
theorem run_pacing (around : Surroundings σ) (p : Program) (path : Path) (m : Stage σ) :
    (setup.pacing around).run p path (m, []) =
      ((setup.play around p path m).1, (setup.play around p path m).2, setup.strides around p path m) := by
  have noted := (setup.crew around).run_noting (fun name m => (setup.stride? name m.attempt).toList) p path m []
  rw [play, noted]
  rfl

/-- How a command goes on from an attempt: it takes a stride to the cell ahead, which can be walked on; or it takes
none, and changes neither the robot's cell nor the flags. -/
inductive Paces (name : String) (a : Attempt) : Prop
  | strode (taken : setup.stride? name a = some ⟨a.ahead, (a.arrive a.ahead).robot.position⟩)
      (walkable : setup.board.isWalkable a.store a.ahead = true)
      (arrived : (a.execute setup.board setup.rules name).attempt = a.arrive a.ahead) : Paces name a
  | stayed (taken : setup.stride? name a = none)
      (position : (a.execute setup.board setup.rules name).attempt.robot.position = a.robot.position)
      (store : (a.execute setup.board setup.rules name).attempt.store = a.store) : Paces name a

theorem paces (name : String) (a : Attempt) : setup.Paces name a := by
  have gone := a.execute_gone setup.board setup.rules name
  have told : setup.stride? name a =
      if Attempt.IsGait name ∧ (a.execute setup.board setup.rules name).ok then
        some ⟨a.ahead, (a.execute setup.board setup.rules name).attempt.robot.position⟩
      else none := rfl
  generalize ran : a.execute setup.board setup.rules name = report at gone told
  cases gone with
  | strode deeds gait walkable =>
    refine .strode ?_ walkable (by rw [ran])
    rw [told, if_pos ⟨gait, rfl⟩]
  | refused why deeds =>
    refine .stayed ?_ (by rw [ran]) (by rw [ran])
    rw [told, if_neg (fun both => by cases both.2)]
  | stayed after deeds other position store =>
    refine .stayed ?_ (by rw [ran]; exact position) (by rw [ran]; exact store)
    rw [told, if_neg (fun both => other both.1)]

/-- What every command keeps of an attempt and of the strides so far, and everyone who watches, a run keeps. -/
theorem play_strides (around : Surroundings σ) {I : Attempt → List Stride → Prop}
    (paced : ∀ name a strides, I a strides →
      I (a.execute setup.board setup.rules name).attempt (strides ++ (setup.stride? name a).toList))
    (told : ∀ l ∈ around.listeners, ∀ e m strides, I m.attempt strides → I (l e m).2.attempt strides)
    (pause : ∀ m strides, I m.attempt strides → I (around.pause m).2.attempt strides)
    (checkpoint : ∀ m strides, I m.attempt strides → I (around.checkpoint m).2.attempt strides)
    (p : Program) (path : Path) {m : Stage σ} (h : I m.attempt []) :
    I (setup.play around p path m).2.attempt (setup.strides around p path m) := by
  have emitted (kind path b success) (n : Stage σ) (strides : List Stride) (h : I n.attempt strides) :
      I (around.emit kind path b success n).2.attempt strides :=
    around.tell_keeps _ (I := fun n => I n.attempt strides) (fun _ _ h => h)
      (fun l hl n h => told l hl _ n strides h) h
  have keeps : (setup.pacing around).Keeps path (fun m => I m.1.attempt m.2) (fun _ => True) :=
    { announce := fun x b _ => Act.call_keeps (fun m h => emitted _ _ _ _ _ _ h) (fun _ _ _ _ => trivial)
      perform := by
        intro x b name m _ h
        have begun : I (setup.begin name m.1).attempt (m.2 ++ (setup.stride? name m.1.attempt).toList) :=
          paced name m.1.attempt m.2 h
        have narrated : I (setup.told around name m.1).attempt (m.2 ++ (setup.stride? name m.1.attempt).toList) :=
          setup.narrate_keeps (I := fun n => I n.attempt (m.2 ++ (setup.stride? name m.1.attempt).toList))
            (fun _ _ h => h) (setup.report name m.1).deeds begun
        refine (?_ : I (setup.perform around x b name m.1).2.attempt _)
        rw [perform_eq]
        split
        · dsimp only
          rw [Stage.parted_attempt]
          exact emitted _ _ _ _ _ _ narrated
        · exact narrated
      perform_fault := fun _ _ _ _ _ _ _ _ => trivial
      skip := fun _ _ _ _ _ h => h
      clamp := fun x n _ => Act.call_keeps
        (fun m h => setup.clamp_keeps around (I := fun n => I n.attempt m.2) (fun _ _ h => h) h)
        (fun _ _ _ _ => trivial)
      pause := fun m h => pause m.1 m.2 h
      pause_fault := fun _ _ _ _ => trivial
      checkpoint := fun m h => checkpoint m.1 m.2 h
      checkpoint_fault := fun _ _ _ _ => trivial }
  have kept := (Crew.runFrom_keeps keeps p path 0 List.prefix_rfl (m, []) h).1
  have ran := setup.run_pacing around p path m
  unfold Crew.run at ran
  rw [ran] at kept
  exact kept

end Setup

end Lamplighter
