/-
Lamplighter.Proofs.Attempt — what a command can do to an attempt.

* `Attempt.IsFree`, `step_of_free`, `step_of_not_free` — what a step does where nothing refuses it, and where something
  does.
* `Attempt.Effect` — the four kinds of effect that a command can have, with what is told of each of them.
* `Attempt.execute_effect` — every command has one of them. What commands keep is shown effect by effect.
* `Attempt.execute_layout` — no trigger changes the layout that triggers read.
* `Attempt.isLegible` — the numbers that a refusal tells can be written.
* `Attempt.execute_untellable` — a command that cannot be told has changed nothing.
-/
import Lamplighter.Attempt

namespace Lamplighter

/-! ## Triggers -/

namespace Store

variable (store : Store)

@[simp] theorem enter_layout (p : Position) : (store.enter p).layout = store.layout := by
  unfold enter
  split <;> rfl

@[simp] theorem leave_layout (p : Position) : (store.leave p).layout = store.layout := by
  unfold leave
  split <;> rfl

end Store

namespace Attempt

/-! ## Steps -/

/-- The cell ahead of the robot. -/
def ahead (a : Attempt) : Position := a.robot.position.ahead a.robot.heading

/-- The numbers that the refusal of a step tells can be written: the cell ahead, and the heights of the two cells. -/
def isLegible (board : Board) (a : Attempt) : Bool :=
  a.ahead.isWritable && Numeral.isWritable (board.heightAt a.robot.position) &&
    Numeral.isWritable (board.heightAt a.ahead)

section

variable (board : Board) (rules : Rules) (gait : Gait) (a : Attempt)

/-- Nothing refuses a step: the cell ahead can be walked on, and the rules allow the two heights. -/
def IsFree : Prop :=
  board.isWalkable a.store a.ahead = true ∧
    gait.allowed rules (board.heightAt a.robot.position) (board.heightAt a.ahead) = true

/-- Why a step is refused: for the heights where the cell ahead can be walked on, or else as blocked. -/
def refusalOf : Failure := if board.isWalkable a.store a.ahead then gait.refusal else .blocked

variable {board rules gait a}

theorem step_of_free (free : IsFree board rules gait a) :
    ∃ deeds, a.step board rules gait = ⟨a.arrive a.ahead, none, deeds⟩ ∧ deeds.all Deed.isTellable = true := by
  obtain ⟨walkable, allowed⟩ := free
  refine ⟨_, (if_neg (not_not_intro walkable)).trans (if_neg (not_not_intro allowed)), ?_⟩
  split <;> rfl

theorem step_of_not_free (refused : ¬IsFree board rules gait a) :
    ∃ deeds, a.step board rules gait = ⟨a, some (refusalOf board gait a), deeds⟩ ∧
      (a.isLegible board = true → deeds.all Deed.isTellable = true) := by
  unfold refusalOf isLegible
  cases walkable : board.isWalkable a.store a.ahead with
  | false =>
    have blocked : ¬board.isWalkable a.store a.ahead = true := by simp [walkable]
    exact ⟨[.blocked gait a.ahead], if_pos blocked, by simp +contextual [Deed.isTellable, Deed.isWritable]⟩
  | true =>
    have disallowed : ¬gait.allowed rules (board.heightAt a.robot.position) (board.heightAt a.ahead) = true :=
      fun allowed => refused ⟨walkable, allowed⟩
    refine ⟨_, (if_neg (not_not_intro walkable)).trans (if_pos disallowed), fun legible => ?_⟩
    exact (Bool.and_true _).trans legible

end

/-! ## Effects -/

/-- What a command does to an attempt: nothing, and then it may be refused; or it turns the robot, lights a goal,
or takes the robot to a cell that can be walked on. -/
inductive Effect (board : Board) (a : Attempt) : Report → Prop
  | still (refusal : Option Failure) (deeds : List Deed) : Effect board a ⟨a, refusal, deeds⟩
  | turned (heading : Direction) (deed : Deed) (told : deed.isTellable = true) :
      Effect board a ⟨a.turn heading, none, [deed]⟩
  | lit : Effect board a ⟨{ a with lit := a.lit ++ [a.robot.position] }, none, [.lit a.robot.position]⟩
  | arrived (target : Position) (walkable : board.isWalkable a.store target = true) (deeds : List Deed)
      (told : deeds.all Deed.isTellable = true) : Effect board a ⟨a.arrive target, none, deeds⟩

namespace Effect

variable {board : Board} {a : Attempt} {r : Report}

theorem layout (h : Effect board a r) : r.attempt.store.layout = a.store.layout := by
  cases h with
  | still | turned | lit => rfl
  | arrived => simp [arrive]

theorem untellable (h : Effect board a r) (untold : r.deeds.all Deed.isTellable = false) : r.attempt = a := by
  cases h with
  | still => rfl
  | turned heading deed told => simp [told] at untold
  | lit => cases untold
  | arrived target walkable deeds told =>
    rw [told] at untold
    cases untold

end Effect

variable (board : Board) (rules : Rules) (a : Attempt)

theorem step_effect (gait : Gait) : Effect board a (a.step board rules gait) := by
  by_cases free : IsFree board rules gait a
  · obtain ⟨deeds, done, told⟩ := step_of_free free
    rw [done]
    exact .arrived _ free.1 _ told
  · obtain ⟨deeds, done, -⟩ := step_of_not_free free
    rw [done]
    exact .still _ _

theorem light_effect : Effect board a (a.light board) := by
  unfold light
  dsimp only
  split
  · exact .still _ _
  · split
    · exact .still _ _
    · exact .lit

/-- Every command has one of the effects. -/
theorem execute_effect (name : String) : Effect board a (a.execute board rules name) := by
  unfold execute
  split
  · exact step_effect board rules a .move
  · exact step_effect board rules a .jump
  · exact .turned _ _ rfl
  · exact .turned _ _ rfl
  · exact light_effect board a
  · exact .still _ _
  · exact .still _ _

/-! ## What commands keep -/

/-- No command changes the layout that the triggers read. -/
theorem execute_layout (name : String) :
    (a.execute board rules name).attempt.store.layout = a.store.layout :=
  (execute_effect board rules a name).layout

/-- A command that cannot be told has changed nothing. -/
theorem execute_untellable (name : String)
    (untold : (a.execute board rules name).deeds.all Deed.isTellable = false) :
    (a.execute board rules name).attempt = a :=
  (execute_effect board rules a name).untellable untold

/-- A step can be told if the numbers of its refusal can be written. -/
theorem step_tellable (gait : Gait) (legible : a.isLegible board = true) :
    (a.step board rules gait).deeds.all Deed.isTellable = true := by
  by_cases free : IsFree board rules gait a
  · obtain ⟨deeds, done, told⟩ := step_of_free free
    rw [done, told]
  · obtain ⟨deeds, done, told⟩ := step_of_not_free free
    rw [done, told legible]

end Attempt

end Lamplighter
