/-
Lamplighter.Rules — which differences in height a step may cover.

Rules answer from two heights alone; whether the target can be walked on at all is the board's
question.
-/

namespace Lamplighter

/-- The physics of steps, from the height left to the height reached. -/
structure Rules where
  canMove : Int → Int → Bool
  canJump : Int → Int → Bool

namespace Rules

/-- The standard physics: a move stays level, a jump covers at most `reach` up or down. -/
def standard (reach : Int) : Rules where
  canMove current target := target == current
  canJump current target := decide (((target - current).natAbs : Int) ≤ reach)

end Rules

end Lamplighter
