/-
Lamplighter.Number.Binary64 — floating-point numbers of 64 bits, held exactly.

* `Binary64` — a mantissa times a power of two, an infinity, or not a number.
* `ofRatio` — the nearest such number to a quotient of naturals, ties to the even mantissa.
* `ofDecimal` — the nearest such number to a decimal numeral.
* `toInt?`, `truncate?`, `floor?` — the integer that a number is, the integer reached by dropping its
  fraction, and the greatest integer that is not above it.

All arithmetic is on naturals, so each result is the correctly rounded one.
-/

namespace Lamplighter

/-- A floating-point number of 64 bits: `± mantissa · 2 ^ exponent`, an infinity, or not a number. -/
inductive Binary64 where
  | finite (negative : Bool) (mantissa : Nat) (exponent : Int)
  | infinite (negative : Bool)
  | nan
  deriving DecidableEq, Repr, Inhabited

namespace Binary64

/-- Nothing. -/
def zero : Binary64 := finite false 0 0

/-- The quotient of two naturals rounded to the nearest natural, a tie to the even one. -/
def roundDiv (num den : Nat) : Nat :=
  let q := num / den
  let r := num % den
  if 2 * r < den then q
  else if den < 2 * r then q + 1
  else q + q % 2

/-- A quotient scaled by `2 ^ (-exponent)`, as numerator and denominator. -/
def scaled (num den : Nat) (exponent : Int) : Nat × Nat :=
  if 0 ≤ exponent then (num, den * Nat.pow 2 exponent.toNat)
  else (num * Nat.pow 2 (-exponent).toNat, den)

/-- The exponent at which a positive quotient has a mantissa of 53 bits, unless that lies below the
smallest exponent there is. -/
def exponentOf (num den : Nat) : Int :=
  let guess : Int := (num.log2 : Int) - (den.log2 : Int) - 52
  let (n, d) := scaled num den guess
  max (-1074) (if n < d * Nat.pow 2 52 then guess - 1 else guess)

/-- The number nearest to `num / den`. -/
def ofRatio (negative : Bool) (num den : Nat) : Binary64 :=
  if num = 0 then finite negative 0 0
  else
    let e := exponentOf num den
    let (n, d) := scaled num den e
    let m := roundDiv n d
    if 1024 ≤ e + (m.log2 : Int) then infinite negative else finite negative m e

/-- The number nearest to `digits · 10 ^ exponent`. Numerals far beyond the range are settled by
their size alone. -/
def ofDecimal (negative : Bool) (digits : Nat) (exponent : Int) : Binary64 :=
  let magnitude : Int := exponent + (digits.log2 : Int) * 30103 / 100000
  if digits = 0 then finite negative 0 0
  else if 400 < magnitude then infinite negative
  else if magnitude < -400 then finite negative 0 0
  else if 0 ≤ exponent then ofRatio negative (digits * Nat.pow 10 exponent.toNat) 1
  else ofRatio negative digits (Nat.pow 10 (-exponent).toNat)

/-- A natural with a sign. -/
def signed (negative : Bool) (n : Nat) : Int := if negative then -(n : Int) else n

/-- The integer that a number is; none if it has a fraction or is not finite. -/
def toInt? : Binary64 → Option Int
  | finite negative m e =>
    if 0 ≤ e then some (signed negative (m * Nat.pow 2 e.toNat))
    else if m % Nat.pow 2 (-e).toNat = 0 then some (signed negative (m / Nat.pow 2 (-e).toNat))
    else none
  | _ => none

/-- The integer part of a number, toward zero. -/
def truncate? : Binary64 → Option Int
  | finite negative m e =>
    some (signed negative
      (if 0 ≤ e then m * Nat.pow 2 e.toNat else m / Nat.pow 2 (-e).toNat))
  | _ => none

/-- The greatest integer that is not above a number. -/
def floor? : Binary64 → Option Int
  | finite negative m e =>
    some (if 0 ≤ e then signed negative (m * Nat.pow 2 e.toNat)
      else (signed negative m).fdiv (Nat.pow 2 (-e).toNat))
  | _ => none

/-- Whether a number is finite. -/
def isFinite : Binary64 → Bool
  | finite .. => true
  | _ => false

/-- A rounded quotient is at most half a unit away from the exact one. -/
theorem roundDiv_near (num den : Nat) (h : 0 < den) :
    2 * (roundDiv num den * den) ≤ 2 * num + den ∧ 2 * num ≤ 2 * (roundDiv num den * den) + den := by
  have hdiv : den * (num / den) + num % den = num := Nat.div_add_mod num den
  have hlt : num % den < den := Nat.mod_lt num h
  have hcomm : num / den * den = den * (num / den) := Nat.mul_comm _ _
  have hsucc : (num / den + 1) * den = den * (num / den) + den := by
    rw [Nat.add_mul, hcomm, Nat.one_mul]
  unfold roundDiv
  simp only
  split
  · omega
  · split
    · omega
    · rcases Nat.mod_two_eq_zero_or_one (num / den) with h0 | h1
      · rw [h0, Nat.add_zero]
        omega
      · rw [h1]
        omega

end Binary64

end Lamplighter
