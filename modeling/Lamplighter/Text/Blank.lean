/-
Lamplighter.Text.Blank — the characters that leave no mark.

`Text.isBlank` holds of the characters with the property White_Space: the ASCII ones, the
next-line and no-break characters, and the spaces and separators beyond.
-/

namespace Lamplighter

namespace Text

/-- The blank characters beyond ASCII, as inclusive ranges of codes. -/
def blankRanges : List (Nat × Nat) :=
  [(0x85, 0x85), (0xA0, 0xA0), (0x1680, 0x1680), (0x2000, 0x200A), (0x2028, 0x2029),
    (0x202F, 0x202F), (0x205F, 0x205F), (0x3000, 0x3000)]

/-- A blank character of ASCII: a space, a tab or a line break of any kind. -/
def isAsciiBlank (c : Char) : Bool := c = ' ' || (9 ≤ c.toNat && c.toNat ≤ 13)

/-- A blank character. -/
def isBlank (c : Char) : Bool :=
  isAsciiBlank c || blankRanges.any (fun r => r.1 ≤ c.toNat && c.toNat ≤ r.2)

/-- A text without the characters of a class at either end. -/
def trim (drop : Char → Bool) (cs : List Char) : List Char :=
  ((cs.dropWhile drop).reverse.dropWhile drop).reverse

theorem isBlank_of_isWhitespace (c : Char) (h : c.isWhitespace = true) : isBlank c = true := by
  simp only [Char.isWhitespace, Bool.or_eq_true, decide_eq_true_eq] at h
  rcases h with ((rfl | rfl) | rfl) | rfl <;> decide

end Text

end Lamplighter
