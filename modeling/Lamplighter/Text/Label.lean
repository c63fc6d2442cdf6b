/-
Lamplighter.Text.Label — the texts that level files give to levels and tiles.

* `Label` — a text as the codes of its characters. A file may also name halves of characters: the two
  of one character together make that character, one on its own is kept as it is.
* `Label.ofString` — the label that spells a text; `Label.whole?` — the text that a label spells, if
  no half stands on its own.
* `Label.text` — a label for display, with U+FFFD in the place of each lone half.
-/

namespace Lamplighter

/-- A text in which halves of characters may stand on their own. -/
structure Label where
  codes : List Nat := []
  deriving DecidableEq, Repr, Inhabited

namespace Label

/-! ## Codes -/

/-- Whether a code is that of the first half of a character beyond the first 65536. -/
def isHighHalf (code : Nat) : Bool := 0xD800 ≤ code && code < 0xDC00

/-- Whether a code is that of the second half of such a character. -/
def isLowHalf (code : Nat) : Bool := 0xDC00 ≤ code && code < 0xE000

/-- The code of the character that two halves make. -/
def join (high low : Nat) : Nat := 0x10000 + (high - 0xD800) * 0x400 + (low - 0xDC00)

/-- The character of a code, unless it is that of a half, or beyond the last character. -/
def char? (code : Nat) : Option Char :=
  if code.isValidChar then some (Char.ofNat code) else none

theorem char?_eq_some {code : Nat} {c : Char} : char? code = some c ↔ code = c.toNat := by
  unfold char?
  constructor
  · intro h
    split at h
    · rename_i valid
      cases h
      rw [Char.ofNat, dif_pos valid]
      rfl
    · cases h
  · rintro rfl
    have valid : c.toNat.isValidChar := c.valid
    rw [if_pos valid, Char.ofNat_toNat]

@[simp] theorem char?_toNat (c : Char) : char? c.toNat = some c := char?_eq_some.mpr rfl

/-! ## Labels and texts -/

/-- The label that spells a text. -/
def ofString (s : String) : Label := ⟨s.toList.map Char.toNat⟩

/-- The text that a label spells, if no half of a character stands on its own. -/
def whole? (label : Label) : Option String := (label.codes.mapM char?).map String.ofList

/-- A label for display. A lone half has no display of its own, and U+FFFD stands for it. -/
def text (label : Label) : String :=
  String.ofList (label.codes.map (fun code => (char? code).getD '\ufffd'))

@[simp] theorem text_ofString (s : String) : (ofString s).text = s := by
  simp [text, ofString, Function.comp_def]

theorem ofString_inj {s t : String} : ofString s = ofString t ↔ s = t :=
  ⟨fun h => by simpa using congrArg text h, fun h => h ▸ rfl⟩

theorem mapM_char? {codes : List Nat} {cs : List Char} : codes.mapM char? = some cs ↔ codes = cs.map Char.toNat := by
  induction codes generalizing cs with
  | nil => cases cs <;> simp [pure]
  | cons code rest ih => cases cs <;> simp [List.mapM_cons, Option.bind_eq_some_iff, char?_eq_some, ih]

/-- The only label that spells a text. -/
theorem whole?_eq_some {label : Label} {s : String} : label.whole? = some s ↔ label = ofString s := by
  obtain ⟨codes⟩ := label
  simp only [whole?, ofString, Option.map_eq_some_iff, mapM_char?, Label.mk.injEq]
  constructor
  · rintro ⟨cs, rfl, rfl⟩
    rw [String.toList_ofList]
  · rintro rfl
    exact ⟨_, rfl, String.ofList_toList⟩

@[simp] theorem whole?_ofString (s : String) : (ofString s).whole? = some s := whole?_eq_some.mpr rfl

end Label

end Lamplighter
