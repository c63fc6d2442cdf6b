/-
Lamplighter.Proofs.Console — the lines that a text is printed on.

* `lines_eq` — to print a text is to cut its characters at the line breaks.
* `lines_intercalate` — lines that are put together, with line breaks between them, come apart again.
* `lines_of_unbroken` — a text without line breaks is printed on one line.

The cutting is done by position. `splitOnAux_of_valid` says what it does in the middle of a text; after that
no proof looks at positions again.
-/
import Lamplighter.Console
import Mathlib.Data.String.Basic

namespace Lamplighter

namespace Console

/-- A text is cut at its line breaks: `before` has been cut, `line` has been looked through, `rest` has not. -/
theorem splitOnAux_of_valid (before line rest : List Char) (cut : List String) :
    String.splitOnAux (String.ofList (before ++ line ++ rest)) "\n" ⟨String.utf8Len before⟩
        ⟨String.utf8Len before + String.utf8Len line⟩ 0 cut =
      cut.reverse ++ (List.splitOnPPrepend (· == '\n') rest line.reverse).map String.ofList := by
  induction rest generalizing before line cut with
  | nil =>
    have ended : String.Pos.Raw.atEnd (String.ofList (before ++ line ++ []))
        ⟨String.utf8Len before + String.utf8Len line⟩ = true := by
      rw [← String.utf8Len_append]
      exact (String.atEnd_of_valid (before ++ line) []).mpr rfl
    rw [String.splitOnAux, if_pos ended, String.extract_of_valid]
    simp
  | cons c rest ih =>
    have going : ¬ String.Pos.Raw.atEnd (String.ofList (before ++ line ++ c :: rest))
        ⟨String.utf8Len before + String.utf8Len line⟩ = true := by
      rw [← String.utf8Len_append, String.atEnd_of_valid]
      exact List.cons_ne_nil c rest
    have here : String.Pos.Raw.get (String.ofList (before ++ line ++ c :: rest))
        ⟨String.utf8Len before + String.utf8Len line⟩ = c := by
      rw [← String.utf8Len_append, String.get_of_valid]
      rfl
    have next : String.Pos.Raw.next (String.ofList (before ++ line ++ c :: rest))
        ⟨String.utf8Len before + String.utf8Len line⟩ = ⟨String.utf8Len before + String.utf8Len (line ++ [c])⟩ := by
      rw [← String.utf8Len_append, String.next_of_valid]
      simp [Nat.add_assoc]
    have separator : String.Pos.Raw.get "\n" 0 = '\n' ∧ String.Pos.Raw.next "\n" 0 = ⟨1⟩ ∧
        String.Pos.Raw.atEnd "\n" ⟨1⟩ = true := by decide
    rw [String.splitOnAux, if_neg going, here, separator.1, List.splitOnPPrepend_cons_eq_if]
    dsimp only
    rw [next, separator.2.1, if_pos separator.2.2]
    by_cases broken : (c == '\n') = true
    · obtain rfl : c = '\n' := eq_of_beq broken
      -- the line ends before the line break, which is one byte long
      have ends : String.Pos.Raw.unoffsetBy ⟨String.utf8Len before + String.utf8Len (line ++ ['\n'])⟩ ⟨1⟩ =
          ⟨String.utf8Len before + String.utf8Len line⟩ := by
        rw [String.utf8Len_append]
        rfl
      have later := ih (before ++ line ++ ['\n']) [] (String.ofList line :: cut)
      rw [if_pos broken, if_pos broken, ends, String.extract_of_valid]
      simpa [Nat.add_assoc] using later
    · have later := ih before (line ++ [c]) cut
      rw [← List.append_assoc, List.append_assoc (before ++ line), List.singleton_append] at later
      rw [if_neg broken, if_neg broken]
      refine (congrArg (String.splitOnAux _ _ _ · _ _) next).trans (later.trans ?_)
      rw [List.reverse_append]
      rfl

/-- A text is printed on lines that are its characters, cut at the line breaks. -/
theorem lines_eq (text : String) : lines text = (text.toList.splitOn '\n').map String.ofList := by
  have whole := splitOnAux_of_valid [] [] text.toList []
  simp only [List.nil_append, String.ofList_toList] at whole
  exact whole

/-- Lines that are put together come apart again. -/
theorem lines_intercalate {texts : List String} (unbroken : ∀ text ∈ texts, '\n' ∉ text.toList)
    (some : texts ≠ []) : lines ("\n".intercalate texts) = texts := by
  have apart : ∀ cs ∈ texts.map String.toList, '\n' ∉ cs := by
    intro cs among
    obtain ⟨text, there, rfl⟩ := List.mem_map.mp among
    exact unbroken text there
  have cut : (['\n'].intercalate (texts.map String.toList)).splitOn '\n' = texts.map String.toList :=
    List.splitOn_intercalate '\n' apart (by simpa using some)
  rw [lines_eq, String.toList_intercalate]
  refine (congrArg (List.map String.ofList) cut).trans ?_
  simp [Function.comp_def]

/-- A text without line breaks is printed on one line. -/
theorem lines_of_unbroken {text : String} (unbroken : '\n' ∉ text.toList) : lines text = [text] := by
  rw [lines_eq, List.splitOn_eq_singleton unbroken, List.map_singleton, String.ofList_toList]

theorem length_lines_of_unbroken {text : String} (unbroken : '\n' ∉ text.toList) :
    (lines text).length = 1 := congrArg List.length (lines_of_unbroken unbroken)

end Console

end Lamplighter
