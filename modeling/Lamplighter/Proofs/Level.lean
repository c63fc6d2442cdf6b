/-
Lamplighter.Proofs.Level — what levels are like whose layouts have no fault.

* `Level.tileFault?_eq_none`, `goalFault?_eq_none`, `startFault?_eq_none` — what each of the checks lets pass.
* `Level.layoutFault?_eq_none` — a layout without fault is well-formed, and the other way round.
* `Catalogue.accepted_of_parse` — the levels of a catalogue that has been read have no faults.
-/
import Lamplighter.Proofs.Catalogue

namespace Lamplighter

namespace Level

/-- Tiles pass that lie in the grid, on cells of their own. -/
theorem tileFault?_eq_none {size : Int} {seen : List Position} {layout : List Tile} :
    tileFault? size seen layout = none ↔
      (∀ t ∈ layout, Inside size t.position) ∧ (layout.map Tile.position).Nodup ∧
        ∀ t ∈ layout, t.position ∉ seen := by
  induction layout generalizing seen with
  | nil => simp [tileFault?]
  | cons t rest ih =>
    unfold tileFault?
    by_cases inside : Inside size t.position
    · by_cases fresh : t.position ∈ seen
      · simp [inside, fresh]
      · rw [if_neg (not_not_intro inside), if_neg fresh, ih]
        simp only [List.mem_cons, List.map_cons, List.nodup_cons, List.mem_map, not_or, forall_eq_or_imp]
        constructor
        · rintro ⟨all, nodup, unseen⟩
          refine ⟨⟨inside, all⟩, ⟨?_, nodup⟩, fresh, fun u hu => (unseen u hu).2⟩
          rintro ⟨u, hu, same⟩
          exact (unseen u hu).1 same
        · rintro ⟨⟨-, all⟩, ⟨own, nodup⟩, -, unseen⟩
          exact ⟨all, nodup, fun u hu => ⟨fun same => own ⟨u, hu, same⟩, unseen u hu⟩⟩
    · simp [inside]

/-- Goals pass that are on tiles. -/
theorem goalFault?_eq_none {layout : List Tile} {goals : List Position} :
    goalFault? layout goals = none ↔ ∀ g ∈ goals, g ∈ layout.map Tile.position := by
  simp [goalFault?]

/-- A start passes that is on a tile that is not void. -/
theorem startFault?_eq_none {layout : List Tile} {start : Position} :
    startFault? layout start = none ↔ ∃ t, tileOn? layout start = some t ∧ t.kind ≠ .void := by
  unfold startFault? tileOn?
  split
  · rename_i none
    simp [none]
  · rename_i t found
    simp [found]

/-- On cells of their own, a tile is the one that is found on its cell. -/
theorem tileOn?_of_mem {layout : List Tile} (nodup : (layout.map Tile.position).Nodup) {t : Tile} (there : t ∈ layout) :
    tileOn? layout t.position = some t := by
  induction layout with
  | nil => cases there
  | cons u rest ih =>
    rw [List.map_cons, List.nodup_cons] at nodup
    rcases List.mem_cons.mp there with rfl | later
    · exact List.find?_cons_of_pos (by simp)
    · have other : u.position ≠ t.position := fun same => nodup.1 (same ▸ List.mem_map_of_mem later)
      rw [tileOn?, List.find?_cons_of_neg (by simpa using other)]
      exact ih nodup.2 later

theorem mem_of_tileOn? {layout : List Tile} {p : Position} {t : Tile} (found : tileOn? layout p = some t) :
    t ∈ layout ∧ t.position = p :=
  ⟨List.mem_of_find?_eq_some found, by simpa using List.find?_some found⟩

/-- If tiles are on cells of their own, a start passes that is on any tile that is not void. -/
theorem startFault?_eq_none_of_nodup {layout : List Tile} (nodup : (layout.map Tile.position).Nodup)
    {start : Position} :
    startFault? layout start = none ↔ ∃ t ∈ layout, t.position = start ∧ t.kind ≠ .void := by
  rw [startFault?_eq_none]
  constructor
  · rintro ⟨t, found, solid⟩
    obtain ⟨there, position⟩ := mem_of_tileOn? found
    exact ⟨t, there, position, solid⟩
  · rintro ⟨t, there, rfl, solid⟩
    exact ⟨t, tileOn?_of_mem nodup there, solid⟩

/-- A layout without fault is well-formed, and the other way round. -/
theorem layoutFault?_eq_none {level : Level} : level.layoutFault? = none ↔ level.WellFormed := by
  unfold layoutFault?
  simp only [Option.orElse_eq_orElse, Option.orElse_eq_or, Option.or_eq_none_iff, tileFault?_eq_none,
    goalFault?_eq_none]
  constructor
  · rintro ⟨⟨inside, distinct, -⟩, goals, start⟩
    exact ⟨inside, distinct, goals, (startFault?_eq_none_of_nodup distinct).mp start⟩
  · rintro ⟨inside, distinct, goals, start⟩
    exact ⟨⟨inside, distinct, by simp⟩, goals, (startFault?_eq_none_of_nodup distinct).mpr start⟩

/-- A level that has been read has no fault. -/
theorem layoutFault?_of_decode {j : Json} {level : Level} (h : decode j = .good level) : level.layoutFault? = none := by
  unfold decode Decode.model at h
  split at h
  · rename_i members
    unfold Checked.andThen at h
    dsimp only at h
    split at h
    · unfold checkLayout at h
      split at h
      · cases h
      · rename_i read _ none
        cases h
        exact none
    · cases h
  · cases h

end Level

namespace Catalogue

/-- A catalogue of levels whose layouts have no fault. -/
def Accepted (c : Catalogue) : Prop := ∀ level ∈ c.levels, level.layoutFault? = none

/-- The levels of a catalogue that has been read have no faults. -/
theorem accepted_of_parse {j : Json} {c : Catalogue} (h : parse j = .ok c) : c.Accepted := by
  cases j with
  | arr items =>
    have reads := parse_spec items
    rw [h] at reads
    intro level there
    obtain ⟨k, there⟩ := List.mem_iff_getElem?.mp there
    obtain ⟨j, -, read⟩ := reads.item_at there
    exact Level.layoutFault?_of_decode read
  | _ => cases h

theorem mem_of_get? {c : Catalogue} {id : Int} {level : Level} (h : c.get? id = some level) : level ∈ c.levels :=
  List.mem_of_find?_eq_some h

end Catalogue

end Lamplighter
