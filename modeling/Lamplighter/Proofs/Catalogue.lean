/-
Lamplighter.Proofs.Catalogue — catalogues are read as a whole, or not at all.

* `Catalogue.Reads` — elements that are all read as levels, no two of them with one id.
* `Catalogue.Faulty`, `Catalogue.FirstFault` — what is wrong with one element in the light of those before it, and the
  first element with which something is.
* `Catalogue.parseFrom_spec` — elements are read one after the other, and what has been read is in order.
* `Catalogue.parse_items` — a catalogue is read if and only if its elements are in order, and otherwise its fault is the
  first one, whatever comes after that.

Ids are compared as they are read: the text of a number and the number itself are one id.
-/
import Lamplighter.Catalogue
import Mathlib.Data.List.Nodup

namespace Lamplighter

namespace Catalogue

/-! ## Elements in order and out of order -/

/-- Elements that are all read as levels, no two of them with one id. -/
structure Reads (items : List Json) (levels : List Level) : Prop where
  read : items.map Level.decode = levels.map .good
  distinct : (levels.map Level.id).Nodup

/-- What is wrong with the element at index `i`: it is no level, or its id is that of an element before it. -/
inductive Faulty (items : List Json) (i : Nat) : CatalogueFault → Prop
  | invalid {j : Json} {issues : List Issue} (item : items[i]? = some j) (bad : Level.decode j = .bad issues) :
      Faulty items i (.invalidLevel i issues)
  | repeated {j j' : Json} {level level' : Level} {k : Nat} (item : items[i]? = some j)
      (good : Level.decode j = .good level) (earlier : k < i) (item' : items[k]? = some j')
      (good' : Level.decode j' = .good level') (same : level'.id = level.id) :
      Faulty items i (.duplicateId level.id i)

/-- The element at index `i` is the first with which something is wrong. -/
structure FirstFault (items : List Json) (i : Nat) (fault : CatalogueFault) : Prop where
  faulty : Faulty items i fault
  first : ∀ k < i, ∀ other, ¬Faulty items k other

variable {items before : List Json} {levels : List Level} {i k : Nat} {fault other : CatalogueFault}

namespace Reads

theorem nil : Reads [] [] := ⟨rfl, List.nodup_nil⟩

/-- One more element. -/
theorem concat (h : Reads items levels) {j : Json} {level : Level} (good : Level.decode j = .good level)
    (fresh : level.id ∉ levels.map Level.id) : Reads (items ++ [j]) (levels ++ [level]) where
  read := by simp [h.read, good]
  distinct := by
    rw [List.map_append, List.map_singleton, List.nodup_append]
    refine ⟨h.distinct, List.nodup_singleton _, fun a there b last => ?_⟩
    rw [List.mem_singleton] at last
    rintro rfl
    exact fresh (last ▸ there)

theorem level_at (h : Reads items levels) {j : Json} (item : items[k]? = some j) :
    ∃ level, levels[k]? = some level ∧ Level.decode j = .good level := by
  have same := congrArg (·[k]?) h.read
  simp only [List.getElem?_map, item, Option.map_some] at same
  obtain ⟨level, there, good⟩ := Option.map_eq_some_iff.mp same.symm
  exact ⟨level, there, good.symm⟩

theorem item_at (h : Reads items levels) {level : Level} (there : levels[k]? = some level) :
    ∃ j, items[k]? = some j ∧ Level.decode j = .good level := by
  have same := congrArg (·[k]?) h.read
  simp only [List.getElem?_map, there, Option.map_some] at same
  exact Option.map_eq_some_iff.mp same

theorem length_eq (h : Reads items levels) : items.length = levels.length := by
  simpa using congrArg List.length h.read

/-- Nothing is wrong with any of them, whatever comes after. -/
theorem not_faulty (h : Reads before levels) (rest : List Json) (inside : k < before.length) :
    ¬Faulty (before ++ rest) k fault := by
  intro faulty
  cases faulty with
  | invalid item bad =>
    rw [List.getElem?_append_left inside] at item
    obtain ⟨level, -, good⟩ := h.level_at item
    rw [good] at bad
    cases bad
  | @repeated j j' level level' k' item good earlier item' good' same =>
    rw [List.getElem?_append_left inside] at item
    rw [List.getElem?_append_left (by omega)] at item'
    obtain ⟨_, there, read⟩ := h.level_at item
    obtain ⟨_, there', read'⟩ := h.level_at item'
    obtain rfl := Checked.good.inj (good.symm.trans read)
    obtain rfl := Checked.good.inj (good'.symm.trans read')
    have apart := List.nodup_iff_getElem?_ne_getElem?.mp h.distinct k' k earlier (by simpa [← h.length_eq])
    simp [there, there', same] at apart

/-- The levels that are read are determined. -/
theorem unique (h : Reads items levels) {levels' : List Level} (h' : Reads items levels') : levels' = levels := by
  have injective : Function.Injective (@Checked.good Level) := fun _ _ => Checked.good.inj
  exact injective.list_map (h'.read.symm.trans h.read)

end Reads

/-- With one element, one thing is wrong. -/
theorem Faulty.unique (h : Faulty items i fault) (h' : Faulty items i other) : other = fault := by
  cases h with
  | invalid item bad =>
    cases h' with
    | invalid item' bad' =>
      obtain rfl := Option.some.inj (item.symm.trans item')
      rw [Checked.bad.inj (bad.symm.trans bad')]
    | repeated item' good' =>
      obtain rfl := Option.some.inj (item.symm.trans item')
      cases bad.symm.trans good'
  | repeated item good =>
    cases h' with
    | invalid item' bad' =>
      obtain rfl := Option.some.inj (item.symm.trans item')
      cases good.symm.trans bad'
    | repeated item' good' =>
      obtain rfl := Option.some.inj (item.symm.trans item')
      rw [Checked.good.inj (good.symm.trans good')]

theorem Faulty.lt_length (h : Faulty items i fault) : i < items.length := by
  cases h with
  | invalid item => exact (List.getElem?_eq_some_iff.mp item).1
  | repeated item => exact (List.getElem?_eq_some_iff.mp item).1

/-- What is wrong with an element does not depend on those after it. -/
theorem Faulty.congr {items' : List Json} (h : Faulty items i fault) (same : ∀ k ≤ i, items'[k]? = items[k]?) :
    Faulty items' i fault := by
  cases h with
  | invalid item bad => exact .invalid ((same i (Nat.le_refl i)).trans item) bad
  | repeated item good earlier item' good' repeated =>
    exact .repeated ((same i (Nat.le_refl i)).trans item) good earlier ((same _ (Nat.le_of_lt earlier)).trans item')
      good' repeated

/-- There is one first fault at most. -/
theorem FirstFault.unique (h : FirstFault items i fault) (h' : FirstFault items k other) : other = fault := by
  rcases Nat.lt_trichotomy i k with before | rfl | after
  · exact absurd h.faulty (h'.first i before _)
  · exact h.faulty.unique h'.faulty
  · exact absurd h'.faulty (h.first k after _)

/-- The first fault remains when the elements after it are replaced or removed. -/
theorem FirstFault.take (h : FirstFault items i fault) (rest : List Json) :
    FirstFault (items.take (i + 1) ++ rest) i fault := by
  have inside := h.faulty.lt_length
  have same (k : Nat) (upto : k ≤ i) : (items.take (i + 1) ++ rest)[k]? = items[k]? := by
    rw [List.getElem?_append_left (by simp; omega), List.getElem?_take_of_lt (by omega)]
  refine ⟨h.faulty.congr same, fun k earlier other faulty => h.first k earlier other (faulty.congr ?_)⟩
  exact fun k' upto => (same k' (by omega)).symm

/-! ## Reading -/

/-- Elements are read one after the other: if those before are in order, then all of them are, or the first with which
something is wrong decides. -/
theorem parseFrom_spec (rest : List Json) (seen : List Int) (reads : Reads before levels)
    (ids : ∀ id, id ∈ seen ↔ id ∈ levels.map Level.id) :
    match parseFrom before.length seen rest with
    | .ok more => Reads (before ++ rest) (levels ++ more)
    | .error fault => ∃ i, FirstFault (before ++ rest) i fault := by
  -- what has been read grows by one element at a time
  induction rest generalizing before levels seen with
  | nil => simpa [parseFrom] using reads
  | cons j rest ih =>
    have item : (before ++ j :: rest)[before.length]? = some j := by simp
    have first : ∀ k < before.length, ∀ other, ¬Faulty (before ++ j :: rest) k other :=
      fun k inside other => reads.not_faulty _ inside
    rw [parseFrom]
    cases read : Level.decode j with
    | bad issues => exact ⟨before.length, .invalid item read, first⟩
    | good level =>
      by_cases repeated : level.id ∈ seen
      · simp only [if_pos repeated]
        obtain ⟨level', there, same⟩ := List.mem_map.mp ((ids _).mp repeated)
        obtain ⟨k, there⟩ := List.mem_iff_getElem?.mp there
        obtain ⟨j', item', read'⟩ := reads.item_at there
        have earlier : k < before.length := (List.getElem?_eq_some_iff.mp item').1
        refine ⟨before.length, .repeated item read earlier ?_ read' same, first⟩
        rwa [List.getElem?_append_left earlier]
      · have fresh : level.id ∉ levels.map Level.id := fun there => repeated ((ids _).mpr there)
        have later := ih (level.id :: seen) (reads.concat read fresh) (by simp [ids, or_comm, eq_comm])
        simp only [if_neg repeated]
        rw [List.length_append, List.length_singleton, List.append_assoc, List.singleton_append] at later
        cases parsed : parseFrom (before.length + 1) (level.id :: seen) rest with
        | ok more => simpa [parsed, Except.map] using later
        | error fault => simpa [parsed, Except.map] using later

theorem parse_spec (items : List Json) :
    match parse (.arr items) with
    | .ok c => Reads items c.levels
    | .error fault => ∃ i, FirstFault items i fault := by
  have spec := parseFrom_spec items [] .nil (by simp)
  simp only [List.nil_append, List.length_nil] at spec
  rw [parse]
  cases parsed : parseFrom 0 [] items with
  | ok levels =>
    rw [parsed] at spec
    exact spec
  | error fault =>
    rw [parsed] at spec
    exact spec

/-- Elements in order have no fault. -/
theorem Reads.not_firstFault (h : Reads items levels) : ¬FirstFault items i fault := by
  intro first
  have faulty := first.faulty
  rw [← List.append_nil items] at faulty
  exact h.not_faulty [] first.faulty.lt_length faulty

theorem parse_of_reads {c : Catalogue} (reads : Reads items c.levels) : parse (.arr items) = .ok c := by
  have spec := parse_spec items
  cases parsed : parse (.arr items) with
  | ok c' =>
    rw [parsed] at spec
    have same : c'.levels = c.levels := reads.unique spec
    obtain ⟨levels⟩ := c
    obtain ⟨levels'⟩ := c'
    obtain rfl : levels' = levels := same
    rfl
  | error fault =>
    rw [parsed] at spec
    obtain ⟨i, first⟩ := spec
    exact absurd first reads.not_firstFault

theorem parse_of_firstFault (first : FirstFault items i fault) : parse (.arr items) = .error fault := by
  have spec := parse_spec items
  cases parsed : parse (.arr items) with
  | ok c =>
    rw [parsed] at spec
    exact absurd first spec.not_firstFault
  | error other =>
    rw [parsed] at spec
    obtain ⟨k, first'⟩ := spec
    rw [first.unique first']

/-- A catalogue is read if and only if each of its elements is a level and no two have one id; then it holds these
levels in their order. Otherwise its fault is that of the first element with which something is wrong, and it stays the
same whatever comes after that element. -/
theorem parse_items (items : List Json) :
    (∀ c, parse (.arr items) = .ok c ↔ Reads items c.levels) ∧
      (∀ fault, parse (.arr items) = .error fault ↔ ∃ i, FirstFault items i fault) ∧
        ∀ i fault, FirstFault items i fault → ∀ rest, parse (.arr (items.take (i + 1) ++ rest)) = .error fault := by
  refine ⟨fun c => ⟨fun parsed => ?_, parse_of_reads⟩, fun fault => ⟨fun parsed => ?_, ?_⟩, ?_⟩
  · have spec := parse_spec items
    rwa [parsed] at spec
  · have spec := parse_spec items
    rwa [parsed] at spec
  · rintro ⟨i, first⟩
    exact parse_of_firstFault first
  · intro i fault first rest
    exact parse_of_firstFault (first.take rest)

/-- A level of one cell, with its id written in some way. -/
def cellFile (id : Json) : Json :=
  .obj [("id", id), ("gridSize", .int 1), ("layout", .arr [.obj [("x", .int 0), ("y", .int 0)]]),
    ("start", .obj [("x", .int 0), ("y", .int 0), ("dir", .str "N")]), ("maxCommands", .int 1)]

/-- What it says. -/
def cell (id : Int) : Level where
  id
  size := 1
  layout := [{ position := ⟨0, 0⟩ }]
  start := ⟨⟨0, 0⟩, .north⟩
  maxCommands := 1

theorem parse_items_cells :
    parse (.arr [cellFile (.str "1"), cellFile (.int 2)]) = .ok ⟨[cell 1, cell 2]⟩ ∧
      FirstFault [cellFile (.str "1"), cellFile (.int 2), cellFile (.bool true), .null] 2 (.duplicateId 1 2) ∧
        parse (.arr [cellFile (.str "1"), cellFile (.int 2), cellFile (.bool true)]) = .error (.duplicateId 1 2) := by
  have reads : Reads [cellFile (.str "1"), cellFile (.int 2)] [cell 1, cell 2] := ⟨by rfl, by decide⟩
  have one : Level.decode (cellFile (.str "1")) = .good (cell 1) := by rfl
  have again : Level.decode (cellFile (.bool true)) = .good (cell 1) := by rfl
  have first : FirstFault [cellFile (.str "1"), cellFile (.int 2), cellFile (.bool true), .null] 2 (.duplicateId 1 2) :=
    ⟨.repeated rfl again Nat.zero_lt_two rfl one rfl,
      fun k inside other => reads.not_faulty [cellFile (.bool true), .null] inside⟩
  exact ⟨((parse_items _).1 _).mpr reads, first, (parse_items _).2.2 2 _ first []⟩

end Catalogue

end Lamplighter
