/-
Lamplighter.Proofs.Session.Navigation — from the first level of a game to its last.

* `Catalogue.ids_ascending`, `Catalogue.mem_ids` — the ids of a catalogue in ascending order, all of them and each one
  once, in whatever order the levels are.
* `Catalogue.nextId?_eq_some`, `Catalogue.nextId?_eq_none` — the id that follows any number at all is the least one
  above it; `Catalogue.nextId?_getElem` — so one id follows another as in the ascending list.
* `Session.Stop`, `Session.Stop.advance` — a session at one of the levels, and what a request for the next one does.
* `Session.tour` — such requests, from the first level on, lead through all of the levels and then no further.
-/
import Lamplighter.Proofs.Level
import Lamplighter.Proofs.Session.Calls
import Mathlib.Order.Bounds.Basic

namespace Lamplighter

/-! ## Ids in ascending order -/

namespace Catalogue

variable {c : Catalogue} {i k : Int}

theorem mem_ids : i ∈ c.ids ↔ ∃ level ∈ c.levels, level.id = i := by
  simp [ids]

theorem length_ids (c : Catalogue) : c.ids.length = c.levels.length := by
  simp [ids]

/-- No two levels of a catalogue that has been read have one id. -/
theorem distinct_of_parse {j : Json} (read : parse j = .ok c) : (c.levels.map Level.id).Nodup := by
  cases j with
  | arr items => exact (((parse_items items).1 c).mp read).distinct
  | _ => cases read

/-- If no two levels have one id, then each id is less than the next. -/
theorem ids_ascending (distinct : (c.levels.map Level.id).Nodup) : c.ids.Pairwise (· < ·) := by
  have sorted : c.ids.Pairwise (· ≤ ·) := by
    have merged := @List.pairwise_mergeSort Int (fun a b => a ≤ b) (by simp; omega) (by simp; omega)
      (c.levels.map Level.id)
    simpa [ids] using merged
  have apart : c.ids.Nodup := (List.mergeSort_perm _ _).nodup_iff.mpr distinct
  exact (sorted.and apart).imp fun both => lt_of_le_of_ne both.1 both.2

/-- The id that follows a number is the least one above it. -/
theorem nextId?_eq_some : c.nextId? i = some k ↔ IsLeast {k | k ∈ c.ids ∧ i < k} k := by
  rw [nextId?, List.min?_eq_some_iff]
  simp [IsLeast, mem_lowerBounds, mem_ids]

/-- No id follows a number that no id is above. -/
theorem nextId?_eq_none : c.nextId? i = none ↔ ∀ k ∈ c.ids, k ≤ i := by
  rw [nextId?, List.min?_eq_none_iff]
  simp [mem_ids]

/-- After an id comes the next one in ascending order, and none after the last. -/
theorem nextId?_getElem (ascending : c.ids.Pairwise (· < ·)) {n : Nat} (inside : n < c.ids.length) :
    c.nextId? c.ids[n] = c.ids[n + 1]? := by
  have order := List.pairwise_iff_getElem.mp ascending
  -- whatever is above the id at `n` comes after it
  have after : ∀ m (there : m < c.ids.length), c.ids[n] < c.ids[m] → n + 1 ≤ m := by
    intro m there above
    by_contra early
    rcases Nat.lt_or_ge m n with before | same
    · have below := order m n there inside before
      omega
    · have : m = n := by omega
      subst this
      omega
  by_cases last : n + 1 < c.ids.length
  · rw [List.getElem?_eq_getElem last, nextId?_eq_some]
    refine ⟨⟨List.getElem_mem last, order n (n + 1) inside last (by omega)⟩, ?_⟩
    rintro k ⟨listed, above⟩
    obtain ⟨m, there, rfl⟩ := List.mem_iff_getElem.mp listed
    rcases Nat.eq_or_lt_of_le (after m there above) with rfl | later
    · exact le_refl _
    · exact (order (n + 1) m last there later).le
  · rw [List.getElem?_eq_none (by omega), nextId?_eq_none]
    intro k listed
    obtain ⟨m, there, rfl⟩ := List.mem_iff_getElem.mp listed
    by_contra above
    have := after m there (by omega)
    omega

theorem get?_ne_none : c.get? i ≠ none ↔ i ∈ c.ids := by
  simp [get?, mem_ids]

end Catalogue

/-! ## Tours -/

namespace Session

/-- A session after a request for the next level, whatever is answered. -/
def advance (s : Session) : Session := (Call.next.answer s).2.1

/-- A session at rest at the level with the id at index `n`, in ascending order. -/
structure Stop (c : Catalogue) (n : Nat) (s : Session) : Prop where
  house : s.house.catalogue = c
  resting : s.running = false
  inside : n < c.ids.length
  there : s.levelId = some c.ids[n]

section

variable {c : Catalogue} {n : Nat} {s : Session}

/-- A level of the catalogue can be loaded outside runs. -/
theorem Stop.load (house : s.house.catalogue = c) (resting : s.running = false) (inside : n < c.ids.length) :
    ∃ t, s.load c.ids[n] = (.ok true, t) ∧ Stop c n t := by
  have found : c.get? c.ids[n] ≠ none := Catalogue.get?_ne_none.mpr (List.getElem_mem inside)
  obtain ⟨level, found⟩ := Option.ne_none_iff_exists'.mp found
  have loaded : s.load c.ids[n] = (.ok true,
      { s with levelId := some c.ids[n], program := [], status := .idle }.resetAttempt level) := by
    simp [Session.load, resting, house, found, setStatus_idle]
  exact ⟨_, loaded, { house, resting, inside, there := rfl }⟩

namespace Stop

/-- There is a next level as long as the id is not the last one. -/
theorem hasNext (h : Stop c n s) (ascending : c.ids.Pairwise (· < ·)) :
    s.hasNext = decide (n + 1 < c.ids.length) := by
  have next := Catalogue.nextId?_getElem ascending h.inside
  by_cases last : n + 1 < c.ids.length
  · simp [Session.hasNext, h.there, h.house, next, last]
  · simp [Session.hasNext, h.there, h.house, next, last]

/-- A request for the next level succeeds at all levels but the last, and leads to the level with the next id. At the
last level it leads nowhere. -/
theorem advance (h : Stop c n s) (ascending : c.ids.Pairwise (· < ·)) :
    (Call.next.answer s).1 = .yesNo (decide (n + 1 < c.ids.length)) ∧
      Stop c (min (n + 1) (c.ids.length - 1)) s.advance := by
  have next : s.levelId.bind s.house.catalogue.nextId? = c.ids[n + 1]? := by
    rw [h.there, h.house, Option.bind_some, Catalogue.nextId?_getElem ascending h.inside]
  by_cases last : n + 1 < c.ids.length
  · obtain ⟨t, loaded, stop⟩ := Stop.load h.house h.resting last
    have came : s.next = (.ok true, t) := by
      simp only [Session.next, next, List.getElem?_eq_getElem last, loaded]
    have later : min (n + 1) (c.ids.length - 1) = n + 1 := by omega
    simp only [Session.advance, Call.answer, came, Call.arrival, later, last, decide_true]
    exact ⟨trivial, stop⟩
  · have came : s.next = (.ok false, s) := by
      simp only [Session.next, next, List.getElem?_eq_none (show c.ids.length ≤ n + 1 by omega)]
    have same : min (n + 1) (c.ids.length - 1) = n := by
      have := h.inside
      omega
    simp only [Session.advance, Call.answer, came, Call.arrival, same, last, decide_false]
    exact ⟨trivial, h⟩

/-- Requests for the next level, from the first level on, lead through the levels in ascending order of their ids. -/
theorem iterate (h : Stop c 0 s) (ascending : c.ids.Pairwise (· < ·)) (m : Nat) :
    Stop c (min m (c.ids.length - 1)) (Session.advance^[m] s) := by
  induction m with
  | zero => simpa using h
  | succ m ih =>
    have further := (ih.advance ascending).2
    rw [Function.iterate_succ_apply']
    rwa [show min (min m (c.ids.length - 1) + 1) (c.ids.length - 1) = min (m + 1) (c.ids.length - 1) by omega] at further

end Stop

end

/-- In a catalogue that has been read, the ids come in ascending order, each of them once, and the id that follows any
number is the least one above it. A session at rest that has loaded the first level visits all of them: as many
requests for the next level succeed as there are further levels, each leads to the level with the next id, and from the
last level on every request is refused. Before each request, there is said to be a next level exactly if it succeeds. -/
theorem tour {j : Json} {c : Catalogue} (read : Catalogue.parse j = .ok c) (filled : c.levels ≠ []) :
    c.ids.Pairwise (· < ·) ∧ (∀ i, i ∈ c.ids ↔ ∃ level ∈ c.levels, level.id = i) ∧
      (∀ i k, c.nextId? i = some k ↔ IsLeast {k | k ∈ c.ids ∧ i < k} k) ∧
      (∀ i, c.nextId? i = none ↔ ∀ k ∈ c.ids, k ≤ i) ∧
      ∃ first, c.ids.head? = some first ∧ ∀ s : Session, s.house.catalogue = c → s.running = false →
        ((Call.load (some first)).answer s).1 = .yesNo true ∧
        ∀ n, let t := advance^[n] ((Call.load (some first)).answer s).2.1
          t.levelId = c.ids[min n (c.size - 1)]? ∧ t.hasNext = decide (n + 1 < c.size) ∧
            (Call.next.answer t).1 = .yesNo (decide (n + 1 < c.size)) := by
  have ascending := Catalogue.ids_ascending (Catalogue.distinct_of_parse read)
  have size : c.ids.length = c.size := c.length_ids
  have inside : 0 < c.ids.length := by
    rw [c.length_ids]
    exact List.length_pos_of_ne_nil filled
  refine ⟨ascending, fun i => Catalogue.mem_ids, fun i k => Catalogue.nextId?_eq_some,
    fun i => Catalogue.nextId?_eq_none, c.ids[0], ?_, ?_⟩
  · rw [List.head?_eq_getElem?, List.getElem?_eq_getElem inside]
  · intro s house resting
    obtain ⟨t, loaded, stop⟩ := Stop.load house resting inside
    have came : (Call.load (some c.ids[0])).answer s = (.yesNo true, t, arrivalRemarks t) := by
      simp only [Call.answer, loaded, Call.arrival]
    rw [came]
    refine ⟨rfl, fun n => ?_⟩
    have here := stop.iterate ascending n
    have more : decide (min n (c.ids.length - 1) + 1 < c.ids.length) = decide (n + 1 < c.ids.length) := by
      rw [decide_eq_decide]
      omega
    have next := (here.advance ascending).1
    have known := here.hasNext ascending
    rw [more] at next known
    rw [← size]
    exact ⟨by rw [here.there, List.getElem?_eq_getElem here.inside], known, next⟩

/-- A session that has won at the middle one of three levels, which are out of order in their file. -/
def wanderer : Session :=
  { start ⟨⟨[Catalogue.cell 40, Catalogue.cell (-7), Catalogue.cell 3]⟩, .standard 1, 10, false⟩ 0 with
    levelId := some 3, status := .win, program := [.ofCommand none], lit := [⟨0, 0⟩] }

theorem ids_wanderer : wanderer.house.catalogue.ids = [-7, 3, 40] := by
  have listed : wanderer.house.catalogue.levels.map Level.id = [40, -7, 3] := rfl
  rw [Catalogue.ids, listed]
  simp [List.mergeSort, List.MergeSort.Internal.splitInTwo]

theorem tour_wanderer :
    Catalogue.parse (.arr ([40, -7, 3].map fun id => Catalogue.cellFile (.int id))) = .ok wanderer.house.catalogue ∧
      ((Call.load (some (-7))).answer wanderer).1 = .yesNo true ∧
      (advance^[2] ((Call.load (some (-7))).answer wanderer).2.1).levelId = some 40 ∧
      (Call.next.answer (advance^[5] ((Call.load (some (-7))).answer wanderer).2.1)).1 = .yesNo false := by
  have read : Catalogue.parse (.arr ([40, -7, 3].map fun id => Catalogue.cellFile (.int id))) =
      .ok wanderer.house.catalogue := by rfl
  obtain ⟨-, -, -, -, first, head, visits⟩ := tour read (by simp [wanderer, start])
  rw [ids_wanderer] at head visits
  obtain rfl : -7 = first := Option.some.inj head
  obtain ⟨loaded, walk⟩ := visits wanderer rfl rfl
  exact ⟨read, loaded, (walk 2).1, (walk 5).2.2⟩

end Session

end Lamplighter
