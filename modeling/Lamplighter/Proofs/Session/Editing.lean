/-
Lamplighter.Proofs.Session.Editing — what adding a block and removing one do to the program of a session.

* `Block.ofPalette_ok` — a block that an editor offers has nothing below it.
* `Session.add_eq_ok_some`, `Session.remove_eq_true` — all that a successful addition and removal tell;
  `Session.added_of_add` — what the program is then.
* `Session.remove_exact` — removing takes out one block, with all that is below it, and nothing else.
* `Session.remove_added` — removing a block undoes its addition, as far as any run can tell.
-/
import Lamplighter.Proofs.Run.Shallow
import Lamplighter.Proofs.Session.Refusals

namespace Lamplighter

/-! ## Blocks that are offered -/

/-- A block that an editor offers has the id that it is given, and nothing below it. -/
theorem Block.ofPalette_ok {kind : Json} {id : String} {b : Block} (made : ofPalette kind id = .ok b) :
    b.id = id ∧ b.children.getD [] = [] := by
  have command (made : makeCommand kind id = .ok b) : b.id = id ∧ b.children.getD [] = [] := by
    unfold makeCommand at made
    cases read : Decode.nullable Decode.string kind with
    | good c =>
      rw [read] at made
      obtain rfl := Except.ok.inj made
      exact ⟨rfl, rfl⟩
    | bad issues =>
      rw [read] at made
      cases made
  unfold ofPalette at made
  split at made
  · split at made
    · obtain rfl := Except.ok.inj made
      exact ⟨rfl, rfl⟩
    · split at made
      · obtain rfl := Except.ok.inj made
        exact ⟨rfl, rfl⟩
      · exact command made
  · exact command made

/-- It is counted as one block. -/
theorem Block.size_ofPalette {kind : Json} {id : String} {b : Block} (made : ofPalette kind id = .ok b) :
    b.size = 1 := by
  rw [b.size_eq, (ofPalette_ok made).2]
  rfl

/-! ## Editing a session -/

namespace Session

variable {s t : Session} {wanted : Except Invalid Block} {parent : Option String} {b : Block}

/-- A block that can be had is added where a level is loaded that allows for one more, outside runs. -/
theorem add_eq_ok_some (added : s.add wanted parent = (.ok (some b), t)) :
    wanted = .ok b ∧ s.running = false ∧ (∃ level, s.level? = some level ∧ s.length < level.maxCommands) ∧
      ∃ program, t = { s with program } ∧
        (parent = none ∧ program = s.program ++ [b] ∨
          ∃ place container, parent = some place ∧ Program.find? place s.program = some container ∧
            container.kind ≠ .command ∧ Program.modify? place (Block.addChild b) s.program = some program) := by
  unfold add at added
  cases room : s.hasRoom with
  | false => simp [room] at added
  | true =>
    obtain ⟨resting, budget⟩ := hasRoom_eq_true.mp room
    simp only [room, if_true] at added
    cases wanted with
    | error invalid => cases added
    | ok b' =>
      cases parent with
      | none =>
        cases added
        exact ⟨rfl, resting, budget, _, rfl, .inl ⟨rfl, rfl⟩⟩
      | some place =>
        cases found : Program.find? place s.program with
        | none => simp [found] at added
        | some container =>
          by_cases plain : container.kind = .command
          · simp [found, plain] at added
          simp only [found, if_neg plain] at added
          cases added
          obtain ⟨program, changed⟩ := Program.exists_modify? place found (Block.addChild b)
          refine ⟨rfl, resting, budget, program, ?_, .inr ⟨place, container, rfl, found, plain, changed⟩⟩
          rw [changed, Option.getD_some]

theorem added_of_add (added : s.add wanted parent = (.ok (some b), t)) :
    Program.Added b s.program parent t.program := by
  obtain ⟨-, -, -, program, rfl, placed⟩ := add_eq_ok_some added
  rcases placed with ⟨rfl, rfl⟩ | ⟨place, container, rfl, found, holds, changed⟩
  · exact .root
  · exact .of_modify? found holds changed

/-- With a block that an editor offers, the program is longer by one. -/
theorem length_of_add {kind : Json} {id : String}
    (added : s.add (Block.ofPalette kind id) parent = (.ok (some b), t)) : t.length = s.length + 1 := by
  have made := (add_eq_ok_some added).1
  rw [← Block.size_ofPalette made]
  exact (added_of_add added).size_eq

/-- Outside runs, a block is removed from a session exactly if it is removed from the program. -/
theorem remove_eq_true {id : String} (resting : s.running = false) :
    s.remove id = (true, t) ↔ ∃ program, Program.erase? id s.program = some program ∧ t = { s with program } := by
  rw [remove_of_resting resting]
  cases Program.erase? id s.program with
  | none => simp
  | some program => simp [eq_comm]

/-- Removing is exact. Outside runs, a block is removed exactly if one is found, and one is found exactly if some block
has the id. Then one block that has the id, with all that is below it, is missing from the blocks in preorder, and the
length says so. The blocks before it keep their own fields, and also what is below them unless it was there; those after
it are the same. Where no two blocks share an id, the block is the one that was found, and its id is not found again. -/
theorem remove_exact (resting : s.running = false) (id : String) :
    ((∃ t, s.remove id = (true, t)) ↔ ∃ b, Program.find? id s.program = some b) ∧
      ((∃ b, Program.find? id s.program = some b) ↔ ∃ b ∈ Program.blocks s.program, b.id = id) ∧
      ∀ t, s.remove id = (true, t) → ∃ before b, b.id = id ∧ t = { s with program := t.program } ∧
        Program.Swapped before b [] s.program t.program ∧ s.length = t.length + b.size ∧
        ((Program.ids s.program).Nodup →
          Program.find? id s.program = some b ∧ Program.find? id t.program = none) := by
  have found_iff : (∃ b, Program.find? id s.program = some b) ↔ id ∈ Program.ids s.program := by
    rw [← Option.ne_none_iff_exists', ne_eq, Program.find?_eq_none, not_not]
  have removed_iff : (∃ t, s.remove id = (true, t)) ↔ id ∈ Program.ids s.program := by
    have kept : (s.remove id).1 ≠ false ↔ id ∈ Program.ids s.program := by
      rw [ne_eq, remove_eq_false, resting]
      simp
    rw [← kept]
    rcases s.remove id with ⟨_ | _, t⟩ <;> simp
  refine ⟨removed_iff.trans found_iff.symm, found_iff.trans ?_, fun t removed => ?_⟩
  · simp [Program.ids_eq]
  · obtain ⟨program, erased, rfl⟩ := (remove_eq_true resting).mp removed
    obtain ⟨before, b, carried, swapped⟩ := Program.erase?_swapped erased
    refine ⟨before, b, carried, rfl, swapped, swapped.size_add, fun distinct => ?_⟩
    rw [← carried]
    exact swapped.of_nodup distinct

/-- A session whose program has two blocks with one id: the first is found, at the bottom of the program, and the second
is removed, at its root. -/
def namesakes : Session :=
  { ready with program :=
      [.ofLoop (some 2) [.ofColor none [.ofCommand none "twin"] "inner"] "outer",
        .ofLoop none [.ofCommand none "leaf"] "twin"] }

theorem remove_exact_namesakes :
    namesakes.running = false ∧ Program.find? "twin" namesakes.program = some (.ofCommand none "twin") ∧
      ∃ t, namesakes.remove "twin" = (true, t) ∧ Program.find? "leaf" t.program = none ∧ ∃ before b, b.id = "twin" ∧
        Program.Swapped before b [] namesakes.program t.program ∧ namesakes.length = t.length + b.size := by
  have resting : namesakes.running = false := rfl
  obtain ⟨removed, -, whole⟩ := remove_exact resting "twin"
  obtain ⟨t, gone⟩ := removed.mpr ⟨_, rfl⟩
  obtain ⟨before, b, carried, -, swapped, length, -⟩ := whole t gone
  refine ⟨resting, rfl, t, gone, ?_, before, b, carried, swapped, length⟩
  cases gone
  rfl

/-- Removing undoes adding. If a session adds a block that an editor offers, under an id that no block has yet, then the
program is longer by one block, which is at its end or the last child of the first block in preorder that has the
parent's id. Removing that id is not refused, and gives the program back, but for an empty list of children where the
parent's was missing. No run can tell: from any state, before anyone who watches, it does the same to that state, and ends
in the same way. -/
theorem remove_added {kind : Json} {id : String} {parent : Option String}
    (added : s.add (Block.ofPalette kind id) parent = (.ok (some b), t)) (fresh : id ∉ Program.ids s.program) :
    b.id = id ∧ t = { s with program := t.program } ∧ t.length = s.length + 1 ∧
      Program.Added b s.program parent t.program ∧
      ∃ u, t.remove id = (true, u) ∧ u = { s with program := u.program } ∧
        Program.Restored s.program parent u.program ∧
        ∀ {σ : Type} (setup : Setup) (around : Surroundings σ) (path : Path) (m : Stage σ),
          setup.play around u.program path m = setup.play around s.program path m := by
  have shape := added_of_add added
  have grown := length_of_add added
  obtain ⟨made, resting, -, program, rfl, placed⟩ := add_eq_ok_some added
  obtain ⟨carried, -⟩ := Block.ofPalette_ok made
  subst carried
  refine ⟨rfl, rfl, grown, shape, ?_⟩
  rcases placed with ⟨rfl, rfl⟩ | ⟨place, container, rfl, found, -, changed⟩
  · refine ⟨s, ?_, rfl, .root, fun _ _ _ _ => rfl⟩
    exact (remove_eq_true (s := { s with program := s.program ++ [b] }) resting).mpr
      ⟨s.program, Program.erase?_concat fresh, rfl⟩
  · obtain ⟨restored, erased, opened, same⟩ := Program.Restored.of_modify? found changed fresh
    refine ⟨{ s with program := restored }, ?_, rfl, same, ?_⟩
    · exact (remove_eq_true (s := { s with program }) resting).mpr ⟨restored, erased, rfl⟩
    · intro σ setup around path m
      exact congrFun ((setup.crew_shallow around).runFrom_opened opened path 0) m

/-- A session whose program is a loop without a list of children, and the session after a step has been added to it. -/
def hollow : Session := { ready with program := [⟨"loop", .loop, none, some 2, none, none⟩] }

def hollowFilled : Session :=
  { hollow with program := [.ofLoop (some 2) [.ofCommand (some Command.light.name) "new"] "loop"] }

theorem remove_added_hollow :
    hollow.add (Block.ofPalette (.str Command.light.name) "new") (some "loop")
        = (.ok (some (.ofCommand (some Command.light.name) "new")), hollowFilled) ∧
      "new" ∉ Program.ids hollow.program ∧ hollowFilled.length = 2 ∧
      ∃ u, hollowFilled.remove "new" = (true, u) ∧ Program.Restored hollow.program (some "loop") u.program ∧
        ∀ (around : Surroundings Unit) (m : Stage Unit),
          (hollow.setup cell).play around u.program [] m = (hollow.setup cell).play around hollow.program [] m := by
  have added : hollow.add (Block.ofPalette (.str Command.light.name) "new") (some "loop")
      = (.ok (some (.ofCommand (some Command.light.name) "new")), hollowFilled) := by rfl
  have fresh : "new" ∉ Program.ids hollow.program := by decide +kernel
  obtain ⟨-, -, length, -, u, removed, -, restored, alike⟩ := remove_added added fresh
  exact ⟨added, fresh, length, u, removed, restored, fun around m => alike (hollow.setup cell) around [] m⟩

end Session

end Lamplighter
