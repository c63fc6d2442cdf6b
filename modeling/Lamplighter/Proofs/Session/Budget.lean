/-
Lamplighter.Proofs.Session.Budget — how long a program can get.

* `Sight.install`, `installed` — the size of the program that has last been put in whole since the level was loaded.
* `Within` — a program within its level's budget, or within what has been put in whole if that is larger.
* `Within.answer` — a call keeps a program within these bounds; `Life.thrifty` — and so does a whole life, in which
  calls are made also while a run is going on.
* `budget_of_life` — the program of a session is within its bounds at every moment, and a block can be added exactly
  where the budget is not spent.
* `add_inPlace` — adding a child in place is adding it to a tree, as long as nothing in the program stands at two
  places; `budget_fails` — what becomes of the budget where a loop does.

Only a program that is put in whole can be longer than its level allows. Blocks are counted wherever they are, and each
addition is of one block: it is refused before the budget is passed.
-/
import Lamplighter.Proofs.Decoding
import Lamplighter.Proofs.Session.Editing
import Lamplighter.Proofs.Session.Recovery
import Lamplighter.Proofs.Session.Steps
import Lamplighter.Proofs.Sharing

namespace Lamplighter

/-- Every level of a catalogue that has been read allows for a block. -/
theorem Catalogue.playable_of_parse {j : Json} {c : Catalogue} (read : parse j = .ok c) :
    ∀ level ∈ c.levels, 1 ≤ level.maxCommands := by
  cases j with
  | arr items =>
    have reads := ((parse_items items).1 c).mp read
    intro level there
    obtain ⟨k, there⟩ := List.mem_iff_getElem?.mp there
    obtain ⟨j, -, good⟩ := reads.item_at there
    exact (Level.Readable.of_decode good).playable
  | _ => cases read

namespace Session

/-! ## Programs that are put in whole -/

namespace Sight

/-- The block that a call asks for. -/
def wanted? : Sight → Option (Except Invalid Block)
  | called (.add wanted _) _ _ => some wanted
  | _ => none

/-- If a block is asked for, it is one that an editor offers. -/
def Offered (x : Sight) : Prop := ∀ wanted ∈ x.wanted?, ∃ kind id, wanted = Block.ofPalette kind id

/-- The size of the last program that has been put in whole, once one more thing has been seen. During a run none is put
in, and when a level is loaded the program is cleared. -/
def install : Sight → Option Nat → Option Nat
  | called (.load _) (.yesNo true) _, _ => none
  | called .next (.yesNo true) _, _ => none
  | called (.setProgram p) _ s, size => if s.running then size else some (Program.size p)
  | _, size => size

end Sight

/-- The size of the last program that has been put in whole since the level was loaded, if one has been. -/
def installed (seen : List Sight) : Option Nat := seen.foldl (fun size x => x.install size) none

@[simp] theorem installed_concat (seen : List Sight) (x : Sight) :
    installed (seen ++ [x]) = x.install (installed seen) := by
  simp [installed]

/-! ## Bounds -/

/-- A session in a house, whose program is within the budget of its level, or else no longer than one that has been put in
whole. -/
structure Within (house : House) (size : Option Nat) (s : Session) : Prop where
  house : s.house = house
  bound : ∀ level, s.level? = some level → (s.length : Int) ≤ max level.maxCommands (size.getD 0 : Nat)

namespace Within

variable {house : House} {size : Option Nat} {s t : Session}

/-- What happens to the rest of a session makes no difference. -/
theorem congr (h : Within house size s) (house' : t.house = s.house) (id : t.levelId = s.levelId)
    (program : t.program = s.program) : Within house size t where
  house := house'.trans h.house
  bound level loaded := by
    rw [length, program]
    exact h.bound level ((level?_congr house' id).symm.trans loaded)

/-- A program that does not grow stays within its bounds. -/
theorem shrink (h : Within house size s) (house' : t.house = s.house) (id : t.levelId = s.levelId)
    (shorter : t.length ≤ s.length) : Within house size t where
  house := house'.trans h.house
  bound level loaded := by
    have bound := h.bound level ((level?_congr house' id).symm.trans loaded)
    omega

/-- An empty program is within any bounds. -/
theorem of_empty (house' : s.house = house) (empty : s.program = []) : Within house size s where
  house := house'
  bound level _ := by
    have short : s.length = 0 := by rw [length, empty]; rfl
    omega

/-- A level is loaded with an empty program, and whatever bounds there were are gone. -/
theorem load (h : Within house size s) {c : Call} (id : Int)
    (told : ∀ b t, (Sight.called c (.yesNo b) t).install size = if b then none else size) :
    Within house ((Sight.called c (Call.arrival (s.load id)).1 (Call.arrival (s.load id)).2.1).install size)
      (Call.arrival (s.load id)).2.1 := by
  rcases load_cases id s with e | ⟨-, level, -, e⟩
  · simp only [e, Call.arrival, told]
    exact h
  · simp only [e, Call.arrival, told]
    exact of_empty h.house rfl

/-- A block that an editor offers is added within the budget. -/
theorem add (h : Within house size s) {kind : Json} {id : String} {parent : Option String} {b : Block}
    (added : s.add (Block.ofPalette kind id) parent = (.ok (some b), t)) : Within house size t := by
  have grown := length_of_add added
  obtain ⟨-, -, ⟨level, there, room⟩, program, rfl, -⟩ := add_eq_ok_some added
  refine { house := h.house, bound := fun level' loaded => ?_ }
  obtain rfl : level = level' := Option.some.inj (there.symm.trans loaded)
  omega

/-- Asking for a block that an editor offers keeps within the budget, wherever it should be. -/
theorem addAt (h : Within house size s) (kind : Json) (id : String) (parent : Option (Option String)) :
    Within house size (Call.addition (Call.addAt (Block.ofPalette kind id) s parent)).2.1 := by
  have inside (place : Option String) :
      Within house size (Call.addition (s.add (Block.ofPalette kind id) place)).2.1 := by
    rcases add_cases (Block.ofPalette kind id) place s with ⟨-, same⟩ | ⟨-, b, program, e⟩
    · generalize s.add (Block.ofPalette kind id) place = came at same ⊢
      obtain ⟨_ | _, t⟩ := came <;> exact (show t = s from same) ▸ h
    · rw [e]
      exact h.add e
  unfold Call.addAt
  split
  · exact inside none
  · exact inside (some _)
  · split
    · cases Block.ofPalette kind id <;> exact h
    · exact h

/-- Removing a block shortens the program. -/
theorem remove (h : Within house size s) (id : String) : Within house size (s.remove id).2 := by
  cases removed : (s.remove id).1 with
  | false =>
    rw [remove_refused removed]
    exact h
  | true =>
    have resting : s.running = false := by
      by_contra running
      rw [remove_of_running (by simpa using running)] at removed
      cases removed
    obtain ⟨program, erased, left⟩ := (remove_eq_true (t := (s.remove id).2) resting).mp (Prod.ext removed rfl)
    obtain ⟨before, b, -, swapped⟩ := Program.erase?_swapped erased
    have sizes : s.length = Program.size program + b.size := swapped.size_add
    rw [left]
    exact h.shrink rfl rfl (show Program.size program ≤ s.length by omega)

/-- A program that is put in whole sets a bound for itself, unless a run is going on. -/
theorem setProgram (h : Within house size s) (p : Program) :
    Within house (if s.running then size else some (Program.size p)) (s.setProgram p) := by
  unfold Session.setProgram
  cases running : s.running with
  | true => exact h
  | false => exact { house := h.house, bound := fun level _ => Int.le_max_right _ _ }

/-- A program that is cleared is empty, unless a run is going on. -/
theorem clearProgram (h : Within house size s) : Within house size s.clearProgram := by
  unfold Session.clearProgram Session.setProgram
  split
  · exact h
  · exact of_empty h.house rfl

/-- Giving up an attempt leaves the program alone. -/
theorem resetToStart (h : Within house size s) : Within house size s.resetToStart.2 := by
  cases loaded : s.level? with
  | none =>
    rw [resetToStart_of_absent loaded]
    exact h
  | some level =>
    rw [resetToStart_of_loaded loaded]
    refine h.congr ?_ ?_ ?_ <;> simp [resetAttempt]

/-- A call keeps a program within its bounds. -/
theorem answer (h : Within house size s) (c : Call)
    (offered : (Sight.called c (c.answer s).1 (c.answer s).2.1).Offered) :
    Within house ((Sight.called c (c.answer s).1 (c.answer s).2.1).install size) (c.answer s).2.1 := by
  cases c with
  | load id =>
    cases id with
    | none => exact h
    | some id => exact h.load id (fun b t => by cases b <;> rfl)
  | next =>
    rcases s.next_cases with e | ⟨id, e⟩
    · simp only [Call.answer, e]
      exact h
    · simp only [Call.answer, e]
      exact h.load id (fun b t => by cases b <;> rfl)
  | add wanted parent =>
    obtain ⟨kind, id, rfl⟩ := offered wanted rfl
    exact h.addAt kind id parent
  | remove id =>
    cases id with
    | none => exact h
    | some id => exact h.remove id
  | setProgram p =>
    have kept := h.setProgram p
    cases running : s.running <;> simpa [Call.answer, Session.setProgram, Sight.install, running] using kept
  | clearProgram => exact h.clearProgram
  | setSpeed wanted =>
    cases wanted with
    | error why => exact h
    | ok delay => exact h.congr rfl rfl rfl
  | cancel =>
    refine h.congr ?_ ?_ ?_ <;> simp [Call.answer]
  | resetToStart =>
    simp only [Call.answer]
    rw [resetToStart_eq]
    exact h.resetToStart
  | reposition =>
    simp only [Call.answer, Session.reposition]
    split
    · exact h
    · exact h.congr rfl rfl rfl

/-- A run that is resolved has left the program alone. -/
theorem resolved (h : Within house size s) {outcome : Outcome} (resolved : Resolved s.settle outcome t) :
    Within house size t := by
  have settled : Within house size s.settle := h.congr rfl rfl rfl
  cases resolved with
  | cancelled => exact settled.resetToStart
  | failed | won => exact settled.congr rfl rfl rfl

/-- Where nothing has been put in whole, a program is within the budget of its level. -/
theorem le_of_none (h : Within house none s) (playable : ∀ level ∈ house.catalogue.levels, 1 ≤ level.maxCommands) :
    ∀ level, s.level? = some level → (s.length : Int) ≤ level.maxCommands := by
  intro level loaded
  have listed : level ∈ house.catalogue.levels := by
    obtain ⟨id, -, found⟩ := Option.bind_eq_some_iff.mp loaded
    rw [h.house] at found
    exact Catalogue.mem_of_get? found
  have least := playable level listed
  have bound := h.bound level loaded
  rw [Option.getD_none] at bound
  omega

end Within

/-! ## Lives within bounds -/

/-- The program of a session is within its bounds, and always was. -/
structure Thrifty (house : House) (s : Session) (seen : List Sight) : Prop where
  now : Within house (installed seen) s
  ever : ∀ past x, past ++ [x] <+: seen → Within house (installed (past ++ [x])) x.session

/-- As long as no other blocks are asked for than those that an editor offers, the program is within its bounds. -/
def Editing (house : House) (s : Session) (seen : List Sight) : Prop :=
  (∀ x ∈ seen, x.Offered) → Thrifty house s seen

namespace Editing

variable {house : House} {s t : Session} {seen : List Sight}

/-- The session is changed, and the program keeps within its bounds. -/
theorem change (h : Editing house s seen) (kept : ∀ {size}, Within house size s → Within house size t) :
    Editing house t seen :=
  fun offered => { h offered with now := kept (h offered).now }

/-- One more thing is seen, and the program is within the bounds that it leaves. -/
theorem concat (h : Editing house s seen) {x : Sight}
    (kept : x.Offered → ∀ size, Within house size s → Within house (x.install size) x.session) :
    Editing house x.session (seen ++ [x]) := by
  intro offered
  obtain ⟨now, ever⟩ := h (fun y hy => offered y (List.mem_append_left _ hy))
  have within : Within house (installed (seen ++ [x])) x.session := by
    rw [installed_concat]
    exact kept (offered x (List.mem_append_right _ (List.mem_singleton_self _))) _ now
  refine { now := within, ever := fun past y start => ?_ }
  rcases List.prefix_concat_iff.mp start with whole | earlier
  · obtain ⟨rfl, same⟩ := List.append_inj' whole rfl
    obtain rfl := List.singleton_inj.mp same
    exact within
  · exact ever past y earlier

/-- The session as it is now is seen. -/
theorem see (h : Editing house s seen) {x : Sight} (session : x.session = s)
    (uncalled : ∀ size, x.install size = size) : Editing house s (seen ++ [x]) := by
  have seen := h.concat (x := x) fun _ size within => by
    rw [uncalled, session]
    exact within
  rwa [session] at seen

end Editing

/-- A life keeps a program within its bounds. -/
theorem Life.thrifty {house : House} {s t : Session} {seen later : List Sight} (life : Life s seen t later)
    (h : Editing house s seen) : Editing house t later := by
  induction life with
  | rest s seen => exact h
  | call c next ih => exact ih (h.concat fun offered size within => within.answer c offered)
  | @run s t seen later audience program told slept raised silent next told_ih slept_ih ih =>
    apply ih
    have company : Public audience := ⟨told, slept, raised, silent⟩
    have kept : KeptMidrun (Editing house) audience :=
      { during := fun t w a path active _ _ editing => editing.change fun within => within.congr rfl rfl rfl
        told := fun l hl e t w _ _ editing => told_ih l hl e t w (editing.see rfl fun _ => rfl)
        slept := fun n t w _ _ editing => slept_ih n t w (editing.see rfl fun _ => rfl) }
    have met := company.met program s seen kept
      (fun level _ => h.change fun within => within.congr rfl rfl rfl)
    generalize s.run audience program seen = done at met ⊢
    cases met with
    | rejected why request => exact h.see rfl fun _ => rfl
    | illegal level request status =>
      have prepared : Editing house (s.prepare level) seen := h.change fun within => within.congr rfl rfl rfl
      exact prepared.see rfl fun _ => rfl
    | broke level request status t later held editing fault breaks =>
      have settled : Editing house t.settle later := editing.change fun within => within.congr rfl rfl rfl
      exact settled.see rfl fun _ => rfl
    | ended level request status t later held editing outcome u resolved heeded =>
      have editing' : Editing house u later := editing.change fun within => within.resolved resolved
      have finished := finish_keeps outcome
        (fun l hl e t w _ editing => told_ih l hl e t w (editing.see rfl fun _ => rfl))
        (fun r t w editing => by rw [silent]; exact editing) editing'
      exact finished.see rfl fun _ => rfl

/-- A block that can be had is added at the end of the program where a level is loaded whose budget is not spent, outside
runs, and nowhere else. -/
theorem add_root_iff {s : Session} {b : Block} :
    (∃ t, s.add (.ok b) none = (.ok (some b), t)) ↔
      (∃ level, s.level? = some level ∧ s.length < level.maxCommands) ∧ s.running = false := by
  constructor
  · rintro ⟨t, added⟩
    obtain ⟨-, resting, room, -⟩ := add_eq_ok_some added
    exact ⟨room, resting⟩
  · rintro ⟨⟨level, loaded, room⟩, resting⟩
    have taken : s.hasRoom = true := hasRoom_eq_true.mpr ⟨resting, level, loaded, room⟩
    refine ⟨{ s with program := s.program ++ [b] }, ?_⟩
    simp [add, taken]

/-- In every life of a fresh session, by any requests in any order, made also by whoever is told of an event or acts
during a sleep, where the blocks that are asked for are such as an editor offers: at every moment at which anyone sees the
session with a level loaded, its program has no more blocks, nested ones included, than the level allows, or than the last
program had that was put in whole since the level was loaded. So it is within the budget if no program has been put in,
given that the levels have been read. A block is added at the end of a program exactly if a level is loaded, no run is
going on and the budget is not spent. -/
theorem budget_of_life (house : House) (delay : Int) {s : Session} {seen : List Sight}
    (life : Life (start house delay) [] s seen) (offered : ∀ x ∈ seen, x.Offered) :
    Thrifty house s seen ∧
      (∀ j, Catalogue.parse j = .ok house.catalogue →
        (installed seen = none → ∀ level, s.level? = some level → (s.length : Int) ≤ level.maxCommands) ∧
        ∀ past x, past ++ [x] <+: seen → installed (past ++ [x]) = none →
          ∀ level, x.session.level? = some level → (x.session.length : Int) ≤ level.maxCommands) ∧
      ∀ (t : Session) (kind : Json) (id : String) (b : Block), Block.ofPalette kind id = .ok b →
        ((∃ u, t.add (Block.ofPalette kind id) none = (.ok (some b), u)) ↔
          (∃ level, t.level? = some level ∧ t.length < level.maxCommands) ∧ t.running = false) := by
  have fresh : Editing house (start house delay) [] := fun _ =>
    { now := .of_empty rfl rfl
      ever := fun past x start => by simp at start }
  have thrifty := life.thrifty fresh offered
  refine ⟨thrifty, fun j read => ⟨fun none => ?_, fun past x start none => ?_⟩, fun t kind id b made => ?_⟩
  · have now := thrifty.now
    rw [none] at now
    exact now.le_of_none (Catalogue.playable_of_parse read)
  · have within := thrifty.ever past x start
    rw [none] at within
    exact within.le_of_none (Catalogue.playable_of_parse read)
  · rw [made]
    exact add_root_iff

/-- A program that is longer than the small level allows. -/
def long : Program := [.ofLoop (some 2) (List.replicate 6 (.ofCommand none)) "loop"]

/-- What is asked for in the life below: to put in the long program, and to add one more block. -/
def edits : List Call := [.setProgram long, .add (Block.ofPalette (.str Command.light.name) "more") none]

/-- A life in which a program is built block by block, run, and edited by a listener at every event and during every
sleep. All is refused until the run has ended, where the long program is put in; then a block of it is removed. -/
def crowded : Session × List Sight :=
  let built := makeCalls [.load (some 1), .add (Block.ofPalette (.str Command.light.name) "step") none] (start hut 0) []
  let ran := built.1.run (callers (fun _ => edits) (fun _ => [.remove (some "step"), .clearProgram])) none built.2
  makeCalls [.remove (some "")] ran.2.1 (ran.2.2 ++ [.ran ran.1 ran.2.1])

theorem life_crowded : Life (start hut 0) [] crowded.1 crowded.2 := by
  unfold crowded
  dsimp only
  exact (life_makeCalls _ _ _).trans (((callers_public _ _).life none _ _).trans (life_makeCalls _ _ _))

/-- Whether a block is one that lights, as an editor offers it. -/
def isLamp : Except Invalid Block → Bool
  | .ok ⟨_, .command, some name, none, none, none⟩ => name = Command.light.name
  | _ => false

theorem offered_of_isLamp {x : Sight} (lamp : x.wanted?.all isLamp = true) : x.Offered := by
  intro wanted asked
  rw [Option.mem_def.mp asked, Option.all_some] at lamp
  unfold isLamp at lamp
  split at lamp
  · rename_i id name
    obtain rfl : name = Command.light.name := of_decide_eq_true lamp
    exact ⟨.str Command.light.name, id, rfl⟩
  · cases lamp

theorem budget_of_life_crowded :
    (∀ x ∈ crowded.2, x.Offered) ∧ crowded.1.length = 6 ∧ installed crowded.2 = some 7 ∧
      Thrifty hut crowded.1 crowded.2 := by
  have lamps : ∀ x ∈ crowded.2, x.wanted?.all isLamp = true := by decide +kernel
  have offered : ∀ x ∈ crowded.2, x.Offered := fun x there => offered_of_isLamp (lamps x there)
  exact ⟨offered, by decide +kernel, by decide +kernel, (budget_of_life hut 0 life_crowded offered).1⟩

/-! ## Programs in which something stands at two places -/

/-- In a program in which nothing stands at two places, a session that adds a child does what adding it in place does.
Nothing stands at two places then, either. -/
theorem add_inPlace {s t : Session} {p : List Piece} {b : Block} {child : Piece} {parent : String}
    (lies : Pieces.program p = s.program) (new : child.block = b) (unshared : (Pieces.shelves p ++ child.shelves).Nodup)
    (added : s.add (.ok b) (some parent) = (.ok (some b), t)) :
    ∃ q, Pieces.add? parent child p = some q ∧ Pieces.program q = t.program ∧ (Pieces.shelves q).Nodup := by
  obtain ⟨-, -, -, program, rfl, placed⟩ := add_eq_ok_some added
  rcases placed with ⟨⟨⟩, -⟩ | ⟨place, container, same, -, -, changed⟩
  obtain rfl := Option.some.inj same
  have tree := Pieces.add?_eq parent child (List.nodup_append'.mp unshared).1
  rw [lies, new, changed] at tree
  obtain ⟨q, inside, read⟩ := Option.map_eq_some_iff.mp tree
  exact ⟨q, inside, read, Pieces.nodup_add? unshared inside⟩

/-- The small level with a budget of three blocks, and a house with this level alone. -/
def thrift : Level := { cell with maxCommands := 3 }

def shed : House := ⟨⟨[thrift]⟩, .standard 1, 10, false⟩

/-- A loop with an empty list of children, put into a program twice over. -/
def twice : List Piece := List.replicate 2 ⟨0, .ofLoop (some 2) [] "loop", some []⟩

/-- A session into which it has been put. -/
def twofold : Session × List Sight :=
  makeCalls [.load (some 1), .setProgram (Pieces.program twice)] (start shed 0) []

/-- A child for the loop. -/
def lamp : Piece := ⟨1, .ofCommand (some Command.light.name) "lamp", none⟩

/-- A request to run, made of the session that a pause too long has jammed. -/
def locked : Except Fault Outcome × Session × List Sight := jammed.1.run nobody (some light) jammed.2

theorem life_locked : Life (start hut 0) [] locked.2.1 (locked.2.2 ++ [.ran locked.1 locked.2.1]) := by
  unfold locked
  exact life_jammed.trans (nobody_public.life (some light) jammed.1 jammed.2)

/-- The budget fails where a loop stands at two places: there is room for one more block, and its child makes two. And a
session can have room that it refuses to give: no run is going on, as the last one that was asked for has been left, but
the session counts as running. -/
theorem budget_fails :
    (∃ s seen, Life (start shed 0) [] s seen ∧ (∀ x ∈ seen, x.Offered) ∧ s.level? = some thrift ∧ s.hasRoom = true ∧
      installed seen = some 2 ∧ ∃ p q, Pieces.program p = s.program ∧ Pieces.add? "loop" lamp p = some q ∧
        max thrift.maxCommands 2 < Program.size (Pieces.program q)) ∧
      ∃ s seen answer, Life (start hut 0) [] s (seen ++ [.ran answer s]) ∧ s.level? = some cell ∧
        s.length < cell.maxCommands ∧ ∀ b, s.add (.ok b) none = (.ok none, s) := by
  constructor
  · have unasked : ∀ x ∈ twofold.2, x.wanted?.isNone = true := by decide +kernel
    have offered : ∀ x ∈ twofold.2, x.Offered := by
      intro x there wanted asked
      have none := unasked x there
      rw [Option.mem_def.mp asked] at none
      cases none
    refine ⟨twofold.1, twofold.2, life_makeCalls _ _ _, offered, by decide +kernel, by decide +kernel,
      by decide +kernel, twice, _, rfl, rfl, by decide +kernel⟩
  · have running : locked.2.1.running = true := by decide +kernel
    have loaded : locked.2.1.level? = some cell := by decide +kernel
    have room : locked.2.1.length < cell.maxCommands := by decide +kernel
    refine ⟨locked.2.1, locked.2.2, locked.1, life_locked, loaded, room, fun b => ?_⟩
    have spent := hasRoom_of_running running
    generalize locked.2.1 = s at spent ⊢
    simp [add, spent]

end Session

end Lamplighter
