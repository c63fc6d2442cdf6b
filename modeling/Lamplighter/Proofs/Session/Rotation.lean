/-
Lamplighter.Proofs.Session.Rotation — runs on a level that has been turned.

* `Attempt.Turned` — an attempt on a level, and what becomes of it when the level is turned.
* `Attempt.execute_tellable` — on a level that can be read, a deed can be told exactly if its numbers can be written;
  `Attempt.Stands.writable` — and with footing, they all can.
* `Level.Readable.turned_like` — a level that can be read is like its turn.
* `Session.Turned` — sessions on a level and on its turn that differ in nothing else.
* `turned_runs` — their runs are the same but for the turn.

What is said of a run names cells, so that only its tone and its address stay the same. A deed has to be told all the
same for a run to go on: the robot of a level that can be read never looks at a cell that cannot be written.
-/
import Lamplighter.Proofs.Rotation
import Lamplighter.Proofs.Session.Likeness

namespace Lamplighter

/-! ## Attempts -/

/-- An attempt whose robot has footing on a level, and the same attempt once the level has been turned. -/
structure Attempt.Turned (level : Level) (a a' : Attempt) : Prop where
  stands : a.Stands level
  turned : a' = a.turned level.size

/-- Remarks in one tone about one block. -/
def Remark.Kindred (r r' : Remark) : Prop := r'.tone = r.tone ∧ r'.path = r.path

namespace Attempt

theorem Stands.turned {level : Level} {a : Attempt} (h : a.Stands level) :
    (a.turned level.size).Stands level.turned where
  layout := congrArg (List.map (Tile.turned level.size)) h.layout
  footing := h.footing.turned

section Writable

variable {level : Level} (readable : level.Readable)

include readable

/-- The cell ahead of a robot with footing can be written, also where it is off the grid. -/
theorem ahead_writable {p : Position} (footing : level.Footing p) (heading : Direction) :
    (p.ahead heading).isWritable = true := by
  obtain ⟨⟨x, x'⟩, y, y'⟩ := footing.inside (Level.layoutFault?_eq_none.mp readable.faultless)
  have size := readable.size
  have one : (1 : Nat) < Numeral.limit := by decide +kernel
  unfold Numeral.isWritable at size
  unfold Position.isWritable Numeral.isWritable
  simp only [decide_eq_true_eq, Bool.and_eq_true] at size ⊢
  unfold Position.ahead
  cases heading <;> simp only [Direction.delta] <;> omega

theorem footing_writable {p : Position} (footing : level.Footing p) : p.isWritable = true := by
  have inside := footing.inside (Level.layoutFault?_eq_none.mp readable.faultless)
  exact Bool.and_eq_true_iff.mpr (inside.readable readable.size)

theorem height_writable (p : Position) : Numeral.isWritable ((⟨some level⟩ : Board).heightAt p) = true := by
  unfold Board.heightAt
  split
  · rename_i tile found
    unfold Board.tileAt? at found
    dsimp only at found
    split at found
    · exact (readable.layout tile (Level.mem_of_tileOn? found).1).height
    · cases found
  · decide +kernel

/-- A cell next to a tile can be written. -/
theorem origin_writable {p : Position} {heading : Direction} (footing : level.Footing (p.ahead heading)) :
    p.isWritable = true := by
  have back : p = (p.ahead heading).ahead heading.left.left := by
    obtain ⟨x, y⟩ := p
    cases heading <;> simp only [Position.ahead, Direction.left, Direction.delta, Position.mk.injEq] <;> omega
  rw [back]
  exact ahead_writable readable footing _

/-- Wherever the robot has been put, what changes an attempt happens on cells that can be written: so the deeds of a
command that cannot be told are those that have a number which cannot be written. -/
theorem execute_tellable {a : Attempt} (layout : a.store.layout = level.layout) (rules : Rules) (name : String) :
    ∀ d ∈ (a.execute ⟨some level⟩ rules name).deeds, d.isTellable = d.isWritable := by
  have stepped (gait : Gait) : ∀ d ∈ (a.step ⟨some level⟩ rules gait).deeds, d.isTellable = d.isWritable := by
    unfold step
    dsimp only
    split
    · simp [Deed.isTellable]
    · rename_i walkable
      split
      · simp [Deed.isTellable]
      · have target := Board.footing_of_isWalkable (not_not.mp walkable)
        have here := origin_writable readable target
        have ahead := footing_writable readable target
        unfold arrive
        cases carried : a.store.destination? (a.robot.position.ahead a.robot.heading) with
        | none => simp [Deed.isTellable, Deed.isWritable, here, ahead]
        | some landing =>
          have landed := footing_writable readable (Store.footing_of_destination? layout carried)
          simp [Deed.isTellable, Deed.isWritable, here, ahead, landed]
  unfold Attempt.execute
  split
  · exact stepped .move
  · exact stepped .jump
  · simp [Deed.isTellable, Deed.isWritable]
  · simp [Deed.isTellable, Deed.isWritable]
  · unfold light
    dsimp only
    split
    · simp [Deed.isTellable]
    · rename_i goal
      have there : a.robot.position ∈ level.goals := by simpa [Board.isGoal] using goal
      have written : a.robot.position.isWritable = true := Bool.and_eq_true_iff.mpr (readable.goals _ there)
      split
      · simp
      · simp [Deed.isTellable, Deed.isWritable, written]
  · simp
  · simp

/-- All numbers that a step tells can be written: the robot comes from a tile, and arrives on one. -/
theorem Stands.step_writable {a : Attempt} (h : a.Stands level) (rules : Rules) (gait : Gait) :
    ∀ d ∈ (a.step ⟨some level⟩ rules gait).deeds, d.isWritable = true := by
  have here := footing_writable readable h.footing
  have ahead := ahead_writable readable h.footing a.robot.heading
  have heights := height_writable readable
  unfold step
  dsimp only
  split
  · simpa [Deed.isWritable] using ahead
  · split
    · simp [Deed.isWritable, ahead, heights]
    · unfold arrive
      cases carried : a.store.destination? (a.robot.position.ahead a.robot.heading) with
      | none => simp [Deed.isWritable, here, ahead]
      | some landing =>
        have landed := footing_writable readable (Store.footing_of_destination? h.layout carried)
        simp [Deed.isWritable, here, ahead, landed]

/-- All numbers that a command tells can be written. -/
theorem Stands.writable {a : Attempt} (h : a.Stands level) (rules : Rules) (name : String) :
    ∀ d ∈ (a.execute ⟨some level⟩ rules name).deeds, d.isWritable = true := by
  have here := footing_writable readable h.footing
  unfold Attempt.execute
  split
  · exact h.step_writable readable rules .move
  · exact h.step_writable readable rules .jump
  · simp [Deed.isWritable]
  · simp [Deed.isWritable]
  · unfold light
    dsimp only
    split
    · simpa [Deed.isWritable] using here
    · split
      · simp
      · simpa [Deed.isWritable] using here
  · simp
  · simp

/-- So a command never breaks off. -/
theorem Stands.tellable {a : Attempt} (h : a.Stands level) (rules : Rules) (name : String) :
    ∀ d ∈ (a.execute ⟨some level⟩ rules name).deeds, d.isTellable = true := by
  intro d there
  rw [execute_tellable readable h.layout rules name d there]
  exact h.writable readable rules name d there

end Writable

/-- Every command goes on alike after the turn. -/
theorem Turned.execute {level : Level} (readable : level.Readable) {a a' : Attempt} (h : a.Turned level a')
    (rules : Rules) (name : String) :
    Report.Like (Turned level) (Deed.Like Remark.Kindred) (a.execute ⟨some level⟩ rules name)
      (a'.execute ⟨some level.turned⟩ rules name) := by
  obtain ⟨stands, rfl⟩ := h
  have told := stands.tellable readable rules name
  have told' := stands.turned.tellable readable.turned rules name
  rw [execute_turned] at told' ⊢
  refine ⟨⟨stands.execute rules name, rfl⟩, rfl, ?_⟩
  rw [Report.turned, List.forall₂_map_right_iff, List.forall₂_same]
  intro d there
  refine ⟨?_, fun path => ⟨?_, rfl⟩⟩
  · rw [told d there, told' _ (List.mem_map_of_mem there)]
  · cases d <;> rfl

end Attempt

/-- A level that can be read is like its turn. -/
theorem Level.Readable.turned_like {level : Level} (readable : level.Readable) :
    level.Like (Attempt.Turned level) Remark.Kindred level.turned where
  layouts := by
    rintro a _ ⟨stands, rfl⟩
    exact ⟨stands.layout, stands.turned.layout⟩
  start := ⟨⟨rfl, (layoutFault?_eq_none.mp readable.faultless).footing⟩, Attempt.atStart_turned level⟩
  setups rules cap verbose :=
    { cap := rfl
      execute := fun name a a' turned => turned.execute readable rules name
      onColor := by
        rintro color a _ ⟨-, rfl⟩
        exact Board.hasColor_turned level a.robot.position color
      tellable := fun d d' alike => alike.tellable }
  solved := by
    rintro a _ ⟨-, rfl⟩
    simp [Session.isSolved, Level.turned, Attempt.turned, Function.comp_def]
  lit := by
    rintro a _ ⟨-, rfl⟩
    exact List.length_map _
  goals := List.length_map _
  id := rfl
  said _ := ⟨rfl, rfl⟩

/-! ## Sessions -/

namespace Event

/-- An event on a grid that has been turned. -/
def turned (n : Int) (e : Event) : Event :=
  { e with robot := e.robot.turned n, lit := e.lit.map (Position.turned n) }

/-- An event that shows a robot with footing, and the same event once the level has been turned. -/
def Turned (level : Level) (e e' : Event) : Prop := (e.snapshot level.layout).Stands level ∧ e' = e.turned level.size

/-- Events are alike if one is the turn of the other. -/
theorem like_turned (level : Level) : Event.Like (Attempt.Turned level) level level.turned = Event.Turned level := by
  funext e e'
  refine propext ⟨?_, ?_⟩
  · rintro ⟨kind, path, blockId, command, success, outcome, stands, shown⟩
    refine ⟨stands, ?_⟩
    have robot : e'.robot = e.robot.turned level.size := congrArg Attempt.robot shown
    have lit : e'.lit = e.lit.map (Position.turned level.size) := congrArg Attempt.lit shown
    have flags : e'.flags = e.flags := congrArg (fun a => a.store.flags) shown
    rw [turned, ← kind, ← path, ← blockId, ← command, ← success, ← outcome, ← robot, ← lit, ← flags]
  · rintro ⟨stands, rfl⟩
    exact ⟨rfl, rfl, rfl, rfl, rfl, rfl, stands, rfl⟩

end Event

namespace Session

/-- Sessions on a level and on its turn, which differ in nothing else but in their catalogues and in what the turn makes
of the attempt. -/
abbrev Turned (level : Level) : Session → Session → Prop := Twin (Attempt.Turned level) level level.turned

/-- The turn of a level that has been read can be read, and sessions that load the two differ in nothing but the turn.
Before audiences that act alike in both, runs of one program in such sessions have the same answer and the same reason
to fail; what is told of them, their suspensions and the flags that they leave are the same, and so are the robot and
the lit goals, once turned. -/
theorem turned_runs (j : Json) (level : Level) (read : Level.decode j = .good level) :
    (∃ j', Level.decode j' = .good level.turned) ∧
    (∀ (house : House) (other : Catalogue) (id id' delay : Int), house.catalogue.get? id = some level →
      other.get? id' = some level.turned →
      ∃ s t, (start house delay).load id = (.ok true, s) ∧
        (start { house with catalogue := other } delay).load id' = (.ok true, t) ∧ Turned level s t) ∧
    ∀ (ρ ρ' : Type) (W : ρ → ρ' → Prop) (a : Audience ρ) (b : Audience ρ') (program : Option Program) (s t : Session)
      (w : ρ) (w' : ρ'), a.Like (Turned level) (Event.Turned level) Remark.Kindred W b → Turned level s t → W w w' →
      let one := s.run a.diary program (w, [])
      let other := t.run b.diary program (w', [])
      s.run a program w = (one.1, one.2.1, one.2.2.1) ∧ t.run b program w' = (other.1, other.2.1, other.2.2.1) ∧
        other.1 = one.1 ∧ other.2.1.failure = one.2.1.failure ∧
        other.2.1.store.flags = one.2.1.store.flags ∧
        other.2.1.robot = one.2.1.robot.map (Pose.turned level.size) ∧
        other.2.1.lit = one.2.1.lit.map (Position.turned level.size) ∧
        List.Forall₂ (Page.Like (Event.Turned level) Remark.Kindred) one.2.2.2 other.2.2.2 ∧
        Turned level one.2.1 other.2.1 ∧ W one.2.2.1 other.2.2.1 := by
  have readable := Level.Readable.of_decode read
  have like := readable.turned_like
  refine ⟨readable.turned.exists_decode, fun _ _ _ _ delay found found' => twin_load like found found' delay, ?_⟩
  intro ρ ρ' W a b program s t w w' audience twins memories one other
  rw [← Event.like_turned] at audience ⊢
  obtain ⟨same, same', answer, left, memories, pages⟩ := run_diaries like audience program twins memories
  obtain ⟨robot, robot', there, there', -, turned⟩ := left.attempts
  refine ⟨same, same', answer, left.failure, congrArg (fun a => a.store.flags) turned, ?_, congrArg Attempt.lit turned,
    pages, left, memories⟩
  rw [there', there]
  exact congrArg (fun a => some (Attempt.robot a)) turned

/-- A file of a level with a switch for a door. -/
def courtyardFile : Json :=
  .obj [("id", .int 4), ("grid_size", .int 2),
    ("layout", .arr [.obj [("x", .int 0), ("y", .int 1)],
      .obj [("x", .int 0), ("y", .int 0), ("type", .str "switch"), ("target_id", .str "gate")],
      .obj [("x", .int 1), ("y", .int 0), ("type", .str "door"), ("id", .str "gate")]]),
    ("start", .obj [("x", .int 0), ("y", .int 1), ("dir", .str "N")]),
    ("goals", .arr [.obj [("x", .int 1), ("y", .int 0)]]), ("max_commands", .int 9)]

/-- The level of this file. -/
def courtyard : Level where
  id := 4
  size := 2
  layout := [{ position := ⟨0, 1⟩ }, { position := ⟨0, 0⟩, kind := .switch, target := some (.ofString "gate") },
    { position := ⟨1, 0⟩, kind := .door, id := some (.ofString "gate") }]
  start := ⟨⟨0, 1⟩, .north⟩
  goals := [⟨1, 0⟩]
  maxCommands := 9

/-- A program that opens the door of the courtyard, and lights the goal behind it. -/
def callIn : Program := ["MOVE", "TURN_R", "MOVE", "LIGHT"].map fun name => .ofCommand (some name)

/-- Someone who counts what is printed, and raises at every success. -/
def grumbler : Audience Nat where
  listeners := [fun e s n => (if e.success = some true then some (.voiced "hmpf") else none, s, n)]
  sleep _ s n := (none, s, n)
  print _ n := n + 1

/-- Whoever looks at the success of events only acts alike on levels that are turned. -/
theorem grumbler_like (level : Level) :
    grumbler.Like (Turned level) (Event.Turned level) Remark.Kindred Eq grumbler where
  told := by
    refine .cons ?_ .nil
    rintro e _ s t n _ ⟨-, rfl⟩ twins rfl
    exact ⟨rfl, twins, rfl⟩
  slept := by
    rintro n s t k _ twins rfl
    exact ⟨rfl, twins, rfl⟩
  printed := by
    rintro r r' n _ - rfl
    rfl

theorem turned_runs_courtyard :
    Level.decode courtyardFile = .good courtyard ∧ (∃ j, Level.decode j = .good courtyard.turned) ∧
      Turned courtyard (guest courtyard) (guest courtyard.turned) ∧
      let one := (guest courtyard).run grumbler.diary (some callIn) (0, [])
      let other := (guest courtyard.turned).run grumbler.diary (some callIn) (0, [])
      other.1 = .ok .win ∧ other.2.1.robot = some ⟨⟨1, 1⟩, .south⟩ ∧ other.2.1.lit = [⟨1, 1⟩] ∧
        other.2.2.1 = one.2.2.1 ∧ one.2.2.2.length = 23 ∧
        List.Forall₂ (Page.Like (Event.Turned courtyard) Remark.Kindred) one.2.2.2 other.2.2.2 := by
  have read : Level.decode courtyardFile = .good courtyard := rfl
  obtain ⟨turned, load, runs⟩ := turned_runs courtyardFile courtyard read
  obtain ⟨s, t, loaded, loaded', twins⟩ := load (lodge courtyard) ⟨[courtyard.turned]⟩ 4 4 5 rfl rfl
  obtain rfl : guest courtyard = s := congrArg Prod.snd loaded
  obtain rfl : guest courtyard.turned = t := congrArg Prod.snd loaded'
  obtain ⟨-, -, answer, -, -, robot, lit, pages, -, counted⟩ :=
    runs Nat Nat Eq grumbler grumbler (some callIn) _ _ 0 0 (grumbler_like courtyard) twins rfl
  refine ⟨read, turned, twins, ?_⟩
  have won : ((guest courtyard).run grumbler.diary (some callIn) (0, [])).1 = .ok .win := by decide +kernel
  have final : ((guest courtyard).run grumbler.diary (some callIn) (0, [])).2.1.robot = some ⟨⟨1, 0⟩, .east⟩ := by
    decide +kernel
  have lights : ((guest courtyard).run grumbler.diary (some callIn) (0, [])).2.1.lit = [⟨1, 0⟩] := by decide +kernel
  rw [final] at robot
  rw [lights] at lit
  exact ⟨answer.trans won, robot, lit, counted.symm, by decide +kernel, pages⟩

end Session

end Lamplighter
