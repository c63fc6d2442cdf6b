/-
Lamplighter.Proofs.Run.Switches — what the flag of a switch tells of a run.

* `Flags.iterate_flipped` — a flag that has been toggled some number of times.
* `Surroundings.Sparing` — watchers who leave the flags of a run alone. They may move the robot.
* `Switched`, `switched_strides` — the flag of an id is what it was, toggled once for each stride that was aimed at a
  switch of that id.

A cracked tile shuts its id whenever it is left, so that nothing of the kind holds of the ids of cracked tiles.
-/
import Lamplighter.Proofs.Run.Recording
import Lamplighter.Proofs.Run.Strides
import Mathlib.Logic.Function.Iterate

namespace Lamplighter

/-- A flag that has been toggled is there, and an odd number of times makes it the other one. -/
theorem Flags.iterate_flipped (v : Option Bool) (k : Nat) :
    flipped^[k] v = if k = 0 then v else some (v.getD false ^^ decide (k % 2 = 1)) := by
  induction k with
  | zero => rfl
  | succ k ih =>
    have parity : decide ((k + 1) % 2 = 1) = !decide (k % 2 = 1) := by
      rcases Nat.mod_two_eq_zero_or_one k with even | odd
      · simp [Nat.add_mod, even]
      · simp [Nat.add_mod, odd]
    rw [Function.iterate_succ_apply', ih, if_neg (Nat.succ_ne_zero k), flipped, parity, Bool.xor_not]
    cases k with
    | zero => simp
    | succ j => rw [if_neg (Nat.succ_ne_zero j), Option.getD_some]

/-- Watchers who leave the flags of a run alone. They may do anything else, and put the robot elsewhere. -/
structure Surroundings.Sparing {σ : Type} (around : Surroundings σ) : Prop where
  told : ∀ l ∈ around.listeners, ∀ e m, (l e m).2.attempt.store = m.attempt.store
  pause : ∀ m, (around.pause m).2.attempt.store = m.attempt.store
  checkpoint : ∀ m, (around.checkpoint m).2.attempt.store = m.attempt.store

/-- Watchers who leave the attempt alone leave its flags alone. -/
theorem Surroundings.Aloof.sparing {σ : Type} {around : Surroundings σ} (aloof : around.Aloof) : around.Sparing where
  told l hl e m := congrArg Attempt.store (aloof.told l hl e m)
  pause m := congrArg Attempt.store (aloof.pause m)
  checkpoint m := congrArg Attempt.store (aloof.checkpoint m)

/-- How often strides were aimed at a switch that works an id. -/
def Level.timesWorked (level : Level) (id : Label) (strides : List Stride) : Nat :=
  strides.countP fun s => level.works id s.aim

/-- An attempt on a level in which the flag of an id has been toggled once for each stride that was aimed at a switch
of the id. -/
structure Switched (level : Level) (id : Label) (v : Option Bool) (a : Attempt) (strides : List Stride) : Prop where
  layout : a.store.layout = level.layout
  flag : a.store.get? id = Flags.flipped^[level.timesWorked id strides] v

namespace Switched

variable {level : Level} {id : Label} {v : Option Bool} {a : Attempt} {strides : List Stride}

/-- A stride to the cell ahead. -/
theorem arrive (h : Switched level id v a strides) (formed : level.WellFormed)
    (whole : ∀ t ∈ level.layout, t.kind = .cracked → t.id ≠ some id) (landing : Position) :
    Switched level id v (a.arrive a.ahead) (strides ++ [⟨a.ahead, landing⟩]) where
  layout := by simpa [Attempt.arrive] using h.layout
  flag := by
    have entered : (a.store.enter a.ahead).layout = level.layout := by simpa using h.layout
    have left := Store.get?_leave entered id a.robot.position whole
    have after : (a.arrive a.ahead).store.get? id =
        if level.works id a.ahead then Flags.flipped (a.store.get? id) else a.store.get? id :=
      left.trans (Store.get?_enter h.layout id a.ahead formed)
    rw [after, h.flag, Level.timesWorked, Level.timesWorked, List.countP_append, List.countP_singleton]
    split
    · rw [Function.iterate_succ_apply']
    · rfl

/-- Whatever a command does, the flag goes on telling how often the switches have been stepped on. -/
theorem execute (h : Switched level id v a strides) (formed : level.WellFormed)
    (whole : ∀ t ∈ level.layout, t.kind = .cracked → t.id ≠ some id) (setup : Setup) (name : String) :
    Switched level id v (a.execute setup.board setup.rules name).attempt
      (strides ++ (setup.stride? name a).toList) := by
  cases setup.paces name a with
  | strode taken walkable arrived =>
    rw [taken, arrived]
    exact h.arrive formed whole _
  | stayed taken position store =>
    rw [taken, Option.toList_none, List.append_nil]
    exact ⟨by rw [store]; exact h.layout, by rw [store]; exact h.flag⟩

end Switched

section Runs

variable {σ : Type} (setup : Setup) {around : Surroundings σ} {level : Level} {id : Label} {m : Stage σ}

/-- The flag of an id when a run is over. -/
theorem switched_strides (formed : level.WellFormed)
    (whole : ∀ t ∈ level.layout, t.kind = .cracked → t.id ≠ some id) (sparing : around.Sparing)
    (layout : m.attempt.store.layout = level.layout) (p : Program) (root : Path) :
    Switched level id (m.attempt.store.get? id) (setup.play around p root m).2.attempt
      (setup.strides around p root m) := by
  have spared {n n' : Stage σ} {strides : List Stride} (same : n'.attempt.store = n.attempt.store)
      (h : Switched level id (m.attempt.store.get? id) n.attempt strides) :
      Switched level id (m.attempt.store.get? id) n'.attempt strides :=
    ⟨by rw [same]; exact h.layout, by rw [same]; exact h.flag⟩
  exact setup.play_strides around (fun name a strides h => h.execute formed whole setup name)
    (fun l hl e n strides h => spared (sparing.told l hl e n) h) (fun n strides h => spared (sparing.pause n) h)
    (fun n strides h => spared (sparing.checkpoint n) h) p root ⟨layout, rfl⟩

/-- The flag of an id that nothing works stays as it is. -/
theorem idle_recording (formed : level.WellFormed) (whole : ∀ t ∈ level.layout, t.kind = .cracked → t.id ≠ some id)
    (idle : ∀ t ∈ level.layout, t.kind = .switch → t.target ≠ some id) (sparing : around.Sparing)
    (layout : m.attempt.store.layout = level.layout) (p : Program) (root : Path) :
    (setup.recording around p root m).2.attempt.store.get? id = m.attempt.store.get? id ∧
      ∀ x ∈ (setup.recording around p root m).2.log, x.attempt.store.get? id = m.attempt.store.get? id := by
  have unworked : ∀ q, level.works id q = false := by
    intro q
    rw [Bool.eq_false_iff, ne_eq, Level.works_iff]
    rintro ⟨t, there, -, kind, target⟩
    exact idle t there kind target
  have kept := recording_keeps setup around
    (K := fun a => a.store.layout = level.layout ∧ a.store.get? id = m.attempt.store.get? id) ?_
    (fun l hl e n h => by rwa [sparing.told l hl e n]) (fun n h => by rwa [sparing.pause n])
    (fun n h => by rwa [sparing.checkpoint n]) p root ⟨layout, rfl⟩
  · exact ⟨kept.1.2, fun x hx => (kept.2 x hx).2⟩
  · rintro name a ⟨layout, flag⟩
    cases setup.paces name a with
    | strode taken walkable arrived =>
      have unmoved : Switched level id (m.attempt.store.get? id) a [] := ⟨layout, flag⟩
      have switched := unmoved.arrive formed whole a.ahead
      have none : level.timesWorked id [⟨a.ahead, a.ahead⟩] = 0 := by simp [Level.timesWorked, unworked]
      rw [arrived]
      refine ⟨switched.layout, switched.flag.trans ?_⟩
      rw [List.nil_append, none]
      rfl
    | stayed taken position store =>
      rw [store]
      exact ⟨layout, flag⟩

end Runs

/-- Levels that have been read have no faults. In every run on a level without faults, whatever flags it starts with
and however it ends, the flag of an id that no cracked tile carries is what it was if no stride was aimed at a switch of
that id. Otherwise the flag is there, and has been turned around just if the number of those strides is odd. An id that
no switch works, either, has the same flag at every event and every suspension. -/
theorem switch_parity :
    (∀ (j : Json) (level : Level), Level.decode j = .good level → level.layoutFault? = none) ∧
    ∀ (σ : Type) (setup : Setup) (around : Surroundings σ) (level : Level) (p : Program) (root : Path) (m : Stage σ)
      (id : Label), level.layoutFault? = none → setup.board = ⟨some level⟩ → m.attempt.store.layout = level.layout →
      around.Sparing → (∀ t ∈ level.layout, t.kind = .cracked → t.id ≠ some id) →
      let done := setup.play around p root m
      let before := m.attempt.store.get? id
      let times := level.timesWorked id (setup.strides around p root m)
      (setup.pacing around).run p root (m, []) = (done.1, done.2, setup.strides around p root m) ∧
        (times = 0 → done.2.attempt.store.get? id = before) ∧
        (0 < times → done.2.attempt.store.get? id = some (before.getD false ^^ decide (times % 2 = 1))) ∧
        ((∀ t ∈ level.layout, t.kind = .switch → t.target ≠ some id) →
          done.2.attempt.store.get? id = before ∧
            ∀ x ∈ (setup.recording around p root m).2.log, x.attempt.store.get? id = before) := by
  refine ⟨fun j level read => Level.layoutFault?_of_decode read, ?_⟩
  intro σ setup around level p root m id faultless board layout sparing whole done before times
  have formed := Level.layoutFault?_eq_none.mp faultless
  have flag := (switched_strides setup formed whole sparing layout p root).flag
  rw [Flags.iterate_flipped] at flag
  refine ⟨setup.run_pacing around p root m, fun none => ?_, fun more => ?_, fun idle => ?_⟩
  · exact flag.trans (if_pos none)
  · exact flag.trans (if_neg (Nat.pos_iff_ne_zero.mp more))
  · have same : done.2.attempt = (setup.recording around p root m).2.attempt := by
      have recorded := play_recorded setup around p root m
      exact congrArg (fun done => done.2.attempt) recorded
    obtain ⟨final, always⟩ := idle_recording setup formed whole idle sparing layout p root
    exact ⟨by rw [same]; exact final, always⟩

/-- A level with two switches for one door. -/
def porch : Level where
  id := 1
  size := 3
  layout := [{ position := ⟨0, 0⟩ }, { position := ⟨1, 0⟩, kind := .switch, target := some (.ofString "gate") },
    { position := ⟨2, 0⟩, kind := .switch, target := some (.ofString "gate") },
    { position := ⟨2, 1⟩, kind := .door, id := some (.ofString "attic"), state := some true }]
  start := ⟨⟨0, 0⟩, .east⟩
  maxCommands := 5

/-- Someone who turns the robot around at every checkpoint, and raises at every event. -/
def spinner : Surroundings Unit where
  listeners := [fun _ m => (some (.voiced "whoa"), m)]
  pause m := (none, m)
  checkpoint m := (none, { m with attempt := m.attempt.turn m.attempt.robot.heading.right.right })
  print _ w := w

/-- A program that steps on the first switch, on the second, and on the first again once the robot has been turned. -/
def toAndFro : Program :=
  [.ofCommand (some "MOVE"), .ofCommand (some "MOVE"), .ofLoop (some 1) [.ofCommand (some "MOVE")]]

theorem switch_parity_porch :
    let setup : Setup := ⟨⟨some porch⟩, .standard 1, 10, false⟩
    let m : Stage Unit := { attempt := .atStart porch, world := () }
    porch.timesWorked (.ofString "gate") (setup.strides spinner toAndFro [] m) = 3 ∧
      (setup.play spinner toAndFro [] m).2.attempt.store.get? (.ofString "gate") = some true ∧
      ∀ x ∈ (setup.recording spinner toAndFro [] m).2.log, x.attempt.store.get? (.ofString "attic") = some true := by
  intro setup m
  have sparing : spinner.Sparing := by
    refine ⟨?_, fun _ => rfl, fun _ => rfl⟩
    intro l hl e m
    rw [List.mem_singleton.mp hl]
  have whole (id : Label) : ∀ t ∈ porch.layout, t.kind = .cracked → t.id ≠ some id := by
    have none : ∀ t ∈ porch.layout, t.kind ≠ .cracked := by decide
    exact fun t there cracked => absurd cracked (none t there)
  have times : porch.timesWorked (.ofString "gate") (setup.strides spinner toAndFro [] m) = 3 := by decide
  obtain ⟨-, -, worked, -⟩ := switch_parity.2 Unit setup spinner porch toAndFro [] m (.ofString "gate") (by decide) rfl
    rfl sparing (whole _)
  obtain ⟨-, -, -, idle⟩ := switch_parity.2 Unit setup spinner porch toAndFro [] m (.ofString "attic") (by decide) rfl
    rfl sparing (whole _)
  rw [times] at worked
  exact ⟨times, worked (by decide), (idle (by decide)).2⟩

end Lamplighter
