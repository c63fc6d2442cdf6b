/-
Lamplighter.Proofs.Session.Footing — the robot of a session never leaves the tiles of its level.

* `Grounded` — a session whose robot has footing on the loaded level, over a catalogue without faults.
* `Grounded.answer`, `Grounded.started`, `Grounded.resolved` — calls, the start of a run and its resolution keep it.
* `Treading`, `walk_treading` — so does the walk of a run, command by command.
* `Life.grounded`, `robot_on_tile` — so it is in every life of a fresh session, and in every run on its own.
-/
import Lamplighter.Proofs.Run.Footing
import Lamplighter.Proofs.Session.Life

namespace Lamplighter

namespace Session

/-! ## The invariant -/

/-- A session over levels without faults. If one is loaded, the robot has footing on it, and the triggers are those
of its layout. -/
structure Grounded (s : Session) : Prop where
  accepted : s.house.catalogue.Accepted
  standing : ∀ level, s.level? = some level →
    ∃ robot, s.robot = some robot ∧ Attempt.Stands level ⟨robot, s.lit, s.store⟩

/-- A level without fault that is loaded is well-formed. -/
theorem wellFormed_of_level? {s : Session} (accepted : s.house.catalogue.Accepted) {level : Level}
    (loaded : s.level? = some level) : level.WellFormed := by
  obtain ⟨id, -, found⟩ := Option.bind_eq_some_iff.mp loaded
  exact Level.layoutFault?_eq_none.mp (accepted level (Catalogue.mem_of_get? found))

namespace Grounded

variable {s : Session}

theorem start {house : House} (accepted : house.catalogue.Accepted) (delay : Int) :
    (Session.start house delay).Grounded where
  accepted := accepted
  standing level loaded := by cases loaded

/-- Wherever the robot was, it has footing when the attempt starts over. -/
theorem ofReset (accepted : s.house.catalogue.Accepted) {level : Level} (loaded : s.level? = some level) :
    (s.resetAttempt level).Grounded where
  accepted := accepted
  standing other there := by
    have same : s.level? = some other := there
    obtain rfl : level = other := Option.some.inj (loaded.symm.trans same)
    exact ⟨level.start, rfl, rfl, (wellFormed_of_level? accepted loaded).footing⟩

/-- A call keeps a session grounded. -/
theorem answer (h : s.Grounded) (c : Call) : (c.answer s).2.1.Grounded := by
  have effect := c.effect_answer s
  generalize (c.answer s).1 = answer at effect
  generalize (c.answer s).2.1 = t at effect ⊢
  cases effect with
  | edit program delay => exact ⟨h.accepted, h.standing⟩
  | load id level resting found =>
    refine ofReset (?_ : Catalogue.Accepted _) (?_ : _ = some level)
    · exact h.accepted
    · simp [level?, found]
  | cancel running => exact ⟨h.accepted, h.standing⟩
  | reset level loaded =>
    exact ofReset (by simpa using h.accepted) (by simpa [level?] using loaded)
  | reposition level loaded => exact ofReset h.accepted loaded

/-- A session that has been prepared for a run is grounded. -/
theorem prepare (accepted : s.house.catalogue.Accepted) {level : Level} (loaded : s.level? = some level) :
    (s.prepare level).Grounded :=
  ofReset (s := { s with running := true, cancelled := false }) accepted loaded

/-- A run starts grounded. -/
theorem started (accepted : s.house.catalogue.Accepted) {level : Level} (loaded : s.level? = some level) :
    (s.started level).Grounded :=
  ⟨(prepare accepted loaded).accepted, (prepare accepted loaded).standing⟩

/-- A run is resolved grounded. -/
theorem resolved (h : s.Grounded) {outcome : Outcome} {t : Session} (resolved : Resolved s.settle outcome t) :
    t.Grounded := by
  cases resolved with
  | cancelled =>
    cases loaded : s.settle.level? with
    | none =>
      rw [resetToStart_of_absent loaded]
      exact ⟨h.accepted, h.standing⟩
    | some level =>
      rw [resetToStart_of_loaded loaded]
      exact ofReset (by simpa [settle] using h.accepted) (by simpa [level?] using loaded)
  | failed why status heeded => exact ⟨h.accepted, h.standing⟩
  | won status heeded solved => exact ⟨h.accepted, h.standing⟩

end Grounded

/-- A session is grounded, and was at every moment at which anyone saw it. -/
def AlwaysGrounded (s : Session) (seen : List Sight) : Prop :=
  s.Grounded ∧ ∀ x ∈ seen, x.session.Grounded

/-- The session as it is now is seen. -/
theorem AlwaysGrounded.see {s : Session} {seen : List Sight} (h : AlwaysGrounded s seen) {x : Sight}
    (session : x.session = s) : AlwaysGrounded s (seen ++ [x]) := by
  refine ⟨h.1, fun y hy => ?_⟩
  rcases List.mem_append.mp hy with hy | hy
  · exact h.2 y hy
  · rw [List.mem_singleton.mp hy, session]
    exact h.1

/-! ## Walks -/

/-- The stage of a run on a level whose session is grounded and always was. -/
structure Treading (level : Level) (st : Stage (Desk × List Sight)) : Prop where
  running : st.world.1.running = true
  loaded : (ofStage st).level? = some level
  always : AlwaysGrounded (ofStage st) st.world.2

/-- A session with a robot comes back from the stage as it was put there. -/
theorem ofStage_onStage {ρ : Type} {s : Session} {robot : Pose} (there : s.robot = some robot) (watch : ρ)
    (st : Stage (Desk × ρ)) : ofStage (s.onStage watch st) = s := by
  obtain ⟨desk, pose, lit, store, cancelled⟩ := s
  obtain rfl : pose = some robot := there
  rfl

namespace Treading

variable {level : Level} {st : Stage (Desk × List Sight)}

theorem stands (h : Treading level st) : st.attempt.Stands level := by
  obtain ⟨robot, there, standing⟩ := h.always.1.standing level h.loaded
  obtain rfl : st.attempt.robot = robot := Option.some.inj there
  exact standing

/-- A command is carried out. -/
theorem begin_ (h : Treading level st) {setup : Setup} (board : setup.board = ⟨some level⟩) (name : String) :
    Treading level (setup.begin name st) where
  running := h.running
  loaded := h.loaded
  always := by
    refine ⟨⟨h.always.1.accepted, fun other there => ?_⟩, h.always.2⟩
    have same : (ofStage st).level? = some other := there
    obtain rfl : level = other := Option.some.inj (h.loaded.symm.trans same)
    refine ⟨(setup.report name st).attempt.robot, rfl, ?_⟩
    rw [Setup.begin, Setup.report, board]
    exact h.stands.execute setup.rules name

/-- Someone lives on with the session of the run. -/
theorem visit (h : Treading level st) {act : Session → List Sight → Option Fault × Session × List Sight}
    {x : Sight} (session : x.session = ofStage st)
    (life : Life (ofStage st) (st.world.2 ++ [x]) (act (ofStage st) st.world.2).2.1 (act (ofStage st) st.world.2).2.2)
    (grounded : AlwaysGrounded (ofStage st) (st.world.2 ++ [x]) →
      AlwaysGrounded (act (ofStage st) st.world.2).2.1 (act (ofStage st) st.world.2).2.2) :
    Treading level (visit act st).2 := by
  have held := life.held h.running (by rw [h.loaded]; simp)
  have always := grounded (h.always.see session)
  have there := held.level?.trans h.loaded
  -- whoever it was has left a robot in the session, so that it comes back from the stage unchanged
  obtain ⟨robot, present, -⟩ := always.1.standing level there
  have left : (Session.visit act st).2 =
      (act (ofStage st) st.world.2).2.1.onStage (act (ofStage st) st.world.2).2.2 st := rfl
  have back := ofStage_onStage present (act (ofStage st) st.world.2).2.2 st
  rw [left]
  exact ⟨held.running, by rw [back]; exact there, by rw [back]; exact always⟩

end Treading

section Walks

variable {audience : Audience (List Sight)} (company : Public audience)
  (told : ∀ l ∈ audience.listeners, ∀ e s seen, AlwaysGrounded s (seen ++ [.told e s]) →
    AlwaysGrounded (l e s seen).2.1 (l e s seen).2.2)
  (slept : ∀ n s seen, AlwaysGrounded s (seen ++ [.slept n s]) →
    AlwaysGrounded (audience.sleep n s seen).2.1 (audience.sleep n s seen).2.2)

include company told slept

/-- Everyone who has a part in the walk of a run keeps its session grounded. -/
theorem surroundings_treading {level : Level} {setup : Setup} (board : setup.board = ⟨some level⟩) :
    (surroundings audience).Keeps setup (Treading level) where
  walked st path active h := ⟨h.running, h.loaded, h.always⟩
  begun name st h := h.begin_ board name
  told l hl e st _ h := by
    rcases List.mem_cons.mp hl with rfl | theirs
    · exact ⟨h.running, h.loaded, ⟨h.always.1.accepted, h.always.1.standing⟩, h.always.2⟩
    · obtain ⟨l, there, rfl⟩ := List.mem_map.mp theirs
      exact h.visit rfl (company.told l there e _ _) (told l there e _ _)
  printed r st h := by
    have same : (surroundings audience).say r st = st := by
      simp only [Surroundings.say, surroundings, company.silent]
    rw [same]
    exact h
  pause st h := by
    simp only [surroundings, pause]
    split
    · exact h
    · exact h.visit rfl (company.slept _ _ _) (slept _ _ _)
  checkpoint st h := h.visit rfl (company.slept _ _ _) (slept _ _ _)

/-- The walk of a run keeps its session grounded. -/
theorem walk_treading {level : Level} (program : Program) {s : Session} {seen : List Sight}
    (grounded : AlwaysGrounded s seen) (loaded : s.level? = some level) :
    Treading level (s.walk audience level program seen).2 := by
  have keeps : (surroundings audience).Keeps ((s.started level).setup level) (Treading level) :=
    surroundings_treading company told slept rfl
  refine keeps.play program [] ?_
  rw [company.silent]
  have started := Grounded.started grounded.1.accepted loaded
  exact ⟨rfl, level?_started loaded, ⟨started.accepted, started.standing⟩, grounded.2⟩

end Walks

/-! ## Lives -/

/-- A life keeps a session grounded. -/
theorem Life.grounded {s t : Session} {seen later : List Sight} (life : Life s seen t later)
    (h : AlwaysGrounded s seen) : AlwaysGrounded t later := by
  induction life with
  | rest s seen => exact h
  | call c next ih =>
    have answered : AlwaysGrounded _ _ := ⟨h.1.answer c, h.2⟩
    exact ih (answered.see rfl)
  | @run s t seen later audience program told slept raised silent next told_ih slept_ih ih =>
    apply ih
    have company : Public audience := ⟨told, slept, raised, silent⟩
    -- `Public.met` would have a walk put the robot anywhere: what the commands of a walk keep is shown on its stage
    have met := company.met_of_walk program s seen (J := AlwaysGrounded)
      (fun level loaded => (walk_treading company told_ih slept_ih _ h loaded).always)
    generalize s.run audience program seen = done at met ⊢
    cases met with
    | rejected why request => exact h.see rfl
    | illegal level request status =>
      obtain ⟨-, loaded, -⟩ := levelFor_eq_ok.mp request
      have prepared : AlwaysGrounded (s.prepare level) seen := ⟨.prepare h.1.accepted loaded, h.2⟩
      exact prepared.see rfl
    | broke level request status t later held kept fault breaks =>
      have settled : AlwaysGrounded t.settle later := ⟨⟨kept.1.accepted, kept.1.standing⟩, kept.2⟩
      exact settled.see rfl
    | ended level request status t later held kept outcome u resolved heeded =>
      have left : AlwaysGrounded u later := ⟨kept.1.resolved resolved, kept.2⟩
      have finished := finish_keeps outcome
        (fun l hl e t w _ grounded => told_ih l hl e t w (grounded.see rfl))
        (fun r t w grounded => by rw [silent]; exact grounded) left
      exact finished.see rfl

/-- If a level is loaded, the robot stands on one of its tiles, within the grid, and not on a void unless a teleport
leads there. -/
def OnTile (s : Session) : Prop :=
  ∀ level, s.level? = some level →
    ∃ robot, s.robot = some robot ∧ level.Footing robot.position ∧ Level.Inside level.size robot.position

theorem Grounded.onTile {s : Session} (h : s.Grounded) : s.OnTile := by
  intro level loaded
  obtain ⟨robot, there, standing⟩ := h.standing level loaded
  exact ⟨robot, there, standing.footing, standing.footing.inside (wellFormed_of_level? h.accepted loaded)⟩

/-- Levels that have been read have no faults. In every life of a fresh session over levels without faults, the robot
is on a tile of the loaded level at every moment at which anyone sees the session. The same holds of every run on such
a level that starts on a tile, at every event and every suspension and when it is over, unless those who watch take
the robot off the tiles. -/
theorem robot_on_tile :
    (∀ (j : Json) (c : Catalogue), Catalogue.parse j = .ok c → c.Accepted) ∧
    (∀ (house : House) (delay : Int) (s : Session) (seen : List Sight), house.catalogue.Accepted →
      Life (start house delay) [] s seen → s.OnTile ∧ ∀ x ∈ seen, x.session.OnTile) ∧
    ∀ (σ : Type) (setup : Setup) (around : Surroundings σ) (level : Level) (p : Program) (root : Path) (m : Stage σ),
      level.layoutFault? = none → setup.board = ⟨some level⟩ → m.attempt.store.layout = level.layout →
      level.Footing m.attempt.robot.position → around.Careful level →
      let done := setup.recording around p root m
      setup.play around p root m = (done.1, done.2.through Prod.fst) ∧
        (∀ x ∈ done.2.log, level.Footing x.attempt.robot.position ∧
          Level.Inside level.size x.attempt.robot.position) ∧
        level.Footing done.2.attempt.robot.position ∧ Level.Inside level.size done.2.attempt.robot.position := by
  refine ⟨fun j c read => Catalogue.accepted_of_parse read, ?_, ?_⟩
  · intro house delay s seen accepted life
    have always := life.grounded ⟨Grounded.start accepted delay, fun x hx => by cases hx⟩
    exact ⟨always.1.onTile, fun x hx => (always.2 x hx).onTile⟩
  · intro σ setup around level p root m faultless board layout footing careful done
    have formed := Level.layoutFault?_eq_none.mp faultless
    have steady : Steady level done.2 := steady_recording careful board p root ⟨layout, footing⟩
    refine ⟨play_recorded setup around p root m, fun x hx => ?_, steady.now.footing, steady.now.footing.inside formed⟩
    have standing := steady.always x hx
    exact ⟨standing.footing, standing.footing.inside formed⟩

/-- A level whose only way out leads into a void. -/
def pitfall : Level where
  id := 1
  size := 3
  layout := [{ position := ⟨0, 0⟩ }, { position := ⟨1, 0⟩, kind := .teleport, target := some (.ofString "pit") },
    { position := ⟨2, 2⟩, kind := .void, id := some (.ofString "pit") }]
  start := ⟨⟨0, 0⟩, .east⟩
  maxCommands := 5

/-- A session with this level loaded, after one step. -/
def fallen : Session × List Sight :=
  let loaded := makeCalls [.load (some 1)] (start ⟨⟨[pitfall]⟩, .standard 1, 10, false⟩ 0) []
  let done := loaded.1.run (callers (fun _ => []) (fun _ => [])) (some [.ofCommand (some Command.move.name)]) loaded.2
  (done.2.1, done.2.2 ++ [.ran done.1 done.2.1])

theorem life_fallen : Life (start ⟨⟨[pitfall]⟩, .standard 1, 10, false⟩ 0) [] fallen.1 fallen.2 := by
  unfold fallen
  dsimp only
  exact (life_makeCalls _ _ _).trans ((callers_public _ _).life _ _ _)

/-- The start of this level. -/
def brink : Stage Unit := ⟨⟨pitfall.start, [], Store.ofLevel (some pitfall)⟩, false, [], none, none, ()⟩

theorem robot_on_tile_pitfall :
    let run := Setup.recording ⟨⟨some pitfall⟩, .standard 1, 10, false⟩ deserted
      [.ofCommand (some Command.move.name)] [] brink
    (fallen.1.robot.map Pose.position = some ⟨2, 2⟩ ∧ fallen.1.OnTile ∧ ∀ x ∈ fallen.2, x.session.OnTile) ∧
      run.2.attempt.robot.position = ⟨2, 2⟩ ∧ pitfall.Footing run.2.attempt.robot.position := by
  have accepted : Catalogue.Accepted ⟨[pitfall]⟩ := by
    intro level there
    rw [List.mem_singleton.mp there]
    decide
  have footing : pitfall.Footing brink.attempt.robot.position := ⟨_, List.mem_cons_self, rfl, .inl (by decide)⟩
  have walked := robot_on_tile.2.2 Unit ⟨⟨some pitfall⟩, .standard 1, 10, false⟩ deserted pitfall
    [.ofCommand (some Command.move.name)] [] brink (by decide) rfl rfl footing deserted_aloof.careful
  exact ⟨⟨by decide +kernel, robot_on_tile.2.1 _ 0 _ _ accepted life_fallen⟩, by decide +kernel, walked.2.2.1⟩

end Session

end Lamplighter
