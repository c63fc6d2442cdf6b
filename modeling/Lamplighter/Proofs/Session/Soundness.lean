/-
Lamplighter.Proofs.Session.Soundness — the invariant of sessions.

* `Sound` — how the status, the token, the robot and what is noted about a run belong together.
* `Sound.answer`, `Sound.started`, `Sound.resolved` — calls, the start of a run and its resolution keep it.
* `Life.calm` — as long as no exception leaves a run with the status of one, a life keeps it and shows nothing
  else.
* `sound_of_life` — so it is in every life of a fresh session, and no illegal transition is met.
-/
import Lamplighter.Proofs.Session.Life

namespace Lamplighter

namespace Session

/-! ## The invariant -/

/-- A session in order. During a run the status is that of a run unless the run has been asked to stop;
outside runs it is not, and nothing is noted about a run. Only a failed attempt has a reason, and there is
a robot exactly when there is a level. -/
structure Sound (s : Session) : Prop where
  running : s.running = true →
    (s.status = .running ∧ s.cancelled = false) ∨
      (s.cancelled = true ∧ (s.status = .running ∨ s.status = .idle))
  resting : s.running = false →
    (s.status = .idle ∨ s.status = .win ∨ s.status = .fail) ∧ s.path = [] ∧ s.active = none
  failure : s.failure ≠ none → s.status = .fail
  robot : s.robot = none ↔ s.level? = none
  level : s.level? = none ↔ s.levelId = none

namespace Sound

variable {s : Session}

theorem start (house : House) (delay : Int) : (Session.start house delay).Sound where
  running h := by cases h
  resting _ := ⟨.inl rfl, rfl, rfl⟩
  failure h := absurd rfl h
  robot := ⟨fun _ => rfl, fun _ => rfl⟩
  level := ⟨fun _ => rfl, fun _ => rfl⟩

/-- With a level loaded and nothing noted about a run, only the status is left to look at. -/
theorem ofReset {level : Level} (loaded : s.level? = some level)
    (running : s.running = true →
      (s.status = .running ∧ s.cancelled = false) ∨
        (s.cancelled = true ∧ (s.status = .running ∨ s.status = .idle)))
    (resting : s.running = false → s.status = .idle ∨ s.status = .win ∨ s.status = .fail) :
    (s.resetAttempt level).Sound := by
  have same : (s.resetAttempt level).level? = some level := loaded
  exact
    { running := running
      resting := fun h => ⟨resting h, rfl, rfl⟩
      failure := fun h => absurd rfl h
      robot := by rw [same]; simp
      level := by
        rw [same]
        have id : s.levelId ≠ none := by
          intro absent
          simp [level?, absent] at loaded
        simpa using id }

/-- A call keeps a session in order. -/
theorem answer (h : s.Sound) (c : Call) : (c.answer s).2.1.Sound := by
  have effect := c.effect_answer s
  generalize (c.answer s).1 = answer at effect
  generalize (c.answer s).2.1 = t at effect ⊢
  cases effect with
  | edit program delay => exact { h with }
  | load id level resting found =>
    refine ofReset (?_ : _ = some level) ?_ ?_
    · simp [level?, found]
    · intro running
      simp [resting] at running
    · exact fun _ => .inl rfl
  | cancel running =>
    refine { h with running := fun _ => .inr ⟨rfl, ?_⟩, resting := fun resting => ?_ }
    · rcases h.running running with ⟨status, -⟩ | ⟨-, status⟩
      · exact .inl status
      · exact status
    · simp [running] at resting
  | reset level loaded =>
    refine ofReset (?_ : _ = some level) ?_ ?_
    · simpa [level?] using loaded
    · intro running
      have running' : s.running = true := by simpa using running
      rw [s.cancel_of_running running']
      exact .inr ⟨rfl, .inr rfl⟩
    · exact fun _ => .inl rfl
  | reposition level loaded =>
    exact ofReset loaded h.running (fun resting => (h.resting resting).1)

/-- A run starts in order. -/
theorem started {level : Level} (loaded : s.level? = some level) : (s.started level).Sound :=
  ofReset (s := { s with status := .running, running := true, cancelled := false }) loaded
    (fun _ => .inl ⟨rfl, rfl⟩) (fun h => by cases h)

/-- The walk of a run keeps its session in order. -/
theorem during (h : s.Sound) (running : s.running = true) (loaded : s.level? ≠ none) (a : Attempt)
    (path : Path) (active : Option String) : (s.during a path active).Sound where
  running := h.running
  resting resting := by
    have resting' : s.running = false := resting
    simp [running] at resting'
  failure := h.failure
  robot := ⟨fun absent => (by cases absent), fun absent => absurd absent loaded⟩
  level := h.level

/-- A run that an exception has left is in order if its status has been put back to idle before. -/
theorem settled (h : s.Sound) (running : s.running = true) (reset : s.status ≠ .running) : s.settle.Sound := by
  have idle : s.status = .idle := by
    rcases h.running running with ⟨status, -⟩ | ⟨-, status⟩
    · exact absurd status reset
    · exact status.resolve_left reset
  exact
    { running := fun running => by cases running
      resting := fun _ => ⟨.inl idle, rfl, rfl⟩
      failure := h.failure
      robot := h.robot
      level := h.level }

/-- A run is resolved in order. -/
theorem resolved (h : s.Sound) {level : Level} (loaded : s.level? = some level) {outcome : Outcome}
    {t : Session} (resolved : Resolved s.settle outcome t) : t.Sound := by
  have settled : s.settle.level? = some level := loaded
  cases resolved with
  | cancelled =>
    rw [resetToStart_of_loaded settled]
    refine ofReset (?_ : _ = some level) ?_ (fun _ => .inl rfl)
    · simpa [level?] using settled
    · intro running
      simp [settle] at running
  | failed why status heeded =>
    exact
      { running := fun running => by cases running
        resting := fun _ => ⟨.inr (.inr rfl), rfl, rfl⟩
        failure := fun _ => rfl
        robot := h.robot
        level := h.level }
  | won status heeded solved =>
    have running : s.status = .running := status
    exact
      { running := fun running => by cases running
        resting := fun _ => ⟨.inr (.inl rfl), rfl, rfl⟩
        failure := fun reason => by
          have failed := h.failure reason
          rw [running] at failed
          cases failed
        robot := h.robot
        level := h.level }

end Sound

/-! ## Lives in order -/

/-- As long as no exception has left a run with the status of one, the session is in order and always was, and
no request has met with an illegal transition. -/
def Calm (s : Session) (seen : List Sight) : Prop :=
  (∀ x ∈ seen, x.broke = false) → s.Sound ∧ ∀ x ∈ seen, x.session.Sound ∧ x.illegal = false

namespace Calm

variable {s t : Session} {seen : List Sight}

/-- The session is changed, unless an exception has left a run with the status of one. -/
theorem change (h : Calm s seen) (sound : s.Sound → t.Sound) : Calm t seen :=
  fun whole => ⟨sound (h whole).1, (h whole).2⟩

/-- The session as it is now is seen. -/
theorem see (h : Calm s seen) {x : Sight} (session : x.session = s) (legal : x.illegal = false) :
    Calm s (seen ++ [x]) := by
  intro whole
  obtain ⟨sound, all⟩ := h (fun y hy => whole y (List.mem_append_left _ hy))
  refine ⟨sound, fun y hy => ?_⟩
  rcases List.mem_append.mp hy with hy | hy
  · exact all y hy
  · rw [List.mem_singleton.mp hy, session]
    exact ⟨sound, legal⟩

end Calm

/-- A life keeps a session in order. -/
theorem Life.calm {s t : Session} {seen later : List Sight} (life : Life s seen t later)
    (h : Calm s seen) : Calm t later := by
  induction life with
  | rest s seen => exact h
  | call c next ih =>
    exact ih ((h.change (fun sound => sound.answer c)).see rfl rfl)
  | @run s t seen later audience program told slept raised silent next told_ih slept_ih ih =>
    apply ih
    have company : Public audience := ⟨told, slept, raised, silent⟩
    have kept : KeptMidrun Calm audience :=
      { during := fun t w a path active running loaded calm =>
          calm.change (fun sound => sound.during running loaded a path active)
        told := fun l hl e t w _ _ calm => told_ih l hl e t w (calm.see rfl rfl)
        slept := fun n t w _ _ calm => slept_ih n t w (calm.see rfl rfl) }
    have met := company.met program s seen kept
      (fun level loaded => h.change (fun _ => Sound.started loaded))
    generalize s.run audience program seen = done at met ⊢
    cases met with
    | rejected why request => exact h.see rfl rfl
    | illegal level request status =>
      -- outside runs the status of a session in order is not that of a run
      intro whole
      obtain ⟨sound, -⟩ := h (fun y hy => whole y (List.mem_append_left _ hy))
      obtain ⟨resting, -, -⟩ := levelFor_eq_ok.mp request
      have status' := (sound.resting resting).1
      simp [status] at status'
    | broke level request status t later held calm fault breaks =>
      intro whole
      have unbroken := whole _ (List.mem_append_right _ (List.mem_singleton_self _))
      have reset : t.status ≠ .running := by
        rw [Sight.broke, breaks, Bool.true_and] at unbroken
        exact of_decide_eq_false unbroken
      have settled := calm.change (fun sound => sound.settled held.running reset)
      exact settled.see rfl (by simp [Sight.illegal, breaks]) whole
    | ended level request status t later held calm outcome u resolved heeded =>
      obtain ⟨-, loaded, -⟩ := levelFor_eq_ok.mp request
      have there : t.level? = some level := held.level?.trans (level?_started loaded)
      have calm' : Calm u later := calm.change (fun sound => sound.resolved there resolved)
      have finished := finish_keeps outcome
        (fun l hl e t w _ calm => told_ih l hl e t w (calm.see rfl rfl))
        (fun r t w calm => by rw [silent]; exact calm) calm'
      refine finished.see rfl ?_
      rcases finish_answer audience outcome u later with answer | ⟨fault, breaks, answer⟩
      · rw [answer]
        rfl
      · rw [answer, Sight.illegal, breaks]
        rfl

end Session

end Lamplighter
