/-
Lamplighter.Proofs.Session.Recovery — when a session can run again.

* `stranded` — by what has been seen, whether an exception has left the status as it is during a run.
* `Rested`, `life_rested` — the invariant of sessions in which no run is in progress: the status is that of
  a run exactly if one was stranded, and something counts as being run exactly if a request has met with an
  illegal transition.
* `status_of_broken` — an exception strands the session unless a reset has been asked for during the run.
* `runsAgain_iff` — the exact condition under which a session can run again.
* `not_runsAgain_jammed` — a session that can not, after a pause that no clock can count.

The end of a run puts back what is noted about it, but not the status. So the next request is granted, finds
the status of a run, and breaks off when it already counts as running and nothing will end it.
-/
import Lamplighter.Proofs.Session.Life

namespace Lamplighter

namespace Session

/-! ## Stranded sessions -/

/-- Whether a session is stranded after one more sight. -/
def strandedAfter (before : Bool) : Sight → Bool
  | .ran (.error _) s => s.status = .running
  | .called c answer _ => before && !c.idles answer
  | _ => before

/-- Whether an exception has left the session with the status of a run, and nothing has idled it since. -/
def stranded (seen : List Sight) : Bool := seen.foldl strandedAfter false

theorem stranded_append (seen : List Sight) (x : Sight) :
    stranded (seen ++ [x]) = strandedAfter (stranded seen) x := by
  simp [stranded, List.foldl_append]

/-- Nothing that can be seen during a run strands a session. -/
theorem stranded_append_midrun {seen more : List Sight} (h : stranded seen = false)
    (midrun : ∀ x ∈ more, x.midrun = true) : stranded (seen ++ more) = false := by
  induction more generalizing seen with
  | nil => simpa using h
  | cons x more ih =>
    have one : stranded (seen ++ [x]) = false := by
      have allowed := midrun x List.mem_cons_self
      rw [stranded_append, h]
      unfold strandedAfter
      split
      · simp [Sight.midrun] at allowed
      · rfl
      · rfl
    have rest := ih one (fun y hy => midrun y (List.mem_cons_of_mem _ hy))
    rwa [List.append_assoc] at rest

/-- What can be seen during a run is no illegal transition. -/
theorem illegal_of_midrun {x : Sight} (h : x.midrun = true) : x.illegal = false := by
  unfold Sight.midrun at h
  split at h
  · rfl
  · rfl
  · rfl
  · rfl
  · cases h

/-! ## The invariant -/

/-- A session in which no run is in progress. -/
structure Rested (s : Session) (seen : List Sight) : Prop where
  status : s.status = .running ↔ stranded seen = true
  running : s.running = true ↔ ∃ x ∈ seen, x.illegal = true
  level : s.status = .running → s.level? ≠ none

namespace Rested

variable {s t : Session} {seen later : List Sight}

theorem start (house : House) (delay : Int) : Rested (Session.start house delay) [] where
  status := by simp [Session.start, stranded]
  running := by simp [Session.start]
  level h := by cases h

/-- A session that is at rest and was never left by an exception. -/
theorem ofClean (status : s.status ≠ .running) (running : s.running = false)
    (clean : stranded seen = false) (legal : ∀ x ∈ seen, x.illegal = false) : Rested s seen where
  status := by simp [status, clean]
  running := by
    rw [running]
    simpa using legal
  level h := absurd h status

/-- An exception is seen to leave a run, and whether it strands the session is seen too. -/
theorem seeBroken (h : Rested s seen) {fault : Fault} (breaks : fault.breaks = true) :
    Rested s (seen ++ [.ran (.error fault) s]) where
  status := by simp [stranded_append, strandedAfter]
  running := by
    rw [h.running]
    simp [Sight.illegal, breaks]
  level := h.level

/-- Something is seen that strands nothing and ends nothing. -/
theorem see (h : Rested s seen) {x : Sight} (same : ∀ before, strandedAfter before x = before)
    (legal : x.illegal = false) : Rested s (seen ++ [x]) where
  status := by
    rw [stranded_append, same]
    exact h.status
  running := by
    rw [h.running]
    simp [legal]
  level := h.level

/-- A call, by its effect. -/
theorem answer (h : Rested s seen) (c : Call) :
    Rested (c.answer s).2.1 (seen ++ [.called c (c.answer s).1 (c.answer s).2.1]) := by
  have effect := c.effect_answer s
  generalize (c.answer s).1 = answer at effect ⊢
  generalize (c.answer s).2.1 = t at effect ⊢
  have legal : (∃ x ∈ seen ++ [Sight.called c answer t], x.illegal = true) ↔
      ∃ x ∈ seen, x.illegal = true := by
    simp [Sight.illegal]
  have after : stranded (seen ++ [.called c answer t]) = (stranded seen && !c.idles answer) := by
    rw [stranded_append]
    rfl
  -- calls that idle a session also end what has been stranded; the others leave both
  have moved : t.running = s.running → (t.status = .running ↔ s.status = .running ∧ c.idles answer = false) →
      (t.status = .running → t.level? ≠ none) → Rested t (seen ++ [.called c answer t]) := by
    intro running status level
    refine ⟨?_, ?_, level⟩
    · rw [status, after, h.status]
      simp
    · rw [running, legal, h.running]
  cases effect with
  | edit program delay kept unheard still =>
    refine moved rfl ⟨fun status => ⟨status, ?_⟩, fun both => both.1⟩ h.level
    cases idles : c.idles answer with
    | false => rfl
    | true => exact absurd (still idles) (h.level status)
  | load id level resting found told =>
    refine moved rfl ⟨fun status => (by cases status), fun both => ?_⟩ (fun status => by cases status)
    simp [told] at both
  | cancel running still =>
    exact moved rfl ⟨fun status => ⟨status, still⟩, fun both => both.1⟩ h.level
  | reset level loaded told =>
    refine moved (by simp) ⟨fun status => (by cases status), fun both => ?_⟩ (fun status => by cases status)
    simp [told] at both
  | reposition level loaded plain still =>
    exact moved rfl ⟨fun status => ⟨status, still⟩, fun both => both.1⟩ h.level

/-- During a run that started at rest nothing is stranded, and no transition is illegal. -/
theorem walked {u : Session} (h : Rested s seen) (resting : s.running = false) (status : s.status ≠ .running)
    (held : Held u seen t later) : stranded later = false ∧ ∀ x ∈ later, x.illegal = false := by
  obtain ⟨more, rfl, midrun, -⟩ := held.seen
  constructor
  · refine stranded_append_midrun ?_ midrun
    simpa using mt h.status.mpr status
  · intro x hx
    rcases List.mem_append.mp hx with hx | hx
    · have none_illegal := mt h.running.mpr (by simp [resting])
      simpa using fun illegal => none_illegal ⟨x, hx, illegal⟩
    · exact illegal_of_midrun (midrun x hx)

end Rested

/-- A run that did not break off is answered, and leaves a session at rest. -/
theorem Resolved.rests {s t : Session} {outcome : Outcome} (h : Resolved s outcome t)
    (loaded : s.level? ≠ none) (resting : s.running = false) :
    t.status ≠ .running ∧ t.running = false ∧ outcome ≠ .rejected := by
  cases h with
  | cancelled =>
    obtain ⟨level, loaded⟩ := Option.ne_none_iff_exists'.mp loaded
    rw [resetToStart_of_loaded loaded, cancel_of_not_running _ resting]
    exact ⟨by simp, resting, by decide⟩
  | failed => exact ⟨by simp, resting, by decide⟩
  | won => exact ⟨by simp, resting, by decide⟩

section Requests

variable {audience : Audience (List Sight)} {s : Session} {seen : List Sight}

/-- A request to run leaves a session at rest, if those who are told of the end of a run do. -/
theorem Rested.ran (company : Public audience) (program : Option Program)
    (told : ∀ l ∈ audience.listeners, ∀ e t w, Rested t (w ++ [.told e t]) →
      Rested (l e t w).2.1 (l e t w).2.2) (h : Rested s seen) :
    Rested (s.run audience program seen).2.1
      ((s.run audience program seen).2.2 ++
        [.ran (s.run audience program seen).1 (s.run audience program seen).2.1]) := by
  have met := company.met program s seen keptMidrun_true (fun _ _ => trivial)
  generalize s.run audience program seen = done at met ⊢
  cases met with
  | rejected why request => exact h.see (fun _ => rfl) rfl
  | illegal level request status =>
    obtain ⟨-, loaded, -⟩ := levelFor_eq_ok.mp request
    have still : (s.prepare level).status = .running := by simp [prepare, resetAttempt, status]
    have there : (s.prepare level).level? = some level := loaded
    refine ⟨?_, ?_, ?_⟩
    · simp [stranded_append, strandedAfter, still]
    · simp [prepare, Sight.illegal, Fault.breaks]
    · simp [there]
  | broke level request status t later held kept fault breaks =>
    obtain ⟨resting, loaded, -⟩ := levelFor_eq_ok.mp request
    obtain ⟨-, legal⟩ := h.walked resting status held
    have there : t.settle.level? = some level := held.level?.trans (level?_started loaded)
    refine ⟨?_, ?_, ?_⟩
    · simp [stranded_append, strandedAfter]
    · simpa [settle, Sight.illegal, breaks] using legal
    · simp [there]
  | ended level request status t later held kept outcome u resolved heeded =>
    obtain ⟨resting, loaded, -⟩ := levelFor_eq_ok.mp request
    obtain ⟨clean, legal⟩ := h.walked resting status held
    have there : t.settle.level? = some level := held.level?.trans (level?_started loaded)
    obtain ⟨ended, freed, -⟩ := resolved.rests (by simp [there]) rfl
    have rested := finish_keeps (K := Rested) outcome
      (fun l hl e t w _ rested => told l hl e t w (rested.see (fun _ => rfl) rfl))
      (fun r t w rested => by rw [company.silent]; exact rested) (Rested.ofClean ended freed clean legal)
    rcases finish_answer audience outcome u later with answer | ⟨fault, breaks, answer⟩
    · rw [answer]
      exact rested.see (fun _ => rfl) rfl
    · rw [answer]
      exact rested.seeBroken breaks

end Requests

/-- A life leaves a session at rest that was at rest before. -/
theorem life_rested {s t : Session} {seen later : List Sight} (life : Life s seen t later)
    (h : Rested s seen) : Rested t later := by
  induction life with
  | rest s seen => exact h
  | call c next ih => exact ih (h.answer c)
  | run audience program told slept raised silent next told_ih slept_ih ih =>
    exact ih (Rested.ran ⟨told, slept, raised, silent⟩ program told_ih h)

/-! ## Running again -/

section Recovery

variable {audience : Audience (List Sight)} {program : Option Program} {s : Session} {seen : List Sight}

/-- A run whose walk an exception leaves keeps the status of a run, unless a reset has been asked for meanwhile.
Other calls that idle a session are refused during a run. -/
theorem status_of_broken (h : Public audience) {level : Level}
    (request : s.levelFor (program.getD s.program) = .ok level) (resting : s.status ≠ .running) {fault : Fault}
    (broken : (s.walk audience level (program.getD s.program) seen).1 = .broken fault) :
    ∃ more, (s.run audience program seen).2.2 = seen ++ more ∧
      ((s.run audience program seen).2.1.status = .running ↔ more.any Sight.idles = false) := by
  have loaded := (levelFor_eq_ok.mp request).2.1
  have there : (s.started level).level? ≠ none := by
    rw [level?_started loaded]
    simp
  have keeps : audience.Keeps fun t w => Held (s.started level) seen t w ∧ True := h.keeps keptMidrun_true there
  obtain ⟨⟨held, -⟩, -⟩ := walk_keeps keeps level (program.getD s.program) s seen ⟨.refl rfl, trivial⟩
  rw [run_started request resting]
  generalize s.walk audience level (program.getD s.program) seen = done at held broken ⊢
  obtain ⟨ending, st⟩ := done
  obtain rfl : ending = .broken fault := broken
  obtain ⟨more, seen_later, -, -, idled, same⟩ := held.seen
  refine ⟨more, seen_later, ?_⟩
  have still : (resolve audience level (verdict (.broken fault) st.cancelled) st.failure (ofStage st).settle
      st.world.2).2.1.status = (ofStage st).status := rfl
  cases idles : more.any Sight.idles with
  | true => simp [still, (idled idles).2]
  | false =>
    have running : (ofStage st).status = .running := same idles
    simp [still, running]

/-- A run that starts is not rejected, and meets with no illegal transition. -/
theorem answer_of_started (h : Public audience) {level : Level}
    (request : s.levelFor (program.getD s.program) = .ok level) (resting : s.status ≠ .running) :
    (s.run audience program seen).1 ≠ .ok .rejected ∧
      ∀ fault, (s.run audience program seen).1 = .error fault → fault.breaks = true := by
  have met := h.met program s seen keptMidrun_true (fun _ _ => trivial)
  generalize s.run audience program seen = done at met ⊢
  cases met with
  | rejected why refused =>
    rw [request] at refused
    cases refused
  | illegal level request status => exact absurd status resting
  | broke level request status t later held kept fault breaks =>
    exact ⟨by simp, fun other same => by cases same; exact breaks⟩
  | ended level request status t later held kept outcome u resolved heeded =>
    have there : t.settle.level? = some level :=
      held.level?.trans (level?_started (levelFor_eq_ok.mp request).2.1)
    obtain ⟨-, -, outcome_ne⟩ := resolved.rests (by simp [there]) rfl
    rcases finish_answer audience outcome u later with answer | ⟨fault, breaks, answer⟩
    · rw [answer]
      exact ⟨by simpa using outcome_ne, fun fault same => by cases same⟩
    · rw [answer]
      exact ⟨by simp, fun other same => by cases same; exact breaks⟩

/-- A session can run again: nothing counts as being run; a request to run a program is not rejected and
meets with no illegal transition; and nothing counts as being run after it. -/
structure RunsAgain (audience : Audience (List Sight)) (program : Option Program) (s : Session)
    (seen : List Sight) : Prop where
  free : s.running = false
  accepted : (s.run audience program seen).1 ≠ .ok .rejected
  legal : ∀ fault, (s.run audience program seen).1 = .error fault → fault.breaks = true
  freed : (s.run audience program seen).2.1.running = false

/-- In every life of a fresh session, by any requests in any order, a session with a level can run a program
again exactly if no exception has left it stranded since it was last idled, and no request to run has ever met
with an illegal transition, those included that listeners make when they are told of the end of the run. -/
theorem runsAgain_iff {house : House} {delay : Int} (life : Life (start house delay) [] s seen)
    (loaded : s.level? ≠ none) (nonempty : program.getD s.program ≠ []) (h : Public audience) :
    RunsAgain audience program s seen ↔
      stranded seen = false ∧ ∀ x ∈ (s.run audience program seen).2.2, x.illegal = false := by
  have rested : Rested s seen := life_rested life (Rested.start house delay)
  have after := rested.ran h program (fun l hl e t w => life_rested (h.told l hl e t w))
  obtain ⟨level, loaded⟩ := Option.ne_none_iff_exists'.mp loaded
  constructor
  · intro again
    have request : s.levelFor (program.getD s.program) = .ok level :=
      levelFor_eq_ok.mpr ⟨again.free, loaded, nonempty⟩
    constructor
    · cases left : stranded seen with
      | false => rfl
      | true =>
        have status := rested.status.mpr left
        have legal := again.legal _ (by rw [run_illegal request status])
        cases legal
    · have none_illegal := mt after.running.mpr (by simp [again.freed])
      intro x hx
      simpa using fun illegal => none_illegal ⟨x, List.mem_append_left _ hx, illegal⟩
  · rintro ⟨clean, legal⟩
    have status : s.status ≠ .running := mt rested.status.mp (by simp [clean])
    have free : s.running = false := by
      cases running : s.running with
      | false => rfl
      | true =>
        -- a rejected request shows nothing new, so what has jammed the session is still to be seen
        have request : s.levelFor (program.getD s.program) = .error .alreadyRunning := by
          simp [levelFor, running]
        rw [run_rejected request, h.silent] at legal
        obtain ⟨x, hx, illegal⟩ := rested.running.mp running
        rw [legal x hx] at illegal
        cases illegal
    have request : s.levelFor (program.getD s.program) = .ok level :=
      levelFor_eq_ok.mpr ⟨free, loaded, nonempty⟩
    have answered : (s.run audience program seen).1 ≠ .ok .rejected ∧
        ∀ fault, (s.run audience program seen).1 = .error fault → fault.breaks = true :=
      answer_of_started h request status
    have freed : (s.run audience program seen).2.1.running = false := by
      refine Bool.eq_false_iff.mpr (mt after.running.mp ?_)
      rintro ⟨x, hx, illegal⟩
      rcases List.mem_append.mp hx with hx | hx
      · rw [legal x hx] at illegal
        cases illegal
      · rw [List.mem_singleton.mp hx] at illegal
        revert illegal
        cases answer : (s.run audience program seen).1 with
        | ok outcome => simp [Sight.illegal]
        | error fault => simp [Sight.illegal, answered.2 fault answer]
    exact ⟨free, answered.1, answered.2, freed⟩

end Recovery

/-- Nobody who would do anything. -/
def nobody : Audience (List Sight) := callers (fun _ => []) (fun _ => [])

theorem nobody_public : Public nobody := callers_public _ _

/-- A session in which pauses are so long that no clock can count them. -/
def slowed : Session × List Sight :=
  makeCalls [.load (some 1), .setSpeed (.ok (Int.ofNat (Nat.pow 10 400)))] (start hut 0) []

/-- A run that breaks off at such a pause. -/
def broken : Except Fault Outcome × Session × List Sight := slowed.1.run nobody (some light) slowed.2

/-- The session after it, with short pauses again. -/
def jammed : Session × List Sight :=
  makeCalls [.setSpeed (.ok 0)] broken.2.1 (broken.2.2 ++ [.ran broken.1 broken.2.1])

theorem life_jammed : Life (start hut 0) [] jammed.1 jammed.2 := by
  have slow : Life (start hut 0) [] slowed.1 slowed.2 := life_makeCalls _ _ _
  have run : Life slowed.1 slowed.2 broken.2.1 (broken.2.2 ++ [.ran broken.1 broken.2.1]) := by
    unfold broken
    exact nobody_public.life (some light) slowed.1 slowed.2
  exact slow.trans (run.trans (life_makeCalls _ _ _))

/-- Then a request to run is met with an illegal transition, and the session counts as running for good. -/
theorem not_runsAgain_jammed :
    ∃ s seen, Life (start hut 0) [] s seen ∧ s.level? = some cell ∧ s.running = false ∧
      (s.run nobody (some light) seen).1 = .error (.illegalTransition .running .running) ∧
      (s.run nobody (some light) seen).2.1.running = true ∧ ¬ RunsAgain nobody (some light) s seen := by
  have loaded : jammed.1.level? = some cell := by decide +kernel
  have free : jammed.1.running = false := by decide +kernel
  have status : jammed.1.status = .running := by decide +kernel
  have request : jammed.1.levelFor light = .ok cell := levelFor_eq_ok.mpr ⟨free, loaded, by decide⟩
  have run : jammed.1.run nobody (some light) jammed.2 =
      (.error (.illegalTransition .running .running), jammed.1.prepare cell, jammed.2) :=
    run_illegal request status
  refine ⟨jammed.1, jammed.2, life_jammed, loaded, free, by rw [run], by rw [run]; rfl, ?_⟩
  intro again
  have legal := again.legal _ (by rw [run])
  cases legal

/-- After a reset it can run again. -/
theorem runsAgain_iff_reset :
    RunsAgain nobody (some light) (makeCalls [.resetToStart] jammed.1 jammed.2).1
      (makeCalls [.resetToStart] jammed.1 jammed.2).2 := by
  have life := life_jammed.trans (life_makeCalls [.resetToStart] jammed.1 jammed.2)
  have loaded : (makeCalls [.resetToStart] jammed.1 jammed.2).1.level? ≠ none := by decide +kernel
  have clean : stranded (makeCalls [.resetToStart] jammed.1 jammed.2).2 = false := by decide +kernel
  exact (runsAgain_iff life loaded (by decide) nobody_public).mpr ⟨clean, by decide +kernel⟩

end Session

end Lamplighter
