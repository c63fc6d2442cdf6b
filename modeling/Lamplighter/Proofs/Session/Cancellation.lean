/-
Lamplighter.Proofs.Session.Cancellation — a run that is asked to stop is cancelled, whenever it is asked.

* `life_prefix`, `finish_log` — what has been seen stays seen; the end of a run is the first thing that is
  seen after its walk.
* `AtStart` — a session as a cancelled run leaves it.
* `run_of_stop` — a request to stop at any point of a run decides how the run ends.

The walk may be over, or even have failed, when the run is asked to stop: what decides is the token, which is
looked at once more after the walk, and which nothing takes back during a run.
-/
import Lamplighter.Proofs.Session.Life

namespace Lamplighter

namespace Session

variable {audience : Audience (List Sight)}

/-! ## What has been seen -/

/-- Telling listeners adds to what has been seen, and the first of them sees the event first. -/
theorem notify_log (silent : ∀ r w, audience.print r w = w) (e : Event) (s : Session) (seen : List Sight)
    {ls : List (Event → Session → List Sight → Option Fault × Session × List Sight)}
    (told : ∀ l ∈ ls, ∀ s w, w ++ [.told e s] <+: (l e s w).2.2) :
    (notify audience e ls s seen).2.2 = seen ∨
      seen ++ [.told e s] <+: (notify audience e ls s seen).2.2 := by
  cases ls with
  | nil => exact .inl rfl
  | cons first rest =>
    refine .inr ?_
    have seen_first := told first List.mem_cons_self s seen
    have kept : ∀ t w, seen ++ [.told e s] <+: w →
        seen ++ [.told e s] <+: (notify audience e rest t w).2.2 := by
      intro t w hw
      refine notify_keeps (K := fun _ w => seen ++ [.told e s] <+: w) ?_ ?_ hw
      · intro l hl t w hw
        have told_later := told l (List.mem_cons_of_mem _ hl) t w
        exact hw.trans ((List.prefix_append _ _).trans told_later)
      · intro r t w hw
        rw [silent]
        exact hw
    have seen_one : seen ++ [.told e s] <+: (notifyOne audience e first s seen).2.2 :=
      notifyOne_keeps (K := fun _ w => seen ++ [.told e s] <+: w) (fun r t w hw => by rw [silent]; exact hw) seen_first
    rw [notify_cons]
    generalize notifyOne audience e first s seen = heard at seen_one ⊢
    obtain ⟨_ | met, t, w⟩ := heard
    · exact kept t w seen_one
    · exact seen_one

theorem finish_log (silent : ∀ r w, audience.print r w = w) (outcome : Outcome) (s : Session)
    (seen : List Sight) (told : ∀ l ∈ audience.listeners, ∀ e s w, w ++ [.told e s] <+: (l e s w).2.2) :
    (finish audience outcome s seen).2.2 = seen ∨
      ∃ e, e.kind = .runFinished ∧ seen ++ [.told e s] <+: (finish audience outcome s seen).2.2 := by
  cases there : s.robot with
  | none =>
    left
    simp only [finish, there]
  | some robot =>
    rw [finish_snd audience outcome there]
    have log := notify_log silent (Event.ofOutcome outcome ⟨robot, s.lit, s.store⟩) s seen
      (fun l hl s w => told l hl _ s w)
    exact log.imp_right (fun h => ⟨_, rfl, h⟩)

/-- What has been seen in a life stays seen. -/
theorem life_prefix {s t : Session} {seen later : List Sight} (life : Life s seen t later) :
    seen <+: later := by
  induction life with
  | rest s seen => exact List.prefix_rfl
  | call c next ih => exact (List.prefix_append _ _).trans ih
  | @run s t seen later audience program told slept raised silent next told_ih slept_ih ih =>
    refine List.IsPrefix.trans ?_ ((List.prefix_append _ _).trans ih)
    have company : Public audience := ⟨told, slept, raised, silent⟩
    have met := company.met program s seen keptMidrun_true (fun _ _ => trivial)
    generalize s.run audience program seen = done at met ⊢
    cases met with
    | rejected | illegal => exact List.prefix_rfl
    | broke level request status t walked held =>
      obtain ⟨more, rfl, -⟩ := held.seen
      exact List.prefix_append _ _
    | ended level request status t walked held kept outcome u =>
      obtain ⟨more, rfl, -⟩ := held.seen
      have log := finish_log silent outcome u (seen ++ more) (fun l hl e s w => told_ih l hl e s w)
      rcases log with same | ⟨e, -, told⟩
      · rw [same]
        exact List.prefix_append _ _
      · exact (List.prefix_append _ _).trans ((List.prefix_append _ _).trans told)

/-! ## Cancelled runs -/

/-- A session as a cancelled run on a level leaves it: the level is as at its start, nothing is said about
a run, and the level and the program are those with which it began. -/
structure AtStart (level : Level) (s t : Session) : Prop where
  status : t.status = .idle
  running : t.running = false
  robot : t.robot = some level.start
  lit : t.lit = []
  store : t.store = Store.ofLevel (some level)
  path : t.path = []
  active : t.active = none
  failure : t.failure = none
  program : t.program = s.program
  levelId : t.levelId = s.levelId
  level : t.level? = some level

theorem atStart_resetToStart {level : Level} {s t : Session} (loaded : t.level? = some level)
    (levelId : t.levelId = s.levelId) (program : t.program = s.program) :
    AtStart level s t.settle.resetToStart.2 := by
  have settled : t.settle.level? = some level := loaded
  rw [resetToStart_of_loaded settled, cancel_of_not_running _ rfl]
  exact
    { status := rfl, running := rfl, robot := rfl, lit := rfl, store := rfl, path := rfl, active := rfl
      failure := rfl, program := program, levelId := levelId, level := loaded }

/-- If a log goes on after the walk of a run with the end of the run, then whatever has been seen before
the end was seen in the walk. -/
theorem mem_of_midrun {before after more : List Sight} {x y : Sight} {log : List Sight}
    (going : ∀ z ∈ before, z.midrun = true) (ended : y.midrun = false) (stops : x.stops = true)
    (plain : y.stops = false) (h : log = before ++ x :: after) (end_seen : more ++ [y] <+: log) :
    x ∈ more := by
  obtain ⟨rest, rfl⟩ := end_seen
  rw [List.append_assoc, List.append_eq_append_iff] at h
  rcases h with ⟨between, rfl, h⟩ | ⟨between, rfl, h⟩
  · cases between with
    | nil =>
      obtain ⟨rfl, -⟩ := List.cons.inj h
      rw [stops] at plain
      cases plain
    | cons z between =>
      obtain ⟨rfl, -⟩ := List.cons.inj h
      have midrun := going y (by simp)
      rw [ended] at midrun
      cases midrun
  · cases between with
    | nil =>
      obtain ⟨rfl, -⟩ := List.cons.inj h
      rw [stops] at plain
      cases plain
    | cons z between =>
      obtain ⟨rfl, -⟩ := List.cons.inj h
      simp

/-- A run that has started and is asked to stop at any point before its end is told (`x`, after `before`),
by whoever is told of an event or acts during a sleep, is cancelled, whatever else is asked of the session
and however its walk goes on, unless an exception leaves it. When its end is told, the level is as at its
start, and the session is idle, with the level and the program with which the run began. -/
theorem run_of_stop (h : Public audience) {program : Option Program} {s : Session} {level : Level}
    {seen before after : List Sight} {x : Sight}
    (request : s.levelFor (program.getD s.program) = .ok level) (resting : s.status ≠ .running)
    (log : (s.run audience program seen).2.2 = seen ++ (before ++ x :: after))
    (going : ∀ y ∈ before, y.midrun = true) (stops : x.stops = true)
    (whole : ∀ fault, (s.run audience program seen).1 = .error fault → fault.breaks = false) :
    ∃ t walked, AtStart level s t ∧ s.run audience program seen =
      (.ok .cancelled,
        (notify audience (Event.ofOutcome .cancelled ⟨level.start, [], Store.ofLevel (some level)⟩)
          audience.listeners t walked).2) := by
  have met := h.met program s seen keptMidrun_true (fun _ _ => trivial)
  generalize s.run audience program seen = done at met log whole ⊢
  cases met with
  | rejected why refused =>
    rw [request] at refused
    cases refused
  | illegal level' request' status => exact absurd status resting
  | broke level' request' status t walked held kept fault breaks =>
    have unbroken := whole fault rfl
    rw [breaks] at unbroken
    cases unbroken
  | ended level' request' status t walked held kept outcome u resolved heeded =>
    obtain rfl : level = level' := Except.ok.inj (request.symm.trans request')
    obtain ⟨-, loaded, -⟩ := levelFor_eq_ok.mp request
    obtain ⟨more, rfl, -, stopped, -⟩ := held.seen
    have told : ∀ l ∈ audience.listeners, ∀ e s w, w ++ [.told e s] <+: (l e s w).2.2 :=
      fun l hl e s w => life_prefix (h.told l hl e s w)
    have asked : x ∈ more := by
      rcases finish_log h.silent outcome u (seen ++ more) told with same | ⟨e, kind, told⟩
      · rw [same, List.append_cancel_left_eq] at log
        simp [log]
      · rw [log, List.append_assoc, List.prefix_append_right_inj] at told
        exact mem_of_midrun going (by simp [Sight.midrun, kind]) stops rfl rfl told
    have cancelled : t.cancelled = true := stopped (List.any_eq_true.mpr ⟨x, asked, stops⟩)
    obtain rfl : outcome = .cancelled := heeded cancelled
    cases resolved
    have start : AtStart level s t.settle.resetToStart.2 :=
      atStart_resetToStart (held.level?.trans (level?_started loaded)) held.levelId held.program
    have told := finish_snd audience .cancelled start.robot (seen ++ more)
    rw [start.lit, start.store] at told
    refine ⟨_, seen ++ more, start, Prod.ext ?_ told⟩
    have answer := finish_answer audience .cancelled t.settle.resetToStart.2 (seen ++ more)
    rcases answer with answer | ⟨fault, breaks, answer⟩
    · exact answer
    · have unbroken := whole fault answer
      rw [breaks] at unbroken
      cases unbroken

/-- An audience that cancels a run when it is told of a failure, and asks for other things after that. -/
def spoiler : Audience (List Sight) :=
  callers (fun e => if e.success = some false then [.cancel, .next, .clearProgram, .setSpeed (.ok 7)] else [])
    (fun _ => [])

/-- A run before it, of a command that is blocked. -/
def spoiled : Except Fault Outcome × Session × List Sight :=
  ready.run spoiler (some [.ofCommand (some Command.move.name)]) []

theorem run_of_stop_spoiled :
    ∃ t walked, AtStart cell ready t ∧ spoiled =
      (.ok .cancelled,
        (notify spoiler (Event.ofOutcome .cancelled ⟨cell.start, [], Store.ofLevel (some cell)⟩)
          spoiler.listeners t walked).2) := by
  have log : spoiled.2.2 =
      [] ++ (spoiled.2.2.take 2 ++ .called .cancel .nothing spoiled.2.2[2].session :: spoiled.2.2.drop 3) :=
    rfl
  exact run_of_stop (callers_public _ _) rfl (by decide) log (by decide) rfl (fun fault h => by cases h)

end Session

end Lamplighter
