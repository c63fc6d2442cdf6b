/-
Lamplighter.Proofs.Session.Life — what can happen to a session by way of public requests.

* `Sight` — one thing seen: a listener is told, a run sleeps, a call is made, a request to run is
  answered; each with the session right then.
* `Life` — the lives of a session: calls and runs in any order, where everyone whom a run turns to may
  live on with the session in the same way before the run goes on.
* `Public` — an audience whose members do nothing else; `callers` — one that makes calls.
* `Held`, `Life.held` — what stays put while a run is in progress.
* `Met`, `Public.met_of_walk`, `Public.met` — the ways in which a request to run is met.

Whoever acts may choose what to do by all that has been seen so far: what has been seen is all the state
that an audience needs.
-/
import Lamplighter.Proofs.Session.Calls
import Lamplighter.Proofs.Session.Pairing

namespace Lamplighter

namespace Session

/-! ## Sights -/

/-- One thing seen in the life of a session, with the session right then. A request to run is seen when
it has been answered. -/
inductive Sight where
  | told (e : Event) (s : Session)
  | slept (seconds : Binary64) (s : Session)
  | called (c : Call) (answer : Answer) (s : Session)
  | ran (answer : Except Fault Outcome) (s : Session)

namespace Sight

/-- The session that is seen. -/
def session : Sight → Session
  | told _ s | slept _ s | called _ _ s | ran _ s => s

/-- A run that an exception has left with the status of a run: one that came out of its walk. What comes of
telling the end of a run finds another status. -/
def broke : Sight → Bool
  | ran (.error fault) s => fault.breaks && s.status = .running
  | _ => false

/-- A request to run that was met with an illegal transition of the status. -/
def illegal : Sight → Bool
  | ran (.error fault) _ => !fault.breaks
  | _ => false

/-- A call that asks a run to stop. -/
def stops : Sight → Bool
  | called c _ _ => c.stops
  | _ => false

/-- A call after which a session with a level is idle. -/
def idles : Sight → Bool
  | called c answer _ => c.idles answer
  | _ => false

/-- What can be seen while a run is in progress: no end of a run, and no other run than a rejected one. -/
def midrun : Sight → Bool
  | told e _ => e.kind != .runFinished
  | slept .. | called .. | ran (.ok .rejected) _ => true
  | ran .. => false

end Sight

/-! ## Lives -/

/-- A session lives from one state to another, by calls and runs; what has been seen grows meanwhile. In
a run, everyone who is told of an event or acts during a sleep lives on with the session; they raise
errors of their own only, and printing shows nobody anything. -/
inductive Life : Session → List Sight → Session → List Sight → Prop
  | rest (s : Session) (seen : List Sight) : Life s seen s seen
  | call {s t : Session} {seen later : List Sight} (c : Call)
      (next : Life (c.answer s).2.1 (seen ++ [.called c (c.answer s).1 (c.answer s).2.1]) t later) :
      Life s seen t later
  | run {s t : Session} {seen later : List Sight} (audience : Audience (List Sight))
      (program : Option Program)
      (told : ∀ l ∈ audience.listeners, ∀ e s seen,
        Life s (seen ++ [.told e s]) (l e s seen).2.1 (l e s seen).2.2)
      (slept : ∀ n s seen,
        Life s (seen ++ [.slept n s]) (audience.sleep n s seen).2.1 (audience.sleep n s seen).2.2)
      (raised : ∀ n s seen fault, (audience.sleep n s seen).1 = some fault → ∃ text, fault = .raised text)
      (silent : ∀ r seen, audience.print r seen = seen)
      (next : Life (s.run audience program seen).2.1
        ((s.run audience program seen).2.2 ++
          [.ran (s.run audience program seen).1 (s.run audience program seen).2.1]) t later) :
      Life s seen t later

/-- An audience whose members live on with the session that they are shown, and do nothing else. -/
structure Public (audience : Audience (List Sight)) : Prop where
  told : ∀ l ∈ audience.listeners, ∀ e s seen,
    Life s (seen ++ [.told e s]) (l e s seen).2.1 (l e s seen).2.2
  slept : ∀ n s seen,
    Life s (seen ++ [.slept n s]) (audience.sleep n s seen).2.1 (audience.sleep n s seen).2.2
  raised : ∀ n s seen fault, (audience.sleep n s seen).1 = some fault → ∃ text, fault = .raised text
  silent : ∀ r seen, audience.print r seen = seen

/-! ## Callers -/

/-- Make calls in order. -/
def makeCalls : List Call → Session → List Sight → Session × List Sight
  | [], s, seen => (s, seen)
  | c :: rest, s, seen =>
    makeCalls rest (c.answer s).2.1 (seen ++ [.called c (c.answer s).1 (c.answer s).2.1])

theorem life_makeCalls (calls : List Call) (s : Session) (seen : List Sight) :
    Life s seen (makeCalls calls s seen).1 (makeCalls calls s seen).2 := by
  induction calls generalizing s seen with
  | nil => exact .rest s seen
  | cons c rest ih => exact .call c (ih _ _)

/-- The audience in which one listener makes calls at events, and someone else during sleeps. -/
def callers (atEvent : Event → List Call) (asleep : Binary64 → List Call) : Audience (List Sight) where
  listeners := [fun e s seen => (none, makeCalls (atEvent e) s (seen ++ [.told e s]))]
  sleep n s seen := (none, makeCalls (asleep n) s (seen ++ [.slept n s]))
  print _ seen := seen

theorem callers_public (atEvent : Event → List Call) (asleep : Binary64 → List Call) :
    Public (callers atEvent asleep) where
  told l hl e s seen := by
    rw [List.mem_singleton.mp hl]
    exact life_makeCalls _ _ _
  slept n s seen := life_makeCalls _ _ _
  raised n s seen fault h := by cases h
  silent r seen := rfl

/-- A level of one cell, which is its goal. -/
def cell : Level where
  id := 1
  size := 1
  layout := [{ position := ⟨0, 0⟩ }]
  start := ⟨⟨0, 0⟩, .north⟩
  goals := [⟨0, 0⟩]
  maxCommands := 5

/-- A house with this level alone. -/
def hut : House := ⟨⟨[cell]⟩, .standard 1, 10, false⟩

/-- The program that solves it. -/
def light : Program := [.ofCommand (some Command.light.name)]

/-- A session with the small level loaded. -/
def ready : Session := (makeCalls [.load (some 1)] (start hut 0) []).1

/-- One request to run is a life. -/
theorem Public.life {audience : Audience (List Sight)} (h : Public audience) (program : Option Program)
    (s : Session) (seen : List Sight) :
    Life s seen (s.run audience program seen).2.1
      ((s.run audience program seen).2.2 ++
        [.ran (s.run audience program seen).1 (s.run audience program seen).2.1]) :=
  .run audience program h.told h.slept h.raised h.silent (.rest _ _)

/-- One life goes on where another ends. -/
theorem Life.trans {s t u : Session} {seen later last : List Sight} (h₁ : Life s seen t later)
    (h₂ : Life t later u last) : Life s seen u last := by
  induction h₁ with
  | rest s seen => exact h₂
  | call c next ih => exact .call c (ih h₂)
  | run audience program told slept raised silent next _ _ ih =>
    exact .run audience program told slept raised silent (ih h₂)

/-- Errors of a sleeper's own break a walk off. -/
theorem breaks_of_raised {fault : Fault} (h : ∃ text, fault = .raised text) : fault.breaks = true := by
  obtain ⟨text, rfl⟩ := h
  rfl

/-! ## Runs in progress -/

/-- What stays put of a session while its run is in progress, from one state to a later one. The status
changes by calls that idle the session, and these have asked the run to stop. -/
structure Held (s : Session) (seen : List Sight) (t : Session) (later : List Sight) : Prop where
  running : t.running = true
  house : t.house = s.house
  levelId : t.levelId = s.levelId
  program : t.program = s.program
  cancelled : s.cancelled = true → t.cancelled = true
  seen : ∃ more, later = seen ++ more ∧ (∀ x ∈ more, x.midrun = true) ∧
    (more.any Sight.stops = true → t.cancelled = true) ∧
    (more.any Sight.idles = true → t.cancelled = true ∧ t.status = .idle) ∧
    (more.any Sight.idles = false → t.status = s.status)

namespace Held

variable {s t u : Session} {seen later last : List Sight}

theorem refl (running : s.running = true) : Held s seen s seen where
  running := running
  house := rfl
  levelId := rfl
  program := rfl
  cancelled := id
  seen := ⟨[], by simp, by simp, by simp, by simp, by simp⟩

theorem trans (h₁ : Held s seen t later) (h₂ : Held t later u last) : Held s seen u last where
  running := h₂.running
  house := h₂.house.trans h₁.house
  levelId := h₂.levelId.trans h₁.levelId
  program := h₂.program.trans h₁.program
  cancelled h := h₂.cancelled (h₁.cancelled h)
  seen := by
    obtain ⟨more, rfl, midrun, stopped, idled, status⟩ := h₁.seen
    obtain ⟨next, rfl, midrun', stopped', idled', status'⟩ := h₂.seen
    refine ⟨more ++ next, by simp, ?_, ?_, ?_, ?_⟩
    · intro x hx
      exact (List.mem_append.mp hx).elim (midrun x) (midrun' x)
    · intro h
      rw [List.any_append, Bool.or_eq_true] at h
      exact h.elim (fun h => h₂.cancelled (stopped h)) stopped'
    · intro h
      rw [List.any_append, Bool.or_eq_true] at h
      cases later : next.any Sight.idles with
      | true => exact idled' later
      | false =>
        obtain ⟨cancelled, idle⟩ := idled (h.resolve_right (by simp [later]))
        exact ⟨h₂.cancelled cancelled, (status' later).trans idle⟩
    · intro h
      rw [List.any_append, Bool.or_eq_false_iff] at h
      exact (status' h.2).trans (status h.1)

/-- Something is seen that is no call. -/
theorem see (h : Held s seen t later) {x : Sight} (midrun : x.midrun = true) (stops : x.stops = false)
    (idles : x.idles = false) : Held s seen t (later ++ [x]) :=
  h.trans
    { running := h.running
      house := rfl
      levelId := rfl
      program := rfl
      cancelled := id
      seen := ⟨[x], rfl, by simpa using midrun, by simp [stops], by simp [idles], by simp⟩ }

theorem level? (h : Held s seen t later) : t.level? = s.level? := level?_congr h.house h.levelId

/-- The walk itself moves nothing that is held. -/
theorem during (h : Held s seen t later) (a : Attempt) (path : Path) (active : Option String) :
    Held s seen (t.during a path active) later :=
  { h with }

/-- Once the status has changed, the run has been asked to stop. -/
theorem status (h : Held s seen t later) :
    t.status = s.status ∨ (t.cancelled = true ∧ t.status = .idle) := by
  obtain ⟨more, -, -, -, idled, status⟩ := h.seen
  cases later : more.any Sight.idles with
  | true => exact .inr (idled later)
  | false => exact .inl (status later)

/-- A call during a run. -/
theorem call (running : s.running = true) (loaded : s.level? ≠ none) (c : Call) :
    Held s seen (c.answer s).2.1 (seen ++ [.called c (c.answer s).1 (c.answer s).2.1]) := by
  have effect := c.effect_answer s
  generalize (c.answer s).1 = answer at effect ⊢
  generalize (c.answer s).2.1 = t at effect ⊢
  cases effect with
  | edit program delay kept unheard still =>
    have unstopped : c.stops = false := by
      cases stops : c.stops with
      | false => rfl
      | true => simpa [running, loaded] using unheard stops
    have unidled : c.idles answer = false := by
      cases idles : c.idles answer with
      | false => rfl
      | true => exact absurd (still idles) loaded
    exact
      { running, house := rfl, levelId := rfl, program := kept running, cancelled := id
        seen := ⟨_, rfl, by simp [Sight.midrun], by simp [Sight.stops, unstopped],
          by simp [Sight.idles, unidled], by simp⟩ }
  | load id level resting => simp [running] at resting
  | cancel _ still =>
    exact
      { running, house := rfl, levelId := rfl, program := rfl, cancelled := fun _ => rfl
        seen := ⟨_, rfl, by simp [Sight.midrun], by simp, by simp [Sight.idles, still], by simp⟩ }
  | reset level _ told =>
    rw [s.cancel_of_running running]
    exact
      { running, house := rfl, levelId := rfl, program := rfl, cancelled := fun _ => rfl
        seen := ⟨_, rfl, by simp [Sight.midrun], by simp, by simp, by simp [Sight.idles, told]⟩ }
  | reposition level _ plain still =>
    exact
      { running, house := rfl, levelId := rfl, program := rfl, cancelled := id
        seen := ⟨_, rfl, by simp [Sight.midrun], by simp [Sight.stops, plain],
          by simp [Sight.idles, still], by simp⟩ }

end Held

/-- Whatever is asked of a session during its run leaves the run in progress. -/
theorem Life.held {s t : Session} {seen later : List Sight} (life : Life s seen t later)
    (running : s.running = true) (loaded : s.level? ≠ none) : Held s seen t later := by
  induction life with
  | rest s seen => exact .refl running
  | @call s t seen later c next ih =>
    have called : Held s seen _ _ := .call running loaded c
    exact called.trans (ih called.running (by rw [called.level?]; exact loaded))
  | @run s t seen later audience program told slept raised silent next _ _ ih =>
    -- a second run is rejected, and nobody is turned to
    rw [run_rejected (levelFor_of_running running _), silent] at next ih
    exact (Held.see (.refl running) rfl rfl rfl).trans (ih running loaded)

/-! ## Requests to run -/

section Requests

variable {audience : Audience (List Sight)} {s : Session} {seen : List Sight}

/-- A property that everyone keeps who lives on with a session whose run is in progress. -/
structure KeptMidrun (J : Session → List Sight → Prop) (audience : Audience (List Sight)) : Prop where
  during : ∀ t w a path active, t.running = true → t.level? ≠ none → J t w → J (t.during a path active) w
  told : ∀ l ∈ audience.listeners, ∀ e t w, t.running = true → t.level? ≠ none → J t w →
    J (l e t w).2.1 (l e t w).2.2
  slept : ∀ n t w, t.running = true → t.level? ≠ none → J t w →
    J (audience.sleep n t w).2.1 (audience.sleep n t w).2.2

theorem keptMidrun_true : KeptMidrun (fun _ _ => True) audience where
  during _ _ _ _ _ _ _ _ := trivial
  told _ _ _ _ _ _ _ _ := trivial
  slept _ _ _ _ _ _ := trivial

/-- The loaded level of a session whose run has started. -/
theorem level?_started {level : Level} (loaded : s.level? = some level) :
    (s.started level).level? = some level :=
  loaded

/-- While a run is in progress, what is held stays put, together with whatever else everyone keeps. -/
theorem Public.keeps (h : Public audience) {J : Session → List Sight → Prop} (kept : KeptMidrun J audience)
    (loaded : s.level? ≠ none) : audience.Keeps (fun t w => Held s seen t w ∧ J t w) where
  during t w a path active held := by
    have there : t.level? ≠ none := by rw [held.1.level?]; exact loaded
    exact ⟨held.1.during a path active, kept.during t w a path active held.1.running there held.2⟩
  told l hl e t w kind held := by
    have there : t.level? ≠ none := by rw [held.1.level?]; exact loaded
    have live := (h.told l hl e t w).held held.1.running there
    exact ⟨(held.1.see (by simpa [Sight.midrun] using kind) rfl rfl).trans live,
      kept.told l hl e t w held.1.running there held.2⟩
  slept n t w held := by
    have there : t.level? ≠ none := by rw [held.1.level?]; exact loaded
    have live := (h.slept n t w).held held.1.running there
    exact ⟨(held.1.see rfl rfl rfl).trans live, kept.slept n t w held.1.running there held.2⟩
  raised n t w fault e := breaks_of_raised (h.raised n t w fault e)
  printed r t w held := by
    rw [h.silent]
    exact held

/-- What comes of a request to run: it is rejected, or met with an illegal transition, or the run starts;
and then it breaks off, or is resolved and its end is told. `J` holds when the walk is over. -/
inductive Met (audience : Audience (List Sight)) (program : Option Program) (J : Session → List Sight → Prop)
    (s : Session) (seen : List Sight) : Except Fault Outcome × Session × List Sight → Prop
  | rejected (why : Rejection) (request : s.levelFor (program.getD s.program) = .error why) :
      Met audience program J s seen (.ok .rejected, s, seen)
  | illegal (level : Level) (request : s.levelFor (program.getD s.program) = .ok level)
      (status : s.status = .running) :
      Met audience program J s seen (.error (.illegalTransition .running .running), s.prepare level, seen)
  | broke (level : Level) (request : s.levelFor (program.getD s.program) = .ok level)
      (status : s.status ≠ .running) (t : Session) (later : List Sight)
      (held : Held (s.started level) seen t later) (kept : J t later) (fault : Fault)
      (breaks : fault.breaks = true) :
      Met audience program J s seen (.error fault, t.settle, later)
  | ended (level : Level) (request : s.levelFor (program.getD s.program) = .ok level)
      (status : s.status ≠ .running) (t : Session) (later : List Sight)
      (held : Held (s.started level) seen t later) (kept : J t later) (outcome : Outcome) (u : Session)
      (resolved : Resolved t.settle outcome u) (heeded : t.cancelled = true → outcome = .cancelled) :
      Met audience program J s seen (finish audience outcome u later)

/-- Every request to run is met in one of these ways, whatever the walk of its run leaves (`J`). -/
theorem Public.met_of_walk (h : Public audience) (program : Option Program) (s : Session) (seen : List Sight)
    {J : Session → List Sight → Prop}
    (walked : ∀ level, s.level? = some level →
      let st := (s.walk audience level (program.getD s.program) seen).2
      J (ofStage st) st.world.2) :
    Met audience program J s seen (s.run audience program seen) := by
  cases request : s.levelFor (program.getD s.program) with
  | error why =>
    rw [run_rejected request, h.silent]
    exact .rejected why request
  | ok level =>
    by_cases status : s.status = .running
    · rw [run_illegal request status]
      exact .illegal level request status
    · obtain ⟨-, loaded, -⟩ := levelFor_eq_ok.mp request
      have keeps : audience.Keeps (fun t w => Held (s.started level) seen t w ∧ True) :=
        h.keeps keptMidrun_true (by rw [level?_started loaded]; simp)
      obtain ⟨⟨held, -⟩, faults⟩ :=
        walk_keeps keeps level (program.getD s.program) s seen ⟨.refl rfl, trivial⟩
      have kept := walked level loaded
      rw [run_started request status]
      generalize s.walk audience level (program.getD s.program) seen = done at held kept faults ⊢
      obtain ⟨ending, st⟩ := done
      dsimp only at held kept faults ⊢
      obtain ⟨fault, rfl⟩ | whole :
          (∃ fault, ending = .broken fault) ∨ ∀ fault, ending ≠ .broken fault := by
        cases ending <;> simp
      · exact .broke level request status _ _ held kept fault (faults fault rfl)
      · have running : (ofStage st).cancelled = false → (ofStage st).status = .running := by
          intro heeded
          rcases held.status with same | ⟨cancelled, -⟩
          · exact same
          · rw [heeded] at cancelled
            cases cancelled
        obtain ⟨outcome, u, r, resolved, heeded, e⟩ :=
          resolve_eq_finish audience level st.failure st.world.2 (s := (ofStage st).settle) whole running
        rw [h.silent] at e
        exact e ▸ .ended level request status _ _ held kept outcome u resolved heeded

/-- The walk of a run leaves what everyone keeps while the run is in progress. -/
theorem Public.met (h : Public audience) (program : Option Program) (s : Session) (seen : List Sight)
    {J : Session → List Sight → Prop} (kept : KeptMidrun J audience)
    (start : ∀ level, s.level? = some level → J (s.started level) seen) :
    Met audience program J s seen (s.run audience program seen) := by
  refine h.met_of_walk program s seen (fun level loaded => ?_)
  have keeps : audience.Keeps (fun t w => Held (s.started level) seen t w ∧ J t w) :=
    h.keeps kept (by rw [level?_started loaded]; simp)
  exact (walk_keeps keeps level _ s seen ⟨.refl rfl, start level loaded⟩).1.2

end Requests

end Session

end Lamplighter
