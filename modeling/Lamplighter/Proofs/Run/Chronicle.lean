/-
Lamplighter.Proofs.Run.Chronicle — the events of a run are a faithful account of it.

* `Event.snapshot`, `Event.Follows` — what an event shows of an attempt, and when it may follow one.
* `Replays` — events from one attempt to another, each of which follows what the one before it shows.
* `Chronicle` — events that name blocks where they are, pair the ends of commands with their starts, can be
  replayed from the first attempt of the run to its last, and tell of a failure just if the run fails.
* `chronicle_recording`, `chronicle_unbroken` — the events of every run before aloof watchers are its chronicle.
-/
import Lamplighter.Proofs.Attempt
import Lamplighter.Proofs.Run.Course
import Lamplighter.Proofs.Run.Recording
import Mathlib.Data.List.Induction

namespace Lamplighter

variable {σ : Type}

/-! ## Replaying events -/

namespace Event

/-- What an event shows of an attempt, over the layout that triggers read. -/
def snapshot (layout : List Tile) (e : Event) : Attempt := ⟨e.robot, e.lit, ⟨layout, e.flags⟩⟩

/-- When an event may follow an attempt: a block has started, and nothing has changed; or a command has finished, and
all has changed as that command changes it. -/
inductive Follows (setup : Setup) (a : Attempt) (e : Event) : Prop
  | started (kind : e.kind = .blockStarted) (success : e.success = none)
      (still : e.snapshot a.store.layout = a) : Follows setup a e
  | finished (name : String) (kind : e.kind = .commandFinished) (command : e.command = some name)
      (success : e.success = some (a.execute setup.board setup.rules name).ok)
      (moved : e.snapshot a.store.layout = (a.execute setup.board setup.rules name).attempt) : Follows setup a e

end Event

/-- Events that lead from one attempt to another: each follows what the one before it shows. -/
def Replays (setup : Setup) : Attempt → List Event → Attempt → Prop
  | a, [], b => b = a
  | a, e :: rest, b => e.Follows setup a ∧ Replays setup (e.snapshot a.store.layout) rest b

theorem Replays.concat {setup : Setup} {a b : Attempt} {events : List Event} {e : Event}
    (h : Replays setup a events b) (follows : e.Follows setup b) :
    Replays setup a (events ++ [e]) (e.snapshot b.store.layout) := by
  induction events generalizing a with
  | nil =>
    obtain rfl : b = a := h
    exact ⟨follows, rfl⟩
  | cons first rest ih => exact ⟨h.1, ih h.2⟩

/-! ## Chronicles -/

/-- The events of a run of a program under an enclosing address, from its first attempt (`start`) to its last
(`final`). -/
structure Chronicle (setup : Setup) (p : Program) (root : Path) (start : Attempt) (events : List Event)
    (ending : Ending) (final : Attempt) : Prop where
  placed : ∀ e ∈ events, ∃ b, Program.Found p root e.path b ∧ e.blockId = some b.id ∧
    e.command = if b.kind = .command then b.command else none
  paired : ∀ before e after, events = before ++ e :: after → e.kind = .commandFinished →
    ∃ first, before.getLast? = some first ∧ first.kind = .blockStarted ∧ first.path = e.path
  replayed : Replays setup start events final
  failed : (∃ e ∈ events, e.success = some false) ↔ ending = .failure
  failed_last : ∀ before e after, events = before ++ e :: after → e.success = some false → after = []

/-- An element of a list with one more at its end is that one, or stands before it. -/
theorem split_concat {α : Type} {l before after : List α} {a x : α} (h : l ++ [a] = before ++ x :: after) :
    (before = l ∧ x = a ∧ after = []) ∨ ∃ rest, after = rest ++ [a] ∧ l = before ++ x :: rest := by
  cases after using List.reverseRecOn with
  | nil =>
    obtain ⟨front, last⟩ := List.append_inj' h rfl
    exact .inl ⟨front.symm, (List.singleton_inj.mp last).symm, rfl⟩
  | append_singleton rest y =>
    rw [← List.cons_append, ← List.append_assoc] at h
    obtain ⟨front, last⟩ := List.append_inj' h rfl
    rw [List.singleton_inj.mp last]
    exact .inr ⟨rest, rfl, front⟩

namespace Chronicle

variable {setup : Setup} {p : Program} {root : Path} {start a : Attempt} {events : List Event}

theorem nil : Chronicle setup p root start [] .success start where
  placed e he := by cases he
  paired before e after h := by simp at h
  replayed := rfl
  failed := ⟨fun ⟨e, he, _⟩ => (by cases he), fun h => by cases h⟩
  failed_last before e after h := by simp at h

/-- A run that is stopped by anything but a failure. -/
theorem stopped (h : Chronicle setup p root start events .success a) {ending : Ending} (other : ending ≠ .failure) :
    Chronicle setup p root start events ending a where
  placed := h.placed
  paired := h.paired
  replayed := h.replayed
  failed := ⟨fun some => (by cases h.failed.mp some), fun failure => absurd failure other⟩
  failed_last := h.failed_last

/-- One more event, of a block that is where it says. -/
theorem concat (h : Chronicle setup p root start events .success a) {e : Event} {b : Block}
    (found : Program.Found p root e.path b) (id : e.blockId = some b.id)
    (command : e.command = if b.kind = .command then b.command else none)
    (pair : e.kind = .commandFinished →
      ∃ first, events.getLast? = some first ∧ first.kind = .blockStarted ∧ first.path = e.path)
    (follows : e.Follows setup a) :
    Chronicle setup p root start (events ++ [e]) (if e.success = some false then .failure else .success)
      (e.snapshot a.store.layout) := by
  have unfailed : ¬∃ e ∈ events, e.success = some false := fun some => by cases h.failed.mp some
  refine ⟨?_, ?_, h.replayed.concat follows, ?_, ?_⟩
  · intro x hx
    rcases List.mem_append.mp hx with hx | hx
    · exact h.placed x hx
    · rw [List.mem_singleton.mp hx]
      exact ⟨b, found, id, command⟩
  · intro before x after split kind
    rcases split_concat split with ⟨rfl, rfl, rfl⟩ | ⟨rest, rfl, earlier⟩
    · exact pair kind
    · exact h.paired before x rest earlier kind
  · have last : (∃ x ∈ events ++ [e], x.success = some false) ↔ e.success = some false := by
      constructor
      · rintro ⟨x, hx, failed⟩
        rcases List.mem_append.mp hx with hx | hx
        · exact absurd ⟨x, hx, failed⟩ unfailed
        · rwa [List.mem_singleton.mp hx] at failed
      · exact fun failed => ⟨e, List.mem_append_right _ (List.mem_singleton.mpr rfl), failed⟩
    rw [last]
    split <;> simp [*]
  · intro before x after split failed
    rcases split_concat split with ⟨-, -, rfl⟩ | ⟨rest, rfl, earlier⟩
    · rfl
    · have there : x ∈ events := by
        rw [earlier]
        exact List.mem_append_right _ List.mem_cons_self
      exact absurd ⟨x, there, failed⟩ unfailed

/-- The event of a block that starts. -/
theorem announced (h : Chronicle setup p root start events .success a) {x : Path} {b : Block}
    (found : Program.Found p root x b) :
    Chronicle setup p root start (events ++ [Event.ofBlock .blockStarted x b none a]) .success a :=
  h.concat (e := Event.ofBlock .blockStarted x b none a) found rfl rfl (fun kind => by cases kind)
    (.started rfl rfl rfl)

/-- The event of a command that has been carried out, right after the start of its block. -/
theorem carried (h : Chronicle setup p root start events .success a) {x : Path} {b : Block} {name : String}
    (found : Program.Found p root x b) (task : b.task = .command name)
    (first : ∃ e, events.getLast? = some e ∧ e.kind = .blockStarted ∧ e.path = x) :
    let report := a.execute setup.board setup.rules name
    Chronicle setup p root start
      (events ++ [Event.ofBlock .commandFinished x b (some report.ok) report.attempt])
      (if report.ok then .success else .failure) report.attempt := by
  intro report
  obtain ⟨kind, command⟩ := Block.command_of_task_command task
  have shown : (Event.ofBlock .commandFinished x b (some report.ok) report.attempt).snapshot a.store.layout =
      report.attempt := by
    have layout : report.attempt.store.layout = a.store.layout := a.execute_layout setup.board setup.rules name
    rw [← layout]
    rfl
  have follows : (Event.ofBlock .commandFinished x b (some report.ok) report.attempt).Follows setup a :=
    .finished name rfl (by simp [Event.ofBlock, kind, command]) rfl shown
  have more := h.concat (e := Event.ofBlock .commandFinished x b (some report.ok) report.attempt) found rfl rfl
    (fun _ => first) follows
  rw [shown] at more
  cases ok : report.ok with
  | true | false =>
    rw [ok] at more
    exact more

end Chronicle

/-! ## The chronicle of a run -/

section Recording

variable (setup : Setup) (p : Program) (root : Path) (start : Attempt)

/-- A run on record whose events so far are its chronicle. -/
def Told (ending : Ending) (m : Stage (σ × List Beat)) : Prop :=
  Chronicle setup p root start m.events ending m.attempt

/-- A run on record whose events are its chronicle. Where the telling of a failure has broken it off for want of words,
they are that of a run that fails. -/
def Rendered (around : Surroundings σ) (ending : Ending) (m : Stage (σ × List Beat)) : Prop :=
  Told setup p root start ending m ∨
    Told setup p root start .failure m ∧ ¬around.Spoken ∧ ∃ fault, ending = .broken fault

/-- A block has started, and its start is the last event on record. -/
def JustStarted (x : Path) (m : Stage (σ × List Beat)) : Prop :=
  ∃ e, m.events.getLast? = some e ∧ e.kind = .blockStarted ∧ e.path = x

variable {setup p root start} {around : Surroundings σ}

/-- The event of a block that is put on record. -/
theorem events_of_log {m m' : Stage (σ × List Beat)} {occasion : Occasion} {a : Attempt} {cancelled : Bool}
    (log : m'.log = m.log ++ [⟨occasion, a, cancelled⟩]) :
    m'.events = m.events ++ (Beat.event? ⟨occasion, a, cancelled⟩).toList := by
  rw [Stage.events, log, List.filterMap_append]
  rfl

/-- A suspension is no event, and aloof watchers leave the attempt alone. -/
theorem Told.halt {ending : Ending} {m n : Stage (σ × List Beat)} {occasion : Occasion} {a : Attempt}
    {cancelled : Bool} (told : Told setup p root start ending m)
    (log : n.log = m.log ++ [⟨occasion, a, cancelled⟩]) (quiet : Beat.event? ⟨occasion, a, cancelled⟩ = none)
    (attempt : n.attempt = m.attempt) : Told setup p root start ending n := by
  have events := events_of_log log
  rw [quiet, Option.toList_none, List.append_nil] at events
  rw [Told, events, attempt]
  exact told

/-- A run that is stopped by anything but a failure. -/
theorem Told.stopped {ending : Ending} {m : Stage (σ × List Beat)} (told : Told setup p root start .success m)
    (other : ending ≠ .failure) : Rendered setup p root start around ending m :=
  .inl (Chronicle.stopped told other)

theorem call_told {hook : Stage (σ × List Beat) → Option Fault × Stage (σ × List Beat)}
    {P : Stage (σ × List Beat) → Prop} (goes : ∀ m, P m → Told setup p root start .success (hook m).2) :
    (Act.call hook).Leads P (Told setup p root start .success) (Rendered setup p root start around) :=
  .call_through goes (fun _ _ told => told.stopped (by simp))

variable (aloof : around.Aloof)

include aloof

theorem announce_told (x : Path) {b : Block} {m : Stage (σ × List Beat)} (found : Program.Found p root x b)
    (told : Told setup p root start .success m) :
    Told setup p root start .success ((setup.crew around.recorded).announce x b m).2 ∧
      JustStarted x ((setup.crew around.recorded).announce x b m).2 := by
  have events := events_of_log (recorded_announce setup around x b m)
  refine ⟨?_, Event.ofBlock .blockStarted x b none m.attempt, ?_, rfl, rfl⟩
  · rw [Told, events, aloof.recorded.announce setup x b m]
    exact told.announced found
  · rw [events]
    exact List.getLast?_concat

/-- A command that can be told is put on record, and its telling may break the run off for want of words. -/
theorem performed_told {x : Path} {b : Block} {name : String} {m : Stage (σ × List Beat)}
    (found : Program.Found p root x b) (task : b.task = .command name)
    (tellable : setup.isTellable name m = true) (told : Told setup p root start .success m) (first : JustStarted x m) :
    let done := (setup.crew around.recorded).carryOut x b name m
    (done.1 = .success → Told setup p root start .success done.2) ∧
      Rendered setup p root start around done.1 done.2 := by
  have attempt := aloof.recorded.carryOut setup x b m name
  have done := recorded_carryOut setup around x b m name
  rw [if_pos tellable] at done
  obtain ⟨ending, log⟩ := done
  have now : Told setup p root start (if (setup.report name m).ok then .success else .failure)
      ((setup.crew around.recorded).carryOut x b name m).2 := by
    rw [Told, events_of_log log, attempt]
    exact told.carried found task first
  have spoken (words : around.Spoken) : (setup.telling around.recorded x b name m).1 = none :=
    words.recorded.emit _ _ _ _ _
  dsimp only
  rw [ending]
  cases ok : (setup.report name m).ok with
  | true =>
    rw [ok, if_pos rfl] at now
    exact ⟨fun _ => now, now.stopped (by cases (setup.telling around.recorded x b name m).1 <;> simp [Ending.told])⟩
  | false =>
    rw [ok, if_neg (by simp)] at now
    refine ⟨fun success => absurd (Ending.told_eq_success.mp success).1 (by simp), ?_⟩
    cases met : (setup.telling around.recorded x b name m).1 with
    | none => exact .inl now
    | some fault =>
      have stammer : ¬around.Spoken := fun words => (by rw [spoken words] at met; cases met)
      exact .inr ⟨now, stammer, fault, rfl⟩

/-- A command that breaks off has changed nothing, so that the last event still shows how things are. -/
theorem untold_told {x : Path} {b : Block} {name : String} {m : Stage (σ × List Beat)}
    (untold : ¬setup.isTellable name m = true) (told : Told setup p root start .success m) :
    let done := (setup.crew around.recorded).carryOut x b name m
    done.1 = .broken .untellable ∧ Told setup p root start .success done.2 := by
  have attempt := aloof.recorded.carryOut setup x b m name
  have done := recorded_carryOut setup around x b m name
  rw [if_neg untold] at done
  have still : (setup.report name m).attempt = m.attempt :=
    m.attempt.execute_untellable setup.board setup.rules name (Bool.eq_false_iff.mpr untold)
  refine ⟨done.1, ?_⟩
  rw [Told, Stage.events, done.2, attempt, still]
  exact told

theorem command_told (x : Path) (b : Block) (name : String) (found : Program.Found p root x b)
    (task : b.task = .command name) :
    ((setup.crew around.recorded).command x b name).Leads
      (fun m => Told setup p root start .success m ∧ JustStarted x m) (Told setup p root start .success)
      (Rendered setup p root start around) := by
  rw [Crew.command_eq]
  refine Act.Leads.andThen (S := Told setup p root start .success) ?_ ?_
  · rintro m ⟨told, first⟩
    by_cases tellable : setup.isTellable name m = true
    · obtain ⟨went, rendered⟩ := performed_told aloof found task tellable told first
      exact ⟨went, fun _ => rendered⟩
    · obtain ⟨broke, now⟩ := untold_told aloof (x := x) (b := b) tellable told
      rw [broke]
      exact ⟨nofun, fun _ => now.stopped (by simp)⟩
  · exact call_told (fun m told => told.halt (n := (around.recorded.pause m).2) rfl rfl (aloof.recorded.pause m))

/-- The events of a run before aloof watchers, act by act. -/
theorem crew_told :
    (setup.crew around.recorded).Course (Program.Found p root) (fun _ _ => Told setup p root start .success)
      (fun x _ m => Told setup p root start .success m ∧ JustStarted x m) (Told setup p root start .success)
      (Rendered setup p root start around) where
  placed x b kids there children := .children there children
  next x i m told := told
  stopped x i m told _ := told.stopped (by simp)
  stopped_started x b m started _ := started.1.stopped (by simp)
  announce x i b there :=
    .call_through (fun m told => announce_told aloof _ there told) (fun _ _ started => started.1.stopped (by simp))
  command x b name there task := command_told aloof x b name there task
  skip x b why m _ started := started
  clamp x b n kids _ _ :=
    .call_through
      (fun m started => setup.clamp_keeps around.recorded
        (I := fun m => Told setup p root start .success m ∧ JustStarted x m) (fun _ _ started => started) started)
      (fun _ _ started => started.1.stopped (by simp))
  enter x b m _ _ started := started.1
  rest x b _ := call_told (fun m started =>
    started.1.halt (n := (around.recorded.checkpoint m).2) rfl rfl (aloof.recorded.checkpoint m))
  rest_after := call_told (fun m told =>
    told.halt (n := (around.recorded.checkpoint m).2) rfl rfl (aloof.recorded.checkpoint m))

/-- The events of a run before aloof watchers are its chronicle. If a listener breaks it off for want of words, they may
be that of a run that fails. -/
theorem chronicle_recording (m : Stage σ) :
    let done := setup.recording around p root m
    ∃ ending, Chronicle setup p root m.attempt done.2.events ending done.2.attempt ∧
      (ending = done.1 ∨ ¬around.Spoken ∧ ending = .failure ∧ ∃ fault, done.1 = .broken fault) := by
  have course : (setup.crew around.recorded).Course (Program.Found p root)
      (fun _ _ => Told setup p root m.attempt .success)
      (fun x _ n => Told setup p root m.attempt .success n ∧ JustStarted x n)
      (Told setup p root m.attempt .success) (Rendered setup p root m.attempt around) := crew_told aloof
  have walk := course.run p root (.roots p root) (m.keeping []) .nil
  intro done
  by_cases success : done.1 = .success
  · exact ⟨.success, (walk.1 success).elim id id, .inl success.symm⟩
  · rcases walk.2 success with told | ⟨told, stammer, broke⟩
    · exact ⟨done.1, told, .inl rfl⟩
    · exact ⟨.failure, told, .inr ⟨stammer, rfl, broke⟩⟩

/-- The events of a run that does not break off are its chronicle. -/
theorem chronicle_unbroken (m : Stage σ) :
    let done := setup.recording around p root m
    (∀ fault, done.1 ≠ .broken fault) → Chronicle setup p root m.attempt done.2.events done.1 done.2.attempt := by
  intro done whole
  obtain ⟨ending, chronicle, rfl | ⟨-, -, fault, broke⟩⟩ := chronicle_recording (p := p) aloof m
  · exact chronicle
  · exact absurd broke (whole fault)

end Recording

end Lamplighter
