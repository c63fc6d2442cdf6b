/-
Lamplighter.Proofs.Run.Observation — to be looked at changes nothing of a run.

* `Hooks` — those whom a run waits for, and who may change it, raise and cancel it.
* `Gallery` — those who only look on: listeners, of which each may raise at any event, and a printer. In a gallery that
  is `Spoken`, all that they complain of has a text.
* `Setup.watched`, `Upshot` — a run before both, and what it comes to.
* `Beside`, `Gallery.agree` — two runs with the same hooks, before different galleries.
* `upshot_watched` — they come to the same, and every listener is told of every event. `upshot_watched_fails` — not so
  if there are no words for what a listener complains of, or if it gets at the run.

Without a listener no event is told to anyone, and with more of them each may be remarked on; what is remarked
also depends on the address of the run and on whether every step is told. None of this gets back to the run.
-/
import Lamplighter.Proofs.Run.Recording
import Lamplighter.Proofs.Run.Unrolling

namespace Lamplighter

variable {σ η κ κ' : Type}

/-! ## Hooks and galleries -/

/-- Those whom a run waits for at pauses and at checkpoints. They may change the run, cancel it and raise, by
what they see of it and remember; at which address it is they are not told. -/
structure Hooks (η : Type) where
  pause : Stage η → Option Fault × Stage η
  checkpoint : Stage η → Option Fault × Stage η

/-- Those who look on. They are told of events and of remarks, they may raise, and they get at nothing else. -/
structure Gallery (κ : Type) where
  listeners : List (Event → κ → Option Fault × κ)
  print : Remark → κ → κ

/-- A gallery in which all that listeners complain of has a text. -/
def Gallery.Spoken (gallery : Gallery κ) : Prop :=
  ∀ l ∈ gallery.listeners, ∀ e w fault, (l e w).1 = some fault → fault.Worded

/-- What hooks are shown of a stage. -/
def Stage.core (m : Stage (σ × κ)) : Stage σ := { m.through Prod.fst with path := [] }

namespace Gallery

/-- One who looks on, as a listener of the run. -/
def hear (l : Event → κ → Option Fault × κ) : Listener (σ × κ) := fun e m =>
  ((l e m.world.2).1, { m with world := (m.world.1, (l e m.world.2).2) })

/-- A hook that is awaited before a gallery. -/
def apart (hook : Stage σ → Option Fault × Stage σ) (m : Stage (σ × κ)) : Option Fault × Stage (σ × κ) :=
  ((hook m.core).1, { (hook m.core).2.keeping m.world.2 with path := m.path })

/-- A gallery as the surroundings of a run with hooks. Whenever these are awaited, that is put on record. -/
def before (gallery : Gallery κ) (hooks : Hooks η) : Surroundings ((η × List Beat) × κ) where
  listeners := gallery.listeners.map hear
  pause := apart (Surroundings.awaited .pause hooks.pause)
  checkpoint := apart (Surroundings.awaited .checkpoint hooks.checkpoint)
  print r w := (w.1, gallery.print r w.2)

/-- The gallery of a single listener, who never raises. -/
def loner : Gallery Unit where
  listeners := [fun _ w => (none, w)]
  print _ w := w

theorem loner_spoken : loner.Spoken := by
  intro l there e w fault raised
  obtain rfl := List.mem_singleton.mp there
  cases raised

theorem Spoken.before {gallery : Gallery κ} (spoken : gallery.Spoken) (hooks : Hooks η) :
    (gallery.before hooks).Spoken := by
  intro l there e m fault raised
  obtain ⟨l, among, rfl⟩ := List.mem_map.mp there
  exact spoken l among e m.world.2 fault raised

end Gallery

/-! ## Runs that are watched -/

/-- A stage before a gallery, with nothing on record and nobody told of anything. -/
def Stage.unveiled (m : Stage η) (w : κ) : Stage (((η × List Beat) × κ) × Tidings) :=
  ((m.keeping []).keeping w).keeping []

/-- A program run with hooks before a gallery, in which every listener keeps what it is told. -/
def Setup.watched (setup : Setup) (hooks : Hooks η) (gallery : Gallery κ) (p : Program) (path : Path) (m : Stage η)
    (w : κ) : Ending × Stage (((η × List Beat) × κ) × Tidings) :=
  setup.play (gallery.before hooks).heeded p path (m.unveiled w)

/-- What a run comes to: how it ends, the attempt that it leaves, its last refusal, whether it has been
cancelled, what its hooks remember, and when they were awaited, with the attempt right then. -/
structure Upshot (η : Type) where
  ending : Ending
  attempt : Attempt
  failure : Option Failure
  cancelled : Bool
  memory : η
  halts : List Beat

/-- What a run before a gallery comes to. -/
def upshot (done : Ending × Stage (((η × List Beat) × κ) × Tidings)) : Upshot η where
  ending := done.1
  attempt := done.2.attempt
  failure := done.2.failure
  cancelled := done.2.cancelled
  memory := done.2.world.1.1.1
  halts := done.2.world.1.1.2

/-- What the listeners of a run have been told. -/
def heard (done : Ending × Stage (((η × List Beat) × κ) × Tidings)) : Tidings := done.2.world.2

/-- The events of a run, as someone hears of them who listens alone and never raises. -/
def Setup.events (setup : Setup) (hooks : Hooks η) (p : Program) (path : Path) (m : Stage η) : List Event :=
  (heard (setup.watched hooks Gallery.loner p path m ())).map Prod.snd

/-! ## Two galleries -/

/-- Stages of two runs of which hooks are shown the same, and of which the listeners have been told what belongs
together (`K`). -/
structure Beside (K : Tidings → Tidings → Prop) (m : Stage ((σ × κ) × Tidings)) (n : Stage ((σ × κ') × Tidings)) :
    Prop where
  core : (n.through Prod.fst).core = (m.through Prod.fst).core
  heard : K m.world.2 n.world.2

namespace Gallery

section Tell

variable (gallery : Gallery κ) (hooks : Hooks η) (e : Event) (m : Stage (((η × List Beat) × κ) × Tidings))

/-- What listeners do gets no further than themselves. -/
theorem tell_core :
    (((gallery.before hooks).heeded.tell e (gallery.before hooks).heeded.listeners m).2.through Prod.fst).core =
      (m.through Prod.fst).core := by
  rw [((gallery.before hooks).heeded_shadows.told e m).2]
  refine Surroundings.tell_keeps (gallery.before hooks) e (I := fun n => n.core = (m.through Prod.fst).core)
    (fun _ _ same => same) ?_ rfl
  intro l hl n same
  obtain ⟨l, -, rfl⟩ := List.mem_map.mp hl
  exact same

/-- Every listener is told, if there are words for all complaints. -/
theorem Spoken.tell_heard {gallery : Gallery κ} (spoken : gallery.Spoken)
    (m : Stage (((η × List Beat) × κ) × Tidings)) :
    ((gallery.before hooks).heeded.tell e (gallery.before hooks).heeded.listeners m).1 = none ∧
      ((gallery.before hooks).heeded.tell e (gallery.before hooks).heeded.listeners m).2.world.2 =
        m.world.2 ++ Tidings.all gallery.listeners.length [e] := by
  have number : (gallery.before hooks).listeners.length = gallery.listeners.length := List.length_map _
  have whole := (spoken.before hooks).heeded_fluent e m
  rw [← number]
  exact ⟨whole, (gallery.before hooks).heeded_tell e m whole⟩

/-- Remarks get no further than the printer. -/
theorem narrate_beside (setup : Setup) (deeds : List Deed) :
    ((setup.narrate (gallery.before hooks).heeded deeds m).2.through Prod.fst).core = (m.through Prod.fst).core ∧
      (setup.narrate (gallery.before hooks).heeded deeds m).2.world.2 = m.world.2 := by
  have said : ∀ r n, (n.through Prod.fst).core = (m.through Prod.fst).core ∧ n.world.2 = m.world.2 →
      (((gallery.before hooks).heeded.say r n).through Prod.fst).core = (m.through Prod.fst).core ∧
        ((gallery.before hooks).heeded.say r n).world.2 = m.world.2 := fun _ _ same => same
  exact setup.narrate_keeps said deeds ⟨rfl, rfl⟩

end Tell

variable {K : Tidings → Tidings → Prop} {m : Stage (((η × List Beat) × κ) × Tidings)}
  {n : Stage (((η × List Beat) × κ') × Tidings)}

/-- A hook that is awaited in both runs is shown the same. -/
theorem apart_beside (hook : Stage (η × List Beat) → Option Fault × Stage (η × List Beat)) (h : Beside K m n) :
    (Surroundings.aside (apart hook) n).1 = (Surroundings.aside (apart hook) m).1 ∧
      Beside K (Surroundings.aside (apart hook) m).2 (Surroundings.aside (apart hook) n).2 := by
  have core := h.core
  refine ⟨?_, ?_, h.heard⟩
  · simp only [Surroundings.aside, apart, core]
  · simp only [Surroundings.aside, apart, core, Stage.through_keeping]
    rfl

/-- Two galleries that look on at runs with the same hooks. The runs may be at different addresses (`P`) as long
as what is told at these belongs together. -/
theorem Spoken.agree {gallery : Gallery κ} {gallery' : Gallery κ'} (spoken : gallery.Spoken) (spoken' : gallery'.Spoken)
    (hooks : Hooks η) (setup : Setup) (verbose : Bool) {P : Path → Path → Prop}
    (below : ∀ x y i, P x y → P (x ++ [i]) (y ++ [i]))
    (told : ∀ x y kind b success a t t', P x y → K t t' →
      K (t ++ Tidings.all gallery.listeners.length [Event.ofBlock kind x b success a])
        (t' ++ Tidings.all gallery'.listeners.length [Event.ofBlock kind y b success a])) :
    (gallery.before hooks).heeded.Agree setup { setup with verbose } P (Beside K) (gallery'.before hooks).heeded where
  board := rfl
  rules := rfl
  cap := rfl
  below := below
  attempt m n h := congrArg Stage.attempt h.core
  cancelled m n h := congrArg Stage.cancelled h.core
  failure m n h := congrArg Stage.failure h.core
  walked x y m n hp h := ⟨h.core, h.heard⟩
  acted attempt active failure m n h :=
    ⟨congrArg (fun c : Stage (η × List Beat) => { c with attempt, active, failure }) h.core, h.heard⟩
  emit x y kind b success m n hp h := by
    have attempt : n.attempt = m.attempt := congrArg Stage.attempt h.core
    obtain ⟨whole, heard⟩ := spoken.tell_heard hooks (Event.ofBlock kind x b success m.attempt) m
    obtain ⟨whole', heard'⟩ := spoken'.tell_heard hooks (Event.ofBlock kind y b success m.attempt) n
    rw [Surroundings.emit, Surroundings.emit, attempt]
    refine ⟨whole'.trans whole.symm, ?_, ?_⟩
    · exact (gallery'.tell_core hooks _ n).trans (h.core.trans (gallery.tell_core hooks _ m).symm)
    · rw [heard, heard']
      exact told x y kind b success m.attempt m.world.2 n.world.2 hp h.heard
  narrate deeds m n h := by
    obtain ⟨core, heard⟩ := gallery.narrate_beside hooks m setup deeds
    obtain ⟨core', heard'⟩ := gallery'.narrate_beside hooks n { setup with verbose } deeds
    refine ⟨core'.trans (h.core.trans core.symm), ?_⟩
    rw [heard, heard']
    exact h.heard
  skip x y b why m n hp h := ⟨h.core, h.heard⟩
  clamp x y k m n hp h := ⟨h.core, h.heard⟩
  pause m n h := apart_beside _ h
  checkpoint m n h := apart_beside _ h

end Gallery

/-! ## The same upshot -/

/-- Two runs of one program from one stage, with the same hooks, that differ in whether every step is told, in
the address of the program and in who looks on, come to the same: they end alike, with the same attempt and the
same last refusal, and wait for their hooks at the same moments. And every listener is told of every event of
its run, whoever else has raised on it, as long as there are words for what is raised. -/
theorem upshot_watched (setup : Setup) (hooks : Hooks η) (p : Program) (m : Stage η) (verbose : Bool)
    (path path' : Path) {gallery : Gallery κ} {gallery' : Gallery κ'} (spoken : gallery.Spoken)
    (spoken' : gallery'.Spoken) (w : κ) (w' : κ') :
    upshot ({ setup with verbose }.watched hooks gallery' p path' m w') =
        upshot (setup.watched hooks gallery p path m w) ∧
      heard (setup.watched hooks gallery p path m w) =
        Tidings.all gallery.listeners.length (setup.events hooks p path m) := by
  constructor
  · -- what the listeners are told differs with the address: it is left out of what belongs together
    have agree := spoken.agree spoken' hooks setup verbose (P := fun _ _ => True) (K := fun _ _ => True)
      (fun _ _ _ _ => trivial) (fun _ _ _ _ _ _ _ _ _ _ => trivial)
    have start : Beside (fun _ _ => True) (m.unveiled w) (m.unveiled w') := ⟨rfl, trivial⟩
    obtain ⟨ending, left⟩ := agree.play p (x := path) (y := path') trivial start
    have core := left.core
    simp only [upshot, Setup.watched, Upshot.mk.injEq]
    exact ⟨ending, congrArg Stage.attempt core, congrArg Stage.failure core, congrArg Stage.cancelled core,
      congrArg (fun c => c.world.1) core, congrArg (fun c => c.world.2) core⟩
  · -- beside the listener who is alone, each of the others is told of one event after the other
    have agree := spoken.agree Gallery.loner_spoken hooks setup setup.verbose (P := Eq)
      (K := fun t t' => t = Tidings.all gallery.listeners.length (t'.map Prod.snd))
      (by rintro x _ i rfl; rfl)
      (by
        rintro x _ kind b success a t t' rfl rfl
        rw [List.map_append, Tidings.all_append]
        rfl)
    have start : Beside (fun t t' => t = Tidings.all gallery.listeners.length (t'.map Prod.snd)) (m.unveiled w)
        (m.unveiled ()) := ⟨rfl, rfl⟩
    exact (agree.play p (x := path) rfl start).2.heard

/-- Hooks that do nothing. -/
def Hooks.idle : Hooks Unit where
  pause m := (none, m)
  checkpoint m := (none, m)

/-- Someone who is startled by every block that starts, and someone who counts events. -/
def startled : Gallery Nat where
  listeners := [fun e n => (if e.kind = .blockStarted then some (.voiced "Oh") else none, n), fun _ n => (none, n + 1)]
  print _ n := n

theorem startled_spoken : startled.Spoken := by
  intro l there e n fault raised
  rcases List.mem_cons.mp there with rfl | there
  · dsimp only at raised
    split at raised
    · obtain rfl := Option.some.inj raised
      exact ⟨"Oh", rfl⟩
    · cases raised
  · obtain rfl := List.mem_singleton.mp there
    cases raised

theorem upshot_watched_startled :
    let start : Stage Unit := { attempt := { robot := ⟨⟨0, 0⟩, .east⟩ }, world := () }
    let seen := alley.watched .idle startled winding [4] start 0
    seen.1 = .failure ∧
      upshot ({ alley with verbose := false }.watched .idle Gallery.loner winding [] start ()) = upshot seen ∧
      heard seen = Tidings.all 2 (alley.events .idle winding [4] start) := by
  intro start seen
  have same := upshot_watched alley .idle winding start false [4] [] startled_spoken Gallery.loner_spoken 0 ()
  exact ⟨by decide +kernel, same.1, same.2⟩

/-- Someone who raises an error whose text cannot be made, and someone who counts events. -/
def speechless : Gallery Nat where
  listeners :=
    [fun _ n => (some (.raised (.wordless "ValueError" (.worded "ValueError" Numeral.unwritableMessage))), n),
      fun _ n => (none, n + 1)]
  print _ n := n

/-- Someone who sets a flag whenever anything is told. -/
def meddling : Surroundings Unit where
  listeners :=
    [fun _ m => (none, { m with attempt := { m.attempt with store := m.attempt.store.set (.ofString "door") true } })]
  pause m := (none, m)
  checkpoint m := (none, m)
  print _ w := w

/-- An error without words breaks a run off that succeeds before others, and who comes after is not told. And a listener
who sets a flag leaves it set when the run ends. -/
theorem upshot_watched_fails :
    let start : Stage Unit := { attempt := { robot := ⟨⟨0, 0⟩, .east⟩ }, world := () }
    let turn : Program := [.ofCommand (some "TURN_L")]
    let calm := alley.watched .idle Gallery.loner turn [] start ()
    let broken := alley.watched .idle speechless turn [] start 0
    calm.1 = .success ∧ broken.1 = .broken (.raised (.worded "ValueError" Numeral.unwritableMessage)) ∧
      (heard broken).map Prod.fst = [0] ∧ (alley.events .idle turn [] start).length = 2 ∧
      calm.2.attempt.store.flags = [] ∧ (alley.play meddling turn [] start).1 = .success ∧
      (alley.play meddling turn [] start).2.attempt.store.flags ≠ [] := by
  decide +kernel

end Lamplighter
