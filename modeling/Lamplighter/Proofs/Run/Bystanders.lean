/-
Lamplighter.Proofs.Run.Bystanders — those who watch a run and leave it alone.

* `Bystanders` — surroundings that change nothing of a stage but the world, where they keep a log.
* `Noted` — a stage after they have acted: the same, with more on the log.
* `Bystanders.announce`, `Bystanders.carryOut` — what a crew does before them is what the run itself does,
  with the event of it on the log.
-/
import Lamplighter.Proofs.Run.Onlookers
import Lamplighter.Proofs.Run.Stage

namespace Lamplighter

variable {σ ι : Type}

/-! ## Bystanders -/

/-- A stage after bystanders have acted on it: it is the same, but for a world that is still in order (`I`)
and has more on its log. -/
structure Noted (I : σ → Prop) (log : σ → List ι) (m : Stage σ) (more : List ι) (m' : Stage σ) : Prop where
  stage : m' = { m with world := m'.world }
  calm : I m'.world
  log : log m'.world = log m.world ++ more

/-- Surroundings that change nothing of a stage but the world, as long as that is in order (`I`), and make
their entries on its log. Hooks may also raise, and a telling may break off. -/
structure Bystanders (around : Surroundings σ) (I : σ → Prop) (log : σ → List ι)
    (entry : Occasion → List ι) : Prop where
  told : ∀ e m, e.kind ≠ .runFinished → I m.world → (around.tell e around.listeners m).1 = none →
    Noted I log m (entry (.told e)) (around.tell e around.listeners m).2
  pause : ∀ m, I m.world → (around.pause m).1 = none → Noted I log m (entry .pause) (around.pause m).2
  checkpoint : ∀ m, I m.world → (around.checkpoint m).1 = none →
    Noted I log m (entry .checkpoint) (around.checkpoint m).2
  printed : ∀ r w, I w → I (around.print r w) ∧ log (around.print r w) = log w

namespace Noted

variable {I : σ → Prop} {log : σ → List ι} {m m' m'' : Stage σ} {more later : List ι}

theorem refl (calm : I m.world) : Noted I log m [] m where
  stage := rfl
  calm := calm
  log := by rw [List.append_nil]

theorem trans (h : Noted I log m more m') (h' : Noted I log m' later m'') :
    Noted I log m (more ++ later) m'' where
  stage := by
    rw [h'.stage, h.stage]
  calm := h'.calm
  log := by rw [h'.log, h.log, List.append_assoc]

theorem attempt (h : Noted I log m more m') : m'.attempt = m.attempt := by rw [h.stage]

theorem cancelled (h : Noted I log m more m') : m'.cancelled = m.cancelled := by rw [h.stage]

theorem failure (h : Noted I log m more m') : m'.failure = m.failure := by rw [h.stage]

/-- A hook that is called: the walk goes on from what it has left, or breaks off. -/
theorem call {hook : Stage σ → Option Fault × Stage σ}
    (noted : (hook m).1 = none → Noted I log m more (hook m).2) :
    ((Act.call hook m).1 = .success ∧ Noted I log m more (Act.call hook m).2) ∨
      ∃ fault, (Act.call hook m).1 = .broken fault := by
  unfold Act.call
  generalize hook m = done at noted ⊢
  obtain ⟨fault, m'⟩ := done
  cases fault with
  | none => exact .inl ⟨rfl, noted rfl⟩
  | some fault => exact .inr ⟨fault, rfl⟩

end Noted

section Printing

variable {around : Surroundings σ} {I : σ → Prop} {log : σ → List ι}
  (printed : ∀ r w, I w → I (around.print r w) ∧ log (around.print r w) = log w)

include printed

theorem Noted.say {m : Stage σ} (r : Remark) (calm : I m.world) : Noted I log m [] (around.say r m) where
  stage := rfl
  calm := (printed r _ calm).1
  log := by
    rw [List.append_nil]
    exact (printed r _ calm).2

/-- Listeners who change nothing of a stage but the world, and make no entry. -/
theorem Noted.tell {e : Event} {ls : List (Listener σ)}
    (hear : ∀ l ∈ ls, ∀ m, I m.world → Noted I log m [] (l e m).2) {m : Stage σ} (calm : I m.world) :
    Noted I log m [] (around.tell e ls m).2 :=
  around.tell_keeps e (I := Noted I log m []) (fun r _ noted => noted.trans (Noted.say printed r noted.calm))
    (fun l hl n noted => noted.trans (hear l hl n noted.calm)) (.refl calm)

end Printing

namespace Bystanders

variable {around : Surroundings σ} {I : σ → Prop} {log : σ → List ι} {entry : Occasion → List ι}
  (h : Bystanders around I log entry) (setup : Setup) {m : Stage σ}

include h

theorem say (r : Remark) (calm : I m.world) : Noted I log m [] (around.say r m) :=
  Noted.say h.printed r calm

theorem emit {kind : EventKind} (midrun : kind ≠ .runFinished) (path : Path) (b : Block)
    (success : Option Bool) (calm : I m.world) (whole : (around.emit kind path b success m).1 = none) :
    Noted I log m (entry (.told (Event.ofBlock kind path b success m.attempt)))
      (around.emit kind path b success m).2 :=
  h.told _ m midrun calm whole

/-- A block starts. -/
theorem announce (path : Path) (b : Block) (calm : I m.world)
    (whole : ((setup.crew around).announce path b m).1 = none) :
    Noted I log { m with path } (entry (.told (Event.ofBlock .blockStarted path b none m.attempt)))
      ((setup.crew around).announce path b m).2 :=
  h.emit (m := { m with path }) (by simp) path b none calm whole

/-- What is remarked on a command is on no log. -/
theorem remarked (name : String) (calm : I m.world) :
    Noted I log (setup.begin name m) [] (setup.told around name m) :=
  setup.narrate_keeps (I := Noted I log (setup.begin name m) [])
    (fun r _ noted => noted.trans (h.say r noted.calm)) _ (.refl calm)

/-- A command of a block, carried out on a stage before bystanders: it breaks off when something it does
cannot be told, or when the telling does, and otherwise ends as reported, with the event of it on the log. -/
theorem carryOut (path : Path) (b : Block) (name : String) (calm : I m.world) :
    if setup.isTellable name m then
      (∃ fault, (setup.telling around path b name m).1 = some fault ∧
        ((setup.crew around).carryOut path b name m).1 = .broken fault) ∨
      ((setup.crew around).carryOut path b name m).1 =
          (if (setup.report name m).ok then .success else .failure) ∧
        Noted I log { setup.begin name m with active := none }
          (entry (.told (Event.ofBlock .commandFinished path b (some (setup.report name m).ok)
            (setup.report name m).attempt)))
          ((setup.crew around).carryOut path b name m).2
    else
      ((setup.crew around).carryOut path b name m).1 = .broken .untellable ∧
        Noted I log (setup.begin name m) [] ((setup.crew around).carryOut path b name m).2 := by
  have noted := h.remarked setup name calm
  rw [Setup.carryOut_eq]
  split
  · have midrun : EventKind.commandFinished ≠ .runFinished := by simp
    have told := h.emit midrun path b (some (setup.report name m).ok) noted.calm
    change (setup.telling around path b name m).1 = none → Noted I log _ _ (setup.telling around path b name m).2
      at told
    generalize setup.telling around path b name m = emitted at told ⊢
    obtain ⟨_ | fault, n⟩ := emitted
    · have finished := noted.trans (told rfl)
      rw [noted.attempt] at finished
      have still : n = { setup.begin name m with world := n.world } := finished.stage
      refine .inr ⟨rfl, ?_, finished.calm, finished.log⟩
      dsimp only [Stage.parted]
      rw [still]
    · exact .inl ⟨fault, rfl, rfl⟩
  · exact ⟨rfl, noted⟩

end Bystanders

end Lamplighter
