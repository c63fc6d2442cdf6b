/-
Lamplighter.Proofs.Run.Transcript — all that is seen and heard of a run, in one sequence.

* `Note` — what can be put down about a run: an event that was told, a suspension and where the run was then, and a
  remark that was printed.
* `Surroundings.transcribed`, `Setup.transcribing` — a run of which a transcript is kept. `play_transcribed` — that
  changes nothing of the run.

A record of beats (`Surroundings.recorded`) keeps what there was to see at each moment. A transcript keeps what was
said between them, and so tells which block started before a remark was printed.
-/
import Lamplighter.Proofs.Run.Recording

namespace Lamplighter

variable {σ : Type}

/-! ## Notes -/

/-- What can be put down about a run. -/
inductive Note where
  | told (e : Event)
  | paused (path : Path)
  | rested (path : Path)
  | said (r : Remark)
  deriving DecidableEq, Repr

namespace Stage

/-- The transcript of a run so far. -/
def transcript (m : Stage (σ × List Note)) : List Note := m.world.2

/-- Put a note down. -/
def putDown (note : Note) (m : Stage (σ × List Note)) : Stage (σ × List Note) :=
  { m with world := (m.world.1, m.world.2 ++ [note]) }

end Stage

/-! ## Runs with a transcript -/

namespace Surroundings

/-- A listener who puts every event down. -/
def scribe : Listener (σ × List Note) := fun e m => (none, m.putDown (.told e))

/-- A hook that is put down, with the address of the block that started last, before it is awaited. -/
def minuted (note : Path → Note) (hook : Stage σ → Option Fault × Stage σ) (m : Stage (σ × List Note)) :
    Option Fault × Stage (σ × List Note) :=
  ((hook (m.through Prod.fst)).1, (hook (m.through Prod.fst)).2.keeping (m.putDown (note m.path)).transcript)

/-- Surroundings with a transcript of all events, suspensions and remarks. -/
def transcribed (around : Surroundings σ) : Surroundings (σ × List Note) where
  listeners := scribe :: around.listeners.map lift
  pause := minuted .paused around.pause
  checkpoint := minuted .rested around.checkpoint
  print r w := (around.print r w.1, w.2 ++ [.said r])

theorem transcribed_shadows (around : Surroundings σ) : around.transcribed.Shadows Prod.fst around where
  told e m := by
    have printed : ∀ r w, (around.transcribed.print r w).1 = around.print r w.1 := fun _ _ => rfl
    exact Shadows.tell printed e (forall₂_lift around.listeners) (m.putDown (.told e))
  pause _ := ⟨rfl, rfl⟩
  checkpoint _ := ⟨rfl, rfl⟩
  printed _ _ := rfl

end Surroundings

/-- A program run with a transcript, which is empty at first. -/
def Setup.transcribing (setup : Setup) (around : Surroundings σ) (p : Program) (path : Path) (m : Stage σ) :
    Ending × Stage (σ × List Note) :=
  setup.play around.transcribed p path (m.keeping [])

/-- To have a transcript changes nothing of a run. -/
theorem play_transcribed (setup : Setup) (around : Surroundings σ) (p : Program) (path : Path) (m : Stage σ) :
    setup.play around p path m =
      ((setup.transcribing around p path m).1, (setup.transcribing around p path m).2.through Prod.fst) :=
  around.transcribed_shadows.play setup p path (m.keeping [])

end Lamplighter
