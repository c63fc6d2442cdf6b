/-
Lamplighter.Proofs.Session.Steps — what a step of a script does to a session.

* `Step.inert`, `take_of_inert` — the steps that a session refuses while a run is in progress: they are
  answered so, and change nothing.
* `Step.reads` — the steps whose answer depends on the program of the session.
* `answer_agree`, `tamper_agree` — the others do the same to sessions that differ in their programs.
-/
import Lamplighter.Proofs.Console
import Lamplighter.Proofs.Session.Calls
import Lamplighter.Proofs.Session.Pairing
import Lamplighter.Session.Script

namespace Lamplighter

namespace Session

/-! ## Steps that are refused during a run -/

namespace Step

/-- The steps that a session refuses during a run. -/
def inert : Step → Bool
  | .call (.load _) | .call .next | .call (.add ..) | .call (.remove _) | .call (.setProgram _)
  | .call .clearProgram | .run _ => true
  | _ => false

/-- The answer to a step that is refused during a run. -/
def refusal : Step → Answer
  | .call (.load _) | .call .next | .call (.remove _) => .yesNo false
  | .call (.add ..) => .block none
  | .run _ => .outcome .rejected
  | _ => .nothing

/-- The lines that are printed for a step that is refused during a run. -/
def protest (console : Console) : Step → List String
  | .run _ => console.write ⟨.outcome .rejected, Rejection.alreadyRunning.message, []⟩
  | _ => []

/-- Whether the answer to a step, or what it leaves besides a program, depends on the program of the
session: during a run, or at other times. -/
def reads (midrun : Bool) : Step → Bool
  | .ask .program => true
  | .call (.add ..) | .call (.remove _) | .run none => !midrun
  | _ => false

end Step

/-- A step that depends on the program during a run depends on it at other times. -/
theorem Step.reads_mono {step : Step} {midrun : Bool} (h : step.reads false = false) :
    step.reads midrun = false := by
  unfold Step.reads at h ⊢
  split at h
  · cases h
  · cases h
  · cases h
  · cases h
  · rfl

/-- A rejected request to run prints a single line. -/
theorem protest_run (console : Console) (program : Option Program) :
    ((Step.run program).protest console).length = 1 := by
  have unbroken : ∀ plain, '\n' ∉
      ((⟨plain⟩ : Console).printed ⟨.outcome .rejected, Rejection.alreadyRunning.message, []⟩).toList := by
    decide +kernel
  exact Console.length_lines_of_unbroken (unbroken console.plain)

theorem load_of_running {s : Session} (running : s.running = true) (id : Int) : s.load id = (.ok false, s) := by
  simp [load, running]

theorem next_of_running {s : Session} (running : s.running = true) : s.next = (.ok false, s) := by
  unfold next
  split
  · exact load_of_running running _
  · rfl

theorem hasRoom_of_running {s : Session} (running : s.running = true) : s.hasRoom = false := by
  unfold hasRoom
  split
  · rfl
  · simp [running]

/-- During a run no block is added, whatever it is and wherever it should be. -/
theorem addAt_of_running {s : Session} (running : s.running = true) (wanted : Except Invalid Block)
    (parent : Option (Option String)) : Call.addAt wanted s parent = (.ok none, s) := by
  have refused (place : Option String) : s.add wanted place = (.ok none, s) := by
    simp [add, hasRoom_of_running running]
  unfold Call.addAt
  split
  · exact refused none
  · exact refused (some _)
  · simp [hasRoom_of_running running]

theorem setProgram_of_running {s : Session} (running : s.running = true) (program : Program) :
    s.setProgram program = s := by
  simp [setProgram, running]

/-- A step that is refused during a run is answered so, and changes nothing. -/
theorem take_of_inert (booth : Booth) (response : Response Answer Session) {step : Step}
    (inert : step.inert = true) {s : Session} (running : s.running = true) (r : Notes) :
    take booth response step s r =
      (step.refusal, s, { r with pending := (step.protest booth.console).reverse ++ r.pending }) := by
  unfold Step.inert at inert
  split at inert
  · rename_i id
    cases id with
    | none => rfl
    | some id =>
      simp only [take, Call.answer, load_of_running running]
      rfl
  · simp only [take, Call.answer, next_of_running running]
    rfl
  · simp only [take, Call.answer, addAt_of_running running]
    rfl
  · rename_i id
    cases id with
    | none => rfl
    | some id =>
      simp only [take, Call.answer, remove_of_running running]
      rfl
  · simp only [take, Call.answer, setProgram_of_running running]
    rfl
  · simp only [take, Call.answer, clearProgram, setProgram_of_running running]
    rfl
  · simp only [take, run_rejected (levelFor_of_running running _)]
    rfl
  · cases inert

/-! ## Answers side by side -/

/-- Two answers, with the sessions that are left and what else there is to see: all but the sessions is the
same, and these differ at most in their programs. -/
def AnswersAlike {β γ : Type} (a b : β × Session × γ) : Prop :=
  b.1 = a.1 ∧ a.2.1.Alike b.2.1 ∧ b.2.2 = a.2.2

theorem light_agree (flags : Flags) (lit : List (Except Invalid Position)) (s : Session) (q : Program) :
    AnswersAlike ((Tampering.light flags lit s).1, (Tampering.light flags lit s).2, ())
      ((Tampering.light flags lit { s with program := q }).1,
        (Tampering.light flags lit { s with program := q }).2, ()) := by
  induction lit generalizing s with
  | nil => exact ⟨rfl, rfl, rfl⟩
  | cons cell rest ih =>
    cases cell with
    | error invalid => exact ⟨rfl, rfl, rfl⟩
    | ok p => exact ih { s with lit := s.lit ++ [p] }

/-- Tampering with a session does not look at its program. -/
theorem tamper_agree (x : Tampering) (s : Session) (q : Program) :
    AnswersAlike ((x.answer s).1, (x.answer s).2, ())
      ((x.answer { s with program := q }).1, (x.answer { s with program := q }).2, ()) := by
  cases x with
  | status name =>
    simp only [Tampering.answer]
    cases RunStatus.ofName? name with
    | none => exact ⟨rfl, rfl, rfl⟩
    | some wanted =>
      simp only [setStatus]
      cases s.status.mayBecome wanted with
      | true => exact ⟨rfl, rfl, rfl⟩
      | false => exact ⟨rfl, rfl, rfl⟩
  | attempt robot lit flags =>
    cases robot with
    | none => exact light_agree flags lit s q
    | some robot =>
      cases robot with
      | error invalid => exact ⟨rfl, rfl, rfl⟩
      | ok robot =>
        simp only [Tampering.answer]
        cases present : s.robot.isSome with
        | true => exact light_agree flags lit { s with robot := some robot } q
        | false => exact ⟨rfl, rfl, rfl⟩

/-- A question about anything but the program is answered in the same way whatever the program is. -/
theorem ask_agree (x : Question) (s : Session) (q : Program) {midrun : Bool}
    (blind : (Step.ask x).reads midrun = false) :
    AnswersAlike (x.answer s, s, ()) (x.answer { s with program := q }, { s with program := q }, ()) := by
  cases x with
  | program => cases blind
  | title | picture => exact ⟨rfl, rfl, rfl⟩

theorem alike_cancel (s : Session) (q : Program) : s.cancel.Alike { s with program := q }.cancel := by
  unfold cancel
  dsimp only
  split <;> rfl

theorem alike_resetToStart (s : Session) (q : Program) :
    s.resetToStart.2.Alike { s with program := q }.resetToStart.2 := by
  have level : level? { s with program := q } = s.level? := rfl
  cases loaded : s.level? with
  | none => rw [resetToStart_of_absent loaded, resetToStart_of_absent (level.trans loaded)]; rfl
  | some level' =>
    rw [resetToStart_of_loaded loaded, resetToStart_of_loaded (level.trans loaded)]
    unfold cancel
    dsimp only
    split <;> rfl

theorem alike_reposition (s : Session) (q : Program) :
    s.reposition.Alike { s with program := q }.reposition := by
  have level : level? { s with program := q } = s.level? := rfl
  unfold reposition
  rw [level]
  split <;> rfl

/-- To load a level takes no account of the program. -/
theorem arrival_agree (s : Session) (q : Program) (id : Int) :
    AnswersAlike (Call.arrival (s.load id)) (Call.arrival ({ s with program := q }.load id)) := by
  unfold load
  dsimp only
  split
  · exact ⟨rfl, rfl, rfl⟩
  · split
    · exact ⟨rfl, rfl, rfl⟩
    · simp only [setStatus_idle]
      exact ⟨rfl, rfl, rfl⟩

theorem alike_setProgram (s : Session) (q p : Program) :
    (s.setProgram p).Alike ({ s with program := q }.setProgram p) := by
  unfold setProgram
  dsimp only
  split <;> rfl

/-- A call that does not read the program is answered in the same way whatever the program is. -/
theorem answer_agree (c : Call) (s : Session) (q : Program) (blind : (Step.call c).reads s.running = false) :
    AnswersAlike (c.answer s) (c.answer { s with program := q }) := by
  cases c with
  | load id =>
    cases id with
    | none => exact ⟨rfl, rfl, rfl⟩
    | some id => exact arrival_agree s q id
  | next =>
    show AnswersAlike (Call.arrival s.next) (Call.arrival (next { s with program := q }))
    unfold next
    dsimp only
    cases s.levelId.bind s.house.catalogue.nextId? with
    | none => exact ⟨rfl, rfl, rfl⟩
    | some id => exact arrival_agree s q id
  | add wanted parent =>
    have running : s.running = true := by simpa [Step.reads] using blind
    have running' : { s with program := q }.running = true := running
    simp only [Call.answer, Call.addition, addAt_of_running running, addAt_of_running running']
    exact ⟨rfl, rfl, rfl⟩
  | remove id =>
    have running : s.running = true := by simpa [Step.reads] using blind
    have running' : { s with program := q }.running = true := running
    cases id with
    | none => exact ⟨rfl, rfl, rfl⟩
    | some id =>
      simp only [Call.answer, remove_of_running running, remove_of_running running']
      exact ⟨rfl, rfl, rfl⟩
  | setProgram p => exact ⟨rfl, alike_setProgram s q p, rfl⟩
  | clearProgram => exact ⟨rfl, alike_setProgram s q [], rfl⟩
  | setSpeed wanted =>
    cases wanted with
    | error why => exact ⟨rfl, rfl, rfl⟩
    | ok delay => exact ⟨rfl, rfl, rfl⟩
  | cancel => exact ⟨rfl, alike_cancel s q, rfl⟩
  | resetToStart =>
    simp only [Call.answer]
    rw [resetToStart_eq s, resetToStart_eq { s with program := q }]
    exact ⟨rfl, alike_resetToStart s q, rfl⟩
  | reposition => exact ⟨rfl, alike_reposition s q, rfl⟩

/-- A call during a run leaves the run in progress. -/
theorem running_answer {s : Session} (running : s.running = true) (c : Call) :
    (c.answer s).2.1.running = true := by
  have effect := c.effect_answer s
  generalize (c.answer s).1 = answer at effect
  generalize (c.answer s).2.1 = t at effect ⊢
  cases effect with
  | edit | reposition => exact running
  | load id level resting =>
    rw [running] at resting
    cases resting
  | cancel => exact running
  | reset =>
    rw [s.cancel_of_running running]
    exact running

theorem running_light (flags : Flags) (lit : List (Except Invalid Position)) (s : Session) :
    (Tampering.light flags lit s).2.running = s.running := by
  induction lit generalizing s with
  | nil => rfl
  | cons cell rest ih =>
    cases cell with
    | error invalid => rfl
    | ok p => exact ih { s with lit := s.lit ++ [p] }

/-- Tampering with a session during a run leaves the run in progress. -/
theorem running_tamper {s : Session} (running : s.running = true) (x : Tampering) :
    (x.answer s).2.running = true := by
  cases x with
  | status name =>
    simp only [Tampering.answer]
    cases RunStatus.ofName? name with
    | none => exact running
    | some wanted =>
      simp only [setStatus]
      cases s.status.mayBecome wanted with
      | true | false => exact running
  | attempt robot lit flags =>
    cases robot with
    | none => exact (running_light flags lit s).trans running
    | some robot =>
      cases robot with
      | error invalid => exact running
      | ok robot =>
        simp only [Tampering.answer]
        cases s.robot.isSome with
        | true => exact (running_light flags lit { s with robot := some robot }).trans running
        | false => exact running

end Session

end Lamplighter
