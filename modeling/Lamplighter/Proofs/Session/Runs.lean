/-
Lamplighter.Proofs.Session.Runs — how requests to run are met, and how runs are resolved.

* `Fault.breaks` — the faults that come out of the walk of a run, or of telling its end.
* `started`, `walk` — a session whose run has started, and the walk of its run.
* `run_rejected`, `run_illegal`, `run_started` — the three ways in which a request to run is met.
* `Resolved`, `resolve_eq_finish` — how a walk that did not break off is resolved.
* `notifyOne`, `notify_cons` — the listeners are told of its end one after the other; `notify_keeps`, `finish_keeps` — what
  they all keep.
-/
import Lamplighter.Proofs.Run.Walk
import Lamplighter.Proofs.Session.Calls

namespace Lamplighter

/-- Whether a fault is one that breaks off the walk of a run, or the telling of its end. An illegal transition
is not: it is raised by the session, before the walk or after it. -/
def Fault.breaks : Fault → Bool
  | .illegalTransition .. => false
  | _ => true

namespace Session

variable {ρ : Type}

/-! ## Requests -/

/-- The level that a request is granted: no run is going on, the level is loaded, and there is a program. -/
theorem levelFor_eq_ok {s : Session} {program : Program} {level : Level} :
    s.levelFor program = .ok level ↔ s.running = false ∧ s.level? = some level ∧ program ≠ [] := by
  unfold levelFor
  cases running : s.running with
  | true => simp
  | false =>
    cases loaded : s.level? with
    | none => simp
    | some other => cases program <;> simp

/-- A request is refused a level during a run, without a level and without a program. -/
theorem levelFor_eq_error {s : Session} {program : Program} :
    (∃ why, s.levelFor program = .error why) ↔ s.running = true ∨ s.level? = none ∨ program = [] := by
  unfold levelFor
  cases running : s.running with
  | true => simp
  | false =>
    cases loaded : s.level? with
    | none => simp
    | some other => cases program <;> simp

/-- A request to run is rejected during a run. -/
theorem levelFor_of_running {s : Session} (running : s.running = true) (program : Program) :
    s.levelFor program = .error .alreadyRunning := by
  simp [levelFor, running]

/-- A session whose run has started. -/
def started (level : Level) (s : Session) : Session := { s.prepare level with status := .running }

/-- The walk of a run that starts. -/
def walk (audience : Audience ρ) (level : Level) (program : Program) (s : Session) (watch : ρ) :
    Ending × Stage (Desk × ρ) :=
  ((s.started level).setup level).play (surroundings audience) program []
    ((s.started level).stage level.start (audience.print (startRemark level program) watch))

/-- A finished attempt is idle before the next run, and any other session is left alone. -/
theorem retire_eq (s : Session) :
    s.retire = .ok { s with status := if s.status = .win ∨ s.status = .fail then .idle else s.status } := by
  unfold retire
  split
  · rw [setStatus_idle]
  · rfl

section Requests

variable {audience : Audience ρ} {level : Level} {program : Option Program} {s : Session} {watch : ρ}

theorem run_rejected {why : Rejection} (h : s.levelFor (program.getD s.program) = .error why) :
    s.run audience program watch =
      (.ok .rejected, s, audience.print ⟨.outcome .rejected, why.message, []⟩ watch) := by
  simp only [run, h]

/-- A session that is left with the status of a run refuses to start another, after it has been
prepared for it. -/
theorem run_illegal (h : s.levelFor (program.getD s.program) = .ok level) (hs : s.status = .running) :
    s.run audience program watch =
      (.error (.illegalTransition .running .running), s.prepare level, watch) := by
  have retired : s.retire = .ok s := by simp [retire, hs]
  have refused : (s.prepare level).setStatus .running = .error (.illegalTransition .running .running) := by
    simp only [setStatus, prepare, resetAttempt_status, hs, RunStatus.mayBecome, Bool.false_eq_true, if_false]
  simp only [run, h, runOn, retired, refused]

theorem run_started (h : s.levelFor (program.getD s.program) = .ok level) (hs : s.status ≠ .running) :
    s.run audience program watch =
      let done := s.walk audience level (program.getD s.program) watch
      resolve audience level (verdict done.1 done.2.cancelled) done.2.failure (ofStage done.2).settle
        done.2.world.2 := by
  obtain ⟨t, retired, status, started⟩ :
      ∃ t, s.retire = .ok t ∧ (t.prepare level).status = .idle ∧ t.started level = s.started level := by
    refine ⟨_, s.retire_eq, ?_, rfl⟩
    cases e : s.status <;> simp_all [prepare, resetAttempt]
  have granted : (t.prepare level).setStatus .running = .ok (s.started level) := by
    rw [← started]
    simp only [setStatus, status, RunStatus.mayBecome, if_true, Session.started]
  simp only [run, h, runOn, retired, granted]
  rfl

end Requests

/-! ## Walks -/

/-- What a walk itself may do to a session: move the robot and what is lit and set, and note where it is. -/
def during (a : Attempt) (path : Path) (active : Option String) (s : Session) : Session :=
  { s with path, active, robot := some a.robot, lit := a.lit, store := a.store }

/-! ## Resolution -/

section Resolution

variable {ρ : Type} {audience : Audience ρ}

section Failing

variable {s : Session} {why : Option Failure} {message : String} {watch : ρ}

theorem finishFailed_legal (legal : s.status.mayBecome .fail = true) :
    finishFailed audience why message s watch =
      finish audience .fail { s with failure := why, status := .fail }
        (audience.print ⟨.outcome .fail, message, []⟩ watch) := by
  simp [finishFailed, setStatus, legal]

theorem finishFailed_illegal (illegal : s.status.mayBecome .fail = false) :
    finishFailed audience why message s watch =
      (.error (.illegalTransition s.status .fail), { s with failure := why }, watch) := by
  simp [finishFailed, setStatus, illegal]

end Failing

/-- A walk that was cancelled is resolved from the level's start. -/
theorem resolve_cancelled (audience : Audience ρ) (level : Level) (why : Option Failure) (s : Session)
    (watch : ρ) :
    resolve audience level .cancelled why s watch =
      finish audience .cancelled s.resetToStart.2
        (audience.print ⟨.outcome .cancelled, "Run cancelled", []⟩ watch) := by
  simp only [resolve]
  rw [resetToStart_eq]

/-- A walk to the end of a program is resolved by the goals that are lit. -/
theorem resolve_success (audience : Audience ρ) (level : Level) (why : Option Failure) (s : Session)
    (watch : ρ) :
    resolve audience level .success why s watch =
      if s.isWin then
        if s.status.mayBecome .win then
          finish audience .win { s with status := .win }
            (audience.print ⟨.outcome .win, s!"Level {level.id} solved!", []⟩ watch)
        else (.error (.illegalTransition s.status .win), s, watch)
      else
        finishFailed audience (some .goalsNotLit)
          s!"Program finished with {s.lit.length}/{level.goals.length} goals lit" s watch := by
  unfold resolve setStatus
  cases s.status.mayBecome .win <;> rfl

/-- The sessions that a run which did not break off leaves to those who are told of its end. -/
inductive Resolved (s : Session) : Outcome → Session → Prop
  | cancelled : Resolved s .cancelled s.resetToStart.2
  | failed (why : Option Failure) (status : s.status = .running) (heeded : s.cancelled = false) :
      Resolved s .fail { s with failure := why, status := .fail }
  | won (status : s.status = .running) (heeded : s.cancelled = false) (solved : s.isWin = true) :
      Resolved s .win { s with status := .win }

/-- A walk that did not break off is resolved to an outcome, and those who watch are told. A run that
was asked to stop is cancelled. -/
theorem resolve_eq_finish (audience : Audience ρ) (level : Level) (why : Option Failure) (watch : ρ)
    {s : Session} {ending : Ending} (whole : ∀ fault, ending ≠ .broken fault)
    (status : s.cancelled = false → s.status = .running) :
    ∃ outcome t r, Resolved s outcome t ∧ (s.cancelled = true → outcome = .cancelled) ∧
      resolve audience level (verdict ending s.cancelled) why s watch =
        finish audience outcome t (audience.print r watch) := by
  cases stopped : s.cancelled with
  | true =>
    refine ⟨.cancelled, _, ⟨.outcome .cancelled, "Run cancelled", []⟩, .cancelled, fun _ => rfl, ?_⟩
    cases ending with
    | broken fault => exact absurd rfl (whole fault)
    | success | failure | cancelled => exact resolve_cancelled audience level why s watch
  | false =>
    have running := status stopped
    have legal : s.status.mayBecome .fail = true := by rw [running]; rfl
    have winnable : s.status.mayBecome .win = true := by rw [running]; rfl
    cases ending with
    | broken fault => exact absurd rfl (whole fault)
    | cancelled => exact ⟨.cancelled, _, _, .cancelled, fun _ => rfl, resolve_cancelled audience level why s watch⟩
    | failure => exact ⟨.fail, _, _, .failed why running stopped, by simp, finishFailed_legal legal⟩
    | success =>
      rw [show verdict .success false = .success from rfl, resolve_success]
      cases solved : s.isWin with
      | false => exact ⟨.fail, _, _, .failed _ running stopped, by simp, finishFailed_legal legal⟩
      | true =>
        rw [if_pos rfl, if_pos winnable]
        exact ⟨.win, _, _, .won running stopped solved, by simp, rfl⟩

/-- One listener is told of the end of a run. What it raises is remarked on, if there are words for it. -/
def notifyOne (audience : Audience ρ) (e : Event) (l : Event → Session → ρ → Option Fault × Session × ρ) (s : Session)
    (w : ρ) : Option Fault × Session × ρ :=
  match l e s w with
  | (none, s, w) => (none, s, w)
  | (some fault, s, w) =>
    match fault.wording with
    | .ok text => (none, s, audience.print (complaintRemark text) w)
    | .error met => (some met, s, w)

/-- The listeners are told one after the other, until a telling breaks off. -/
theorem notify_cons (audience : Audience ρ) (e : Event) (l : Event → Session → ρ → Option Fault × Session × ρ)
    (rest : List (Event → Session → ρ → Option Fault × Session × ρ)) (s : Session) (w : ρ) :
    notify audience e (l :: rest) s w =
      match notifyOne audience e l s w with
      | (none, s, w) => notify audience e rest s w
      | (some met, s, w) => (some met, s, w) := by
  rw [notify, notifyOne]
  rcases l e s w with ⟨_ | fault, t, w'⟩
  · rfl
  · dsimp only
    cases fault.wording <;> rfl

section Telling

variable {K : Session → ρ → Prop} {e : Event} {s : Session} {w : ρ}

theorem notifyOne_keeps {l : Event → Session → ρ → Option Fault × Session × ρ}
    (printed : ∀ r s w, K s w → K s (audience.print r w)) (told : K (l e s w).2.1 (l e s w).2.2) :
    K (notifyOne audience e l s w).2.1 (notifyOne audience e l s w).2.2 := by
  unfold notifyOne
  generalize l e s w = came at told ⊢
  obtain ⟨_ | fault, t, w'⟩ := came
  · exact told
  · dsimp only
    cases fault.wording with
    | ok text => exact printed _ _ _ told
    | error met => exact told

/-- What every listener keeps, telling them of the end of a run keeps. -/
theorem notify_keeps {ls : List (Event → Session → ρ → Option Fault × Session × ρ)}
    (told : ∀ l ∈ ls, ∀ s w, K s w → K (l e s w).2.1 (l e s w).2.2)
    (printed : ∀ r s w, K s w → K s (audience.print r w)) (h : K s w) :
    K (notify audience e ls s w).2.1 (notify audience e ls s w).2.2 := by
  induction ls generalizing s w with
  | nil => exact h
  | cons l rest ih =>
    have kept := notifyOne_keeps printed (told l List.mem_cons_self s w h)
    rw [notify_cons]
    generalize notifyOne audience e l s w = heard at kept ⊢
    obtain ⟨_ | met, t, w'⟩ := heard
    · exact ih (fun l hl => told l (List.mem_cons_of_mem _ hl)) kept
    · exact kept

/-- What breaks off the telling of the end of a run is an error that a listener has met. -/
theorem breaks_of_wording {fault met : Fault} (h : fault.wording = .error met) : met.breaks = true := by
  unfold Fault.wording at h
  split at h <;> cases h
  rfl

theorem breaks_of_notifyOne {l : Event → Session → ρ → Option Fault × Session × ρ} {met : Fault}
    (h : (notifyOne audience e l s w).1 = some met) : met.breaks = true := by
  unfold notifyOne at h
  split at h
  · cases h
  · split at h
    · cases h
    · rename_i fault wording
      obtain rfl : fault = met := Option.some.inj h
      exact breaks_of_wording wording

theorem breaks_of_notify {ls : List (Event → Session → ρ → Option Fault × Session × ρ)} {fault : Fault}
    (h : (notify audience e ls s w).1 = some fault) : fault.breaks = true := by
  induction ls generalizing s w with
  | nil => cases h
  | cons l rest ih =>
    have one (met : Fault) (h : (notifyOne audience e l s w).1 = some met) : met.breaks = true := breaks_of_notifyOne h
    rw [notify_cons] at h
    generalize notifyOne audience e l s w = heard at one h
    obtain ⟨_ | met, t, w'⟩ := heard
    · exact ih h
    · obtain rfl : met = fault := Option.some.inj h
      exact one met rfl

end Telling

/-- A run that has ended answers its outcome, unless telling its end has broken off. -/
theorem finish_answer (audience : Audience ρ) (outcome : Outcome) (s : Session) (w : ρ) :
    (finish audience outcome s w).1 = .ok outcome ∨
      ∃ fault, fault.breaks = true ∧ (finish audience outcome s w).1 = .error fault := by
  unfold finish
  split
  · exact .inl rfl
  · dsimp only
    split
    · exact .inl rfl
    · rename_i fault t w' heq
      exact .inr ⟨fault, breaks_of_notify (congrArg Prod.fst heq), rfl⟩

/-- If telling its end has not broken off, the answer is the outcome. -/
theorem outcome_of_finish {outcome other : Outcome} {s : Session} {w : ρ}
    (answered : (finish audience other s w).1 = .ok outcome) : other = outcome := by
  rcases finish_answer audience other s w with answer | ⟨fault, -, answer⟩
  · exact Except.ok.inj (answer.symm.trans answered)
  · rw [answer] at answered
    cases answered

/-- The session and those who watch, after a run has ended: all there is to it is that the end is told. -/
theorem finish_snd (audience : Audience ρ) (outcome : Outcome) {s : Session} {robot : Pose}
    (there : s.robot = some robot) (w : ρ) :
    (finish audience outcome s w).2 =
      (notify audience (Event.ofOutcome outcome ⟨robot, s.lit, s.store⟩) audience.listeners s w).2 := by
  simp only [finish, there]
  split
  · rename_i heq
    rw [heq]
  · rename_i heq
    rw [heq]

/-- The end of a run keeps what every listener keeps. -/
theorem finish_keeps {K : Session → ρ → Prop} (outcome : Outcome)
    (told : ∀ l ∈ audience.listeners, ∀ e s w, e.kind = .runFinished → K s w →
      K (l e s w).2.1 (l e s w).2.2)
    (printed : ∀ r s w, K s w → K s (audience.print r w)) {s : Session} {w : ρ} (h : K s w) :
    K (finish audience outcome s w).2.1 (finish audience outcome s w).2.2 := by
  cases there : s.robot with
  | none =>
    simp only [finish, there]
    exact h
  | some robot =>
    rw [finish_snd audience outcome there]
    exact notify_keeps (fun l hl s w => told l hl _ s w rfl) printed h

end Resolution

end Session

end Lamplighter
