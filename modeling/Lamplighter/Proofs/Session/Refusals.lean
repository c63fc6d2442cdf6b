/-
Lamplighter.Proofs.Session.Refusals — what is refused, and that nothing changes when it is.

* `Call.refusedBy` — the answers that refuse a call; `Call.Refusable`, `Call.refused_iff` — the calls that are refused,
  with everything that a call can be refused for.
* `load_refused`, `remove_refused`, `Call.answer_of_refused` — what operations leave when they refuse: the session as it
  was, operation by operation.
* `run_rejected_iff` — a request to run is rejected during a run, without a level and without a program, and never once
  its run has started.
* `refused_unchanged` — a refusal leaves the session as it is, calls nobody and waits for nothing.
-/
import Lamplighter.Proofs.Program
import Lamplighter.Proofs.Session.Life

namespace Lamplighter

namespace Session

/-! ## Refused calls -/

namespace Call

/-- Whether an answer refuses a call. -/
def refusedBy : Call → Answer → Bool
  | load _, .yesNo false => true
  | next, .yesNo false => true
  | remove _, .yesNo false => true
  | add .., .block none => true
  | add .., .invalid _ => true
  | _, _ => false

/-- What a call can be refused for. A block is added where a level is loaded, no run is going on and the level's budget
is not spent, if it can be made out and its parent is the program or a container in it. -/
def Refusable (s : Session) : Call → Prop
  | load id => s.running = true ∨ id.bind s.house.catalogue.get? = none
  | next => s.running = true ∨ (s.levelId.bind s.house.catalogue.nextId?).bind s.house.catalogue.get? = none
  | remove id => s.running = true ∨ ∀ i ∈ id, i ∉ Program.ids s.program
  | add wanted parent =>
    s.running = true ∨ (∀ level ∈ s.level?, level.maxCommands ≤ s.length) ∨ (∃ invalid, wanted = .error invalid) ∨
      ∃ place ∈ parent, ∀ i ∈ place, ∀ b ∈ Program.find? i s.program, b.kind = .command
  | _ => False

end Call

section Reasons

variable {s : Session}

theorem load_eq_false {id : Int} :
    (s.load id).1 = .ok false ↔ s.running = true ∨ s.house.catalogue.get? id = none := by
  rcases load_cases id s with refused | ⟨resting, level, found, loaded⟩
  · simp only [refused, true_iff]
    unfold load at refused
    cases running : s.running with
    | true => exact .inl rfl
    | false =>
      cases found : s.house.catalogue.get? id with
      | none => exact .inr rfl
      | some level => simp [running, found, setStatus_idle] at refused
  · simp [loaded, resting, found]

theorem next_eq_false :
    s.next.1 = .ok false ↔
      s.running = true ∨ (s.levelId.bind s.house.catalogue.nextId?).bind s.house.catalogue.get? = none := by
  cases following : s.levelId.bind s.house.catalogue.nextId? with
  | none => simp [next, following]
  | some id => simp [next, following, load_eq_false]

theorem remove_eq_false {id : String} :
    (s.remove id).1 = false ↔ s.running = true ∨ id ∉ Program.ids s.program := by
  cases running : s.running with
  | true => simp [remove_of_running running]
  | false => simp [remove_of_resting running, Program.erase?_eq_none]

theorem hasRoom_eq_true :
    s.hasRoom = true ↔ s.running = false ∧ ∃ level, s.level? = some level ∧ s.length < level.maxCommands := by
  unfold hasRoom
  cases s.level? with
  | none => simp
  | some level => cases s.running <;> simp

/-- A block is added under a container that is found. -/
theorem add_refused_iff {wanted : Except Invalid Block} {parent : Option String} :
    (∀ b, (s.add wanted parent).1 ≠ .ok (some b)) ↔
      s.running = true ∨ (∀ level ∈ s.level?, level.maxCommands ≤ s.length) ∨ (∃ invalid, wanted = .error invalid) ∨
        ∃ i ∈ parent, ∀ b ∈ Program.find? i s.program, b.kind = .command := by
  have room : s.hasRoom = false ↔ s.running = true ∨ ∀ level ∈ s.level?, level.maxCommands ≤ s.length := by
    rw [Bool.eq_false_iff, ne_eq, hasRoom_eq_true]
    cases s.level? with
    | none => simp
    | some level => cases s.running <;> simp
  rw [← or_assoc, ← room]
  unfold add
  cases s.hasRoom with
  | false => simp
  | true =>
    cases wanted with
    | error invalid => simp
    | ok b =>
      cases parent with
      | none => simp
      | some i =>
        cases found : Program.find? i s.program with
        | none => simp [found]
        | some container => by_cases plain : container.kind = .command <;> simp [found, plain]

/-! ## What operations leave when they refuse -/

theorem load_refused {id : Int} (refused : (s.load id).1 = .ok false) : s.load id = (.ok false, s) := by
  rcases load_cases id s with same | ⟨-, level, -, loaded⟩
  · exact same
  · rw [loaded] at refused
    cases refused

theorem next_refused (refused : s.next.1 = .ok false) : s.next = (.ok false, s) := by
  rcases s.next_cases with same | ⟨id, e⟩
  · exact same
  · rw [e] at refused ⊢
    exact load_refused refused

/-- A search in vain removes nothing, though blocks are removed where they are found. -/
theorem remove_refused {id : String} (refused : (s.remove id).1 = false) : s.remove id = (false, s) := by
  cases running : s.running with
  | true => exact remove_of_running running id
  | false =>
    rw [remove_of_resting running] at refused ⊢
    have absent : Program.erase? id s.program = none := by simpa using refused
    rw [absent]
    rfl

end Reasons

namespace Call

/-- Under something that is no id, no block is added. -/
theorem addition_refused {s : Session} {wanted : Except Invalid Block} {parent : Option (Option String)} :
    (add wanted parent).refusedBy ((add wanted parent).answer s).1 = true ↔
      parent = some none ∨ ∀ b, (s.add wanted parent.join).1 ≠ .ok (some b) := by
  have inside (place : Option String) :
      (add wanted parent).refusedBy (addition (s.add wanted place)).1 = true ↔
        ∀ b, (s.add wanted place).1 ≠ .ok (some b) := by
    rcases s.add wanted place with ⟨_ | _ | b, t⟩ <;> simp [addition, refusedBy]
  rcases parent with _ | _ | i
  · simpa [answer, addAt] using inside none
  · simp only [answer, addAt, true_or, iff_true]
    cases s.hasRoom with
    | false => rfl
    | true => cases wanted <;> rfl
  · simpa [answer, addAt] using inside (some i)

/-- A call is refused exactly when there is something to refuse it for. -/
theorem refused_iff (s : Session) (c : Call) : c.refusedBy (c.answer s).1 = true ↔ c.Refusable s := by
  cases c with
  | load id =>
    cases id with
    | none => simp [answer, refusedBy, Refusable]
    | some id =>
      rw [Refusable, Option.bind_some, ← load_eq_false]
      simp only [answer]
      rcases s.load id with ⟨fault | _ | _, t⟩ <;> simp [arrival, refusedBy]
  | next =>
    rw [Refusable, ← next_eq_false]
    simp only [answer]
    rcases s.next with ⟨fault | _ | _, t⟩ <;> simp [arrival, refusedBy]
  | remove id =>
    cases id with
    | none => simp [answer, refusedBy, Refusable]
    | some id =>
      have refused : (s.remove id).1 = false ↔ _ := remove_eq_false
      simp only [Refusable, Option.mem_some_iff, forall_eq', ← refused]
      cases removed : (s.remove id).1 <;> simp [answer, refusedBy, removed]
  | add wanted parent =>
    rw [addition_refused, add_refused_iff, Refusable]
    rcases parent with _ | _ | i <;> simp
  | setProgram | clearProgram | setSpeed | cancel | resetToStart | reposition => simp [refusedBy, Refusable]

/-- All that is refused but a block is refused by a no. -/
theorem eq_no_of_refusedBy {c : Call} {a : Answer} (refused : c.refusedBy a = true) :
    a = .yesNo false ∨ ∃ wanted parent, c = add wanted parent := by
  unfold refusedBy at refused
  split at refused <;> simp_all

theorem arrival_eq_no {came : Except Fault Bool × Session} : (arrival came).1 = .yesNo false ↔ came.1 = .ok false := by
  rcases came with ⟨fault | _ | _, t⟩ <;> simp [arrival]

/-- A session that does not add a block is left as it was, wherever the block should have been. -/
theorem addition_of_never {s : Session} {wanted : Except Invalid Block} {place : Option String}
    (never : ∀ b, (s.add wanted place).1 ≠ .ok (some b)) : (addition (s.add wanted place)).2 = (s, []) := by
  rcases add_cases wanted place s with ⟨-, same⟩ | ⟨-, b, program, e⟩
  · generalize s.add wanted place = came at same ⊢
    obtain ⟨_ | _, t⟩ := came
    · exact Prod.ext same rfl
    · exact Prod.ext same rfl
  · exact absurd (by rw [e]) (never b)

/-- A session that refuses a call is left as it was, and remarks on nothing. -/
theorem answer_of_refused {s : Session} {c : Call} (refused : c.refusedBy (c.answer s).1 = true) :
    (c.answer s).2 = (s, []) := by
  cases c with
  | load id =>
    cases id with
    | none => rfl
    | some id =>
      have no : (arrival (s.load id)).1 = .yesNo false := (eq_no_of_refusedBy refused).resolve_right (by simp)
      rw [answer, load_refused (arrival_eq_no.mp no)]
      rfl
  | next =>
    have no : (arrival s.next).1 = .yesNo false := (eq_no_of_refusedBy refused).resolve_right (by simp)
    rw [answer, next_refused (arrival_eq_no.mp no)]
    rfl
  | remove id =>
    cases id with
    | none => rfl
    | some id =>
      have no : Answer.yesNo (s.remove id).1 = .yesNo false := (eq_no_of_refusedBy refused).resolve_right (by simp)
      rw [answer, remove_refused (Answer.yesNo.inj no)]
  | add wanted parent =>
    rw [addition_refused] at refused
    rcases parent with _ | _ | i
    · exact addition_of_never (refused.resolve_left (by simp))
    · simp only [answer, addAt]
      split
      · cases wanted <;> rfl
      · rfl
    · exact addition_of_never (refused.resolve_left (by simp))
  | setProgram | clearProgram | setSpeed | cancel | resetToStart | reposition => simp [refusedBy] at refused

end Call

/-- A run in progress goes on from where it was when the session refuses a call. -/
theorem visit_of_refused {ρ : Type} {c : Call} {st : Stage (Desk × ρ)}
    (refused : c.refusedBy (c.answer (ofStage st)).1 = true) :
    visit (fun t watch => (none, (c.answer t).2.1, watch)) st = (none, st) := by
  rw [visit, Call.answer_of_refused refused]
  rfl

/-! ## Rejected runs -/

section Runs

variable {ρ : Type} (audience : Audience ρ)

/-- A run that has started is not rejected, whatever becomes of it. -/
theorem resolve_ne_rejected (level : Level) (ending : Ending) (why : Option Failure) (s : Session) (watch : ρ) :
    (resolve audience level ending why s watch).1 ≠ .ok .rejected := by
  have ended (outcome : Outcome) (started : outcome ≠ .rejected) (t : Session) (w : ρ) :
      (finish audience outcome t w).1 ≠ .ok .rejected := by
    rcases finish_answer audience outcome t w with answer | ⟨fault, -, answer⟩
    · simpa [answer] using started
    · simp [answer]
  have failed (why : Option Failure) (message : String) :
      (finishFailed audience why message s watch).1 ≠ .ok .rejected := by
    cases legal : s.status.mayBecome .fail
    · simp [finishFailed_illegal legal]
    · rw [finishFailed_legal legal]
      exact ended _ (by decide) _ _
  cases ending with
  | broken fault => simp [resolve]
  | cancelled =>
    rw [resolve_cancelled]
    exact ended _ (by decide) _ _
  | failure => exact failed _ _
  | success =>
    rw [resolve_success]
    split
    · split
      · exact ended _ (by decide) _ _
      · simp
    · exact failed _ _

/-- Requests to run that are rejected. -/
theorem run_rejected_iff {s : Session} {program : Option Program} {watch : ρ} :
    (s.run audience program watch).1 = .ok .rejected ↔
      s.running = true ∨ s.level? = none ∨ program.getD s.program = [] := by
  rw [← levelFor_eq_error]
  constructor
  · intro rejected
    cases granted : s.levelFor (program.getD s.program) with
    | error why => exact ⟨why, rfl⟩
    | ok level =>
      exfalso
      by_cases status : s.status = .running
      · simp [run_illegal granted status] at rejected
      · rw [run_started granted status] at rejected
        exact resolve_ne_rejected audience _ _ _ _ _ rejected
  · rintro ⟨why, refused⟩
    rw [run_rejected refused]

end Runs

/-! ## Nothing changes -/

/-- Refusing changes nothing. A session that refuses a call stays as it is and remarks on nothing, and a run in progress
goes on from where it was. A session that rejects a run stays as it is, and nothing but a remark is printed: nobody is
told, and nobody is waited for. Runs are rejected during a run, without a level and without a program. -/
theorem refused_unchanged (s : Session) :
    (∀ c : Call, c.refusedBy (c.answer s).1 = true → (c.answer s).2 = (s, []) ∧
      ∀ {ρ : Type} (st : Stage (Desk × ρ)), ofStage st = s →
        visit (fun t watch => (none, (c.answer t).2.1, watch)) st = (none, st)) ∧
      ∀ {ρ : Type} (audience : Audience ρ) (program : Option Program) (watch : ρ),
        ((s.run audience program watch).1 = .ok .rejected ↔
          s.running = true ∨ s.level? = none ∨ program.getD s.program = []) ∧
        ((s.run audience program watch).1 = .ok .rejected → ∃ why : Rejection,
          (s.run audience program watch).2 =
            (s, audience.print ⟨.outcome .rejected, why.message, []⟩ watch)) := by
  constructor
  · intro c refused
    refine ⟨Call.answer_of_refused refused, fun st there => ?_⟩
    subst there
    exact visit_of_refused refused
  · intro ρ audience program watch
    refine ⟨run_rejected_iff audience, fun rejected => ?_⟩
    obtain ⟨why, refused⟩ := levelFor_eq_error.mpr ((run_rejected_iff audience).mp rejected)
    rw [run_rejected refused]
    exact ⟨why, rfl⟩

/-- A session whose program, a loop over four steps, has as many blocks as its level allows. -/
def brimful : Session :=
  { ready with program := [.ofLoop (some 2) (List.replicate 4 (.ofCommand (some Command.light.name))) "loop"] }

theorem refused_unchanged_brimful :
    ((Call.add (.ok (.ofCommand none)) (some (some "loop"))).answer brimful).2 = (brimful, []) ∧
      ((Call.remove (some "door")).answer brimful).2 = (brimful, []) ∧
      (brimful.run (callers (fun _ => [.next]) (fun _ => [.cancel])) (some []) []).2 = (brimful, []) := by
  obtain ⟨calls, runs⟩ := refused_unchanged brimful
  have rejected := runs (callers (fun _ => [.next]) (fun _ => [.cancel])) (some []) []
  obtain ⟨why, same⟩ := rejected.2 (rejected.1.mpr (.inr (.inr rfl)))
  exact ⟨(calls _ (by decide +kernel)).1, (calls _ (by decide +kernel)).1, same⟩

end Session

end Lamplighter
