/-
Lamplighter.Proofs.Session.Calls — what a call can do to a session.

* `Call.Effect` — the five kinds of effect that a call can have, with what each of them needs.
* `Call.effect_answer` — every call has one of them. What calls keep is shown effect by effect, and no
  later proof looks into an operation of the session.
-/
import Lamplighter.Proofs.Program
import Lamplighter.Session.Script

namespace Lamplighter

namespace Session

/-! ## Fields that operations leave alone -/

section Fields

variable (s : Session) (level : Level)

@[simp] theorem resetAttempt_levelId : (s.resetAttempt level).levelId = s.levelId := rfl
@[simp] theorem resetAttempt_status : (s.resetAttempt level).status = s.status := rfl
@[simp] theorem resetAttempt_running : (s.resetAttempt level).running = s.running := rfl
@[simp] theorem resetAttempt_cancelled : (s.resetAttempt level).cancelled = s.cancelled := rfl
@[simp] theorem resetAttempt_robot : (s.resetAttempt level).robot = some level.start := rfl

@[simp] theorem cancel_toDesk : s.cancel.toDesk = s.toDesk := by
  unfold cancel
  split <;> rfl

theorem cancel_of_running (h : s.running = true) : s.cancel = { s with cancelled := true } := by
  simp [cancel, h]

theorem cancel_of_not_running (h : s.running = false) : s.cancel = s := by
  simp [cancel, h]

end Fields

/-! ## What operations come to -/

/-- Every status may become idle. -/
theorem setStatus_idle (s : Session) : s.setStatus .idle = .ok { s with status := .idle } := by
  unfold setStatus
  cases s.status <;> rfl

/-- Without a level there is nothing to give up. -/
theorem resetToStart_of_absent {s : Session} (absent : s.level? = none) : s.resetToStart = (none, s) := by
  simp only [resetToStart, absent]

/-- With a level loaded, giving up the attempt puts all back but the program. -/
theorem resetToStart_of_loaded {s : Session} {level : Level} (loaded : s.level? = some level) :
    s.resetToStart = (none, { s.cancel with status := .idle }.resetAttempt level) := by
  simp only [resetToStart, loaded, setStatus_idle]

/-- Giving up the attempt never breaks off. -/
theorem resetToStart_eq (s : Session) : s.resetToStart = (none, s.resetToStart.2) := by
  cases loaded : s.level? with
  | none => rw [resetToStart_of_absent loaded]
  | some level => rw [resetToStart_of_loaded loaded]

/-- A level is loaded outside runs if there is one with the id, and the session is left alone otherwise. -/
theorem load_cases (id : Int) (s : Session) :
    s.load id = (.ok false, s) ∨
      s.running = false ∧ ∃ level, s.house.catalogue.get? id = some level ∧
        s.load id = (.ok true,
          { s with levelId := some id, program := [], status := .idle }.resetAttempt level) := by
  unfold load
  cases running : s.running with
  | true => exact .inl rfl
  | false =>
    cases found : s.house.catalogue.get? id with
    | none => exact .inl rfl
    | some level => exact .inr ⟨rfl, level, rfl, by simp [setStatus_idle]⟩

/-- To ask for the next level is refused, or it is to load one. -/
theorem next_cases (s : Session) : s.next = (.ok false, s) ∨ ∃ id, s.next = s.load id := by
  unfold next
  cases s.levelId.bind s.house.catalogue.nextId? with
  | none => exact .inl rfl
  | some id => exact .inr ⟨id, rfl⟩

/-- There is room for a block only outside runs. -/
theorem resting_of_hasRoom {s : Session} (room : s.hasRoom = true) : s.running = false := by
  unfold hasRoom at room
  split at room
  · cases room
  · simp only [Bool.and_eq_true, Bool.not_eq_true'] at room
    exact room.1

/-- The loaded level depends on the catalogue and the id alone. -/
theorem level?_congr {s t : Session} (house : t.house = s.house) (id : t.levelId = s.levelId) :
    t.level? = s.level? := by
  simp [level?, house, id]

/-- Asking for a block is refused and leaves the session alone, or there is room for the block and the program is
changed. -/
theorem add_cases (wanted : Except Invalid Block) (parent : Option String) (s : Session) :
    ((∀ b, (s.add wanted parent).1 ≠ .ok (some b)) ∧ (s.add wanted parent).2 = s) ∨
      s.hasRoom = true ∧ ∃ b program, s.add wanted parent = (.ok (some b), { s with program }) := by
  unfold add
  split
  · rename_i room
    split
    · exact .inl ⟨fun b => by simp, rfl⟩
    · exact .inr ⟨room, _, _, rfl⟩
    · split
      · exact .inl ⟨fun b => by simp, rfl⟩
      · split
        · exact .inl ⟨fun b => by simp, rfl⟩
        · exact .inr ⟨room, _, _, rfl⟩
  · exact .inl ⟨fun b => by simp, rfl⟩

/-- During a run nothing is removed. -/
theorem remove_of_running {s : Session} (running : s.running = true) (id : String) :
    s.remove id = (false, s) := by
  simp only [remove, running, if_true]

/-- Outside runs a block is removed from the program if it is there. -/
theorem remove_of_resting {s : Session} (resting : s.running = false) (id : String) :
    s.remove id = ((Program.erase? id s.program).isSome,
      { s with program := (Program.erase? id s.program).getD s.program }) := by
  simp only [remove, resting, Bool.false_eq_true, if_false, Program.remove_eq]

namespace Call

/-! ## Kinds of call -/

/-- The calls that ask a run to stop. -/
def stops : Call → Bool
  | cancel | resetToStart => true
  | _ => false

/-- The answered calls after which a session with a level is idle. -/
def idles : Call → Answer → Bool
  | resetToStart, _ | load _, .yesNo true | next, .yesNo true => true
  | _, _ => false

/-! ## Effects -/

/-- What a call and its answer do to a session: change the program or the pause, load a level, ask the
run to stop, give up the attempt, or put the level back. A program is changed only outside runs. -/
inductive Effect (s : Session) (c : Call) (answer : Answer) : Session → Prop
  | edit (program : Program) (delay : Int) (kept : s.running = true → program = s.program)
      (unheard : c.stops = true → s.running = false ∨ s.level? = none)
      (still : c.idles answer = true → s.level? = none) :
      Effect s c answer { s with program, delay }
  | load (id : Int) (level : Level) (resting : s.running = false)
      (found : s.house.catalogue.get? id = some level) (told : c.idles answer = true) :
      Effect s c answer ({ s with levelId := some id, program := [], status := .idle }.resetAttempt level)
  | cancel (running : s.running = true) (still : c.idles answer = false) :
      Effect s c answer { s with cancelled := true }
  | reset (level : Level) (loaded : s.level? = some level) (told : c.idles answer = true) :
      Effect s c answer ({ s.cancel with status := .idle }.resetAttempt level)
  | reposition (level : Level) (loaded : s.level? = some level) (plain : c.stops = false)
      (still : c.idles answer = false) : Effect s c answer (s.resetAttempt level)

section

variable {s : Session} {c : Call} {answer : Answer}

theorem Effect.same (unheard : c.stops = true → s.running = false ∨ s.level? = none)
    (still : c.idles answer = true → s.level? = none) : Effect s c answer s :=
  Effect.edit s.program s.delay (fun _ => rfl) unheard still

/-- A call that asks for a level, by what it is told. -/
theorem effect_load (id : Int) (plain : c.stops = false) (refused : c.idles (.yesNo false) = false)
    (told : c.idles (.yesNo true) = true) :
    Effect s c (arrival (s.load id)).1 (arrival (s.load id)).2.1 := by
  rcases load_cases id s with e | ⟨resting, level, found, e⟩
  · simp only [e, arrival]
    exact Effect.same (fun h => by simp [plain] at h) (fun h => by simp [refused] at h)
  · simp only [e, arrival]
    exact Effect.load id level resting found told

theorem effect_addAt (wanted : Except Invalid Block) (parent : Option (Option String))
    (plain : c.stops = false) (still : ∀ a, c.idles a = false) :
    Effect s c (addition (addAt wanted s parent)).1 (addition (addAt wanted s parent)).2.1 := by
  have kept : (addition (addAt wanted s parent)).2.1 = (addAt wanted s parent).2 := by
    rcases addAt wanted s parent with ⟨_ | _, t⟩ <;> rfl
  have added : (addAt wanted s parent).2 = s ∨
      s.hasRoom = true ∧ ∃ program, (addAt wanted s parent).2 = { s with program } := by
    have inside (place : Option String) : (s.add wanted place).2 = s ∨
        s.hasRoom = true ∧ ∃ program, (s.add wanted place).2 = { s with program } := by
      rcases add_cases wanted place s with ⟨-, same⟩ | ⟨room, b, program, e⟩
      · exact .inl same
      · exact .inr ⟨room, program, by rw [e]⟩
    unfold addAt
    split
    · exact inside none
    · exact inside (some _)
    · split <;> exact .inl rfl
  rw [kept]
  rcases added with e | ⟨room, program, e⟩
  · rw [e]
    exact Effect.same (fun h => by simp [plain] at h) (fun h => by simp [still] at h)
  · rw [e]
    exact Effect.edit program s.delay (fun running => by simp [resting_of_hasRoom room] at running)
      (fun h => by simp [plain] at h) (fun h => by simp [still] at h)

theorem effect_remove (id : String) (plain : c.stops = false) (still : c.idles answer = false) :
    Effect s c answer (s.remove id).2 := by
  cases running : s.running with
  | true =>
    rw [remove_of_running running]
    exact Effect.same (fun h => by simp [plain] at h) (fun h => by simp [still] at h)
  | false =>
    rw [remove_of_resting running]
    exact Effect.edit _ s.delay (fun h => by simp [running] at h)
      (fun h => by simp [plain] at h) (fun h => by simp [still] at h)

theorem effect_setProgram (program : Program) (plain : c.stops = false) (still : c.idles answer = false) :
    Effect s c answer (s.setProgram program) := by
  unfold Session.setProgram
  split
  · exact Effect.same (fun h => by simp [plain] at h) (fun h => by simp [still] at h)
  · rename_i resting
    exact Effect.edit program s.delay (fun running => absurd running resting)
      (fun h => by simp [plain] at h) (fun h => by simp [still] at h)

end

/-- Every call has one of the effects. -/
theorem effect_answer (s : Session) (c : Call) : Effect s c (c.answer s).1 (c.answer s).2.1 := by
  cases c with
  | load id =>
    cases id with
    | none => exact Effect.same (fun h => by cases h) (fun h => by cases h)
    | some id => exact effect_load id rfl rfl rfl
  | next =>
    rcases s.next_cases with e | ⟨id, e⟩
    · simp only [answer, e, arrival]
      exact Effect.same (fun h => by cases h) (fun h => by cases h)
    · simp only [answer, e]
      exact effect_load id rfl rfl rfl
  | add wanted parent => exact effect_addAt wanted parent rfl (fun _ => rfl)
  | remove id =>
    cases id with
    | none => exact Effect.same (fun h => by cases h) (fun h => by cases h)
    | some id => exact effect_remove id rfl rfl
  | setProgram program => exact effect_setProgram program rfl rfl
  | clearProgram => exact effect_setProgram [] rfl rfl
  | setSpeed wanted =>
    cases wanted with
    | error why => exact Effect.same (fun h => by cases h) (fun h => by cases h)
    | ok delay =>
      exact Effect.edit s.program (max 0 delay) (fun _ => rfl) (fun h => by cases h) (fun h => by cases h)
  | cancel =>
    cases running : s.running with
    | true =>
      simp only [answer, s.cancel_of_running running]
      exact Effect.cancel running rfl
    | false =>
      simp only [answer, s.cancel_of_not_running running]
      exact Effect.same (fun _ => .inl running) (fun h => by cases h)
  | resetToStart =>
    cases loaded : s.level? with
    | none =>
      simp only [answer, resetToStart_of_absent loaded, change]
      exact Effect.same (fun _ => .inr loaded) (fun _ => loaded)
    | some level =>
      simp only [answer, resetToStart_of_loaded loaded, change]
      exact Effect.reset level loaded rfl
  | reposition =>
    simp only [answer, Session.reposition]
    split
    · exact Effect.same (fun h => by cases h) (fun h => by cases h)
    · rename_i level loaded
      exact Effect.reposition level loaded rfl rfl

end Call

end Session

end Lamplighter
