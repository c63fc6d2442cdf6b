/-
Lamplighter.Proofs.Run.Stage — what a crew does on a stage, as equations.

* `Surroundings.tell_cons`, `Surroundings.tell_worded` — listeners are told one after the other, and all of them if all
  that they complain of has a text.
* `Setup.narrate_fault`, `Setup.narrate_abreast`, `Setup.narrate_keeps_each` — when telling deeds breaks off, what it
  does to two stages side by side, and what it keeps of one.
* `Setup.begin`, `Setup.told`, `Setup.telling`, `Setup.carryOut_eq` — a command in three parts: what it changes, what is
  remarked on it, and the event that tells of it.
-/
import Lamplighter.Proofs.Run.Walk
import Lamplighter.Run.Stage

namespace Lamplighter

variable {σ τ : Type}

/-- There are words for a fault. -/
def Fault.Worded (fault : Fault) : Prop := ∃ text, fault.wording = .ok text

namespace Surroundings

variable (around : Surroundings σ) (e : Event)

/-- What becomes of a stage when one listener has been told: one that raises is remarked on, if there are words for
it. -/
def hearing (l : Listener σ) (m : Stage σ) : Option Fault × Stage σ :=
  match l e m with
  | (none, m) => (none, m)
  | (some fault, m) =>
    match fault.wording with
    | .ok text => (none, around.say (complaintRemark text) m)
    | .error met => (some met, m)

@[simp] theorem tell_nil (m : Stage σ) : around.tell e [] m = (none, m) := rfl

/-- Listeners are told one after the other, until the telling breaks off. -/
theorem tell_cons (l : Listener σ) (ls : List (Listener σ)) (m : Stage σ) :
    around.tell e (l :: ls) m =
      match around.hearing e l m with
      | (none, m) => around.tell e ls m
      | (some met, m) => (some met, m) := by
  simp only [tell, hearing]
  rcases l e m with ⟨_ | fault, m'⟩
  · rfl
  · dsimp only
    cases fault.wording <;> rfl

/-- A listener that raises nothing is remarked on by nobody. -/
theorem hearing_quiet {l : Listener σ} {m : Stage σ} (quiet : (l e m).1 = none) :
    around.hearing e l m = (none, (l e m).2) := by
  unfold hearing
  generalize l e m = came at quiet ⊢
  obtain ⟨fault, m⟩ := came
  obtain rfl : fault = none := quiet
  rfl

/-- One listener keeps a property of the stage, whether or not there are words for what it raises. -/
theorem hearing_keeps {I : Stage σ → Prop} (say : ∀ r m, I m → I (around.say r m)) {l : Listener σ} {m : Stage σ}
    (told : I (l e m).2) : I (around.hearing e l m).2 := by
  unfold hearing
  generalize l e m = came at told ⊢
  obtain ⟨_ | fault, m'⟩ := came
  · exact told
  · dsimp only
    cases fault.wording with
    | ok text => exact say _ _ told
    | error met => exact told

/-- Being told of an event keeps a property of the stage that every listener and every remark keeps. -/
theorem tell_keeps {I : Stage σ → Prop} (say : ∀ r m, I m → I (around.say r m)) {ls : List (Listener σ)}
    (told : ∀ l ∈ ls, ∀ m, I m → I (l e m).2) {m : Stage σ} (hm : I m) : I (around.tell e ls m).2 := by
  induction ls generalizing m with
  | nil => exact hm
  | cons l rest ih =>
    have kept := around.hearing_keeps e say (told l List.mem_cons_self m hm)
    rw [tell_cons]
    generalize around.hearing e l m = heard at kept ⊢
    obtain ⟨_ | met, m'⟩ := heard
    · exact ih (fun l hl => told l (List.mem_cons_of_mem _ hl)) kept
    · exact kept

/-- Listeners all of whose complaints have a text. -/
def Spoken (around : Surroundings σ) : Prop :=
  ∀ l ∈ around.listeners, ∀ e m fault, (l e m).1 = some fault → fault.Worded

variable {around e}

theorem hearing_worded {l : Listener σ} {m : Stage σ} (worded : ∀ fault, (l e m).1 = some fault → fault.Worded) :
    (around.hearing e l m).1 = none := by
  unfold hearing
  rcases h : l e m with ⟨_ | fault, m'⟩
  · rfl
  · obtain ⟨text, wording⟩ := worded fault (by rw [h])
    simp only [wording]

/-- Listeners all of whose complaints have a text are all told of an event. -/
theorem tell_worded {ls : List (Listener σ)}
    (worded : ∀ l ∈ ls, ∀ m fault, (l e m).1 = some fault → fault.Worded) (m : Stage σ) :
    (around.tell e ls m).1 = none := by
  induction ls generalizing m with
  | nil => rfl
  | cons l rest ih =>
    have heard := around.hearing_worded (worded l List.mem_cons_self m)
    rw [tell_cons]
    generalize around.hearing e l m = came at heard ⊢
    obtain ⟨_ | met, m'⟩ := came
    · exact ih (fun l hl => worded l (List.mem_cons_of_mem _ hl)) m'
    · cases heard

theorem Spoken.tell (spoken : around.Spoken) (m : Stage σ) : (around.tell e around.listeners m).1 = none :=
  tell_worded (fun l hl => spoken l hl e) m

theorem Spoken.emit (spoken : around.Spoken) (kind : EventKind) (path : Path) (b : Block) (success : Option Bool)
    (m : Stage σ) : (around.emit kind path b success m).1 = none := spoken.tell m

end Surroundings

/-- How an act ends that tells of a command last: as the command, unless the telling has broken off. -/
def Ending.told (ok : Bool) : Option Fault → Ending
  | some fault => .broken fault
  | none => if ok then .success else .failure

@[simp] theorem Ending.told_eq_success {ok : Bool} {met : Option Fault} :
    Ending.told ok met = .success ↔ ok = true ∧ met = none := by
  cases met with
  | none => cases ok <;> simp [Ending.told]
  | some fault => simp [Ending.told]

/-- What a telling leaves: no command is active any more, unless it has broken off. -/
def Stage.parted : Option Fault × Stage σ → Stage σ
  | (none, m) => { m with active := none }
  | (some _, m) => m

section Parted

variable (told : Option Fault × Stage σ)

@[simp] theorem Stage.parted_attempt : (parted told).attempt = told.2.attempt := by
  rcases told with ⟨_ | _, _⟩ <;> rfl

@[simp] theorem Stage.parted_cancelled : (parted told).cancelled = told.2.cancelled := by
  rcases told with ⟨_ | _, _⟩ <;> rfl

@[simp] theorem Stage.parted_path : (parted told).path = told.2.path := by
  rcases told with ⟨_ | _, _⟩ <;> rfl

@[simp] theorem Stage.parted_failure : (parted told).failure = told.2.failure := by
  rcases told with ⟨_ | _, _⟩ <;> rfl

@[simp] theorem Stage.parted_world : (parted told).world = told.2.world := by
  rcases told with ⟨_ | _, _⟩ <;> rfl

end Parted

namespace Setup

variable (setup : Setup)

/-- The report of a command on a stage. -/
def report (name : String) (m : Stage σ) : Report := m.attempt.execute setup.board setup.rules name

/-- A stage on which a command has been carried out, and nobody has been told. -/
def begin (name : String) (m : Stage σ) : Stage σ :=
  { m with
    attempt := (setup.report name m).attempt
    active := some name
    failure := (setup.report name m).refusal <|> m.failure }

/-- Whether all that a command does can be told. -/
def isTellable (name : String) (m : Stage σ) : Bool := (setup.report name m).deeds.all Deed.isTellable

/-- A stage on which a command has been carried out, and remarked on as far as it can be told. -/
def told (around : Surroundings σ) (name : String) (m : Stage σ) : Stage σ :=
  (setup.narrate around (setup.report name m).deeds (setup.begin name m)).2

/-- What becomes of the listeners and the stage when they are told of a command that has been carried out. -/
def telling (around : Surroundings σ) (path : Path) (b : Block) (name : String) (m : Stage σ) :
    Option Fault × Stage σ :=
  around.emit .commandFinished path b (some (setup.report name m).ok) (setup.told around name m)

/-- Telling deeds breaks off at one that cannot be told, whoever is there to hear of it. -/
theorem narrate_fault (around : Surroundings σ) (deeds : List Deed) (m : Stage σ) :
    (setup.narrate around deeds m).1 = if deeds.all Deed.isTellable then none else some .untellable := by
  induction deeds generalizing m with
  | nil => rfl
  | cons deed rest ih =>
    unfold narrate
    cases tellable : deed.isTellable with
    | true => simp [tellable, ih]
    | false => simp [tellable]

/-- Stages that belong together still do after deeds have been told, if they do after each of them is remarked on. -/
theorem narrate_abreast {S : Stage σ → Stage τ → Prop} {around : Surroundings σ} {around' : Surroundings τ}
    {deeds : List Deed}
    (say : ∀ deed ∈ deeds, ∀ m n, S m n →
      S (around.say (remark m.path deed) m) (around'.say (remark n.path deed) n))
    {m : Stage σ} {n : Stage τ} (together : S m n) :
    S (setup.narrate around deeds m).2 (setup.narrate around' deeds n).2 := by
  induction deeds generalizing m n with
  | nil => exact together
  | cons deed rest ih =>
    unfold narrate
    split
    · apply ih (fun deed later => say deed (List.mem_cons_of_mem _ later))
      split
      · exact say deed List.mem_cons_self m n together
      · exact together
    · exact together

/-- Stages that belong together still do after deeds have been told, if they are at one address and still belong
together after any remark. -/
theorem narrate_together {S : Stage σ → Stage τ → Prop} {around : Surroundings σ} {around' : Surroundings τ}
    (path : ∀ m n, S m n → n.path = m.path)
    (say : ∀ r m n, S m n → S (around.say r m) (around'.say r n)) (deeds : List Deed) {m : Stage σ}
    {n : Stage τ} (together : S m n) :
    S (setup.narrate around deeds m).2 (setup.narrate around' deeds n).2 := by
  refine setup.narrate_abreast (fun deed _ m n together => ?_) together
  rw [path m n together]
  exact say _ m n together

/-- A stage keeps a property while deeds are told, if it does after each of them is remarked on. -/
theorem narrate_keeps_each {I : Stage σ → Prop} {around : Surroundings σ} {deeds : List Deed}
    (say : ∀ deed ∈ deeds, ∀ m, I m → I (around.say (remark m.path deed) m)) {m : Stage σ} (hm : I m) :
    I (setup.narrate around deeds m).2 := by
  have say_beside : ∀ deed ∈ deeds, ∀ m n, n = m ∧ I m →
      around.say (remark n.path deed) n = around.say (remark m.path deed) m ∧
        I (around.say (remark m.path deed) m) := by
    rintro deed there m _ ⟨rfl, hm⟩
    exact ⟨rfl, say deed there _ hm⟩
  exact (setup.narrate_abreast (S := fun m n => n = m ∧ I m) say_beside ⟨rfl, hm⟩).2

/-- A stage keeps a property while deeds are told, if it does after any remark. -/
theorem narrate_keeps {I : Stage σ → Prop} {around : Surroundings σ}
    (say : ∀ r m, I m → I (around.say r m)) (deeds : List Deed) {m : Stage σ} (hm : I m) :
    I (setup.narrate around deeds m).2 :=
  setup.narrate_keeps_each (fun _ _ m hm => say _ m hm) hm

/-- A stage keeps a property when a loop is noted that asks for too many rounds, if it does after any remark. -/
theorem clamp_keeps (around : Surroundings σ) {I : Stage σ → Prop} (say : ∀ r m, I m → I (around.say r m))
    {path : Path} {asked : Int} {m : Stage σ} (hm : I m) : I (setup.clamp around path asked m).2 := by
  unfold clamp
  split
  · exact say _ m hm
  · exact hm

theorem perform_eq (around : Surroundings σ) (path : Path) (b : Block) (name : String) (m : Stage σ) :
    setup.perform around path b name m =
      if setup.isTellable name m then
        ((setup.telling around path b name m).1.elim (.ok (setup.report name m).ok) .error,
          Stage.parted (setup.telling around path b name m))
      else (.error .untellable, setup.told around name m) := by
  have narrated : setup.narrate around (setup.report name m).deeds (setup.begin name m) =
      (if setup.isTellable name m then none else some .untellable, setup.told around name m) :=
    Prod.ext (setup.narrate_fault around _ _) rfl
  simp only [begin, report] at narrated
  simp only [perform, command, report]
  rw [narrated]
  cases setup.isTellable name m with
  | true =>
    simp only [if_true, telling, report]
    rcases around.emit .commandFinished path b _ (setup.told around name m) with ⟨_ | fault, m'⟩ <;> rfl
  | false => rfl

/-- A command that cannot be told breaks off. Any other ends as reported, if listeners can be told. -/
theorem carryOut_eq (around : Surroundings σ) (path : Path) (b : Block) (name : String) (m : Stage σ) :
    (setup.crew around).carryOut path b name m =
      if setup.isTellable name m then
        (Ending.told (setup.report name m).ok (setup.telling around path b name m).1,
          Stage.parted (setup.telling around path b name m))
      else (.broken .untellable, setup.told around name m) := by
  have performed : (setup.crew around).perform path b name m = setup.perform around path b name m := rfl
  rw [Crew.carryOut, performed, perform_eq]
  cases setup.isTellable name m with
  | true =>
    simp only [if_true]
    rcases setup.telling around path b name m with ⟨_ | fault, m'⟩
    · cases (setup.report name m).ok <;> rfl
    · rfl
  | false => rfl

end Setup

end Lamplighter
