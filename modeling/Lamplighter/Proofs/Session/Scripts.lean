/-
Lamplighter.Proofs.Session.Scripts — two scripted runs side by side.

* `Thinned`, `Record.Alike` — records that note the same, but for steps that are left out of one.
* `Kinship` — sessions that are the same, or differ at most in their programs.
* `responses_agree` — cues from which only refused steps are left out are responded to in the same way.
* `run_beside`, `request_agree` — so runs under such cues are answered alike.
* `run_thinned` — steps that are refused during a run can be left out of it.
-/
import Lamplighter.Proofs.Session.Life
import Lamplighter.Proofs.Session.Steps

namespace Lamplighter

/-! ## Records side by side -/

section Records

variable {α ω ω' : Type}

/-- Two entries that note the same, of what belongs together (`K`). -/
inductive Entry.Alike (K : ω → ω' → Prop) : Entry α ω → Entry α ω' → Prop
  | line (text : String) : Alike K (.line text) (.line text)
  | event (e : Event) {s : ω} {t : ω'} (kin : K s t) : Alike K (.event e s) (.event e t)
  | pause (path : Path) {s : ω} {t : ω'} (kin : K s t) : Alike K (.pause path s) (.pause path t)
  | checkpoint (path : Path) {s : ω} {t : ω'} (kin : K s t) :
      Alike K (.checkpoint path s) (.checkpoint path t)
  | sleep (n : Int) {s : ω} {t : ω'} (kin : K s t) : Alike K (.sleep n s) (.sleep n t)
  | step (name : String) (answer : α) (lines : List String) {s : ω} {t : ω'} (kin : K s t) :
      Alike K (.step name answer lines s) (.step name answer lines t)

theorem Entry.Alike.moment {K : ω → ω' → Prop} {e : Entry α ω} {e' : Entry α ω'} (h : e.Alike K e') :
    e'.moment = e.moment := by
  cases h <;> rfl

theorem Entry.alike_refl {K : ω → ω → Prop} (same : ∀ s, K s s) (e : Entry α ω) : e.Alike K e := by
  cases e with
  | line text => exact .line text
  | event e s => exact .event e (same s)
  | pause path s => exact .pause path (same s)
  | checkpoint path s => exact .checkpoint path (same s)
  | sleep n s => exact .sleep n (same s)
  | step name answer lines s => exact .step name answer lines (same s)

theorem Entry.Alike.eq {e e' : Entry α ω} (h : e.Alike Eq e') : e = e' := by
  cases h with
  | line => rfl
  | event e kin | pause path kin | checkpoint path kin | sleep n kin | step name answer lines kin => rw [kin]

/-- Two records that note the same, of what belongs together (`K`), but for steps that are left out of one. -/
structure Record.Alike (dropped : Entry α ω → Prop) (K : ω → ω' → Prop) (r : Record α ω) (r' : Record α ω') :
    Prop where
  entries : Thinned dropped (Entry.Alike K) r.entries r'.entries
  counts : ∀ m, m ≠ .step → r'.tally.count m = r.tally.count m
  pending : r'.pending = r.pending

theorem Record.count_flush (r : Record α ω) (m : Moment) :
    r.flush.tally.count m = r.tally.count m + if m = .line then r.pending.length else 0 := by
  have lines : ∀ (lines : List String) (r : Record α ω),
      (lines.foldr (fun text r => r.put (.line text)) r).tally.count m =
        r.tally.count m + if m = .line then lines.length else 0 := by
    intro lines r
    induction lines with
    | nil => simp
    | cons text rest ih =>
      rw [List.foldr_cons, Record.put, Tally.count_bump, ih]
      by_cases h : m = .line <;> simp [Entry.moment, h, Nat.add_assoc]
  exact lines r.pending r.quiet

theorem Record.count_note (e : Entry α ω) (r : Record α ω) (m : Moment) :
    (r.note e).tally.count m =
      r.tally.count m + (if m = .line then r.pending.length else 0) + if m = e.moment then 1 else 0 := by
  rw [Record.note, Record.put, Tally.count_bump, Record.count_flush]

theorem Record.pending_note (e : Entry α ω) (r : Record α ω) : (r.note e).pending = [] := r.pending_flush

namespace Record.Alike

variable {dropped : Entry α ω → Prop} {K : ω → ω' → Prop} {r : Record α ω} {r' : Record α ω'}

theorem print (h : r.Alike dropped K r') (lines : List String) :
    Alike dropped K { r with pending := lines ++ r.pending } { r' with pending := lines ++ r'.pending } where
  entries := h.entries
  counts := h.counts
  pending := by rw [h.pending]

theorem say (h : r.Alike dropped K r') (console : Console) (remark : Remark) :
    (r.say console remark).Alike dropped K (r'.say console remark) := h.print _

theorem remarks (h : r.Alike dropped K r') (console : Console) (remarks : List Remark) :
    (remarks.foldl (fun r remark => r.say console remark) r).Alike dropped K
      (remarks.foldl (fun r remark => r.say console remark) r') := by
  induction remarks generalizing r r' with
  | nil => exact h
  | cons remark rest ih => exact ih (h.say console remark)

theorem quiet (h : r.Alike dropped K r') : r.quiet.Alike dropped K r'.quiet where
  entries := h.entries
  counts := h.counts
  pending := rfl

theorem note (h : r.Alike dropped K r') {e : Entry α ω} {e' : Entry α ω'} (same : e.Alike K e') :
    (r.note e).Alike dropped K (r'.note e') where
  entries := by
    have lines : Thinned dropped (Entry.Alike K) (r.pending.map .line) (r.pending.map .line) := by
      induction r.pending with
      | nil => exact .nil
      | cons text rest ih => exact .keep (.line text) ih
    rw [entries_note, entries_note, h.pending]
    exact .keep same (lines.append h.entries)
  counts m hm := by rw [count_note, count_note, h.counts m hm, h.pending, same.moment]
  pending := by rw [pending_note, pending_note]

/-- A step is noted in one record and left out of the other. -/
theorem drop (h : r.Alike dropped K r') (nothing : r.pending = []) {e : Entry α ω} (out : dropped e)
    (step : e.moment = .step) (lines : List String) :
    ({ r with pending := lines }.quiet.note e).Alike dropped K r' where
  entries := by
    rw [entries_note]
    exact .drop out h.entries
  counts m hm := by
    rw [count_note, step, if_neg hm, h.counts m hm]
    simp [Record.quiet]
  pending := by rw [pending_note, h.pending, nothing]

end Record.Alike

end Records

/-- Whether a moment is one in the midst of a run. -/
def Moment.midrun (m : Moment) : Bool := m != .event .runFinished

namespace Session

/-! ## Sessions that belong together -/

/-- Sessions belong together if they are the same, or if they differ at most in their programs. -/
def Kinship (K : Session → Session → Prop) : Prop := K = Eq ∨ K = Alike

namespace Kinship

variable {K : Session → Session → Prop} {s t : Session}

theorem alike (kin : Kinship K) (h : K s t) : s.Alike t := by
  rcases kin with rfl | rfl
  · subst h
    rfl
  · exact h

/-- What goes on in a session without a look at its program goes on in both. -/
theorem lift (kin : Kinship K) {f : Session → Session} (blind : ∀ q, (f s).Alike (f { s with program := q }))
    (h : K s t) : K (f s) (f t) := by
  rcases kin with rfl | rfl
  · rw [h]
  · obtain ⟨q, rfl⟩ : ∃ q, t = { s with program := q } := ⟨_, h⟩
    exact blind q

/-- What is answered without a look at the program is answered in both. -/
theorem answers (kin : Kinship K) {β γ : Type} {f : Session → β × Session × γ}
    (blind : K = Eq ∨ ∀ q, AnswersAlike (f s) (f { s with program := q })) (h : K s t) :
    (f t).1 = (f s).1 ∧ K (f s).2.1 (f t).2.1 ∧ (f t).2.2 = (f s).2.2 := by
  rcases blind with rfl | blind
  · rw [h]
    exact ⟨rfl, rfl, rfl⟩
  · rcases kin with rfl | rfl
    · rw [h]
      exact ⟨rfl, rfl, rfl⟩
    · obtain ⟨q, rfl⟩ : ∃ q, t = { s with program := q } := ⟨_, h⟩
      exact blind q

end Kinship

/-! ## Scripts side by side -/

section Scripts

variable (W : Step → Prop) (booth : Booth) (K : Session → Session → Prop)

/-- A step that is left out of one of two scripts (`W`), as it is noted when it is taken: it is refused. -/
def Refused (e : Entry Answer Session) : Prop :=
  ∃ step s, W step ∧ s.running = true ∧
    e = .step step.name step.refusal (step.protest booth.console) s

/-- What two scripts come to: the same, with sessions that belong together, and records that do but for steps
that are left out. In the midst of a run, the run is in progress. -/
structure Together (midrun : Bool) {β : Type} (a b : β × Session × Notes) : Prop where
  same : b.1 = a.1
  sessions : K a.2.1 b.2.1
  records : a.2.2.Alike (Refused W booth) K b.2.2
  running : midrun = true → a.2.1.running = true

/-- Sessions and records of two scripts that belong together. -/
abbrev Beside (midrun : Bool) (s : Session) (r : Notes) (t : Session) (r' : Notes) : Prop :=
  Together W booth K midrun ((), s, r) ((), t, r')

/-- Two responses that do the same. -/
def ResponsesAgree (response response' : Response Answer Session) : Prop :=
  ∀ m n s r t r', r.pending = [] → Beside W booth K m.midrun s r t r' →
    Together W booth K m.midrun (response m n s r) (response' m n t r')

variable {W booth K} {response response' : Response Answer Session} {s t : Session} {r r' : Notes}

/-- Outside of runs there is nothing more to what scripts come to. -/
theorem Together.outside {β : Type} {a b : β × Session × Notes} (same : b.1 = a.1)
    (sessions : K a.2.1 b.2.1) (records : a.2.2.Alike (Refused W booth) K b.2.2) :
    Together W booth K false a b :=
  ⟨same, sessions, records, fun midst => by cases midst⟩

theorem noting_agree (agree : ResponsesAgree W booth K response response') {e e' : Entry Answer Session}
    (same : e.Alike K e') (noted : e.moment ≠ .step) (beside : Beside W booth K e.moment.midrun s r t r') :
    Together W booth K e.moment.midrun (response.noting e s r) (response'.noting e' t r') := by
  have records := beside.records.note same
  unfold Response.noting
  dsimp only
  rw [same.moment, records.counts _ noted]
  exact agree _ _ _ _ _ _ (r.pending_note e) ⟨rfl, beside.sessions, records, beside.running⟩

/-- In the midst of a run, audiences that respond in the same way act alike. -/
theorem audience_agree (kin : Kinship K) (agree : ResponsesAgree W booth K response response') :
    (audience booth response).Agree (Beside W booth K true) (fun _ => True) (audience booth response') where
  alike s r t r' beside := kin.alike beside.sessions
  during s r t r' a path active beside :=
    ⟨rfl, kin.lift (f := Session.during a path active) (fun q => rfl) beside.sessions, beside.records,
      beside.running⟩
  told := by
    have heard : ∀ (e : Event) s r t r', e.kind ≠ .runFinished → Beside W booth K true s r t r' →
        ActAlike (Beside W booth K true) (response.noting (.event e s) s r)
          (response'.noting (.event e t) t r') := by
      intro e s r t r' midrun beside
      have midst : (Entry.event e s : Entry Answer Session).moment.midrun = true := by
        simpa [Entry.moment, Moment.midrun] using midrun
      have done := noting_agree agree (.event e beside.sessions) (by simp [Entry.moment]) (midst ▸ beside)
      rw [midst] at done
      exact ⟨done.same, rfl, done.sessions, done.records, done.running⟩
    unfold audience
    dsimp only
    split
    · exact .keep heard .nil
    · exact .nil
  slept length s r t r' beside := by
    unfold audience
    dsimp only
    split
    · rename_i n _
      have done := noting_agree agree (.sleep n beside.sessions) (by simp [Entry.moment]) beside
      exact ⟨done.same, rfl, done.sessions, done.records, done.running⟩
    · exact ⟨rfl, rfl, beside.sessions, beside.records, beside.running⟩
  printed remark s r t r' beside := ⟨rfl, beside.sessions, beside.records.say _ _, beside.running⟩
  raised _ _ _ _ _ _ _ _ := trivial
  breaks _ _ := trivial

/-- So they do when they are told of the end of a run. -/
theorem audience_agreeAfter (kin : Kinship K) (agree : ResponsesAgree W booth K response response') :
    AgreeAfter (Beside W booth K false) (audience booth response) (audience booth response') where
  alike s r t r' beside := kin.alike beside.sessions
  ended s r t r' status failure beside :=
    .outside rfl (kin.lift (f := fun s => { s with status, failure }) (fun q => rfl) beside.sessions)
      beside.records
  reset s r t r' beside :=
    .outside rfl (kin.lift (f := fun s => s.resetToStart.2) (alike_resetToStart s) beside.sessions) beside.records
  told := by
    have heard : ∀ (e : Event) s r t r', e.kind = .runFinished → Beside W booth K false s r t r' →
        ActAlike (Beside W booth K false) (response.noting (.event e s) s r)
          (response'.noting (.event e t) t r') := by
      intro e s r t r' ended beside
      have later : (Entry.event e s : Entry Answer Session).moment.midrun = false := by
        simp [Entry.moment, Moment.midrun, ended]
      have done := noting_agree agree (.event e beside.sessions) (by simp [Entry.moment]) (later ▸ beside)
      rw [later] at done
      exact ⟨done.same, .outside rfl done.sessions done.records⟩
    unfold audience
    dsimp only
    split
    · exact .keep heard .nil
    · exact .nil
  printed remark s r t r' beside := .outside rfl beside.sessions (beside.records.say _ _)

/-- A run that has started is answered alike, with whatever program the sessions hold. -/
theorem run_beside (kin : Kinship K) (agree : ResponsesAgree W booth K response response') {level : Level}
    {p q : Option Program} (request : s.levelFor (p.getD s.program) = .ok level)
    (request' : t.levelFor (q.getD t.program) = .ok level) (program : q.getD t.program = p.getD s.program)
    (resting : s.status ≠ .running) (resting' : t.status ≠ .running)
    (started : K (s.started level) (t.started level)) (records : r.Alike (Refused W booth) K r') :
    Together W booth K false (s.run (audience booth response) p r) (t.run (audience booth response') q r') := by
  have settled : ∀ s r t r', Beside W booth K true s r t r' → Beside W booth K false s.settle r t.settle r' := by
    intro s r t r' beside
    exact .outside rfl (kin.lift (f := Session.settle) (fun q => rfl) beside.sessions) beside.records
  have done := run_agree (audience_agree kin agree) (audience_agreeAfter kin agree) settled request request'
    program resting resting' ⟨rfl, started, records, fun _ => rfl⟩
  exact .outside done.1 done.2.sessions done.2.records

/-- A request to run is answered alike, if it does not ask for the program of the session. -/
theorem request_agree (kin : Kinship K) (agree : ResponsesAgree W booth K response response')
    {p : Option Program} (blind : K = Eq ∨ p ≠ none) (sessions : K s t)
    (records : r.Alike (Refused W booth) K r') :
    Together W booth K false (s.run (audience booth response) p r) (t.run (audience booth response') p r') := by
  have alike := kin.alike sessions
  have status : t.status = s.status := congrArg (fun s => s.status) alike
  have program : p.getD t.program = p.getD s.program := by
    rcases blind with rfl | given
    · rw [sessions]
    · obtain ⟨program, rfl⟩ := Option.ne_none_iff_exists'.mp given
      rfl
  have request : ∀ program, t.levelFor program = s.levelFor program := by
    intro program
    rw [alike]
    rfl
  cases granted : s.levelFor (p.getD s.program) with
  | error why =>
    have granted' : t.levelFor (p.getD t.program) = .error why := by rw [program, request, granted]
    rw [run_rejected granted, run_rejected granted']
    exact .outside rfl sessions (records.say _ _)
  | ok level =>
    have granted' : t.levelFor (p.getD t.program) = .ok level := by rw [program, request, granted]
    by_cases running : s.status = .running
    · rw [run_illegal granted running, run_illegal granted' (status.trans running)]
      exact .outside rfl (kin.lift (f := Session.prepare level) (fun q => rfl) sessions) records
    · have started : K (s.started level) (t.started level) :=
        kin.lift (f := Session.started level) (fun q => rfl) sessions
      exact run_beside kin agree granted granted' program running (by rwa [status]) started records

/-- A step is taken alike. In the midst of a run, requests are refused. -/
theorem take_agree (kin : Kinship K) (agree : ResponsesAgree W booth K response response') {step : Step}
    {midrun : Bool} (blind : K = Eq ∨ step.reads midrun = false) (beside : Beside W booth K midrun s r t r') :
    Together W booth K midrun (take booth response step s r) (take booth response' step t r') := by
  have blind' : K = Eq ∨ step.reads s.running = false := by
    refine blind.imp_right (fun h => ?_)
    cases midrun with
    | true =>
      have running : s.running = true := beside.running rfl
      rwa [running]
    | false => exact Step.reads_mono h
  cases step with
  | call c =>
    have answers := kin.answers (f := c.answer) (blind'.imp_right fun h q => answer_agree c s q h)
      beside.sessions
    refine ⟨answers.1, answers.2.1, ?_, fun midst => running_answer (beside.running midst) c⟩
    have remarks := beside.records.remarks booth.console (c.answer s).2.2
    simp only [take]
    rw [answers.2.2]
    exact remarks
  | ask q =>
    have answers := kin.answers (f := fun s => (q.answer s, s, ()))
      (blind'.imp_right fun h p => ask_agree q s p h) beside.sessions
    exact ⟨answers.1, answers.2.1, beside.records, beside.running⟩
  | tamper x =>
    have answers := kin.answers (f := fun s => ((x.answer s).1, (x.answer s).2, ()))
      (.inr fun p => tamper_agree x s p) beside.sessions
    exact ⟨answers.1, answers.2.1, beside.records, fun midst => running_tamper (beside.running midst) x⟩
  | unreadable name invalid => exact ⟨rfl, beside.sessions, beside.records, beside.running⟩
  | raise text => exact ⟨rfl, beside.sessions, beside.records, beside.running⟩
  | run program =>
    cases midrun with
    | true =>
      have running : s.running = true := beside.running rfl
      have alike : s.Alike t := kin.alike beside.sessions
      have running' : t.running = true := by
        rw [alike]
        exact running
      rw [take_of_inert booth response rfl running, take_of_inert booth response' rfl running']
      exact ⟨rfl, beside.sessions, beside.records.print _, beside.running⟩
    | false =>
      have given : K = Eq ∨ program ≠ none := by
        refine blind.imp_right (fun h => ?_)
        rintro rfl
        cases h
      have done := request_agree kin agree given beside.sessions beside.records
      have same := done.same
      simp only [take]
      generalize s.run (audience booth response) program r = a at done same ⊢
      generalize t.run (audience booth response') program r' = b at done same ⊢
      obtain ⟨answer, s, r⟩ := a
      obtain ⟨answer', t, r'⟩ := b
      obtain rfl : answer' = answer := same
      cases answer' with
      | ok outcome => exact .outside rfl done.sessions done.records
      | error fault => exact .outside rfl done.sessions done.records

theorem act_raised {step : Step} {rest : List Step} {complaint : Complaint}
    (h : (player booth).raised? step = some complaint) :
    (player booth).act response (step :: rest) s r = (some (.raised complaint), s, r) := by
  rw [Player.act, h]

theorem act_taken {step : Step} {rest : List Step} (h : (player booth).raised? step = none) :
    (player booth).act response (step :: rest) s r =
      let taken := (player booth).take response step s r
      (player booth).act response rest taken.2.1
        (taken.2.2.quiet.note (.step step.name taken.1 taken.2.2.lines taken.2.1)) := by
  rw [Player.act, h]
  rfl

/-- The steps of a script are taken alike, those that are left out apart. -/
theorem act_agree (kin : Kinship K) (agree : ResponsesAgree W booth K response response')
    (inert : ∀ step, W step → step.inert = true) {midrun : Bool} {steps steps' : List Step}
    (thin : Thinned (fun step => W step ∧ midrun = true) Eq steps steps')
    (blind : ∀ step ∈ steps, K = Eq ∨ step.reads midrun = false) (quiet : r.pending = [])
    (beside : Beside W booth K midrun s r t r') :
    Together W booth K midrun ((player booth).act response steps s r)
      ((player booth).act response' steps' t r') := by
  induction thin generalizing s r t r' with
  | nil => exact ⟨rfl, beside.sessions, beside.records, beside.running⟩
  | @keep step _ rest rest' same thin ih =>
    subst same
    have later := fun step h => blind step (List.mem_cons_of_mem _ h)
    cases raised : (player booth).raised? step with
    | some complaint =>
      rw [act_raised raised, act_raised raised]
      exact ⟨rfl, beside.sessions, beside.records, beside.running⟩
    | none =>
      have taken := take_agree kin agree (blind step List.mem_cons_self) beside
      have same : ((player booth).take response' step t r').1 = ((player booth).take response step s r).1 :=
        taken.same
      have lines : ((player booth).take response' step t r').2.2.lines =
          ((player booth).take response step s r).2.2.lines := congrArg List.reverse taken.records.pending
      rw [act_taken raised, act_taken raised]
      dsimp only
      rw [same, lines]
      have noted := taken.records.quiet.note
        (.step step.name ((player booth).take response step s r).1
          ((player booth).take response step s r).2.2.lines taken.sessions)
      exact ih later (Record.pending_note _ _) ⟨rfl, taken.sessions, noted, taken.running⟩
  | @drop step rest rest' out thin ih =>
    have later := fun step h => blind step (List.mem_cons_of_mem _ h)
    have refused := inert step out.1
    have running : s.running = true := beside.running out.2
    have silent : (player booth).raised? step = none := by
      cases step with
      | raise text => cases refused
      | call | ask | tamper | unreadable | run => rfl
    have taken : (player booth).take response step s r = _ := take_of_inert booth response refused running r
    rw [act_taken silent, taken]
    dsimp only
    have dropped := beside.records.drop quiet
      (e := .step step.name step.refusal (step.protest booth.console) s) ⟨step, s, out.1, running, rfl⟩ rfl
      ((step.protest booth.console).reverse ++ r.pending)
    have lines : ({ r with pending := (step.protest booth.console).reverse ++ r.pending } : Notes).lines =
        step.protest booth.console := by
      have quiet : r.pending = [] := quiet
      simp [Record.lines, quiet]
    rw [lines]
    exact ih later (Record.pending_note _ _) ⟨rfl, beside.sessions, dropped, beside.running⟩

end Scripts

/-! ## Cues side by side -/

/-- A cue, and the same cue with some steps left out (`W`), if it is in the midst of a run. -/
structure CueThinned (W : Step → Prop) (cue cue' : Cue Step) : Prop where
  moment : cue'.moment = cue.moment
  count : cue'.count = cue.count
  steps : Thinned (fun step => W step ∧ cue.moment.midrun = true) Eq cue.steps cue'.steps

/-- Cues with no step that depends on the program of the session. -/
def Blind (cues : List (Cue Step)) : Prop :=
  ∀ cue ∈ cues, ∀ step ∈ cue.steps, step.reads cue.moment.midrun = false

section Cues

variable {W : Step → Prop} {cues cues' : List (Cue Step)}

theorem mem_due {m : Moment} {n : Nat} {step : Step} (h : step ∈ Cue.due cues m n) :
    ∃ cue ∈ cues, cue.moment = m ∧ step ∈ cue.steps := by
  obtain ⟨cue, here, step⟩ := List.mem_flatMap.mp h
  obtain ⟨mem, due⟩ := List.mem_filter.mp here
  have due : cue.moment = m ∧ cue.count = n := by simpa using due
  exact ⟨cue, mem, due.1, step⟩

theorem due_thinned (thin : List.Forall₂ (CueThinned W) cues cues') (m : Moment) (n : Nat) :
    Thinned (fun step => W step ∧ m.midrun = true) Eq (Cue.due cues m n) (Cue.due cues' m n) := by
  induction thin with
  | nil => exact .nil
  | @cons cue cue' rest rest' first thin ih =>
    by_cases due : cue.moment = m ∧ cue.count = n
    · have due' : cue'.moment = m ∧ cue'.count = n := by rwa [first.moment, first.count]
      have here := first.steps
      rw [due.1] at here
      simpa [Cue.due, due, due'] using here.append ih
    · have due' : ¬(cue'.moment = m ∧ cue'.count = n) := by rwa [first.moment, first.count]
      simpa [Cue.due, due, due'] using ih

/-- Those who take the steps of two lists of cues respond in the same way. -/
theorem responses_agree (booth : Booth) {K : Session → Session → Prop} (kin : Kinship K)
    (inert : ∀ step, W step → step.inert = true) (thin : List.Forall₂ (CueThinned W) cues cues')
    (blind : K = Eq ∨ Blind cues) (depth : Nat) :
    ResponsesAgree W booth K ((player booth).response cues depth) ((player booth).response cues' depth) := by
  induction depth with
  | zero =>
    intro m n s r t r' _ beside
    exact ⟨rfl, beside.sessions, beside.records, beside.running⟩
  | succ depth ih =>
    intro m n s r t r' quiet beside
    refine act_agree kin ih inert (due_thinned thin m n) ?_ quiet beside
    intro step h
    refine blind.imp_right (fun blind => ?_)
    obtain ⟨cue, mem, rfl, step_mem⟩ := mem_due h
    exact blind cue mem step step_mem

end Cues

/-! ## Steps left out -/

/-- Steps that are refused during a run are inert. Leave some of them out of the cues in the midst of runs:
the answer to a request to run and the session that it leaves stay the same, and so does all that is noted
but for the steps that are left out. Each of them was refused, with a single line printed if it was a
request to run and none otherwise. -/
theorem run_thinned (booth : Booth) {cues cues' : List (Cue Step)}
    (thin : List.Forall₂ (CueThinned (fun step => step.inert = true)) cues cues') (depth : Nat)
    (program : Option Program) (s : Session) (r : Notes) :
    let full := s.run (audience booth ((player booth).response cues depth)) program r
    let less := s.run (audience booth ((player booth).response cues' depth)) program r
    less.1 = full.1 ∧ less.2.1 = full.2.1 ∧ less.2.2.pending = full.2.2.pending ∧
      Thinned (Refused (fun step => step.inert = true) booth) Eq full.2.2.entries less.2.2.entries ∧
      less.2.2.entries.filter (fun e => e.moment ≠ .step) =
        full.2.2.entries.filter (fun e => e.moment ≠ .step) ∧
      ∀ asked, ((Step.run asked).protest booth.console).length = 1 := by
  have kin : Kinship Eq := .inl rfl
  have agree := responses_agree booth kin (fun _ h => h) thin (.inl rfl) depth
  have same : r.Alike (Refused (fun step => step.inert = true) booth) Eq r :=
    ⟨.refl (fun e _ => e.alike_refl fun _ => rfl), fun _ _ => rfl, rfl⟩
  have done := request_agree (s := s) (p := program) kin agree (.inl rfl) rfl same
  have entries : Thinned (Refused (fun step => step.inert = true) booth) Eq _ _ :=
    done.records.entries.mono (fun _ out => out) (fun _ _ alike => alike.eq)
  refine ⟨done.same, done.sessions.symm, done.records.pending, entries, ?_, protest_run booth.console⟩
  refine entries.filter (fun e out => ?_)
  obtain ⟨step, t, -, -, rfl⟩ := out
  rfl

/-- A booth with a listener and a plain console. -/
def openBooth : Booth := { console := ⟨true⟩ }

/-- A run in which other things are asked of the session meanwhile, and at last to stop. -/
def meddling : List (Cue Step) :=
  [⟨.event .blockStarted, 1, [.run none, .call .clearProgram, .call (.setSpeed (.ok 7))]⟩,
    ⟨.sleep, 1, [.call .cancel, .call .next]⟩]

/-- The same run when only what is heeded is asked. -/
def minding : List (Cue Step) :=
  [⟨.event .blockStarted, 1, [.call (.setSpeed (.ok 7))]⟩, ⟨.sleep, 1, [.call .cancel]⟩]

theorem run_thinned_meddling :
    let full := ready.run (audience openBooth ((player openBooth).response meddling 2)) (some light) {}
    let less := ready.run (audience openBooth ((player openBooth).response minding 2)) (some light) {}
    less.1 = full.1 ∧ less.2.1 = full.2.1 ∧ less.2.2.pending = full.2.2.pending ∧
      Thinned (Refused (fun step => step.inert = true) openBooth) Eq full.2.2.entries less.2.2.entries ∧
      less.2.2.entries.filter (fun e => e.moment ≠ .step) =
        full.2.2.entries.filter (fun e => e.moment ≠ .step) ∧
      ∀ asked, ((Step.run asked).protest ⟨true⟩).length = 1 := by
  have first : CueThinned (fun step => step.inert = true)
      ⟨.event .blockStarted, 1, [.run none, .call .clearProgram, .call (.setSpeed (.ok 7))]⟩
      ⟨.event .blockStarted, 1, [.call (.setSpeed (.ok 7))]⟩ :=
    ⟨rfl, rfl, .drop ⟨rfl, rfl⟩ (.drop ⟨rfl, rfl⟩ (.keep rfl .nil))⟩
  have second : CueThinned (fun step => step.inert = true) ⟨.sleep, 1, [.call .cancel, .call .next]⟩
      ⟨.sleep, 1, [.call .cancel]⟩ := ⟨rfl, rfl, .keep rfl (.drop ⟨rfl, rfl⟩ .nil)⟩
  exact run_thinned openBooth (.cons first (.cons second .nil)) 2 (some light) ready {}

end Session

end Lamplighter
