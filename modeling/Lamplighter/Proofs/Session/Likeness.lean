/-
Lamplighter.Proofs.Session.Likeness — runs of sessions on levels that are alike.

* `Level.Like` — levels on which attempts that are alike (`T`) stay alike, and of which alike (`Said`) is said.
* `Session.Twin`, `Event.Like`, `Audience.Like` — sessions on such levels that differ in the attempt only, events that
  show attempts that are alike, and audiences that act alike on them.
* `Audience.diary` — an audience with a diary of all that it is told, awaits and prints. `diary_shadows` — that changes
  nothing of a run.
* `run_like` — runs of twins before audiences that are alike are answered alike, leave twins, and fill diaries that are
  alike page by page.

What it means for attempts to be alike is left open. So is what the audiences remember (`W`).
-/
import Lamplighter.Proofs.Run.Chronicle
import Lamplighter.Proofs.Session.Footing
import Lamplighter.Proofs.Session.Watching

namespace Lamplighter

variable {ρ ρ' : Type}

/-! ## Levels, events and sessions -/

/-- Deeds of which alike is said, at whatever address. -/
structure Deed.Like (Said : Remark → Remark → Prop) (d d' : Deed) : Prop where
  tellable : d'.isTellable = d.isTellable
  said : ∀ path, Said (Setup.remark path d) (Setup.remark path d')

/-- Two levels on which attempts that are alike stay alike, whatever the rules, and count alike. -/
structure Level.Like (T : Attempt → Attempt → Prop) (Said : Remark → Remark → Prop) (level level' : Level) : Prop where
  layouts : ∀ a a', T a a' → a.store.layout = level.layout ∧ a'.store.layout = level'.layout
  start : T (.atStart level) (.atStart level')
  setups : ∀ rules cap verbose,
    Setup.Like T (Deed.Like Said) ⟨⟨some level⟩, rules, cap, verbose⟩ ⟨⟨some level'⟩, rules, cap, verbose⟩
  solved : ∀ a a', T a a' → Session.isSolved level' a'.lit = Session.isSolved level a.lit
  lit : ∀ a a', T a a' → a'.lit.length = a.lit.length
  goals : level'.goals.length = level.goals.length
  id : level'.id = level.id
  said : ∀ r, Said r r

/-- Events that tell the same of a block or of an end, and show attempts that are alike. -/
structure Event.Like (T : Attempt → Attempt → Prop) (level level' : Level) (e e' : Event) : Prop where
  kind : e'.kind = e.kind
  path : e'.path = e.path
  blockId : e'.blockId = e.blockId
  command : e'.command = e.command
  success : e'.success = e.success
  outcome : e'.outcome = e.outcome
  shown : T (e.snapshot level.layout) (e'.snapshot level'.layout)

/-- Sessions with levels loaded that are alike, which differ in nothing else but in their catalogues and in their
attempts, and these are alike. -/
structure Session.Twin (T : Attempt → Attempt → Prop) (level level' : Level) (s t : Session) : Prop where
  loaded : s.level? = some level
  loaded' : t.level? = some level'
  house : t.house = { s.house with catalogue := t.house.catalogue }
  desk : t.toDesk = { s.toDesk with house := t.house, levelId := t.levelId }
  cancelled : t.cancelled = s.cancelled
  attempts : ∃ robot robot', s.robot = some robot ∧ t.robot = some robot' ∧
    T ⟨robot, s.lit, s.store⟩ ⟨robot', t.lit, t.store⟩

/-! ## Audiences -/

/-- Two audiences whose members act alike, on events (`E`) and sessions (`S`) that are alike and on memories that belong
together (`W`), and whose memories go on belonging together when alike (`Said`) is printed. -/
structure Audience.Like (S : Session → Session → Prop) (E : Event → Event → Prop) (Said : Remark → Remark → Prop)
    (W : ρ → ρ' → Prop) (a : Audience ρ) (b : Audience ρ') : Prop where
  told : List.Forall₂ (fun l l' => ∀ e e' s t w w', E e e' → S s t → W w w' →
    Session.ActAlike (fun s w t w' => S s t ∧ W w w') (l e s w) (l' e' t w')) a.listeners b.listeners
  slept : ∀ n s t w w', S s t → W w w' →
    Session.ActAlike (fun s w t w' => S s t ∧ W w w') (a.sleep n s w) (b.sleep n t w')
  printed : ∀ r r' w w', Said r r' → W w w' → W (a.print r w) (b.print r' w')

/-- A page of a diary: what an audience was told, for how long it slept, or what it printed. -/
inductive Page where
  | told (e : Event)
  | slept (seconds : Binary64)
  | said (r : Remark)

/-- Pages of one kind, which are alike. -/
inductive Page.Like (E : Event → Event → Prop) (Said : Remark → Remark → Prop) : Page → Page → Prop
  | told {e e' : Event} (alike : E e e') : Like E Said (.told e) (.told e')
  | slept (seconds : Binary64) : Like E Said (.slept seconds) (.slept seconds)
  | said {r r' : Remark} (alike : Said r r') : Like E Said (.said r) (.said r')

/-- An audience with a diary of all that it is told, sleeps and prints. -/
def Audience.diary (audience : Audience ρ) : Audience (ρ × List Page) where
  listeners := (fun e s w => (none, s, w.1, w.2 ++ [.told e])) ::
    audience.listeners.map fun l e s w => ((l e s w.1).1, (l e s w.1).2.1, (l e s w.1).2.2, w.2)
  sleep n s w :=
    ((audience.sleep n s w.1).1, (audience.sleep n s w.1).2.1, (audience.sleep n s w.1).2.2, w.2 ++ [.slept n])
  print r w := (audience.print r w.1, w.2 ++ [.said r])

/-- Memories that belong together, each with a diary, and the diaries are alike page by page. -/
def Diary.Like (E : Event → Event → Prop) (Said : Remark → Remark → Prop) (W : ρ → ρ' → Prop) (w : ρ × List Page)
    (w' : ρ' × List Page) : Prop :=
  W w.1 w'.1 ∧ List.Forall₂ (Page.Like E Said) w.2 w'.2

/-- To keep a diary changes nothing of a run. -/
theorem Audience.diary_shadows (audience : Audience ρ) : audience.diary.Shadows Prod.fst audience where
  told := .drop (fun _ _ _ => ⟨rfl, rfl, rfl⟩) (.of_map (fun _ _ _ _ _ => rfl))
  slept _ _ _ := rfl
  printed _ _ := rfl

/-- Audiences that are alike keep diaries that are alike. -/
theorem Audience.Like.diary {S : Session → Session → Prop} {E : Event → Event → Prop} {Said : Remark → Remark → Prop}
    {W : ρ → ρ' → Prop} {a : Audience ρ} {b : Audience ρ'} (h : a.Like S E Said W b) :
    a.diary.Like S E Said (Diary.Like E Said W) b.diary where
  told := by
    refine .cons ?_ ?_
    · rintro e e' s t w w' alike twins ⟨kept, pages⟩
      exact ⟨rfl, twins, kept, List.rel_append pages (.cons (.told alike) .nil)⟩
    · rw [List.forall₂_map_left_iff, List.forall₂_map_right_iff]
      refine h.told.imp ?_
      rintro l l' acts e e' s t w w' alike twins ⟨kept, pages⟩
      obtain ⟨raised, twins, kept⟩ := acts e e' s t w.1 w'.1 alike twins kept
      exact ⟨raised, twins, kept, pages⟩
  slept := by
    rintro n s t w w' twins ⟨kept, pages⟩
    obtain ⟨raised, twins, kept⟩ := h.slept n s t w.1 w'.1 twins kept
    exact ⟨raised, twins, kept, List.rel_append pages (.cons (.slept n) .nil)⟩
  printed := by
    rintro r r' w w' said ⟨kept, pages⟩
    exact ⟨h.printed r r' _ _ said kept, List.rel_append pages (.cons (.said said) .nil)⟩

namespace Session

section Twins

variable {T : Attempt → Attempt → Prop} {Said : Remark → Remark → Prop} {W : ρ → ρ' → Prop} {level level' : Level}
  {s t : Session} {a : Audience ρ} {b : Audience ρ'} {st : Stage (Desk × ρ)} {st' : Stage (Desk × ρ')}

namespace Twin

variable (h : Twin T level level' s t)

include h

theorem status : t.status = s.status := by rw [h.desk]
theorem running : t.running = s.running := by rw [h.desk]
theorem delay : t.delay = s.delay := by rw [h.desk]
theorem program : t.program = s.program := by rw [h.desk]
theorem failure : t.failure = s.failure := by rw [h.desk]

/-- The attempts of twins may change as long as they stay alike. -/
theorem move {x y : Attempt} (alike : T x y) :
    Twin T level level' { s with robot := some x.robot, lit := x.lit, store := x.store }
      { t with robot := some y.robot, lit := y.lit, store := y.store } :=
  ⟨h.loaded, h.loaded', h.house, h.desk, h.cancelled, _, _, rfl, rfl, alike⟩

/-- Twins may change their desks alike, except for the house and the level. -/
theorem change (f : Desk → Desk) (c : Bool → Bool)
    (still : ∀ (d : Desk) house levelId, f { d with house, levelId } = { f d with house, levelId }) :
    Twin T level level' { s with toDesk := f s.toDesk, cancelled := c s.cancelled }
      { t with toDesk := f t.toDesk, cancelled := c t.cancelled } := by
  have house (d : Desk) : (f d).house = d.house := (congrArg Desk.house (still d d.house d.levelId) :)
  have levelId (d : Desk) : (f d).levelId = d.levelId := (congrArg Desk.levelId (still d d.house d.levelId) :)
  refine ⟨?_, ?_, ?_, ?_, congrArg c h.cancelled, h.attempts⟩
  · simpa only [level?, house, levelId] using h.loaded
  · simpa only [level?, house, levelId] using h.loaded'
  · simpa only [house] using h.house
  · have changed := (congrArg f h.desk).trans (still s.toDesk t.house t.levelId)
    simpa only [house, levelId] using changed

/-- A run of twins is granted alike. -/
theorem levelFor (program : Program) : t.levelFor program = (s.levelFor program).map (fun _ => level') := by
  unfold Session.levelFor
  rw [h.running, h.loaded, h.loaded']
  cases s.running with
  | true => rfl
  | false => cases program <;> rfl

/-- The attempts of twins start over alike. -/
theorem resetAttempt (like : level.Like T Said level') :
    Twin T level level' (s.resetAttempt level) (t.resetAttempt level') :=
  (h.change (fun d => { d with path := [], active := none, failure := none }) id (fun _ _ _ => rfl)).move like.start

/-- Twins that are given up start over alike. -/
theorem resetToStart (like : level.Like T Said level') :
    Twin T level level' s.resetToStart.2 t.resetToStart.2 := by
  rw [resetToStart_of_loaded h.loaded, resetToStart_of_loaded h.loaded']
  refine Twin.resetAttempt ?_ like
  unfold Session.cancel
  rw [h.running]
  split
  · exact h.change (fun d => { d with status := .idle }) (fun _ => true) (fun _ _ _ => rfl)
  · exact h.change (fun d => { d with status := .idle }) id (fun _ _ _ => rfl)

/-- Twins prepare for a run alike. -/
theorem prepare (like : level.Like T Said level') : Twin T level level' (s.prepare level) (t.prepare level') := by
  unfold Session.prepare
  refine Twin.resetAttempt ?_ like
  exact h.change (fun d => { d with running := true }) (fun _ => false) (fun _ _ _ => rfl)

/-- The runs of twins start alike. -/
theorem started (like : level.Like T Said level') : Twin T level level' (s.started level) (t.started level') :=
  (h.prepare like).change (fun d => { d with status := .running }) id (fun _ _ _ => rfl)

/-- The runs of twins leave off alike. -/
theorem settle : Twin T level level' s.settle t.settle :=
  h.change (fun d => { d with running := false, path := [], active := none }) id (fun _ _ _ => rfl)

/-- Twins come to the same status. -/
theorem become (status : RunStatus) : Twin T level level' { s with status } { t with status } :=
  h.change (fun d => { d with status }) id (fun _ _ _ => rfl)

/-- Twins fail for the same reason. -/
theorem fail (failure : Option Failure) : Twin T level level' { s with failure } { t with failure } :=
  h.change (fun d => { d with failure }) id (fun _ _ _ => rfl)

end Twin

/-- Two fresh sessions of one house, over catalogues of their own, into which levels are loaded that are alike. -/
theorem twin_load (like : level.Like T Said level') {house : House} {other : Catalogue} {id id' : Int}
    (found : house.catalogue.get? id = some level) (found' : other.get? id' = some level') (delay : Int) :
    ∃ s t, (Session.start house delay).load id = (.ok true, s) ∧
      (Session.start { house with catalogue := other } delay).load id' = (.ok true, t) ∧
        Twin T level level' s t := by
  have loaded : (Session.start house delay).load id = (.ok true,
      { Session.start house delay with levelId := some id, program := [], status := .idle }.resetAttempt level) := by
    simp [load, Session.start, found, setStatus_idle]
  have loaded' : (Session.start { house with catalogue := other } delay).load id' = (.ok true,
      { Session.start { house with catalogue := other } delay with
        levelId := some id', program := [], status := .idle }.resetAttempt level') := by
    simp [load, Session.start, found', setStatus_idle]
  exact ⟨_, _, loaded, loaded', found, found', rfl, rfl, rfl, _, _, rfl, rfl, like.start⟩

/-- A house with one level. -/
def lodge (level : Level) : House := ⟨⟨[level]⟩, .standard 1, 10, true⟩

/-- A session in this house, with its level loaded. -/
def guest (level : Level) : Session := { start (lodge level) 5 with levelId := some level.id }.resetAttempt level

/-! ## Walks -/

/-- Stages of the runs of twins, with the walk at one address and the same last refusal. -/
structure Astride (T : Attempt → Attempt → Prop) (W : ρ → ρ' → Prop) (level level' : Level) (st : Stage (Desk × ρ))
    (st' : Stage (Desk × ρ')) : Prop where
  sessions : Twin T level level' (ofStage st) (ofStage st')
  memories : W st.world.2 st'.world.2
  path : st'.path = st.path
  failure : st'.failure = st.failure

theorem Astride.attempt (h : Astride T W level level' st st') : T st.attempt st'.attempt := by
  obtain ⟨robot, robot', there, there', alike⟩ := h.sessions.attempts
  obtain rfl : st.attempt.robot = robot := Option.some.inj there
  obtain rfl : st'.attempt.robot = robot' := Option.some.inj there'
  exact alike

theorem Astride.cancelled (h : Astride T W level level' st st') : st'.cancelled = st.cancelled := h.sessions.cancelled

/-- Events of blocks in attempts that are alike. -/
theorem ofBlock_like (like : level.Like T Said level') (kind : EventKind) (x : Path) (block : Block)
    (success : Option Bool) {m n : Attempt} (alike : T m n) :
    Event.Like T level level' (Event.ofBlock kind x block success m) (Event.ofBlock kind x block success n) := by
  obtain ⟨layout, layout'⟩ := like.layouts m n alike
  refine ⟨rfl, rfl, rfl, rfl, rfl, rfl, ?_⟩
  rw [← layout, ← layout']
  exact alike

section Surroundings

variable (like : level.Like T Said level')
  (audience : a.Like (Twin T level level') (Event.Like T level level') Said W b)

include audience

theorem say_like {r r' : Remark} (said : Said r r') (h : Astride T W level level' st st') :
    Astride T W level level' ((surroundings a).say r st) ((surroundings b).say r' st') where
  sessions := h.sessions
  memories := audience.printed r r' _ _ said h.memories
  path := h.path
  failure := h.failure

omit audience in
/-- Members that act alike leave twins on stage. -/
theorem visit_like {f : Session → ρ → Option Fault × Session × ρ} {g : Session → ρ' → Option Fault × Session × ρ'}
    (h : Astride T W level level' st st')
    (acts : ActAlike (fun s w t w' => Twin T level level' s t ∧ W w w') (f (ofStage st) st.world.2)
      (g (ofStage st') st'.world.2)) :
    (visit g st').1 = (visit f st).1 ∧ Astride T W level level' (visit f st).2 (visit g st').2 := by
  obtain ⟨raised, twins, memories⟩ := acts
  obtain ⟨robot, robot', there, there', -⟩ := twins.attempts
  have left : (visit f st).2 =
      (f (ofStage st) st.world.2).2.1.onStage (f (ofStage st) st.world.2).2.2 st := rfl
  have left' : (visit g st').2 =
      (g (ofStage st') st'.world.2).2.1.onStage (g (ofStage st') st'.world.2).2.2 st' := rfl
  refine ⟨raised, ?_, memories, h.path, h.failure⟩
  rw [left, left', ofStage_onStage there, ofStage_onStage there']
  exact twins

include like

/-- Listeners that act alike are remarked on alike. -/
theorem hearing_like {e e' : Event} (l : Listener (Desk × ρ)) (l' : Listener (Desk × ρ'))
    (heard : (l' e' st').1 = (l e st).1 ∧ Astride T W level level' (l e st).2 (l' e' st').2) :
    ((surroundings b).hearing e' l' st').1 = ((surroundings a).hearing e l st).1 ∧
      Astride T W level level' ((surroundings a).hearing e l st).2 ((surroundings b).hearing e' l' st').2 := by
  unfold Surroundings.hearing
  generalize l e st = left at heard ⊢
  generalize l' e' st' = right at heard ⊢
  obtain ⟨fault, m⟩ := left
  obtain ⟨fault', m'⟩ := right
  obtain ⟨rfl, astride⟩ : fault' = fault ∧ Astride T W level level' m m' := heard
  cases fault' with
  | none => exact ⟨rfl, astride⟩
  | some fault =>
    dsimp only
    cases fault.wording with
    | ok text => exact ⟨rfl, say_like audience (like.said _) astride⟩
    | error met => exact ⟨rfl, astride⟩

/-- An event is told to the sessions of two runs, and to their audiences. -/
theorem tell_like {e e' : Event} (events : Event.Like T level level' e e') (h : Astride T W level level' st st') :
    ((surroundings b).tell e' (surroundings b).listeners st').1 =
        ((surroundings a).tell e (surroundings a).listeners st).1 ∧
      Astride T W level level' ((surroundings a).tell e (surroundings a).listeners st).2
        ((surroundings b).tell e' (surroundings b).listeners st').2 := by
  have tracked : Astride T W level level' (track e st).2 (track e' st').2 := by
    refine ⟨?_, h.memories, h.path, h.failure⟩
    have noted := h.sessions.change
      (fun d => { d with path := e.path, active := if e.kind = .blockStarted then e.command else none }) id
      (fun _ _ _ => rfl)
    unfold track
    rw [events.path, events.kind, events.command]
    exact noted
  have told := audience.told
  refine (?_ : ((surroundings b).tell e' (b.listeners.map fun l e => visit (l e)) (track e' st').2).1 =
      ((surroundings a).tell e (a.listeners.map fun l e => visit (l e)) (track e st).2).1 ∧
    Astride T W level level' ((surroundings a).tell e (a.listeners.map fun l e => visit (l e)) (track e st).2).2
      ((surroundings b).tell e' (b.listeners.map fun l e => visit (l e)) (track e' st').2).2)
  generalize (track e st).2 = st at tracked
  generalize (track e' st').2 = st' at tracked
  revert st st'
  generalize a.listeners = ls at told
  generalize b.listeners = ls' at told
  induction told with
  | nil => exact fun _ _ h => ⟨rfl, h⟩
  | @cons l l' ls ls' first rest ih =>
    intro st st' h
    have heard := hearing_like like audience (fun e => visit (l e)) (fun e => visit (l' e))
      (visit_like h (first e e' _ _ _ _ events h.sessions h.memories))
    rw [List.map_cons, List.map_cons, Surroundings.tell_cons, Surroundings.tell_cons]
    generalize (surroundings a).hearing e _ st = left at heard ⊢
    generalize (surroundings b).hearing e' _ st' = right at heard ⊢
    obtain ⟨met, m⟩ := left
    obtain ⟨met', m'⟩ := right
    obtain ⟨rfl, astride⟩ : met' = met ∧ Astride T W level level' m m' := heard
    cases met' with
    | none => exact ih m m' astride
    | some met => exact ⟨rfl, astride⟩

omit like in
/-- Deeds that are alike are told alike. -/
theorem narrate_like {setup setup' : Setup} (verbose : setup'.verbose = setup.verbose) {deeds deeds' : List Deed}
    (alike : List.Forall₂ (Deed.Like Said) deeds deeds') (h : Astride T W level level' st st') :
    Astride T W level level' (setup.narrate (surroundings a) deeds st).2
      (setup'.narrate (surroundings b) deeds' st').2 := by
  induction alike generalizing st st' with
  | nil => exact h
  | cons first rest ih =>
    unfold Setup.narrate
    rw [first.tellable, verbose, h.path]
    split
    · apply ih
      split
      · exact say_like audience (first.said st.path) h
      · exact h
    · exact h

/-- Audiences that are alike make surroundings that are. -/
theorem surroundings_like {setup setup' : Setup} (verbose : setup'.verbose = setup.verbose)
    (setups : Setup.Like T (Deed.Like Said) setup setup') :
    (surroundings a).Like setup setup' T (Deed.Like Said) Eq (Astride T W level level') (surroundings b) where
  setups := setups
  below := by rintro x _ i rfl; rfl
  attempt _ _ h := h.attempt
  cancelled _ _ h := h.cancelled
  failure _ _ h := h.failure
  walked := by
    rintro x _ st st' rfl h
    exact ⟨h.sessions, h.memories, rfl, h.failure⟩
  acted x y active failure st st' alike h := ⟨h.sessions.move alike, h.memories, h.path, rfl⟩
  emit := by
    rintro x _ kind block success st st' rfl h
    exact tell_like like audience (ofBlock_like like kind x block success h.attempt) h
  narrate deeds deeds' st st' alike h := narrate_like audience verbose alike h
  skip := by
    rintro x _ block why st st' rfl h
    exact say_like audience (like.said _) h
  clamp := by
    rintro x _ k st st' rfl h
    exact say_like audience (like.said _) h
  pause st st' h := by
    have delay : st'.world.1.delay = st.world.1.delay := h.sessions.delay
    simp only [surroundings, Session.pause]
    rw [delay]
    split
    · exact ⟨rfl, h⟩
    · exact visit_like h (audience.slept _ _ _ _ _ h.sessions h.memories)
  checkpoint st st' h := visit_like h (audience.slept .zero _ _ _ _ h.sessions h.memories)

/-- The walks of twins come out side by side. -/
theorem walk_like (twins : Twin T level level' s t) {w : ρ} {w' : ρ'} (memories : W w w') (program : Program) :
    (t.walk b level' program w').1 = (s.walk a level program w).1 ∧
      Astride T W level level' (s.walk a level program w).2 (t.walk b level' program w').2 := by
  have started := twins.started like
  have rules : t.house.rules = s.house.rules := by rw [twins.house]
  have cap : t.house.cap = s.house.cap := by rw [twins.house]
  have verbose : t.house.verbose = s.house.verbose := by rw [twins.house]
  have setup : (t.started level').setup level' =
      ⟨⟨some level'⟩, s.house.rules, s.house.cap, s.house.verbose⟩ := by
    rw [← rules, ← cap, ← verbose]
    rfl
  have setups : Setup.Like T (Deed.Like Said) ((s.started level).setup level) ((t.started level').setup level') := by
    rw [setup]
    exact like.setups _ _ _
  have said : startRemark level' program = startRemark level program := by rw [startRemark, like.id]; rfl
  have begun : Astride T W level level' ((s.started level).stage level.start (a.print (startRemark level program) w))
      ((t.started level').stage level'.start (b.print (startRemark level' program) w')) := by
    rw [said]
    exact ⟨started, audience.printed _ _ _ _ (like.said _) memories, rfl, rfl⟩
  exact (surroundings_like like audience verbose setups).play program rfl begun

end Surroundings

/-! ## Ends -/

section Ends

variable (like : level.Like T Said level')
  (audience : a.Like (Twin T level level') (Event.Like T level level') Said W b) {w : ρ} {w' : ρ'}

include like audience

/-- Listeners that act alike are told alike of an end. -/
theorem notify_like {e e' : Event} (events : Event.Like T level level' e e') (twins : Twin T level level' s t)
    (memories : W w w') :
    (notify b e' b.listeners t w').1 = (notify a e a.listeners s w).1 ∧
      Twin T level level' (notify a e a.listeners s w).2.1 (notify b e' b.listeners t w').2.1 ∧
      W (notify a e a.listeners s w).2.2 (notify b e' b.listeners t w').2.2 := by
  have told := audience.told
  generalize a.listeners = ls at told
  generalize b.listeners = ls' at told
  induction told generalizing s t w w' with
  | nil => exact ⟨rfl, twins, memories⟩
  | @cons l l' ls ls' first rest ih =>
    have heard := notifyOne_agree
      (fun text _ _ _ _ left => ⟨left.1, audience.printed _ _ _ _ (like.said (complaintRemark text)) left.2⟩)
      (first e e' s t w w' events twins memories)
    rw [notify_cons, notify_cons]
    generalize notifyOne a e l s w = x at heard ⊢
    generalize notifyOne b e' l' t w' = y at heard ⊢
    obtain ⟨met, s, w⟩ := x
    obtain ⟨met', t, w'⟩ := y
    obtain ⟨rfl, twins, memories⟩ : met' = met ∧ Twin T level level' s t ∧ W w w' := heard
    cases met' with
    | none => exact ih twins memories
    | some met => exact ⟨rfl, twins, memories⟩

theorem finish_like (outcome : Outcome) (twins : Twin T level level' s t) (memories : W w w') :
    (finish b outcome t w').1 = (finish a outcome s w).1 ∧
      Twin T level level' (finish a outcome s w).2.1 (finish b outcome t w').2.1 ∧
      W (finish a outcome s w).2.2 (finish b outcome t w').2.2 := by
  obtain ⟨robot, robot', there, there', alike⟩ := twins.attempts
  obtain ⟨layout, layout'⟩ := like.layouts _ _ alike
  have events : Event.Like T level level' (Event.ofOutcome outcome ⟨robot, s.lit, s.store⟩)
      (Event.ofOutcome outcome ⟨robot', t.lit, t.store⟩) := by
    refine ⟨rfl, rfl, rfl, rfl, rfl, rfl, ?_⟩
    rw [← layout, ← layout']
    exact alike
  have notified := notify_like like audience events twins memories
  unfold finish
  rw [there, there']
  dsimp only
  generalize notify a _ a.listeners s w = x at notified ⊢
  generalize notify b _ b.listeners t w' = y at notified ⊢
  obtain ⟨met, s, w⟩ := x
  obtain ⟨met', t, w'⟩ := y
  obtain ⟨rfl, twins, memories⟩ : met' = met ∧ Twin T level level' s t ∧ W w w' := notified
  cases met' <;> exact ⟨rfl, twins, memories⟩

theorem finishFailed_like (why : Option Failure) (message : String) (twins : Twin T level level' s t)
    (memories : W w w') :
    (finishFailed b why message t w').1 = (finishFailed a why message s w).1 ∧
      Twin T level level' (finishFailed a why message s w).2.1 (finishFailed b why message t w').2.1 ∧
      W (finishFailed a why message s w).2.2 (finishFailed b why message t w').2.2 := by
  have status := twins.status
  cases legal : s.status.mayBecome .fail with
  | true =>
    have legal' : t.status.mayBecome .fail = true := by rw [status, legal]
    rw [finishFailed_legal legal, finishFailed_legal legal']
    exact finish_like like audience .fail ((twins.fail why).become .fail)
      (audience.printed _ _ _ _ (like.said _) memories)
  | false =>
    have illegal : t.status.mayBecome .fail = false := by rw [status, legal]
    rw [finishFailed_illegal legal, finishFailed_illegal illegal]
    exact ⟨by rw [status], twins.fail why, memories⟩

/-- Runs of twins that have come to the same ending are resolved alike. -/
theorem resolve_like (ending : Ending) (why : Option Failure) (twins : Twin T level level' s t) (memories : W w w') :
    (resolve b level' ending why t w').1 = (resolve a level ending why s w).1 ∧
      Twin T level level' (resolve a level ending why s w).2.1 (resolve b level' ending why t w').2.1 ∧
      W (resolve a level ending why s w).2.2 (resolve b level' ending why t w').2.2 := by
  have said := fun r => audience.printed r r w w' (like.said r) memories
  cases ending with
  | broken fault => exact ⟨rfl, twins, memories⟩
  | cancelled =>
    rw [resolve_cancelled, resolve_cancelled]
    exact finish_like like audience .cancelled (twins.resetToStart like) (said _)
  | failure => exact finishFailed_like like audience why _ twins memories
  | success =>
    obtain ⟨robot, robot', -, -, alike⟩ := twins.attempts
    have solved : t.isWin = s.isWin := by
      rw [isWin, isWin, twins.loaded, twins.loaded']
      exact like.solved _ _ alike
    have lit : t.lit.length = s.lit.length := like.lit _ _ alike
    rw [resolve_success, resolve_success, solved, twins.status, lit, like.goals, like.id]
    cases s.isWin with
    | false => exact finishFailed_like like audience _ _ twins memories
    | true =>
      cases s.status.mayBecome .win with
      | true => exact finish_like like audience .win (twins.become .win) (said _)
      | false => exact ⟨rfl, twins, memories⟩

/-- Runs of twins before audiences that are alike are answered alike, and leave twins. -/
theorem run_like (program : Option Program) (twins : Twin T level level' s t) (memories : W w w') :
    (t.run b program w').1 = (s.run a program w).1 ∧
      Twin T level level' (s.run a program w).2.1 (t.run b program w').2.1 ∧
      W (s.run a program w).2.2 (t.run b program w').2.2 := by
  have request' : t.levelFor (program.getD t.program) =
      (s.levelFor (program.getD s.program)).map (fun _ => level') := by
    rw [twins.program]
    exact twins.levelFor _
  cases request : s.levelFor (program.getD s.program) with
  | error why =>
    rw [request] at request'
    rw [run_rejected request, run_rejected request']
    exact ⟨rfl, twins, audience.printed _ _ _ _ (like.said _) memories⟩
  | ok found =>
    obtain ⟨-, loaded, -⟩ := levelFor_eq_ok.mp request
    obtain rfl : level = found := Option.some.inj (twins.loaded.symm.trans loaded)
    rw [request] at request'
    by_cases status : s.status = .running
    · rw [run_illegal request status, run_illegal request' (twins.status.trans status)]
      exact ⟨rfl, twins.prepare like, memories⟩
    · have status' : t.status ≠ .running := fun same => status (twins.status.symm.trans same)
      rw [run_started request status, run_started request' status', twins.program]
      obtain ⟨ending, astride⟩ := walk_like like audience twins memories (program.getD s.program)
      dsimp only
      rw [ending, astride.failure, astride.cancelled]
      exact resolve_like like audience _ _ astride.sessions.settle astride.memories

/-- Audiences that are alike see the same of runs of twins, page by page. -/
theorem run_diaries (program : Option Program) (twins : Twin T level level' s t) (memories : W w w') :
    let one := s.run a.diary program (w, [])
    let other := t.run b.diary program (w', [])
    s.run a program w = (one.1, one.2.1, one.2.2.1) ∧ t.run b program w' = (other.1, other.2.1, other.2.2.1) ∧
      other.1 = one.1 ∧ Twin T level level' one.2.1 other.2.1 ∧ W one.2.2.1 other.2.2.1 ∧
        List.Forall₂ (Page.Like (Event.Like T level level') Said) one.2.2.2 other.2.2.2 := by
  have start : Diary.Like (Event.Like T level level') Said W (w, []) (w', []) := ⟨memories, .nil⟩
  obtain ⟨answer, left, memories, pages⟩ := run_like like audience.diary program twins start
  exact ⟨run_shadows a.diary_shadows s program (w, []), run_shadows b.diary_shadows t program (w', []), answer, left,
    memories, pages⟩

end Ends

end Twins

end Session

end Lamplighter
