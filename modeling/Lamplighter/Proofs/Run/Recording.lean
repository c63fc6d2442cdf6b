/-
Lamplighter.Proofs.Run.Recording — runs on record.

* `Surroundings.recorded`, `Setup.recording` — a run that is put on record: every event and every suspension, as
  a list of beats. `play_recorded` — that changes nothing of the run.
* `recorded_announce`, `recorded_carryOut`, `recorded_clamp`, `recorded_pause`, `recorded_rest` — what each act of a run
  puts on record.
* `recording_keeps` — what commands and watchers keep holds at every beat of a run.
* `Surroundings.Keen`, `play_beside`, `play_heeded_recorded` — the events on record are what every listener is told,
  unless the telling breaks the run off.
-/
import Lamplighter.Proofs.Run.Onlookers
import Lamplighter.Proofs.Run.Watching

namespace Lamplighter

variable {σ α : Type}

/-! ## Runs on record -/

namespace Surroundings

/-- A listener as one of a run that is watched more closely. -/
def lift (l : Listener σ) : Listener (σ × α) := fun e m =>
  ((l e (m.through Prod.fst)).1, (l e (m.through Prod.fst)).2.keeping m.world.2)

/-- A hook that is put on record before it is awaited. -/
def awaited (occasion : Occasion) (hook : Stage σ → Option Fault × Stage σ) (m : Stage (σ × List Beat)) :
    Option Fault × Stage (σ × List Beat) :=
  ((hook (m.through Prod.fst)).1, (hook (m.through Prod.fst)).2.keeping (m.note occasion).log)

/-- Surroundings with a log of all events and suspensions. -/
def recorded (around : Surroundings σ) : Surroundings (σ × List Beat) where
  listeners := Onlookers.record :: around.listeners.map lift
  pause := awaited .pause around.pause
  checkpoint := awaited .checkpoint around.checkpoint
  print r w := (around.print r w.1, w.2)

theorem lift_shadows (l : Listener σ) : Listener.Shadows Prod.fst (lift l : Listener (σ × α)) l :=
  fun _ _ => ⟨rfl, rfl⟩

theorem forall₂_lift (ls : List (Listener σ)) :
    List.Forall₂ (Listener.Shadows Prod.fst) (ls.map (lift : Listener σ → Listener (σ × α))) ls := by
  rw [List.forall₂_map_left_iff, List.forall₂_same]
  exact fun l _ => lift_shadows l

theorem recorded_shadows (around : Surroundings σ) : around.recorded.Shadows Prod.fst around where
  told e m := by
    have printed : ∀ r w, (around.recorded.print r w).1 = around.print r w.1 := fun _ _ => rfl
    exact Shadows.tell printed e (forall₂_lift around.listeners) (m.note (.told e))
  pause _ := ⟨rfl, rfl⟩
  checkpoint _ := ⟨rfl, rfl⟩
  printed _ _ := rfl

/-- Everyone who is told of an event finds it on record, and nothing else is put there. -/
theorem recorded_tell (around : Surroundings σ) (e : Event) (m : Stage (σ × List Beat)) :
    around.recorded.tell e around.recorded.listeners m =
      ((around.tell e around.listeners (m.through Prod.fst)).1,
        (around.tell e around.listeners (m.through Prod.fst)).2.keeping (m.note (.told e)).log) := by
  have quiet : ∀ l ∈ around.listeners.map (lift : Listener σ → Listener (σ × List Beat)), ∀ n,
      n.log = (m.note (.told e)).log → (l e n).2.log = (m.note (.told e)).log := by
    intro l hl n same
    obtain ⟨l, -, rfl⟩ := List.mem_map.mp hl
    exact same
  have log : (around.recorded.tell e around.recorded.listeners m).2.log = (m.note (.told e)).log :=
    tell_keeps around.recorded e (fun _ _ same => same) quiet (m := m.note (.told e)) rfl
  obtain ⟨met, left⟩ := around.recorded_shadows.told e m
  exact Prod.ext met (Stage.eq_keeping left log)

end Surroundings

/-- A program run on record, from an empty log. -/
def Setup.recording (setup : Setup) (around : Surroundings σ) (p : Program) (path : Path) (m : Stage σ) :
    Ending × Stage (σ × List Beat) :=
  setup.play around.recorded p path (m.keeping [])

/-- To be put on record changes nothing of a run. -/
theorem play_recorded (setup : Setup) (around : Surroundings σ) (p : Program) (path : Path) (m : Stage σ) :
    setup.play around p path m =
      ((setup.recording around p path m).1, (setup.recording around p path m).2.through Prod.fst) :=
  around.recorded_shadows.play setup p path (m.keeping [])

/-! ## What is put on record -/

section Crew

variable (setup : Setup) (around : Surroundings σ) (x : Path) (b : Block) (m : Stage (σ × List Beat))

/-- A block that starts. -/
theorem recorded_announce :
    ((setup.crew around.recorded).announce x b m).2.log =
      m.log ++ [⟨.told (Event.ofBlock .blockStarted x b none m.attempt), m.attempt, m.cancelled⟩] :=
  congrArg (fun told => Stage.log told.2) (around.recorded_tell _ { m with path := x })

/-- What is remarked on a command is not put on record. -/
theorem recorded_told (name : String) :
    (setup.told around.recorded name m).log = m.log ∧
      (setup.told around.recorded name m).attempt = (setup.report name m).attempt ∧
      (setup.told around.recorded name m).cancelled = m.cancelled := by
  have said : ∀ r n,
      n.log = m.log ∧ n.attempt = (setup.report name m).attempt ∧ n.cancelled = m.cancelled →
      (around.recorded.say r n).log = m.log ∧
        (around.recorded.say r n).attempt = (setup.report name m).attempt ∧
        (around.recorded.say r n).cancelled = m.cancelled := fun _ _ same => same
  exact setup.narrate_keeps said _ ⟨rfl, rfl, rfl⟩

/-- Listeners are told of a command that has finished. -/
theorem recorded_telling (name : String) :
    (setup.telling around.recorded x b name m).2.log =
      m.log ++ [⟨.told (Event.ofBlock .commandFinished x b (some (setup.report name m).ok)
        (setup.report name m).attempt), (setup.report name m).attempt, m.cancelled⟩] := by
  obtain ⟨log, attempt, cancelled⟩ := recorded_told setup around m name
  have told := around.recorded_tell (Event.ofBlock .commandFinished x b (some (setup.report name m).ok)
    (setup.told around.recorded name m).attempt) (setup.told around.recorded name m)
  rw [Setup.telling, Surroundings.emit, told]
  change (Stage.note _ _).log = _
  rw [Stage.note_log, log, attempt, cancelled]

/-- A command that has finished. One that breaks off is not put on record. -/
theorem recorded_carryOut (name : String) :
    if setup.isTellable name m then
      ((setup.crew around.recorded).carryOut x b name m).1 =
          Ending.told (setup.report name m).ok (setup.telling around.recorded x b name m).1 ∧
        ((setup.crew around.recorded).carryOut x b name m).2.log =
          m.log ++ [⟨.told (Event.ofBlock .commandFinished x b (some (setup.report name m).ok)
            (setup.report name m).attempt), (setup.report name m).attempt, m.cancelled⟩]
    else
      ((setup.crew around.recorded).carryOut x b name m).1 = .broken .untellable ∧
        ((setup.crew around.recorded).carryOut x b name m).2.log = m.log := by
  rw [Setup.carryOut_eq]
  split
  · exact ⟨rfl, (congrArg Prod.snd (Stage.parted_world _)).trans (recorded_telling setup around x b m name)⟩
  · exact ⟨rfl, (recorded_told setup around m name).1⟩

/-- What is remarked on a loop is not put on record, either. -/
theorem recorded_clamp (n : Int) : ((setup.crew around.recorded).clamp x n m).2.log = m.log :=
  setup.clamp_keeps around.recorded (I := fun m' => m'.log = m.log) (fun _ _ same => same) rfl

theorem recorded_pause :
    (Act.call (setup.crew around.recorded).pause m).2.log = m.log ++ [⟨.pause, m.attempt, m.cancelled⟩] := by
  rw [Act.call_left]
  rfl

theorem recorded_rest :
    ((setup.crew around.recorded).rest m).2.log = m.log ++ [⟨.checkpoint, m.attempt, m.cancelled⟩] := by
  rw [Crew.rest, Act.call_left]
  rfl

end Crew

/-- Watchers who leave the attempt of a run alone do so when it is put on record. -/
theorem Surroundings.Aloof.recorded {around : Surroundings σ} (aloof : around.Aloof) : around.recorded.Aloof where
  told l hl e m := by
    rcases List.mem_cons.mp hl with rfl | lifted
    · rfl
    · obtain ⟨l, there, rfl⟩ := List.mem_map.mp lifted
      exact aloof.told l there e _
  pause m := aloof.pause _
  checkpoint m := aloof.checkpoint _

/-- Watchers all of whose complaints have a text complain so when they are put on record. -/
theorem Surroundings.Spoken.recorded {around : Surroundings σ} (spoken : around.Spoken) : around.recorded.Spoken := by
  intro l hl e m fault raised
  rcases List.mem_cons.mp hl with rfl | lifted
  · cases raised
  · obtain ⟨l, there, rfl⟩ := List.mem_map.mp lifted
    exact spoken l there e _ fault raised

/-- What every command keeps of the attempt, and everyone who watches, holds at every event and every suspension of a
run, and when it is over. -/
theorem recording_keeps (setup : Setup) (around : Surroundings σ) {K : Attempt → Prop}
    (done : ∀ name a, K a → K (a.execute setup.board setup.rules name).attempt)
    (told : ∀ l ∈ around.listeners, ∀ e m, K m.attempt → K (l e m).2.attempt)
    (pause : ∀ m, K m.attempt → K (around.pause m).2.attempt)
    (checkpoint : ∀ m, K m.attempt → K (around.checkpoint m).2.attempt) (p : Program) (path : Path) {m : Stage σ}
    (start : K m.attempt) :
    K (setup.recording around p path m).2.attempt ∧ ∀ x ∈ (setup.recording around p path m).2.log, K x.attempt := by
  have noted (occasion : Occasion) (n : Stage (σ × List Beat)) (h : K n.attempt ∧ ∀ x ∈ n.log, K x.attempt) :
      ∀ x ∈ (n.note occasion).log, K x.attempt := by
    rw [Stage.note_log]
    intro x hx
    rcases List.mem_append.mp hx with hx | hx
    · exact h.2 x hx
    · rw [List.mem_singleton.mp hx]
      exact h.1
  have keeps : around.recorded.Keeps setup (fun n => K n.attempt ∧ ∀ x ∈ n.log, K x.attempt) :=
    { walked := fun _ _ _ h => h
      begun := fun name n h => ⟨done name n.attempt h.1, h.2⟩
      told := by
        intro l hl e n _ h
        rcases List.mem_cons.mp hl with rfl | lifted
        · exact ⟨h.1, noted _ n h⟩
        · obtain ⟨l, there, rfl⟩ := List.mem_map.mp lifted
          exact ⟨told l there e _ h.1, h.2⟩
      printed := fun _ _ h => h
      pause := fun n h => ⟨pause _ h.1, noted .pause n h⟩
      checkpoint := fun n h => ⟨checkpoint _ h.1, noted .checkpoint n h⟩ }
  exact keeps.play p path ⟨start, fun x hx => by cases hx⟩

/-! ## Listeners and the record -/

theorem Stage.events_note (occasion : Occasion) (m : Stage (σ × List Beat)) :
    (m.note occasion).events = m.events ++ (Beat.event? ⟨occasion, m.attempt, m.cancelled⟩).toList := by
  rw [Stage.events, Stage.note_log, List.filterMap_append]
  rfl

section Beside

variable {υ : Type} {of : υ → σ} {around : Surroundings σ} {besides : Surroundings υ}

/-- To be put on record changes nothing of what is kept besides, either. -/
theorem Surroundings.Shadows.recorded (h : besides.Shadows of around) :
    besides.recorded.Shadows (Prod.map of id) around.recorded where
  told e m := by
    obtain ⟨met, left⟩ := h.told e (m.through Prod.fst)
    rw [recorded_tell, recorded_tell]
    exact ⟨met, congrArg (Stage.keeping (m.note (.told e)).log) left⟩
  pause m := by
    obtain ⟨raised, left⟩ := h.pause (m.through Prod.fst)
    exact ⟨raised, congrArg (Stage.keeping (m.note .pause).log) left⟩
  checkpoint m := by
    obtain ⟨raised, left⟩ := h.checkpoint (m.through Prod.fst)
    exact ⟨raised, congrArg (Stage.keeping (m.note .checkpoint).log) left⟩
  printed r w := Prod.ext (h.printed r w.1) rfl

/-- Surroundings in which each of `n` listeners keeps what it is told, unless the telling breaks off. -/
structure Surroundings.Keen (n : Nat) (tidings : υ → Tidings) (besides : Surroundings υ) : Prop where
  told : ∀ e m, (besides.tell e besides.listeners m).1 = none →
    tidings (besides.tell e besides.listeners m).2.world = tidings m.world ++ Tidings.all n [e]
  pause : ∀ m, tidings (besides.pause m).2.world = tidings m.world
  checkpoint : ∀ m, tidings (besides.checkpoint m).2.world = tidings m.world
  printed : ∀ r w, tidings (besides.print r w) = tidings w

/-- No telling breaks off. -/
def Surroundings.Fluent (besides : Surroundings υ) : Prop := ∀ e m, (besides.tell e besides.listeners m).1 = none

/-- Each of `n` listeners has kept every event on record. -/
def Kept (n : Nat) (tidings : υ → Tidings) (m : Stage (υ × List Beat)) : Prop :=
  tidings m.world.1 = Tidings.all n m.events

theorem Surroundings.heeded_keen (around : Surroundings σ) :
    around.heeded.Keen around.listeners.length Prod.snd where
  told := around.heeded_tell
  pause _ := rfl
  checkpoint _ := rfl
  printed _ _ := rfl

theorem Surroundings.Spoken.heeded_fluent {around : Surroundings σ} (spoken : around.Spoken) : around.heeded.Fluent :=
  fun e m => (around.heeded_shadows.told e m).1.trans (spoken.tell _)

section Keen

variable {n : Nat} {tidings : υ → Tidings} (keen : besides.Keen n tidings)

include keen

/-- A telling that does not break off reaches every listener, and one that does is not fluent. -/
theorem Kept.tell {m : Stage (υ × List Beat)} (kept : Kept n tidings m) (e : Event) :
    ((besides.recorded.tell e besides.recorded.listeners m).1 = none →
        Kept n tidings (besides.recorded.tell e besides.recorded.listeners m).2) ∧
      ∀ fault, (besides.recorded.tell e besides.recorded.listeners m).1 = some fault → ¬besides.Fluent := by
  rw [besides.recorded_tell]
  refine ⟨fun none => ?_, fun fault broke fluent => ?_⟩
  · have events := m.events_note (.told e)
    have more := keen.told e (m.through Prod.fst) none
    change tidings _ = Tidings.all n (m.note (.told e)).events
    rw [events, Tidings.all_append]
    refine more.trans ?_
    rw [show tidings (m.through Prod.fst).world = _ from kept]
    rfl
  · rw [fluent e] at broke
    cases broke

theorem Kept.say {m : Stage (υ × List Beat)} (kept : Kept n tidings m) (r : Remark) :
    Kept n tidings (besides.recorded.say r m) :=
  (keen.printed r m.world.1).trans kept

/-- A suspension is no event, and nobody is told. -/
theorem Kept.pause {m : Stage (υ × List Beat)} (kept : Kept n tidings m) :
    Kept n tidings (besides.recorded.pause m).2 :=
  (keen.pause (m.through Prod.fst)).trans
    (kept.trans (congrArg (Tidings.all n) ((m.events_note .pause).trans (List.append_nil _)).symm))

theorem Kept.checkpoint {m : Stage (υ × List Beat)} (kept : Kept n tidings m) :
    Kept n tidings (besides.recorded.checkpoint m).2 :=
  (keen.checkpoint (m.through Prod.fst)).trans
    (kept.trans (congrArg (Tidings.all n) ((m.events_note .checkpoint).trans (List.append_nil _)).symm))

/-- What the telling of a command leaves. -/
theorem Kept.telling (setup : Setup) (path : Path) (b : Block) (name : String) {m : Stage (υ × List Beat)}
    (told : Kept n tidings (setup.told besides.recorded name m)) :
    ((setup.telling besides.recorded path b name m).1 = none →
        Kept n tidings (setup.telling besides.recorded path b name m).2) ∧
      ∀ fault, (setup.telling besides.recorded path b name m).1 = some fault → ¬besides.Fluent :=
  told.tell keen _

/-- What is kept of a run, act by act. -/
theorem crew_kept (setup : Setup) (root : Path) :
    (setup.crew besides.recorded).Ensures root (Kept n tidings)
      (fun ending m => Kept n tidings m ∨ (∃ fault, ending = .broken fault) ∧ ¬besides.Fluent) where
  poll m hm _ := .inl hm
  announce path b _ :=
    Act.call_ensures (fun m hm none => (Kept.tell keen (m := { m with path }) hm _).1 none)
      (fun m fault hm broke => .inr ⟨⟨fault, rfl⟩, (Kept.tell keen (m := { m with path }) hm _).2 fault broke⟩)
  carryOut path b name _ _ := by
    rw [Act.ensures_iff]
    intro m hm
    have told : Kept n tidings (setup.told besides.recorded name m) :=
      setup.narrate_keeps (I := Kept n tidings) (fun r m kept => Kept.say keen kept r) _ hm
    obtain ⟨kept, broke⟩ := Kept.telling keen setup path b name told
    rw [Setup.carryOut_eq]
    split
    · generalize setup.telling besides.recorded path b name m = emitted at kept broke ⊢
      obtain ⟨_ | fault, m'⟩ := emitted
      · exact ⟨fun _ => kept rfl, fun _ => .inl (kept rfl)⟩
      · exact ⟨fun success => (by cases success), fun _ => .inr ⟨⟨fault, rfl⟩, broke fault rfl⟩⟩
    · exact ⟨fun success => (by cases success), fun _ => .inl told⟩
  skip path b why m _ hm := Kept.say keen hm _
  clamp path k _ := by
    have kept (m : Stage (υ × List Beat)) (hm : Kept n tidings m) :
        Kept n tidings (setup.clamp besides.recorded path k m).2 :=
      setup.clamp_keeps _ (I := Kept n tidings) (fun r m kept => Kept.say keen kept r) hm
    exact Act.call_ensures (fun m hm _ => kept m hm) (fun m fault hm _ => .inl (kept m hm))
  pause := Act.call_ensures (fun m hm _ => Kept.pause keen hm) (fun m fault hm _ => .inl (Kept.pause keen hm))
  rest := Act.call_ensures (fun m hm _ => Kept.checkpoint keen hm) (fun m fault hm _ => .inl (Kept.checkpoint keen hm))

/-- A run in which listeners keep what they are told, beside the run on record. They have kept all its events, unless
the telling has broken the run off. -/
theorem play_beside (h : besides.Shadows of around) (setup : Setup) (p : Program) (path : Path) {m : Stage υ}
    (blank : tidings m.world = []) :
    let done := setup.recording around p path (m.through of)
    let heard := setup.play besides p path m
    heard.1 = done.1 ∧ heard.2.through of = done.2.through Prod.fst ∧
      ((besides.Fluent ∨ ∀ fault, done.1 ≠ .broken fault) → tidings heard.2.world = Tidings.all n done.2.events) := by
  intro done heard
  have both : done = ((setup.recording besides p path m).1,
      (setup.recording besides p path m).2.through (Prod.map of id)) := h.recorded.play setup p path (m.keeping [])
  have one : heard = ((setup.recording besides p path m).1, (setup.recording besides p path m).2.through Prod.fst) :=
    play_recorded setup besides p path m
  have ensured := Act.ensures_iff.mp ((crew_kept keen setup path).runFrom p path 0 List.prefix_rfl) (m.keeping []) blank
  change ((setup.recording besides p path m).1 = .success → Kept n tidings (setup.recording besides p path m).2) ∧
    ((setup.recording besides p path m).1 ≠ .success → Kept n tidings (setup.recording besides p path m).2 ∨
      (∃ fault, (setup.recording besides p path m).1 = .broken fault) ∧ ¬besides.Fluent) at ensured
  rw [both, one]
  refine ⟨rfl, rfl, fun whole => ?_⟩
  by_cases success : (setup.recording besides p path m).1 = .success
  · exact ensured.1 success
  · rcases ensured.2 success with kept | ⟨⟨fault, broke⟩, stammer⟩
    · exact kept
    · exact absurd broke ((whole.resolve_left stammer) fault)

end Keen

end Beside

/-- The events on record are what every listener is told of, in order, unless the telling has broken the run off. -/
theorem play_heeded_recorded (setup : Setup) (around : Surroundings σ) (p : Program) (path : Path) (m : Stage σ) :
    let done := setup.recording around p path m
    (around.Spoken ∨ ∀ fault, done.1 ≠ .broken fault) →
      setup.play around.heeded p path (m.keeping []) =
        (done.1, (done.2.through Prod.fst).keeping (Tidings.all around.listeners.length done.2.events)) := by
  intro done whole
  obtain ⟨ending, left, tidings⟩ := play_beside around.heeded_keen around.heeded_shadows setup p path
    (m := m.keeping []) rfl
  exact Prod.ext ending (Stage.eq_keeping left (tidings (whole.imp_left Surroundings.Spoken.heeded_fluent)))

end Lamplighter
