/-
Lamplighter.Proofs.Run.Watching — one run, watched in different ways.

* `Surroundings.Agree` — two surroundings that treat stages of one attempt alike which belong together (`R`), at
  addresses that belong together (`P`); `play` — then runs before them come out side by side.
* `Surroundings.Keeps` — a property of the stage that everyone keeps who has a part in a run; then the run keeps it.
* `Stage.through`, `Surroundings.Shadows` — surroundings that do all that others do, and keep something besides.
* `Surroundings.heeded`, `heeded_shadows` — a run in which each listener keeps what it is told.
* `Surroundings.Aloof` — watchers who leave the attempt of a run alone, and what a crew does before them.
-/
import Lamplighter.Proofs.Run.Likeness

namespace Lamplighter

variable {σ τ α : Type}

/-! ## Surroundings side by side -/

/-- Two surroundings that treat stages alike which belong together (`R`), in runs whose setups may differ in what
is remarked on, at addresses that belong together (`P`). -/
structure Surroundings.Agree (setup setup' : Setup) (P : Path → Path → Prop) (R : Stage σ → Stage τ → Prop)
    (around : Surroundings σ) (around' : Surroundings τ) : Prop where
  board : setup'.board = setup.board
  rules : setup'.rules = setup.rules
  cap : setup'.cap = setup.cap
  below : ∀ x y i, P x y → P (x ++ [i]) (y ++ [i])
  attempt : ∀ m n, R m n → n.attempt = m.attempt
  cancelled : ∀ m n, R m n → n.cancelled = m.cancelled
  failure : ∀ m n, R m n → n.failure = m.failure
  walked : ∀ x y m n, P x y → R m n → R { m with path := x } { n with path := y }
  acted : ∀ attempt active failure m n, R m n →
    R { m with attempt, active, failure } { n with attempt, active, failure }
  emit : ∀ x y kind b success m n, P x y → R m n →
    (around'.emit kind y b success n).1 = (around.emit kind x b success m).1 ∧
      R (around.emit kind x b success m).2 (around'.emit kind y b success n).2
  narrate : ∀ deeds m n, R m n → R (setup.narrate around deeds m).2 (setup'.narrate around' deeds n).2
  skip : ∀ x y b why m n, P x y → R m n →
    R (around.say (Setup.skipRemark x b why) m) (around'.say (Setup.skipRemark y b why) n)
  clamp : ∀ x y k m n, P x y → R m n →
    R (around.say (Setup.clampRemark x k setup.cap) m) (around'.say (Setup.clampRemark y k setup.cap) n)
  pause : ∀ m n, R m n → (around'.pause n).1 = (around.pause m).1 ∧ R (around.pause m).2 (around'.pause n).2
  checkpoint : ∀ m n, R m n →
    (around'.checkpoint n).1 = (around.checkpoint m).1 ∧ R (around.checkpoint m).2 (around'.checkpoint n).2

namespace Surroundings.Agree

variable {setup setup' : Setup} {P : Path → Path → Prop} {R : Stage σ → Stage τ → Prop}
  {around : Surroundings σ} {around' : Surroundings τ}

/-- Surroundings that agree are alike, with the same attempts and the same deeds. -/
theorem like (h : around.Agree setup setup' P R around') : around.Like setup setup' Eq Eq P R around' where
  setups :=
    { cap := h.cap
      execute := by
        rintro name a _ rfl
        rw [h.board, h.rules]
        exact ⟨rfl, rfl, List.forall₂_same.mpr (fun _ _ => rfl)⟩
      onColor := by
        rintro color a _ rfl
        rw [h.board]
      tellable := by
        rintro d _ rfl
        rfl }
  below := h.below
  attempt m n together := (h.attempt m n together).symm
  cancelled := h.cancelled
  failure := h.failure
  walked := h.walked
  acted := by
    rintro a _ active failure m n rfl together
    exact h.acted a active failure m n together
  emit := h.emit
  narrate := by
    intro deeds deeds' m n same together
    rw [List.forall₂_eq_eq_eq] at same
    subst same
    exact h.narrate deeds m n together
  skip := h.skip
  clamp := h.clamp
  pause := h.pause
  checkpoint := h.checkpoint

/-- Runs before surroundings that agree end alike, and leave stages that belong together. -/
theorem play (h : around.Agree setup setup' P R around') (p : Program) {x y : Path} (hp : P x y) {m : Stage σ}
    {n : Stage τ} (together : R m n) :
    (setup'.play around' p y n).1 = (setup.play around p x m).1 ∧
      R (setup.play around p x m).2 (setup'.play around' p y n).2 :=
  h.like.play p hp together

end Surroundings.Agree

/-! ## What everyone keeps in a run -/

/-- Everyone who has a part in a run keeps a property of the stage: the walk, its commands, and those who watch. -/
structure Surroundings.Keeps (setup : Setup) (I : Stage σ → Prop) (around : Surroundings σ) : Prop where
  walked : ∀ m path active, I m → I { m with path, active }
  begun : ∀ name m, I m → I (setup.begin name m)
  told : ∀ l ∈ around.listeners, ∀ e m, e.kind ≠ .runFinished → I m → I (l e m).2
  printed : ∀ r m, I m → I (around.say r m)
  pause : ∀ m, I m → I (around.pause m).2
  checkpoint : ∀ m, I m → I (around.checkpoint m).2

namespace Surroundings.Keeps

variable {setup : Setup} {I : Stage σ → Prop} {around : Surroundings σ}

theorem emit (h : around.Keeps setup I) {kind : EventKind} (midrun : kind ≠ .runFinished) (path : Path) (b : Block)
    (success : Option Bool) {m : Stage σ} (hm : I m) : I (around.emit kind path b success m).2 :=
  around.tell_keeps _ h.printed (fun l hl m => h.told l hl _ m midrun) hm

theorem parted (h : around.Keeps setup I) {told : Option Fault × Stage σ} (hm : I told.2) : I (Stage.parted told) := by
  obtain ⟨_ | fault, m⟩ := told
  · exact h.walked m m.path none hm
  · exact hm

theorem crew_keeps (h : around.Keeps setup I) (root : Path) : (setup.crew around).Keeps root I (fun _ => True) where
  announce path b _ :=
    Act.call_keeps (fun m hm => h.emit (by simp) path b none (h.walked m path m.active hm)) (fun _ _ _ _ => trivial)
  perform path b name m _ hm := by
    have told : I (setup.told around name m) := setup.narrate_keeps h.printed _ (h.begun name m hm)
    have performed := setup.perform_eq around path b name m
    simp only [Setup.crew, performed]
    split
    · exact h.parted (h.emit (by simp) path b _ told)
    · exact told
  perform_fault _ _ _ _ _ _ _ _ := trivial
  skip path b why m _ hm := h.printed _ m hm
  clamp path n _ :=
    Act.call_keeps (fun m hm => setup.clamp_keeps _ h.printed hm) (fun _ _ _ _ => trivial)
  pause := h.pause
  pause_fault _ _ _ _ := trivial
  checkpoint := h.checkpoint
  checkpoint_fault _ _ _ _ := trivial

/-- A run keeps what everyone keeps who has a part in it. -/
theorem play (h : around.Keeps setup I) (p : Program) (path : Path) {m : Stage σ} (hm : I m) :
    I (setup.play around p path m).2 :=
  (Crew.runFrom_keeps (h.crew_keeps path) p path 0 List.prefix_rfl m hm).1

end Surroundings.Keeps

/-! ## Surroundings that keep something besides -/

namespace Stage

/-- A stage of which less of the world is seen. -/
def through (of : τ → σ) (m : Stage τ) : Stage σ :=
  ⟨m.attempt, m.cancelled, m.path, m.active, m.failure, of m.world⟩

/-- A stage with something kept besides. -/
def keeping (kept : α) (m : Stage σ) : Stage (σ × α) :=
  ⟨m.attempt, m.cancelled, m.path, m.active, m.failure, (m.world, kept)⟩

/-- A stage is what is seen of it with what is kept besides. -/
theorem eq_keeping {m : Stage (σ × α)} {n : Stage σ} {kept : α} (seen : m.through Prod.fst = n)
    (same : m.world.2 = kept) : m = n.keeping kept := by
  subst seen same
  rfl

@[simp] theorem through_keeping (kept : α) (m : Stage σ) : (m.keeping kept).through Prod.fst = m := rfl
@[simp] theorem keeping_world (kept : α) (m : Stage σ) : (m.keeping kept).world.2 = kept := rfl

end Stage

/-- A listener who does what another does, as far as that is seen (`of`). -/
def Listener.Shadows (of : τ → σ) (l : Listener τ) (l' : Listener σ) : Prop :=
  ∀ e m, (l e m).1 = (l' e (m.through of)).1 ∧ (l e m).2.through of = (l' e (m.through of)).2

/-- Surroundings that do what others do, as far as that is seen (`of`), and keep something besides. -/
structure Surroundings.Shadows (of : τ → σ) (around : Surroundings τ) (around' : Surroundings σ) : Prop where
  told : ∀ e m, (around.tell e around.listeners m).1 = (around'.tell e around'.listeners (m.through of)).1 ∧
    (around.tell e around.listeners m).2.through of = (around'.tell e around'.listeners (m.through of)).2
  pause : ∀ m, (around.pause m).1 = (around'.pause (m.through of)).1 ∧
    (around.pause m).2.through of = (around'.pause (m.through of)).2
  checkpoint : ∀ m, (around.checkpoint m).1 = (around'.checkpoint (m.through of)).1 ∧
    (around.checkpoint m).2.through of = (around'.checkpoint (m.through of)).2
  printed : ∀ r w, of (around.print r w) = around'.print r (of w)

namespace Surroundings.Shadows

variable {of : τ → σ} {around : Surroundings τ} {around' : Surroundings σ}

theorem say (printed : ∀ r w, of (around.print r w) = around'.print r (of w)) (r : Remark) (m : Stage τ) :
    (around.say r m).through of = around'.say r (m.through of) := by
  simp only [Surroundings.say, Stage.through, printed]

theorem hearing (printed : ∀ r w, of (around.print r w) = around'.print r (of w)) (e : Event) {l : Listener τ}
    {l' : Listener σ} (shadows : Listener.Shadows of l l') (m : Stage τ) :
    (around.hearing e l m).1 = (around'.hearing e l' (m.through of)).1 ∧
      (around.hearing e l m).2.through of = (around'.hearing e l' (m.through of)).2 := by
  obtain ⟨raised, left⟩ := shadows e m
  unfold Surroundings.hearing
  generalize l e m = came at raised left ⊢
  generalize l' e (m.through of) = came' at raised left ⊢
  obtain ⟨fault, n⟩ := came
  obtain ⟨fault', n'⟩ := came'
  obtain rfl : fault = fault' := raised
  obtain rfl : n.through of = n' := left
  cases fault with
  | none => exact ⟨rfl, rfl⟩
  | some fault =>
    dsimp only
    cases fault.wording with
    | ok text => exact ⟨rfl, say printed _ n⟩
    | error met => exact ⟨rfl, rfl⟩

theorem tell (printed : ∀ r w, of (around.print r w) = around'.print r (of w)) (e : Event)
    {ls : List (Listener τ)} {ls' : List (Listener σ)} (shadows : List.Forall₂ (Listener.Shadows of) ls ls')
    (m : Stage τ) :
    (around.tell e ls m).1 = (around'.tell e ls' (m.through of)).1 ∧
      (around.tell e ls m).2.through of = (around'.tell e ls' (m.through of)).2 := by
  induction shadows generalizing m with
  | nil => exact ⟨rfl, rfl⟩
  | @cons l l' ls ls' first rest ih =>
    obtain ⟨met, left⟩ := hearing printed e first m
    rw [tell_cons, tell_cons]
    generalize around.hearing e l m = heard at met left ⊢
    generalize around'.hearing e l' (m.through of) = heard' at met left ⊢
    obtain ⟨fault, n⟩ := heard
    obtain ⟨fault', n'⟩ := heard'
    obtain rfl : fault = fault' := met
    obtain rfl : n.through of = n' := left
    cases fault with
    | none => exact ih n
    | some met => exact ⟨rfl, rfl⟩

theorem refl (around : Surroundings σ) : around.Shadows id around where
  told _ _ := ⟨rfl, rfl⟩
  pause _ := ⟨rfl, rfl⟩
  checkpoint _ := ⟨rfl, rfl⟩
  printed _ _ := rfl

/-- Surroundings that do what the same others do agree, if what they keep besides goes on belonging together
(`K`). -/
theorem beside {υ : Type} {of' : υ → σ} {besides : Surroundings υ} (h : around.Shadows of around')
    (h' : besides.Shadows of' around') (setup : Setup) {K : τ → υ → Prop}
    (told : ∀ e m n, K m.world n.world →
      K (around.tell e around.listeners m).2.world (besides.tell e besides.listeners n).2.world)
    (pause : ∀ m n, K m.world n.world → K (around.pause m).2.world (besides.pause n).2.world)
    (checkpoint : ∀ m n, K m.world n.world → K (around.checkpoint m).2.world (besides.checkpoint n).2.world)
    (printed : ∀ r w w', K w w' → K (around.print r w) (besides.print r w')) :
    around.Agree setup setup Eq (fun m n => n.through of' = m.through of ∧ K m.world n.world) besides := by
  have said : ∀ r (m : Stage τ) (n : Stage υ), n.through of' = m.through of ∧ K m.world n.world →
      (besides.say r n).through of' = (around.say r m).through of ∧
        K (around.say r m).world (besides.say r n).world := by
    rintro r m n ⟨same, kept⟩
    refine ⟨?_, printed r _ _ kept⟩
    rw [say h.printed, say h'.printed, same]
  exact
    { board := rfl
      rules := rfl
      cap := rfl
      below := by rintro x _ i rfl; rfl
      attempt := fun m n together => congrArg Stage.attempt together.1
      cancelled := fun m n together => congrArg Stage.cancelled together.1
      failure := fun m n together => congrArg Stage.failure together.1
      walked := by
        rintro x _ m n rfl ⟨same, kept⟩
        exact ⟨congrArg (fun s : Stage σ => { s with path := x }) same, kept⟩
      acted := by
        rintro attempt active failure m n ⟨same, kept⟩
        exact ⟨congrArg (fun s : Stage σ => { s with attempt, active, failure }) same, kept⟩
      emit := by
        rintro x _ kind b success m n rfl ⟨same, kept⟩
        have attempt : n.attempt = m.attempt := congrArg Stage.attempt same
        rw [emit, emit, attempt]
        obtain ⟨met, left⟩ := h.told (Event.ofBlock kind x b success m.attempt) m
        obtain ⟨met', left'⟩ := h'.told (Event.ofBlock kind x b success m.attempt) n
        exact ⟨by rw [met, met', same], by rw [left, left', same], told _ m n kept⟩
      narrate := fun deeds m n together =>
        setup.narrate_together (S := fun m n => n.through of' = m.through of ∧ K m.world n.world)
          (fun m n together => congrArg Stage.path together.1) said deeds together
      skip := by
        rintro x _ b why m n rfl together
        exact said _ m n together
      clamp := by
        rintro x _ k m n rfl together
        exact said _ m n together
      pause := by
        rintro m n ⟨same, kept⟩
        obtain ⟨raised, left⟩ := h.pause m
        obtain ⟨raised', left'⟩ := h'.pause n
        exact ⟨by rw [raised, raised', same], by rw [left, left', same], pause m n kept⟩
      checkpoint := by
        rintro m n ⟨same, kept⟩
        obtain ⟨raised, left⟩ := h.checkpoint m
        obtain ⟨raised', left'⟩ := h'.checkpoint n
        exact ⟨by rw [raised, raised', same], by rw [left, left', same], checkpoint m n kept⟩ }

/-- What is kept besides changes nothing of a run. -/
theorem play (h : around.Shadows of around') (setup : Setup) (p : Program) (path : Path) (m : Stage τ) :
    setup.play around' p path (m.through of) =
      ((setup.play around p path m).1, (setup.play around p path m).2.through of) := by
  have agree := h.beside (.refl around') setup (K := fun _ _ => True) (fun _ _ _ _ => trivial)
    (fun _ _ _ => trivial) (fun _ _ _ => trivial) (fun _ _ _ _ => trivial)
  obtain ⟨ending, left⟩ := agree.play p (x := path) (n := m.through of) rfl ⟨rfl, trivial⟩
  exact Prod.ext ending left.1

end Surroundings.Shadows

/-! ## What each listener is told -/

/-- What listeners have been told, in order: which of them, and of which event. -/
abbrev Tidings := List (Nat × Event)

/-- Every one of `n` listeners is told of every event, in order. -/
def Tidings.all (n : Nat) (events : List Event) : Tidings :=
  events.flatMap fun e => (List.range n).map fun i => (i, e)

/-- `n` listeners, the first of which has the number `k`, are told of one event. -/
def Tidings.of (k n : Nat) (e : Event) : Tidings := (List.range' k n).map fun i => (i, e)

theorem Tidings.of_succ (k n : Nat) (e : Event) : of k (n + 1) e = (k, e) :: of (k + 1) n e := by
  rw [of, List.range'_succ, List.map_cons, of]

theorem Tidings.all_append (n : Nat) (events more : List Event) :
    all n (events ++ more) = all n events ++ all n more := List.flatMap_append

theorem Tidings.all_singleton (n : Nat) (e : Event) : all n [e] = of 0 n e := by
  rw [all, List.flatMap_singleton, List.range_eq_range', of]

namespace Surroundings

/-- A listener who keeps what it is told, and then does what it does. -/
def heed (i : Nat) (l : Listener σ) : Listener (σ × Tidings) := fun e m =>
  ((l e (m.through Prod.fst)).1, (l e (m.through Prod.fst)).2.keeping (m.world.2 ++ [(i, e)]))

/-- A hook that is awaited while listeners keep what they are told. -/
def aside (hook : Stage σ → Option Fault × Stage σ) (m : Stage (σ × Tidings)) :
    Option Fault × Stage (σ × Tidings) :=
  ((hook (m.through Prod.fst)).1, (hook (m.through Prod.fst)).2.keeping m.world.2)

/-- Surroundings in which every listener keeps what it is told. -/
def heeded (around : Surroundings σ) : Surroundings (σ × Tidings) where
  listeners := around.listeners.zipIdx.map fun x => heed x.2 x.1
  pause := aside around.pause
  checkpoint := aside around.checkpoint
  print r w := (around.print r w.1, w.2)

theorem heed_shadows (i : Nat) (l : Listener σ) : Listener.Shadows Prod.fst (heed i l) l := fun _ _ => ⟨rfl, rfl⟩

theorem forall₂_zipIdx {β γ : Type} {R : γ → β → Prop} {f : β × Nat → γ} (same : ∀ b i, R (f (b, i)) b)
    (l : List β) (k : Nat) : List.Forall₂ R ((l.zipIdx k).map f) l := by
  induction l generalizing k with
  | nil => exact .nil
  | cons b l ih => exact .cons (same b k) (ih (k + 1))

theorem heeded_shadows (around : Surroundings σ) : around.heeded.Shadows Prod.fst around where
  told e m := Shadows.tell (fun _ _ => rfl) e (forall₂_zipIdx (fun l i => heed_shadows i l) around.listeners 0) m
  pause _ := ⟨rfl, rfl⟩
  checkpoint _ := ⟨rfl, rfl⟩
  printed _ _ := rfl

/-- Every listener is told of an event, also when those before it have raised, unless the telling breaks off. -/
theorem heeded_tell (around : Surroundings σ) (e : Event) (m : Stage (σ × Tidings))
    (whole : (around.heeded.tell e around.heeded.listeners m).1 = none) :
    (around.heeded.tell e around.heeded.listeners m).2.world.2 =
      m.world.2 ++ Tidings.all around.listeners.length [e] := by
  have heard (k : Nat) (l : Listener σ) (m : Stage (σ × Tidings)) :
      (around.heeded.hearing e (heed k l) m).2.world.2 = m.world.2 ++ [(k, e)] :=
    around.heeded.hearing_keeps e (I := fun n => n.world.2 = m.world.2 ++ [(k, e)]) (fun _ _ same => same) rfl
  have from_ (k : Nat) (ls : List (Listener σ)) (m : Stage (σ × Tidings))
      (whole : (around.heeded.tell e ((ls.zipIdx k).map fun x => heed x.2 x.1) m).1 = none) :
      (around.heeded.tell e ((ls.zipIdx k).map fun x => heed x.2 x.1) m).2.world.2 =
        m.world.2 ++ Tidings.of k ls.length e := by
    induction ls generalizing k m with
    | nil => exact (List.append_nil _).symm
    | cons l rest ih =>
      have kept := heard k l m
      rw [List.zipIdx_cons, List.map_cons, tell_cons] at whole ⊢
      rw [List.length_cons, Tidings.of_succ]
      generalize around.heeded.hearing e (heed k l) m = came at kept whole ⊢
      obtain ⟨_ | fault, n⟩ := came
      · rw [ih (k + 1) n whole, show n.world.2 = _ from kept, List.append_assoc, List.singleton_append]
      · cases whole
  rw [Tidings.all_singleton]
  exact from_ 0 around.listeners m whole

end Surroundings

/-! ## Watchers who keep their hands off -/

/-- Watchers who leave the attempt of a run alone. They may raise, cancel the run or take that back, and do
whatever else they like. -/
structure Surroundings.Aloof (around : Surroundings σ) : Prop where
  told : ∀ l ∈ around.listeners, ∀ e m, (l e m).2.attempt = m.attempt
  pause : ∀ m, (around.pause m).2.attempt = m.attempt
  checkpoint : ∀ m, (around.checkpoint m).2.attempt = m.attempt

/-- Nobody who watches. -/
def deserted : Surroundings Unit := ⟨[], fun m => (none, m), fun m => (none, m), fun _ w => w⟩

theorem deserted_aloof : deserted.Aloof := ⟨fun l there => (by cases there), fun _ => rfl, fun _ => rfl⟩

namespace Surroundings.Aloof

variable {around : Surroundings σ} (aloof : around.Aloof) (setup : Setup) (x : Path) (b : Block) (m : Stage σ)

include aloof

theorem tell (e : Event) : (around.tell e around.listeners m).2.attempt = m.attempt :=
  tell_keeps around e (I := fun n => n.attempt = m.attempt) (fun _ _ same => same)
    (fun l hl _ same => (aloof.told l hl e _).trans same) rfl

theorem announce : ((setup.crew around).announce x b m).2.attempt = m.attempt := aloof.tell { m with path := x } _

/-- Before aloof watchers, a command changes the attempt as it does by itself. -/
theorem carryOut (name : String) :
    ((setup.crew around).carryOut x b name m).2.attempt = (setup.report name m).attempt := by
  have told : (setup.told around name m).attempt = (setup.report name m).attempt :=
    setup.narrate_keeps (I := fun n => n.attempt = (setup.report name m).attempt) (fun _ _ same => same) _ rfl
  rw [Setup.carryOut_eq]
  split
  · exact (Stage.parted_attempt _).trans ((aloof.tell _ _).trans told)
  · exact told

end Surroundings.Aloof

end Lamplighter
