/-
Lamplighter.Proofs.Run.Likeness — runs on boards that are alike.

* `Report.Like`, `Setup.Like` — setups that make the same of every command, in attempts that are alike (`T`), and with
  deeds that are alike (`D`).
* `Surroundings.Like` — surroundings that treat stages alike which belong together (`R`), at addresses that belong
  together (`P`), in runs with such setups.
* `Surroundings.Like.crew_agree`, `play` — runs before them come out side by side.

Runs whose attempts are the same are the case in which to be alike is to be equal.
-/
import Lamplighter.Proofs.Run.Pairing
import Lamplighter.Proofs.Run.Stage
import Mathlib.Data.List.Forall2

namespace Lamplighter

variable {σ τ : Type}

/-! ## Setups -/

/-- Reports of one command in two runs: they leave attempts that are alike, with the same refusal, and tell deeds that
are alike. -/
structure Report.Like (T : Attempt → Attempt → Prop) (D : Deed → Deed → Prop) (r r' : Report) : Prop where
  attempt : T r.attempt r'.attempt
  refusal : r'.refusal = r.refusal
  deeds : List.Forall₂ D r.deeds r'.deeds

/-- Two setups that make the same of every command and of every colour, in attempts that are alike. -/
structure Setup.Like (T : Attempt → Attempt → Prop) (D : Deed → Deed → Prop) (setup setup' : Setup) : Prop where
  cap : setup'.cap = setup.cap
  execute : ∀ name a a', T a a' →
    Report.Like T D (a.execute setup.board setup.rules name) (a'.execute setup'.board setup'.rules name)
  onColor : ∀ color a a', T a a' →
    setup'.board.hasColor a'.robot.position color = setup.board.hasColor a.robot.position color
  tellable : ∀ d d', D d d' → d'.isTellable = d.isTellable

/-- Deeds that are alike can be told alike. -/
theorem Setup.Like.all_tellable {T : Attempt → Attempt → Prop} {D : Deed → Deed → Prop} {setup setup' : Setup}
    (h : Setup.Like T D setup setup') {deeds deeds' : List Deed} (alike : List.Forall₂ D deeds deeds') :
    deeds'.all Deed.isTellable = deeds.all Deed.isTellable := by
  induction alike with
  | nil => rfl
  | cons first rest ih => rw [List.all_cons, List.all_cons, h.tellable _ _ first, ih]

/-! ## Surroundings -/

/-- Two surroundings that treat stages alike which belong together (`R`), at addresses that belong together (`P`), in
runs whose setups make the same of every command in attempts that are alike (`T`). -/
structure Surroundings.Like (setup setup' : Setup) (T : Attempt → Attempt → Prop) (D : Deed → Deed → Prop)
    (P : Path → Path → Prop) (R : Stage σ → Stage τ → Prop) (around : Surroundings σ) (around' : Surroundings τ) :
    Prop where
  setups : Setup.Like T D setup setup'
  below : ∀ x y i, P x y → P (x ++ [i]) (y ++ [i])
  attempt : ∀ m n, R m n → T m.attempt n.attempt
  cancelled : ∀ m n, R m n → n.cancelled = m.cancelled
  failure : ∀ m n, R m n → n.failure = m.failure
  walked : ∀ x y m n, P x y → R m n → R { m with path := x } { n with path := y }
  acted : ∀ a a' active failure m n, T a a' → R m n →
    R { m with attempt := a, active, failure } { n with attempt := a', active, failure }
  emit : ∀ x y kind b success m n, P x y → R m n →
    (around'.emit kind y b success n).1 = (around.emit kind x b success m).1 ∧
      R (around.emit kind x b success m).2 (around'.emit kind y b success n).2
  narrate : ∀ deeds deeds' m n, List.Forall₂ D deeds deeds' → R m n →
    R (setup.narrate around deeds m).2 (setup'.narrate around' deeds' n).2
  skip : ∀ x y b why m n, P x y → R m n →
    R (around.say (Setup.skipRemark x b why) m) (around'.say (Setup.skipRemark y b why) n)
  clamp : ∀ x y k m n, P x y → R m n →
    R (around.say (Setup.clampRemark x k setup.cap) m) (around'.say (Setup.clampRemark y k setup.cap) n)
  pause : ∀ m n, R m n → (around'.pause n).1 = (around.pause m).1 ∧ R (around.pause m).2 (around'.pause n).2
  checkpoint : ∀ m n, R m n →
    (around'.checkpoint n).1 = (around.checkpoint m).1 ∧ R (around.checkpoint m).2 (around'.checkpoint n).2

namespace Surroundings.Like

variable {setup setup' : Setup} {T : Attempt → Attempt → Prop} {D : Deed → Deed → Prop} {P : Path → Path → Prop}
  {R : Stage σ → Stage τ → Prop} {around : Surroundings σ} {around' : Surroundings τ}

/-- Only the active command changes. -/
theorem rest (h : around.Like setup setup' T D P R around') {m : Stage σ} {n : Stage τ} (together : R m n)
    (active : Option String) : R { m with active } { n with active } := by
  have acted := h.acted m.attempt n.attempt active m.failure m n (h.attempt m n together) together
  have same : ({ n with attempt := n.attempt, active, failure := m.failure } : Stage τ) = { n with active } := by
    rw [← h.failure m n together]
  rwa [same] at acted

/-- Both runs have told of a command. -/
theorem parted (h : around.Like setup setup' T D P R around') {told : Option Fault × Stage σ}
    {told' : Option Fault × Stage τ} (alike : told'.1 = told.1 ∧ R told.2 told'.2) :
    R (Stage.parted told) (Stage.parted told') := by
  obtain ⟨fault, m⟩ := told
  obtain ⟨fault', n⟩ := told'
  obtain ⟨rfl, together⟩ : fault' = fault ∧ R m n := alike
  cases fault' with
  | none => exact h.rest together none
  | some fault => exact together

/-- A command is carried out in both runs. -/
theorem carryOut (h : around.Like setup setup' T D P R around') {x y : Path} (hp : P x y) (b : Block) (name : String) :
    Act.Agree R (fun _ => R) ((setup.crew around).carryOut x b name) ((setup'.crew around').carryOut y b name) := by
  intro m n together
  obtain ⟨attempt, refusal, deeds⟩ : Report.Like T D (setup.report name m) (setup'.report name n) :=
    h.setups.execute name _ _ (h.attempt m n together)
  have ok : (setup'.report name n).ok = (setup.report name m).ok := by rw [Report.ok, Report.ok, refusal]
  have tellable : setup'.isTellable name n = setup.isTellable name m := h.setups.all_tellable deeds
  have begun : R (setup.begin name m) (setup'.begin name n) := by
    have acted := h.acted _ _ (some name) ((setup.report name m).refusal <|> m.failure) m n attempt together
    rw [Setup.begin, Setup.begin, refusal, h.failure m n together]
    exact acted
  have told : R (setup.told around name m) (setup'.told around' name n) := h.narrate _ _ _ _ deeds begun
  rw [Setup.carryOut_eq, Setup.carryOut_eq, tellable, ok]
  split
  · have emitted := h.emit x y .commandFinished b (some (setup.report name m).ok) _ _ hp told
    rw [Setup.telling, Setup.telling, ok]
    exact .of_left (congrArg (Ending.told _) emitted.1) (h.parted emitted)
  · exact .of_left rfl told

theorem call {f : Stage σ → Option Fault × Stage σ} {g : Stage τ → Option Fault × Stage τ}
    (alike : ∀ m n, R m n → (g n).1 = (f m).1 ∧ R (f m).2 (g n).2) :
    Act.Agree R (fun _ => R) (Act.call f) (Act.call g) :=
  Act.call_agree (fun m n together => (alike m n together).1) (fun m n together _ => (alike m n together).2)
    (fun m n _ together _ => (alike m n together).2)

theorem crew_agree (h : around.Like setup setup' T D P R around') :
    (setup.crew around).Agree P R (fun _ => R) (setup'.crew around') where
  below := h.below
  cap := h.setups.cap.symm
  poll := Crew.poll_agree h.cancelled (fun _ _ together _ => together)
  announce x y b hp := call fun m n together => h.emit x y .blockStarted b none _ _ hp (h.walked x y m n hp together)
  carryOut x y b name _ hp := h.carryOut hp b name
  onColor color m n together := (h.setups.onColor (.ofString color) _ _ (h.attempt m n together)).symm
  skip := h.skip
  clamp x y k hp := call fun m n together => by
    have clamped := h.clamp x y k m n hp together
    simp only [Setup.crew, Setup.clamp, h.setups.cap]
    split
    · exact ⟨rfl, clamped⟩
    · exact ⟨rfl, together⟩
  pause := call h.pause
  rest := call h.checkpoint

/-- Runs before surroundings that are alike end alike, and leave stages that belong together. -/
theorem play (h : around.Like setup setup' T D P R around') (p : Program) {x y : Path} (hp : P x y) {m : Stage σ}
    {n : Stage τ} (together : R m n) :
    (setup'.play around' p y n).1 = (setup.play around p x m).1 ∧
      R (setup.play around p x m).2 (setup'.play around' p y n).2 :=
  (h.crew_agree.runFrom p x y 0 hp m n together).left (fun _ _ _ left => left)

end Surroundings.Like

end Lamplighter
