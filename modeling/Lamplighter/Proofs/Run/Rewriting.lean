/-
Lamplighter.Proofs.Run.Rewriting — a program beside one that is made from it block by block.

* `Program.isNotable` — whether every loop that a run may come to can be remarked on.
* `Crew.Idles` — everything that a crew does but commands and pauses has some property.
* `Act.first_left`, `Crew.Idles.block_left` — something is done on one side alone, where it makes no difference.
* `Crew.runFrom_flatMap` — walks over a program and over what its blocks are written as, by induction over the
  program.
* `marks`, `Unchanged`, `Quiet` — what counts of a log, for any choice of what counts, and acts that leave it as
  it is.
* `InStep`, `InStep.carryOut` — runs that have come to the same so far, and commands that they carry out alike.
* `play_of_uncancelled` — onlookers who have not cancelled a run might as well have been patient.
-/
import Lamplighter.Proofs.Run.Bystanders
import Lamplighter.Proofs.Run.Interruption
import Lamplighter.Proofs.Run.Pairing

namespace Lamplighter

/-! ## Loops that can be remarked on -/

/-- Whether a loop that asks for `n` rounds can be remarked on, if it gets no more than `cap`. -/
def isNotable (cap n : Int) : Bool := n ≤ cap || (Numeral.isWritable n && Numeral.isWritable cap)

mutual

/-- Whether every loop that is run with a block can be remarked on. -/
def Block.isNotable (cap : Int) : Block → Bool
  | ⟨_, .loop, _, some n, _, some (kid :: kids)⟩ =>
    if n < 1 then true else Lamplighter.isNotable cap n && (cap < 1 || Program.isNotable cap (kid :: kids))
  | ⟨_, .ifColor, _, _, some _, some (kid :: kids)⟩ => Program.isNotable cap (kid :: kids)
  | _ => true
termination_by structural b => b

/-- Whether every loop of a program that may be run can be remarked on. -/
def Program.isNotable (cap : Int) : List Block → Bool
  | [] => true
  | b :: rest => b.isNotable cap && Program.isNotable cap rest
termination_by structural p => p

end

/-- The loops that are run with a block, by its task. -/
theorem Block.isNotable_eq (cap : Int) (b : Block) :
    b.isNotable cap =
      match b.task with
      | .loop n kids => Lamplighter.isNotable cap n && (cap < 1 || Program.isNotable cap kids)
      | .onColor _ kids => Program.isNotable cap kids
      | .command _ | .idle _ => true := by
  obtain ⟨id, kind, command, iterations, color, children⟩ := b
  cases kind with
  | command => cases command <;> rfl
  | loop =>
    rcases iterations with _ | n <;> rcases children with _ | _ | ⟨kid, kids⟩ <;> try rfl
    simp only [isNotable, task]
    split <;> rfl
  | ifColor => rcases color with _ | color <;> rcases children with _ | _ | ⟨kid, kids⟩ <;> rfl

/-- A loop that can be remarked on is run no time at all, or so can those of its children. -/
theorem Block.notable_loop {μ : Type} {crew : Crew μ} {b : Block} {n : Int} {kids : List Block}
    (task : b.task = .loop n kids) (notable : b.isNotable crew.cap = true) :
    Lamplighter.isNotable crew.cap n = true ∧
      (crew.rounds n = 0 ∨ Program.isNotable crew.cap kids = true) := by
  rw [isNotable_eq, task] at notable
  obtain ⟨own, below⟩ := Bool.and_eq_true_iff.mp notable
  refine ⟨own, (Bool.or_eq_true_iff.mp below).imp_left fun shut => ?_⟩
  have shut : crew.cap < 1 := of_decide_eq_true shut
  unfold Crew.rounds
  omega

/-- The children of a block for one colour may be run. -/
theorem Block.notable_onColor {cap : Int} {b : Block} {color : String} {kids : List Block}
    (task : b.task = .onColor color kids) (notable : b.isNotable cap = true) :
    Program.isNotable cap kids = true := by
  rwa [isNotable_eq, task] at notable

/-! ## What is done on one side alone -/

section Alone

variable {μ ν : Type} {R : μ → ν → Prop} {Q : Ending → μ → ν → Prop}

namespace Act

variable {a a' : Act μ} {b b' : Act ν}

/-- Something is done on the left alone, and then more on both sides. -/
theorem first_left (alone : Agree R Q a done) (then_ : Agree R Q a' b) : Agree R Q (a.andThen a') b :=
  andThen_agree (b := done) alone then_

/-- Something is done on the right alone, and then more on both sides. -/
theorem first_right (alone : Agree R Q done b) (then_ : Agree R Q a b') : Agree R Q a (b.andThen b') :=
  andThen_agree (a := done) alone then_

/-- Something is done on the left alone, when all else is done. -/
theorem last_left (agree : Agree R Q a b) (alone : Agree R Q a' done) : Agree R Q (a.andThen a') b := by
  rw [← andThen_done b]
  exact andThen_agree agree alone

/-- Something is done on the right alone, when all else is done. -/
theorem last_right (agree : Agree R Q a b) (alone : Agree R Q done b') : Agree R Q a (b.andThen b') := by
  rw [← andThen_done a]
  exact andThen_agree agree alone

/-- Something is done on the left alone, and something else on the right alone. -/
theorem each_alone (left : Agree R Q a done) (right : Agree R Q done b) : Agree R Q a b := by
  rw [← andThen_done a]
  exact first_left left right

/-- Something is done on the left alone, under whatever condition. -/
theorem cond_left {p : μ → Bool} (alone : Agree R Q a done) :
    Agree R Q (fun m => if p m then a m else (.success, m)) done := by
  intro m n together
  dsimp only
  split
  · exact alone m n together
  · exact .going together

/-- Something is done on the left alone, any number of times. -/
theorem times_left (alone : Agree R Q a done) (k : Nat) : Agree R Q (a.times k) done := by
  induction k with
  | zero => exact done_agree
  | succ k ih =>
    rw [times_succ]
    exact first_left alone ih

end Act

/-- Everything that a crew does but commands and pauses has some property. Of remarks on loops that is asked only
where they can be made. -/
structure Crew.Idles {μ : Type} (S : Act μ → Prop) (crew : Crew μ) : Prop where
  done : S Act.done
  poll : S crew.poll
  announce : ∀ path b, S (Act.call (crew.announce path b))
  skip : ∀ path b why, S (Act.change (crew.skip path b why))
  clamp : ∀ path n, crew.cap < n → isNotable crew.cap n = true → S (Act.call (crew.clamp path n))
  rest : S crew.rest

namespace Crew.Idles

variable {S : Act μ → Prop} {crew : Crew μ} {c : Crew μ} {d : Crew ν} {a : Act μ} {b : Act ν}

theorem mono {T : Act μ → Prop} (h : crew.Idles S) (more : ∀ a, S a → T a) : crew.Idles T where
  done := more _ h.done
  poll := more _ h.poll
  announce path b := more _ (h.announce path b)
  skip path b why := more _ (h.skip path b why)
  clamp path n beyond notable := more _ (h.clamp path n beyond notable)
  rest := more _ h.rest

theorem settle (h : crew.Idles S) (b : Block) : S (crew.settle b) := by
  unfold Crew.settle
  split
  · exact h.done
  · exact h.rest

theorem noteClamp (h : crew.Idles S) (path : Path) {n : Int} (notable : isNotable crew.cap n = true) :
    S (crew.noteClamp path n) := by
  unfold Crew.noteClamp
  split
  · rename_i beyond
    exact h.clamp path n beyond notable
  · exact h.done

/-- A block on the left by itself: what counts is its task. -/
theorem block_left (left : c.Idles (fun a => Act.Agree R Q a Act.done)) {x : Path} {i : Nat} {block : Block}
    (agree : ∀ x, Act.Agree R Q (c.doTask x block block.task) b) :
    Act.Agree R Q (c.runFrom x i [block]) b := by
  rw [runFrom_cons, runFrom_nil, Act.andThen_done, runBlock_eq]
  exact Act.first_left left.poll (Act.first_left (left.announce _ _)
    (Act.first_left left.poll (Act.last_left (agree _) (left.settle block))))

/-- A block on the right by itself. -/
theorem block_right (right : d.Idles (fun b => Act.Agree R Q Act.done b)) {y : Path} {j : Nat} {block : Block}
    (agree : ∀ y, Act.Agree R Q a (d.doTask y block block.task)) :
    Act.Agree R Q a (d.runFrom y j [block]) := by
  rw [runFrom_cons, runFrom_nil, Act.andThen_done, runBlock_eq]
  exact Act.first_right right.poll (Act.first_right (right.announce _ _)
    (Act.first_right right.poll (Act.last_right (agree _) (right.settle block))))

end Crew.Idles

/-- The walk over a program whose loops can be remarked on and the walk over what its blocks are written as come out
side by side, if they do for each block of which they do for the children. -/
theorem Crew.runFrom_flatMap {c : Crew μ} {d : Crew ν} {f : Block → List Block} {cap : Int}
    (block : ∀ b, b.isNotable cap = true →
      (∀ kids, b.children = some kids → Program.isNotable cap kids = true → ∀ x i y j,
        Act.Agree R Q (c.runFrom x i kids) (d.runFrom y j (kids.flatMap f))) →
      ∀ x i y j, Act.Agree R Q (c.runFrom x i [b]) (d.runFrom y j (f b)))
    {p : List Block} (notable : Program.isNotable cap p = true) (x : Path) (i : Nat) (y : Path) (j : Nat) :
    Act.Agree R Q (c.runFrom x i p) (d.runFrom y j (p.flatMap f)) := by
  -- a block is walked as a list of one, since it may be written as any number of blocks
  refine (Block.induction
    (P := fun b => b.isNotable cap = true → ∀ x i y j, Act.Agree R Q (c.runFrom x i [b]) (d.runFrom y j (f b)))
    (Q := fun p => Program.isNotable cap p = true → ∀ x i y j,
      Act.Agree R Q (c.runFrom x i p) (d.runFrom y j (p.flatMap f))) ?_ ?_ ?_).2 p notable x i y j
  · exact fun b kids_agree notable => block b notable kids_agree
  · intro _ x i y j
    rw [List.flatMap_nil, runFrom_nil, runFrom_nil]
    exact Act.done_agree
  · intro b rest block_agree rest_agree notable x i y j
    obtain ⟨first, later⟩ := Bool.and_eq_true_iff.mp notable
    have whole : c.runFrom x i (b :: rest) = (c.runFrom x i [b]).andThen (c.runFrom x (i + 1) rest) :=
      runFrom_append c x i [b] rest
    rw [whole, List.flatMap_cons, runFrom_append]
    exact Act.andThen_agree (block_agree first x i y j) (rest_agree later x (i + 1) y _)

end Alone

/-! ## What counts -/

variable {σ τ ι : Type}

/-- What counts of the beats of a run, where `f` says what counts of a moment. -/
def marks (f : Occasion → Option ι) (log : List Beat) : List ι := log.filterMap fun x => f x.occasion

/-- A stage after patient onlookers have acted on it: it is the same, with more that counts on the log. -/
abbrev Marked (f : Occasion → Option ι) (m : Stage (σ × List Beat)) (more : List ι)
    (m' : Stage (σ × List Beat)) : Prop :=
  Noted (fun _ => True) (fun w => marks f w.2) m more m'

section Patient

variable (f : Occasion → Option ι) (o : Onlookers σ)

theorem marks_append (log more : List Beat) : marks f (log ++ more) = marks f log ++ marks f more :=
  List.filterMap_append

theorem marks_singleton (x : Beat) : marks f [x] = (f x.occasion).toList := by
  cases counts : f x.occasion with
  | none => simp [marks, counts]
  | some y => simp [marks, counts]

theorem marked_heed (m : Stage (σ × List Beat)) (w : σ) : Marked f m [] (m.heed false w) where
  stage := by simp [Stage.heed]
  calm := trivial
  log := (List.append_nil _).symm

theorem marked_note (occasion : Occasion) (m : Stage (σ × List Beat)) :
    Marked f m (f occasion).toList (m.note occasion) where
  stage := rfl
  calm := trivial
  log := by
    rw [← marks_singleton f ⟨occasion, m.attempt, m.cancelled⟩, ← marks_append]
    rfl

/-- A hook is awaited. -/
theorem marked_attend (occasion : Occasion) (hook : Stage σ → Bool × σ) (m : Stage (σ × List Beat)) :
    Marked f m (f occasion).toList (Onlookers.attend occasion (Onlookers.calm hook) m).2 := by
  rw [← List.append_nil (f occasion).toList]
  exact (marked_note f occasion m).trans (marked_heed f _ _)

/-- Patient onlookers leave a run alone. -/
theorem patient_bystanders :
    Bystanders o.patient.around (fun _ => True) (fun w => marks f w.2) (fun occasion => (f occasion).toList) where
  told e m _ _ _ := by
    have printed (r : Remark) (w : σ × List Beat) (_ : True) :
        True ∧ marks f (o.patient.around.print r w).2 = marks f w.2 := ⟨trivial, rfl⟩
    have heard : Marked f (m.note (.told e)) []
        (o.patient.around.tell e (o.patient.listeners.map Onlookers.hear) (m.note (.told e))).2 := by
      refine Noted.tell printed (fun l hl m _ => ?_) trivial
      simp only [Onlookers.patient, List.map_map, List.mem_map, Function.comp_apply] at hl
      obtain ⟨l', -, rfl⟩ := hl
      exact marked_heed f m _
    rw [← List.append_nil (f (.told e)).toList]
    exact (marked_note f (.told e) m).trans heard
  pause m _ _ := marked_attend f .pause o.pause m
  checkpoint m _ _ := marked_attend f .checkpoint o.checkpoint m
  printed r w _ := ⟨trivial, rfl⟩

variable (setup : Setup) (path : Path) (b : Block) (m : Stage (σ × List Beat))

/-- A block starts. -/
theorem marked_announce :
    Marked f { m with path } (f (.told (Event.ofBlock .blockStarted path b none m.attempt))).toList
      ((setup.before o.patient).announce path b m).2 :=
  (patient_bystanders f o).announce setup path b trivial (o.patient.announce_none setup path b m)

/-- A command of a block. All are told of it, unless it breaks off. -/
theorem marked_carryOut (name : String) :
    if setup.isTellable name m then
      ((setup.before o.patient).carryOut path b name m).1 =
          (if (setup.report name m).ok then .success else .failure) ∧
        Marked f { setup.begin name m with active := none }
          (f (.told (Event.ofBlock .commandFinished path b (some (setup.report name m).ok)
            (setup.report name m).attempt))).toList
          ((setup.before o.patient).carryOut path b name m).2
    else
      ((setup.before o.patient).carryOut path b name m).1 = .broken .untellable ∧
        Marked f (setup.begin name m) [] ((setup.before o.patient).carryOut path b name m).2 := by
  have done := (patient_bystanders f o).carryOut setup path b name (m := m) trivial
  split at done
  · rename_i tellable
    rw [if_pos tellable]
    obtain ⟨fault, broke, -⟩ | done := done
    · rw [o.patient.telling_none] at broke
      cases broke
    · exact done
  · rename_i untellable
    rw [if_neg untellable]
    exact done

/-- A remark on a loop is made, or it breaks the run off. -/
theorem marked_clamp (n : Int) : Marked f m [] ((setup.before o.patient).clamp path n m).2 :=
  setup.clamp_keeps o.patient.around (I := Marked f m [])
    (fun r _ marked => marked.trans ((patient_bystanders f o).say r trivial)) (.refl trivial)

end Patient

/-! ## What does not count -/

/-- A stage on which nothing that counts has happened: the walk may be elsewhere, and the world another. -/
structure Unchanged (f : Occasion → Option ι) (m m' : Stage (σ × List Beat)) : Prop where
  cancelled : m'.cancelled = m.cancelled
  attempt : m'.attempt = m.attempt
  failure : m'.failure = m.failure
  marks : marks f m'.log = marks f m.log

/-- An act that succeeds, unless the run is cancelled, and changes nothing that counts. -/
def Quiet (f : Occasion → Option ι) (a : Act (Stage (σ × List Beat))) : Prop :=
  ∀ m, m.cancelled = false → (a m).1 = .success ∧ Unchanged f m (a m).2

section Quiet

variable {f : Occasion → Option ι}

theorem Noted.unchanged {m m' : Stage (σ × List Beat)} (h : Marked f m [] m') : Unchanged f m m' where
  cancelled := h.cancelled
  attempt := h.attempt
  failure := h.failure
  marks := h.log.trans (List.append_nil _)

/-- A hook that does not count. -/
theorem attend_quiet {occasion : Occasion} (hook : Stage σ → Bool × σ)
    (idle : f occasion = none) : Quiet f (Act.call (Onlookers.attend occasion (Onlookers.calm hook))) := by
  intro m _
  have marked := marked_attend f occasion hook m
  rw [idle] at marked
  exact ⟨rfl, marked.unchanged⟩

/-- What a crew does before patient onlookers changes nothing that counts, but for commands and pauses, if
neither blocks that start nor checkpoints count. -/
theorem crew_quiet (setup : Setup) (o : Onlookers σ)
    (starts : ∀ e, e.kind = .blockStarted → f (.told e) = none) (rests : f .checkpoint = none) :
    (setup.before o.patient).Idles (Quiet f) where
  done m _ := ⟨rfl, rfl, rfl, rfl, rfl⟩
  poll m going := by
    rw [poll_going setup going]
    exact ⟨rfl, rfl, rfl, rfl, rfl⟩
  announce path b m _ := by
    have noted := marked_announce f o setup path b m
    rw [starts _ rfl] at noted
    have noted := noted.unchanged
    rw [o.patient.call_announce]
    exact ⟨rfl, noted.cancelled, noted.attempt, noted.failure, noted.marks⟩
  skip path b why m _ := ⟨rfl, ((patient_bystanders f o).say _ trivial).unchanged⟩
  clamp path n beyond notable m _ := by
    have writable : (Numeral.isWritable n && Numeral.isWritable setup.cap) = true := by
      have short : ¬ n ≤ setup.cap := Int.not_le.mpr beyond
      have notable : isNotable setup.cap n = true := notable
      simpa [isNotable, short] using notable
    have said : ((setup.before o.patient).clamp path n m).1 = none := congrArg Prod.fst (if_pos writable)
    refine ⟨Act.call_eq_success.mpr said, ?_⟩
    rw [Act.call_left]
    exact (marked_clamp f o setup path m n).unchanged
  rest := attend_quiet o.checkpoint rests

end Quiet

/-! ## Runs that come to the same -/

/-- Stages of two runs that have come to the same so far. -/
structure InStep (f : Occasion → Option ι) (m : Stage (σ × List Beat)) (n : Stage (τ × List Beat)) : Prop where
  going : m.cancelled = false
  going' : n.cancelled = false
  attempt : n.attempt = m.attempt
  failure : n.failure = m.failure
  marks : marks f n.log = marks f m.log

section InStep

variable {f : Occasion → Option ι} {m : Stage (σ × List Beat)} {n : Stage (τ × List Beat)}

theorem InStep.left (h : InStep f m n) {m' : Stage (σ × List Beat)} (same : Unchanged f m m') :
    InStep f m' n where
  going := same.cancelled.trans h.going
  going' := h.going'
  attempt := h.attempt.trans same.attempt.symm
  failure := h.failure.trans same.failure.symm
  marks := h.marks.trans same.marks.symm

theorem InStep.right (h : InStep f m n) {n' : Stage (τ × List Beat)} (same : Unchanged f n n') :
    InStep f m n' where
  going := h.going
  going' := same.cancelled.trans h.going'
  attempt := same.attempt.trans h.attempt
  failure := same.failure.trans h.failure
  marks := same.marks.trans h.marks

/-- What counts of both is noted. -/
theorem InStep.noted (h : InStep f m n) {more : List ι} {m' : Stage (σ × List Beat)}
    {n' : Stage (τ × List Beat)} (left : Marked f m more m') (right : Marked f n more n') : InStep f m' n' where
  going := left.cancelled.trans h.going
  going' := right.cancelled.trans h.going'
  attempt := by rw [left.attempt, right.attempt, h.attempt]
  failure := by rw [left.failure, right.failure, h.failure]
  marks := by
    have left : Lamplighter.marks f m'.log = Lamplighter.marks f m.log ++ more := left.log
    have right : Lamplighter.marks f n'.log = Lamplighter.marks f n.log ++ more := right.log
    rw [left, right, h.marks]

theorem Quiet.left {a : Act (Stage (σ × List Beat))} (h : Quiet f a) :
    Act.Agree (InStep (τ := τ) f) (fun _ => InStep f) a Act.done := by
  intro m n together
  obtain ⟨success, same⟩ := h m together.going
  exact .of_left success.symm (together.left same)

theorem Quiet.right {b : Act (Stage (τ × List Beat))} (h : Quiet f b) :
    Act.Agree (InStep (σ := σ) f) (fun _ => InStep f) Act.done b := by
  intro m n together
  obtain ⟨success, same⟩ := h n together.going'
  exact .of_left success (together.right same)

/-- A command is carried out on both sides, at blocks whose events count alike. -/
theorem InStep.carryOut (setup : Setup) (o : Onlookers σ) (o' : Onlookers τ) {x y : Path} {b b' : Block}
    (alike : ∀ ok a, f (.told (Event.ofBlock .commandFinished x b ok a)) =
      f (.told (Event.ofBlock .commandFinished y b' ok a))) (name : String) :
    Act.Agree (InStep f) (fun _ => InStep f) ((setup.before o.patient).carryOut x b name)
      ((setup.before o'.patient).carryOut y b' name) := by
  intro m n together
  have report : setup.report name n = setup.report name m := by
    rw [Setup.report, Setup.report, together.attempt]
  have begun : InStep f (setup.begin name m) (setup.begin name n) :=
    { going := together.going
      going' := together.going'
      attempt := by simp only [Setup.begin, report]
      failure := by simp only [Setup.begin, report, together.failure]
      marks := together.marks }
  have left := marked_carryOut f o setup x b m name
  have right := marked_carryOut f o' setup y b' n name
  have same : setup.isTellable name n = setup.isTellable name m := by
    rw [Setup.isTellable, Setup.isTellable, report]
  rw [report, same, ← alike] at right
  split at left
  · rename_i tellable
    rw [if_pos tellable] at right
    have finished : InStep f { setup.begin name m with active := none }
        { setup.begin name n with active := none } :=
      { begun with }
    exact .of_left (right.1.trans left.1.symm) (finished.noted left.2 right.2)
  · rename_i untellable
    rw [if_neg untellable] at right
    exact .of_left (right.1.trans left.1.symm) (begun.noted left.2 right.2)

end InStep

/-! ## Runs that nobody cancels -/

section Uncancelled

variable (setup : Setup) (o : Onlookers σ) (p : Program) (path : Path) (m : Stage (σ × List Beat))

/-- The token is never taken back: a run that ends without it has begun without it. -/
theorem going_of_uncancelled (uncancelled : (setup.play o.around p path m).2.cancelled = false) :
    m.cancelled = false := by
  cases start : m.cancelled with
  | false => rfl
  | true =>
    have cancelled : (setup.play o.around p path m).2.cancelled = true :=
      (runFrom_late setup o path 0 p m { m with cancelled := false } start rfl rfl).1
    rw [uncancelled] at cancelled
    cases cancelled

/-- Onlookers who have not cancelled a run might as well have been patient. -/
theorem play_of_uncancelled (uncancelled : (setup.play o.around p path m).2.cancelled = false) :
    setup.play o.around p path m = setup.play o.patient.around p path m := by
  have going := going_of_uncancelled setup o p path m uncancelled
  have apart : Apart 0 path.length path.length m.log (setup.play o.around p path m)
      (setup.play o.patient.around p path m) :=
    runFrom_fresh setup o p path 0 0 (Nat.zero_le _) m going (Nat.zero_le _)
  cases apart with
  | same more both => exact both
  | cut before x _ _ cancelled =>
    rw [uncancelled] at cancelled
    cases cancelled

end Uncancelled

end Lamplighter
