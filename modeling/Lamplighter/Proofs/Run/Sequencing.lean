/-
Lamplighter.Proofs.Run.Sequencing — one program after another.

* `Path.moved` — an address below another one, with the index right below that one moved on. Events, remarks, notes
  and stages are moved with the addresses that they name.
* `Surroundings.moved` — watchers to whom addresses are told as they are after the move. Those who pay no heed to
  addresses (`Heedless`) are the same before and after.
* `Crew.Agree.runFrom_later` — siblings walked from a later index, beside the same siblings walked from an earlier
  one.
* `play_append` — a program followed by another runs as the first and then, after a success, as the other, whose
  addresses go on where those of the first end.

The walk over `p ++ q` is by definition that over `p` and then over `q` from a later index (`Crew.runFrom_append`).
What is shown here is that a later index is nothing but a change of names: each address that is announced, told of,
or printed is the moved one, at any depth, and nothing else depends on it.
-/
import Lamplighter.Proofs.Run.Transcript
import Lamplighter.Proofs.Run.Unrolling

namespace Lamplighter

variable {σ : Type}

/-! ## Moved addresses -/

/-- An address whose index right below `root` is moved on by `n`. -/
def Path.moved (x root : Path) (n : Int) : Path := x.modify root.length (· + n)

namespace Path

variable (root : Path) (n : Int)

@[simp] theorem moved_nil : moved [] root n = [] := by simp [moved]

/-- To move an address on undoes moving it back. -/
@[simp] theorem moved_neg_moved (x : Path) : (x.moved root (-n)).moved root n = x := by
  have undone : (fun i => i + n) ∘ (fun i => i + -n) = @id Int := by
    funext i
    exact Int.neg_add_cancel_right i n
  rw [moved, moved, List.modify_modify_eq, undone, List.modify_id]

/-- To move an address back undoes moving it on. -/
@[simp] theorem moved_moved_neg (x : Path) : (x.moved root n).moved root (-n) = x := by
  simpa using moved_neg_moved root (-n) x

/-- Below an address that is moved, indices stay as they are. -/
theorem moved_below {x : Path} (deep : root.length < x.length) (i : Int) :
    moved (x ++ [i]) root n = x.moved root n ++ [i] := by
  refine List.ext_getElem? fun j => ?_
  simp only [moved, List.getElem?_modify, List.getElem?_append, List.length_modify]
  grind

/-- Right below the root, the index is moved. -/
theorem moved_root (i : Int) : moved (root ++ [i]) root n = root ++ [i + n] := by
  refine List.ext_getElem? fun j => ?_
  simp only [moved, List.getElem?_modify, List.getElem?_append]
  grind

end Path

/-- An event at a moved address. -/
def Event.moved (root : Path) (n : Int) (e : Event) : Event := { e with path := e.path.moved root n }

/-- A remark on a moved address. -/
def Remark.moved (root : Path) (n : Int) (r : Remark) : Remark := { r with path := r.path.moved root n }

/-- A note with the moved address. -/
def Note.moved (root : Path) (n : Int) : Note → Note
  | told e => told (e.moved root n)
  | paused x => paused (x.moved root n)
  | rested x => rested (x.moved root n)
  | said r => said (r.moved root n)

/-- A run that is at a moved address. -/
def Stage.moved (root : Path) (n : Int) (m : Stage σ) : Stage σ := { m with path := m.path.moved root n }

/-! ## Moved watchers -/

namespace Surroundings

/-- A hook that finds the run at a moved address. -/
def movedHook (root : Path) (n : Int) (hook : Stage σ → Option Fault × Stage σ) (m : Stage σ) :
    Option Fault × Stage σ :=
  ((hook (m.moved root n)).1, (hook (m.moved root n)).2.moved root (-n))

/-- A listener who is told of moved addresses. -/
def movedListener (root : Path) (n : Int) (l : Listener σ) : Listener σ := fun e =>
  movedHook root n (l (e.moved root n))

/-- Watchers to whom all addresses are moved. -/
def moved (around : Surroundings σ) (root : Path) (n : Int) : Surroundings σ where
  listeners := around.listeners.map (movedListener root n)
  pause := movedHook root n around.pause
  checkpoint := movedHook root n around.checkpoint
  print r := around.print (r.moved root n)

/-- Watchers who pay no heed to addresses. Whatever else they do, and be it to the run, they would do at any other
address too. -/
structure Heedless (around : Surroundings σ) : Prop where
  told : ∀ l ∈ around.listeners, ∀ e m x y,
    l { e with path := x } { m with path := y } = ((l e m).1, { (l e m).2 with path := y })
  pause : ∀ m y, around.pause { m with path := y } = ((around.pause m).1, { (around.pause m).2 with path := y })
  checkpoint : ∀ m y,
    around.checkpoint { m with path := y } = ((around.checkpoint m).1, { (around.checkpoint m).2 with path := y })
  printed : ∀ r x w, around.print { r with path := x } w = around.print r w

/-- A hook that pays no heed to addresses is the same at a moved one. -/
theorem movedHook_of_heedless {hook : Stage σ → Option Fault × Stage σ}
    (heedless : ∀ m y, hook { m with path := y } = ((hook m).1, { (hook m).2 with path := y })) (root : Path)
    (n : Int) : movedHook root n hook = hook := by
  funext m
  have there : hook (m.moved root n) = ((hook m).1, { (hook m).2 with path := m.path.moved root n }) :=
    heedless m (m.path.moved root n)
  have here : hook m = ((hook m).1, { (hook m).2 with path := m.path }) := heedless m m.path
  rw [movedHook, there]
  refine Eq.trans ?_ here.symm
  simp only [Stage.moved, Path.moved_moved_neg]

/-- Watchers who pay no heed to addresses are not changed by a move. -/
theorem Heedless.moved {around : Surroundings σ} (heedless : around.Heedless) (root : Path) (n : Int) :
    around.moved root n = around := by
  have listener : ∀ l ∈ around.listeners, movedListener root n l = l := by
    intro l there
    funext e m
    have hook : movedHook root n (l (e.moved root n)) = l (e.moved root n) :=
      movedHook_of_heedless (fun m y => heedless.told l there (e.moved root n) m (e.path.moved root n) y) root n
    have here := heedless.told l there e m e.path m.path
    rw [movedListener, hook]
    exact (heedless.told l there e m (e.path.moved root n) m.path).trans here.symm
  have listeners : around.listeners.map (movedListener root n) = around.listeners :=
    (List.map_congr_left listener).trans (List.map_id _)
  have printed : (fun r => around.print (r.moved root n)) = around.print :=
    funext fun r => funext fun w => heedless.printed r _ w
  rw [Surroundings.moved, listeners, movedHook_of_heedless heedless.pause, movedHook_of_heedless heedless.checkpoint,
    printed]

end Surroundings

/-! ## Two runs side by side -/

/-- A stage with its transcript at moved addresses, after other notes. -/
def Stage.after (root : Path) (n : Int) (before : List Note) (m : Stage (σ × List Note)) : Stage (σ × List Note) :=
  ((m.through Prod.fst).moved root n).keeping (before ++ m.transcript.map (Note.moved root n))

section Side

variable (around : Surroundings σ) (root : Path) (n : Int) (before : List Note)

theorem after_putDown (note : Note) (m : Stage (σ × List Note)) :
    (m.putDown note).after root n before = (m.after root n before).putDown (note.moved root n) := by
  simp [Stage.after, Stage.putDown, Stage.transcript, Stage.keeping, Stage.through, Stage.moved]

/-- A remark is printed at the moved address. -/
theorem after_say (r : Remark) (m : Stage (σ × List Note)) :
    ((around.moved root n).transcribed.say r m).after root n before =
      around.transcribed.say (r.moved root n) (m.after root n before) := by
  simp [Stage.after, Stage.transcript, Stage.keeping, Stage.through, Stage.moved, Surroundings.say,
    Surroundings.transcribed, Surroundings.moved, Note.moved]

/-- A hook is called at the moved address. -/
theorem after_hook {note : Path → Note} (moves : ∀ x, (note x).moved root n = note (x.moved root n))
    (hook : Stage σ → Option Fault × Stage σ) (m : Stage (σ × List Note)) :
    (Surroundings.minuted note hook (m.after root n before)).1 =
        (Surroundings.minuted note (Surroundings.movedHook root n hook) m).1 ∧
      (Surroundings.minuted note hook (m.after root n before)).2 =
        (Surroundings.minuted note (Surroundings.movedHook root n hook) m).2.after root n before := by
  refine ⟨rfl, ?_⟩
  simp [Surroundings.minuted, Surroundings.movedHook, Stage.after, moves, Stage.transcript, Stage.keeping,
    Stage.through, Stage.moved, Stage.putDown]

/-- A listener is told of the moved address. -/
theorem after_listener (l : Listener σ) (e : Event) (m : Stage (σ × List Note)) :
    (Surroundings.lift l (e.moved root n) (m.after root n before)).1 =
        (Surroundings.lift (Surroundings.movedListener root n l) e m).1 ∧
      (Surroundings.lift l (e.moved root n) (m.after root n before)).2 =
        (Surroundings.lift (Surroundings.movedListener root n l) e m).2.after root n before := by
  refine ⟨rfl, ?_⟩
  simp [Surroundings.lift, Surroundings.movedListener, Surroundings.movedHook, Stage.after, Stage.transcript,
    Stage.keeping, Stage.through, Stage.moved]

/-- What is remarked on a listener who raises stays at no address. -/
theorem after_hearing (l : Listener σ) (e : Event) (m : Stage (σ × List Note)) :
    around.transcribed.hearing (e.moved root n) (Surroundings.lift l) (m.after root n before) =
      let heard := (around.moved root n).transcribed.hearing e (Surroundings.lift (Surroundings.movedListener root n l)) m
      (heard.1, heard.2.after root n before) := by
  have told : Surroundings.lift l (e.moved root n) (m.after root n before) =
      ((Surroundings.lift (Surroundings.movedListener root n l) e m).1,
        (Surroundings.lift (Surroundings.movedListener root n l) e m).2.after root n before) :=
    Prod.ext (after_listener root n before l e m).1 (after_listener root n before l e m).2
  unfold Surroundings.hearing
  rw [told]
  rcases Surroundings.lift (Surroundings.movedListener root n l) e m with ⟨_ | fault, m'⟩
  · rfl
  · dsimp only
    cases fault.wording with
    | ok text =>
      dsimp only
      rw [after_say, Remark.moved, Surroundings.complaintRemark, Path.moved_nil]
    | error met => rfl

/-- All are told of the moved address. -/
theorem after_tell (e : Event) (m : Stage (σ × List Note)) :
    around.transcribed.tell (e.moved root n) around.transcribed.listeners (m.after root n before) =
      let told := (around.moved root n).transcribed.tell e (around.moved root n).transcribed.listeners m
      (told.1, told.2.after root n before) := by
  have rest : ∀ (ls : List (Listener σ)) m,
      around.transcribed.tell (e.moved root n) (ls.map Surroundings.lift) (m.after root n before) =
        (((around.moved root n).transcribed.tell e
            ((ls.map (Surroundings.movedListener root n)).map Surroundings.lift) m).1,
          ((around.moved root n).transcribed.tell e
            ((ls.map (Surroundings.movedListener root n)).map Surroundings.lift) m).2.after root n before) := by
    intro ls
    induction ls with
    | nil => exact fun _ => rfl
    | cons l ls ih =>
      intro m
      simp only [List.map_cons, Surroundings.tell_cons]
      rw [after_hearing]
      rcases (around.moved root n).transcribed.hearing e
        (Surroundings.lift (Surroundings.movedListener root n l)) m with ⟨_ | fault, m'⟩
      · exact ih m'
      · rfl
  have scribed := after_putDown root n before (.told e) m
  have told := congrArg (around.transcribed.tell (e.moved root n) (around.listeners.map Surroundings.lift)) scribed
  exact told.symm.trans (rest around.listeners (m.putDown (.told e)))

/-- Addresses below a root that belong together: an address, and that address moved. -/
def Path.Moves (root : Path) (n : Int) (x y : Path) : Prop := root.length < x.length ∧ y = x.moved root n

/-- A run before watchers to whom all addresses are moved, and a run at the moved addresses after other notes. -/
theorem moved_agree (setup : Setup) :
    (around.moved root n).transcribed.Agree setup setup (Path.Moves root n)
      (fun m m' => m' = m.after root n before) around.transcribed where
  board := rfl
  rules := rfl
  cap := rfl
  below := by
    rintro x _ i ⟨deep, rfl⟩
    exact ⟨by simp; omega, (Path.moved_below root n deep i).symm⟩
  attempt := by rintro m _ rfl; rfl
  cancelled := by rintro m _ rfl; rfl
  failure := by rintro m _ rfl; rfl
  walked := by rintro x _ m _ ⟨-, rfl⟩ rfl; rfl
  acted := by rintro attempt active failure m _ rfl; rfl
  emit := by
    rintro x _ kind b success m _ ⟨-, rfl⟩ rfl
    exact Prod.ext_iff.mp (after_tell around root n before (Event.ofBlock kind x b success m.attempt) m)
  narrate := by
    intro deeds m m' together
    refine setup.narrate_abreast (S := fun m m' => m' = m.after root n before) ?_ together
    rintro deed - m _ rfl
    exact (after_say around root n before (Setup.remark m.path deed) m).symm
  skip := by
    rintro x _ b why m _ ⟨-, rfl⟩ rfl
    exact (after_say around root n before (Setup.skipRemark x b why) m).symm
  clamp := by
    rintro x _ k m _ ⟨-, rfl⟩ rfl
    exact (after_say around root n before (Setup.clampRemark x k setup.cap) m).symm
  pause := by
    rintro m _ rfl
    exact after_hook root n before (fun _ => rfl) around.pause m
  checkpoint := by
    rintro m _ rfl
    exact after_hook root n before (fun _ => rfl) around.checkpoint m

end Side

/-! ## A later index -/

theorem Crew.Agree.runBlock {μ ν : Type} {P : Path → Path → Prop} {R : μ → ν → Prop} {Q : Ending → μ → ν → Prop}
    {c : Crew μ} {d : Crew ν} (h : c.Agree P R Q d) {x y : Path} (hp : P x y) (b : Block) :
    Act.Agree R Q (c.runBlock x b) (d.runBlock y b) := by
  rw [runBlock_eq, runBlock_eq]
  exact h.doTask hp b (fun kids _ => h.runFrom kids x y 0 hp)

/-- Siblings are walked side by side from different indices, if crews agree at the addresses of each of them. -/
theorem Crew.Agree.runFrom_later {μ ν : Type} {P : Path → Path → Prop} {R : μ → ν → Prop}
    {Q : Ending → μ → ν → Prop} {c : Crew μ} {d : Crew ν} (h : c.Agree P R Q d) {x y : Path} {n : Nat}
    (siblings : ∀ i : Nat, P (x ++ [(i : Int)]) (y ++ [((i + n : Nat) : Int)])) (p : List Block) (i : Nat) :
    Act.Agree R Q (c.runFrom x i p) (d.runFrom y (i + n) p) := by
  induction p generalizing i with
  | nil =>
    rw [runFrom_nil, runFrom_nil]
    exact Act.done_agree
  | cons b rest ih =>
    have there := siblings i
    have later := ih (i + 1)
    rw [Nat.add_right_comm] at later
    rw [runFrom_cons, runFrom_cons]
    exact Act.andThen_agree h.poll
      (Act.andThen_agree (h.announce _ _ b there)
        (Act.andThen_agree h.poll
          (Act.andThen_agree (Act.andThen_agree (h.runBlock there b) (h.settle b)) later)))

/-- Where a run is when it begins is seen by nobody: its first block is announced at its own address. -/
theorem runFrom_anywhere (setup : Setup) (around : Surroundings σ) (path : Path) (i : Nat) (p : List Block)
    (m : Stage σ) (x : Path) :
    ((setup.crew around).runFrom path i p { m with path := x }).1 = ((setup.crew around).runFrom path i p m).1 ∧
      ∃ y, ((setup.crew around).runFrom path i p { m with path := x }).2 =
        { ((setup.crew around).runFrom path i p m).2 with path := y } := by
  cases p with
  | nil =>
    rw [Crew.runFrom_nil]
    exact ⟨rfl, x, rfl⟩
  | cons b rest =>
    rw [Crew.runFrom_cons]
    generalize later : (setup.crew around).poll.andThen
      ((((setup.crew around).runBlock (path ++ [(i : Int)]) b).andThen ((setup.crew around).settle b)).andThen
        ((setup.crew around).runFrom path (i + 1) rest)) = walk
    have begun : ∀ n : Stage σ, (setup.crew around).poll.andThen ((Act.call
        ((setup.crew around).announce (path ++ [(i : Int)]) b)).andThen walk) n =
          if n.cancelled then (.cancelled, n)
          else (Act.call (around.emit .blockStarted (path ++ [(i : Int)]) b none)).andThen walk
            { n with path := path ++ [(i : Int)] } := by
      intro n
      cases stop : n.cancelled <;> simp [Act.andThen, Crew.poll, Act.call, Setup.crew, stop, Setup.announce]
    rw [begun, begun]
    split
    · exact ⟨rfl, x, rfl⟩
    · exact ⟨rfl, _, rfl⟩

/-- A program whose roots are walked from a later index, after other notes, comes out as it does from the first one
before watchers to whom all addresses are moved, and leaves the run at the moved address. -/
theorem runFrom_moved (setup : Setup) (around : Surroundings σ) (root : Path) (n : Nat) (before : List Note)
    (q : Program) (m : Stage σ) :
    let moved := setup.transcribing (around.moved root n) q root m
    let later := (setup.crew around.transcribed).runFrom root (0 + n) q ((m.keeping []).after root n before)
    later.1 = moved.1 ∧ later.2 = moved.2.after root n before := by
  have agree := (moved_agree around root n before setup).like.crew_agree
  have siblings : ∀ i : Nat, Path.Moves root n (root ++ [(i : Int)]) (root ++ [((i + n : Nat) : Int)]) := by
    intro i
    refine ⟨by simp, ?_⟩
    rw [Path.moved_root, Int.natCast_add]
  exact (agree.runFrom_later siblings q 0 (m.keeping []) _ rfl).left (fun _ _ _ left => left)

/-! ## One program after another -/

/-- A run that comes out as another one does after other notes: wherever it is left, all else is the same. -/
structure Stage.Continues (root : Path) (n : Int) (before : List Note) (m m' : Stage (σ × List Note)) : Prop where
  transcript : m'.transcript = before ++ m.transcript.map (Note.moved root n)
  attempt : m'.attempt = m.attempt
  failure : m'.failure = m.failure
  cancelled : m'.cancelled = m.cancelled
  active : m'.active = m.active
  world : m'.world.1 = m.world.1

theorem Stage.continues_of_after {root : Path} {n : Int} {before : List Note} {m m' : Stage (σ × List Note)}
    {x : Path} (left : m.after root n before = { m' with path := x }) : m.Continues root n before m' where
  transcript := (congrArg Stage.transcript left).symm
  attempt := (congrArg Stage.attempt left).symm
  failure := (congrArg Stage.failure left).symm
  cancelled := (congrArg Stage.cancelled left).symm
  active := (congrArg Stage.active left).symm
  world := (congrArg (fun m => m.world.1) left).symm

/-- A program followed by another runs as the first does, and if that does not succeed, this is all. If it does, the
run goes on as one of the other program does from there, with the indices of its roots moved on by the number of roots
of the first: its watchers are told, and its transcript shows, the moved addresses, and nothing else is different.
Watchers who pay no heed to addresses are no others than before. -/
theorem play_append (setup : Setup) (around : Surroundings σ) (p q : Program) (path : Path) (m : Stage σ) :
    let first := setup.transcribing around p path m
    let second := setup.transcribing (around.moved path p.length) q path (first.2.through Prod.fst)
    let whole := setup.transcribing around (p ++ q) path m
    (first.1 ≠ .success → whole = first) ∧
      (first.1 = .success → whole.1 = second.1 ∧
        second.2.Continues path p.length first.2.transcript whole.2) ∧
      (around.Heedless → around.moved path p.length = around) := by
  intro first second whole
  have run_whole : whole = (((setup.crew around.transcribed).runFrom path 0 p).andThen
      ((setup.crew around.transcribed).runFrom path (0 + p.length) q)) (m.keeping []) :=
    congrFun (Crew.runFrom_append _ path 0 p q) (m.keeping [])
  refine ⟨?_, ?_, fun heedless => heedless.moved path p.length⟩
  · intro stopped
    exact run_whole.trans (Act.andThen_of_ne stopped)
  · intro success
    have gone_on : whole = (setup.crew around.transcribed).runFrom path (0 + p.length) q first.2 :=
      run_whole.trans (Act.andThen_of_success success)
    -- the other program, from where the first leaves the run, except that the run is said to be elsewhere
    obtain ⟨ending, left⟩ := runFrom_moved setup around path p.length first.2.transcript q
      (first.2.through Prod.fst)
    obtain ⟨same_ending, elsewhere, same⟩ := runFrom_anywhere setup around.transcribed path (0 + p.length) q first.2
      (first.2.path.moved path p.length)
    have start : ((first.2.through Prod.fst).keeping []).after path p.length first.2.transcript =
        { first.2 with path := first.2.path.moved path p.length } := by
      simp [Stage.after, Stage.transcript, Stage.keeping, Stage.through, Stage.moved]
    rw [start, same_ending, ← gone_on] at ending
    rw [start, same, ← gone_on] at left
    exact ⟨ending, Stage.continues_of_after left.symm⟩

/-- Someone who is startled by every block that starts, and counts what there is to see. -/
def jumpy : Surroundings Nat where
  listeners :=
    [fun e m => (if e.kind = .blockStarted then some (.voiced "Oh") else none, { m with world := m.world + 1 })]
  pause m := (none, { m with world := m.world + 1 })
  checkpoint m := (none, { m with world := m.world + 1 })
  print _ w := w

theorem jumpy_heedless : jumpy.Heedless where
  told l there e m x y := by
    obtain rfl := List.mem_singleton.mp there
    rfl
  pause _ _ := rfl
  checkpoint _ _ := rfl
  printed _ _ _ := rfl

/-- A step ahead, and then, at index 1 and below it, the light that is there and a step off the board. -/
theorem play_append_alley :
    let start : Stage Nat := { attempt := { robot := ⟨⟨0, 0⟩, .east⟩ }, world := 0 }
    let step : Program := [.ofCommand (some "MOVE")]
    let first := alley.transcribing jumpy step [4] start
    let second := alley.transcribing jumpy winding [4] (first.2.through Prod.fst)
    let whole := alley.transcribing jumpy (step ++ winding) [4] start
    first.1 = .success ∧ whole.1 = .failure ∧
      Note.said ⟨.refusal, "Move to (2, 0) blocked", [4, 1, 1]⟩ ∈ whole.2.transcript ∧
      second.2.Continues [4] 1 first.2.transcript whole.2 := by
  have law := play_append alley jumpy [.ofCommand (some "MOVE")] winding [4]
    { attempt := { robot := ⟨⟨0, 0⟩, .east⟩ }, world := 0 }
  rw [law.2.2 jumpy_heedless] at law
  exact ⟨by decide +kernel, by decide +kernel, by decide +kernel, (law.2.1 (by decide +kernel)).2⟩

end Lamplighter
