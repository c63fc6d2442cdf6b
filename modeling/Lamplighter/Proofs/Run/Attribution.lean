/-
Lamplighter.Proofs.Run.Attribution — every remark of a run names the block that gave rise to it.

* `Path.text_injective` — no two addresses are written alike.
* `Surroundings.Discreet` — listeners who do not raise, and leave the run where it is.
* `Block.Utters` — the remarks that a block gives rise to: on what its command does, on being passed over, and on
  asking for too many rounds.
* `lastStart`, `Attribution` — a remark, after what is on the transcript, that names the block which started last, and
  that this block gives rise to.
* `transcribing_attributed` — all remarks of a run are.

Remarks on a command are made at the address that the run keeps for itself, the others at that of the block. The run
is left at a child when a block with children ends. So `Started` says that it is at the block's own address for as
long as the block has remarks to make, and nothing of the kind is known afterwards.
-/
import Lamplighter.Proofs.Run.Chronicle
import Lamplighter.Proofs.Run.Transcript
import Lamplighter.Proofs.Run.Unrolling
import Mathlib

namespace Lamplighter

variable {σ : Type}

/-! ## Addresses as text -/

/-- A number is written with some characters, none of which is a slash. -/
theorem toString_plain (i : Int) : (toString i).toList ≠ [] ∧ '/' ∉ (toString i).toList := by
  have digits : ∀ n : Nat, n.repr.toList ≠ [] ∧ '/' ∉ n.repr.toList := by
    intro n
    rw [Nat.toList_repr]
    refine ⟨Nat.toDigits_ne_nil, fun there => ?_⟩
    exact absurd (Nat.isDigit_of_mem_toDigits (by decide) (by decide) there) (by decide)
  change i.repr.toList ≠ [] ∧ '/' ∉ i.repr.toList
  rw [Int.repr_eq_if]
  split
  · exact digits _
  · simpa using (digits _).2

/-- An address is read back by cutting it at its slashes. The root alone has an empty text on either side of one. -/
theorem Path.splitOn_text (path : Path) : path.text.toList.splitOn '/' =
    if path = [] then [[], []] else path.map fun i => (toString i).toList := by
  cases path with
  | nil => decide
  | cons i rest =>
    rw [if_neg (List.cons_ne_nil i rest)]
    have apart : ∀ cs ∈ (i :: rest).map (fun j => (toString j).toList), '/' ∉ cs := by
      intro cs among
      obtain ⟨j, -, rfl⟩ := List.mem_map.mp among
      exact (toString_plain j).2
    have written : (Path.text (i :: rest)).toList =
        ['/'].intercalate ((i :: rest).map fun j => (toString j).toList) := by
      have text : Path.text (i :: rest) = "/".intercalate ((i :: rest).map toString) := rfl
      rw [text, String.toList_intercalate, List.map_map]
      rfl
    rw [written]
    exact List.splitOn_intercalate '/' apart (by simp)

/-- No two addresses are written alike. -/
theorem Path.text_injective : Function.Injective Path.text := by
  intro x y same
  have cut := congrArg (fun text => text.toList.splitOn '/') same
  simp only [splitOn_text] at cut
  have written : Function.Injective fun i : Int => (toString i).toList :=
    fun i j same => Int.repr_injective (String.toList_inj.mp same)
  have some : ∀ path : Path, [[], []] ≠ path.map fun i => (toString i).toList := by
    intro path same
    have empty : [] ∈ path.map fun i => (toString i).toList := same ▸ List.mem_cons_self
    obtain ⟨i, -, blank⟩ := List.mem_map.mp empty
    exact (toString_plain i).1 blank
  by_cases hx : x = [] <;> by_cases hy : y = []
  · rw [hx, hy]
  · rw [if_pos hx, if_neg hy] at cut
    exact absurd cut (some y)
  · rw [if_neg hx, if_pos hy] at cut
    exact absurd cut.symm (some x)
  · rw [if_neg hx, if_neg hy] at cut
    exact List.map_injective_iff.mpr written cut

/-! ## Discreet listeners -/

/-- Listeners who do not raise, and leave the run where it is. They may do anything else to it. -/
def Surroundings.Discreet (around : Surroundings σ) : Prop :=
  ∀ l ∈ around.listeners, ∀ e m, (l e m).1 = none ∧ (l e m).2.path = m.path

/-- Being told of an event keeps what every listener keeps who does not raise. -/
theorem Surroundings.tell_calm (around : Surroundings σ) {I : Stage σ → Prop} {e : Event} {ls : List (Listener σ)}
    (calm : ∀ l ∈ ls, ∀ m, I m → (l e m).1 = none ∧ I (l e m).2) {m : Stage σ} (hm : I m) :
    I (around.tell e ls m).2 := by
  induction ls generalizing m with
  | nil => exact hm
  | cons l rest ih =>
    obtain ⟨quiet, kept⟩ := calm l List.mem_cons_self m hm
    have came : l e m = (none, (l e m).2) := Prod.ext quiet rfl
    rw [tell_cons, hearing, came]
    exact ih (fun l later => calm l (List.mem_cons_of_mem _ later)) kept

/-- Discreet listeners are told of an event, and nothing else comes on the transcript. -/
theorem Surroundings.Discreet.tell {around : Surroundings σ} (discreet : around.Discreet) (e : Event)
    (m : Stage (σ × List Note)) :
    (around.transcribed.tell e around.transcribed.listeners m).2.transcript = m.transcript ++ [.told e] ∧
      (around.transcribed.tell e around.transcribed.listeners m).2.path = m.path := by
  have calm : ∀ l ∈ around.listeners.map Surroundings.lift, ∀ n : Stage (σ × List Note),
      n.transcript = m.transcript ++ [.told e] ∧ n.path = m.path →
        (l e n).1 = none ∧ (l e n).2.transcript = m.transcript ++ [.told e] ∧ (l e n).2.path = m.path := by
    rintro l among n ⟨transcript, path⟩
    obtain ⟨l, there, rfl⟩ := List.mem_map.mp among
    obtain ⟨quiet, still⟩ := discreet l there e (n.through Prod.fst)
    exact ⟨quiet, transcript, still.trans path⟩
  exact around.transcribed.tell_calm (m := m.putDown (.told e)) calm ⟨rfl, rfl⟩

/-! ## Attributions -/

/-- The remarks that a block at an address gives rise to: on what its command does to an attempt, on being passed
over, and on asking for too many rounds. -/
inductive Block.Utters (setup : Setup) (x : Path) (b : Block) (a : Attempt) : Remark → Prop
  | deed {name : String} {deed : Deed} (task : b.task = .command name)
      (done : deed ∈ (a.execute setup.board setup.rules name).deeds) : Utters setup x b a (Setup.remark x deed)
  | skipped {why : Idle} (task : b.task = .idle why) : Utters setup x b a (Setup.skipRemark x b why)
  | clamped {n : Int} {kids : List Block} (task : b.task = .loop n kids) (beyond : setup.cap < n) :
      Utters setup x b a (Setup.clampRemark x n setup.cap)

/-- What a block below the root gives rise to is printed with the address of the block. -/
theorem Block.Utters.printed {setup : Setup} {x : Path} {b : Block} {a : Attempt} {r : Remark}
    (uttered : b.Utters setup x a r) (below : x ≠ []) :
    Console.printed ⟨true⟩ r = s!"  {r.tone.tag} [Executor {x.text}] {r.message}" := by
  have about : r.tone.isAboutBlock = true ∧ r.path = x := by
    cases uttered with
    | deed _ _ =>
      refine ⟨?_, rfl⟩
      dsimp only [Setup.remark]
      split <;> rfl
    | skipped _ | clamped _ _ => exact ⟨rfl, rfl⟩
  obtain ⟨about, rfl⟩ := about
  rw [Console.printed, Console.paint, if_pos rfl, Remark.text, if_pos about, Remark.aboutBlock, if_neg below]
  simp [← String.toList_inj, ToString.toString]

/-- The event of the block that started last. -/
def lastStart (notes : List Note) : Option Event :=
  (notes.filterMap fun
    | .told e => if e.kind = .blockStarted then some e else none
    | _ => none).getLast?

theorem lastStart_started (notes : List Note) {e : Event} (starts : e.kind = .blockStarted) :
    lastStart (notes ++ [.told e]) = some e := by
  simp [lastStart, starts]

theorem lastStart_said (notes : List Note) (r : Remark) : lastStart (notes ++ [.said r]) = lastStart notes := by
  simp [lastStart]

/-- A remark is printed after what is on the transcript (`before`). The block that started last is where its event
(`e`) says, and gives rise to the remark in the attempt `a`, which the event shows unless a listener has changed it. -/
structure Attribution (setup : Setup) (around : Surroundings σ) (p : Program) (root : Path) (before : List Note)
    (r : Remark) (e : Event) (b : Block) (a : Attempt) : Prop where
  started : lastStart before = some e
  placed : Program.Found p root e.path b
  named : e.blockId = some b.id
  uttered : b.Utters setup e.path a r
  shown : around.Aloof → e.snapshot a.store.layout = a
  printed : Console.printed ⟨true⟩ r = s!"  {r.tone.tag} [Executor {e.path.text}] {r.message}"

/-- Every remark on a transcript can be attributed to the block that started last before it. -/
def AllAttributed (setup : Setup) (around : Surroundings σ) (p : Program) (root : Path) (notes : List Note) : Prop :=
  ∀ before r after, notes = before ++ .said r :: after → ∃ e b a, Attribution setup around p root before r e b a

section Run

variable (setup : Setup) (around : Surroundings σ) (p : Program) (root : Path)

/-- A run all of whose remarks so far can be attributed. -/
def Accounted (m : Stage (σ × List Note)) : Prop := AllAttributed setup around p root m.transcript

/-- A run all of whose remarks so far can be attributed, and in which a block has started whose remarks can be, too:
the run is where the block is, in the attempt that the start of the block has shown. -/
structure Started (x : Path) (b : Block) (m : Stage (σ × List Note)) : Prop where
  accounted : Accounted setup around p root m
  last : ∃ e, lastStart m.transcript = some e ∧ e.path = x ∧ e.blockId = some b.id ∧
    (around.Aloof → e.snapshot m.attempt.store.layout = m.attempt)
  here : m.path = x
  placed : Program.Found p root x b

variable {setup around p root}

theorem AllAttributed.concat {notes : List Note} (h : AllAttributed setup around p root notes) {note : Note}
    (last : ∀ r, note = .said r → ∃ e b a, Attribution setup around p root notes r e b a) :
    AllAttributed setup around p root (notes ++ [note]) := by
  intro before r after split
  rcases split_concat split with ⟨rfl, said, rfl⟩ | ⟨rest, rfl, earlier⟩
  · exact last r said.symm
  · exact h before r rest earlier

/-- The remarks of a block that has started are attributed to it. -/
theorem Started.attribution {x : Path} {b : Block} {m : Stage (σ × List Note)}
    (started : Started setup around p root x b m) {notes : List Note}
    (since : lastStart notes = lastStart m.transcript) {r : Remark} (uttered : b.Utters setup x m.attempt r) :
    ∃ e b a, Attribution setup around p root notes r e b a := by
  obtain ⟨e, last, rfl, named, shown⟩ := started.last
  have below : e.path ≠ [] := by
    obtain ⟨y, path, found⟩ := started.placed
    rw [path]
    intro empty
    rw [(List.append_eq_nil_iff.mp empty).2, Program.at?_nil] at found
    cases found
  exact ⟨e, b, m.attempt, since.trans last, started.placed, named, uttered, shown, uttered.printed below⟩

/-- A block that has started makes a remark, and is still the one that started last. -/
theorem Started.say {x : Path} {b : Block} {m : Stage (σ × List Note)} (started : Started setup around p root x b m)
    {r : Remark} (uttered : b.Utters setup x m.attempt r) :
    Started setup around p root x b (around.transcribed.say r m) where
  accounted := started.accounted.concat (fun r' said => by
    obtain rfl := Note.said.inj said
    exact started.attribution rfl uttered)
  last := by
    have last : lastStart (around.transcribed.say r m).transcript = lastStart m.transcript := lastStart_said _ r
    rw [last]
    exact started.last
  here := started.here
  placed := started.placed

/-- What is no remark leaves all as it is accounted for. -/
theorem Accounted.quiet {m n : Stage (σ × List Note)} (accounted : Accounted setup around p root m) {note : Note}
    (transcript : n.transcript = m.transcript ++ [note]) (quiet : ∀ r, note ≠ .said r) :
    Accounted setup around p root n := by
  rw [Accounted, transcript]
  exact accounted.concat (fun r said => absurd said (quiet r))

/-! ## The acts of a run -/

/-- A block starts: it is the one that started last, and the run is where it is. -/
theorem announce_started (discreet : around.Discreet) {x : Path} {b : Block} {m : Stage (σ × List Note)}
    (placed : Program.Found p root x b) (accounted : Accounted setup around p root m) :
    Started setup around p root x b ((setup.crew around.transcribed).announce x b m).2 := by
  obtain ⟨transcript, path⟩ := discreet.tell (Event.ofBlock .blockStarted x b none m.attempt) { m with path := x }
  refine
    { accounted := Accounted.quiet (m := m) accounted transcript (fun _ => nofun)
      last := ⟨Event.ofBlock .blockStarted x b none m.attempt, ?_, rfl, rfl, fun aloof => ?_⟩
      here := path
      placed }
  · exact (congrArg lastStart transcript).trans (lastStart_started _ rfl)
  · have seen := around.transcribed_shadows.told (Event.ofBlock .blockStarted x b none m.attempt) { m with path := x }
    have still : ((setup.crew around.transcribed).announce x b m).2.attempt = m.attempt :=
      (congrArg Stage.attempt seen.2).trans (aloof.tell (({ m with path := x } : Stage _).through Prod.fst) _)
    rw [still]
    rfl

/-- The command of a block is carried out: all that is remarked on meanwhile is a deed of that command. -/
theorem carryOut_accounted (discreet : around.Discreet) {x : Path} {b : Block} {name : String}
    (task : b.task = .command name) {m : Stage (σ × List Note)} (started : Started setup around p root x b m) :
    Accounted setup around p root ((setup.crew around.transcribed).carryOut x b name m).2 := by
  have begun : Accounted setup around p root (setup.begin name m) ∧ (setup.begin name m).path = x ∧
      lastStart (setup.begin name m).transcript = lastStart m.transcript :=
    ⟨started.accounted, started.here, rfl⟩
  have told : Accounted setup around p root (setup.told around.transcribed name m) := by
    refine (setup.narrate_keeps_each (I := fun n => Accounted setup around p root n ∧ n.path = x ∧
      lastStart n.transcript = lastStart m.transcript) ?_ begun).1
    rintro deed done n ⟨accounted, rfl, since⟩
    refine ⟨accounted.concat (fun r said => ?_), rfl, (lastStart_said _ _).trans since⟩
    obtain rfl := Note.said.inj said
    exact started.attribution since (.deed task done)
  rw [Setup.carryOut_eq]
  split
  · have noted := (discreet.tell (Event.ofBlock .commandFinished x b (some (setup.report name m).ok)
      (setup.told around.transcribed name m).attempt) (setup.told around.transcribed name m)).1
    exact told.quiet ((congrArg Prod.snd (Stage.parted_world _)).trans noted) (fun _ => nofun)
  · exact told

/-- A call that puts down no remark. -/
theorem call_accounted {hook : Stage (σ × List Note) → Option Fault × Stage (σ × List Note)}
    {P : Stage (σ × List Note) → Prop} (goes : ∀ m, P m → Accounted setup around p root (hook m).2) :
    (Act.call hook).Leads P (Accounted setup around p root) (fun _ => Accounted setup around p root) :=
  .call_through goes (fun _ _ accounted => accounted)

theorem rest_accounted {P : Stage (σ × List Note) → Prop} (accounted : ∀ m, P m → Accounted setup around p root m) :
    (setup.crew around.transcribed).rest.Leads P (Accounted setup around p root)
      (fun _ => Accounted setup around p root) :=
  call_accounted (fun m hm => (accounted m hm).quiet (n := (around.transcribed.checkpoint m).2) rfl (fun _ => nofun))

/-- The remarks of a run before discreet listeners, act by act. -/
theorem crew_accounted (discreet : around.Discreet) :
    (setup.crew around.transcribed).Course (Program.Found p root) (fun _ _ => Accounted setup around p root)
      (Started setup around p root) (Accounted setup around p root) (fun _ => Accounted setup around p root) where
  placed x b kids there children := .children there children
  next x i m accounted := accounted
  stopped x i m accounted _ := accounted
  stopped_started x b m started _ := started.accounted
  announce x i b placed :=
    .call_through (fun m accounted => announce_started discreet placed accounted)
      (fun _ _ started => started.accounted)
  command x b name placed task := by
    rw [Crew.command_eq]
    refine Act.Leads.andThen (S := Accounted setup around p root) ?_ (call_accounted (fun m accounted => ?_))
    · intro m started
      have accounted := carryOut_accounted discreet task started
      exact ⟨fun _ => accounted, fun _ => accounted⟩
    · exact accounted.quiet (n := (around.transcribed.pause m).2) rfl (fun _ => nofun)
  skip x b why m task started := started.say (.skipped task)
  clamp x b n kids task beyond := by
    refine .call_through (fun m started => ?_) (fun _ _ started => started.accounted)
    simp only [Setup.crew, Setup.clamp]
    split
    · exact started.say (.clamped task beyond)
    · exact started
  enter x b m _ _ started := started.accounted
  rest x b _ := rest_accounted (fun m started => started.accounted)
  rest_after := rest_accounted (fun m accounted => accounted)

end Run

/-- Every remark of a run is printed with the address of the block that started last, and this block gives rise to
it: the running one, if it is a remark on what a command does, and else the one that is passed over or asks for too
many rounds. As no two addresses are written alike, what is printed tells which block it is. -/
theorem transcribing_attributed (setup : Setup) {around : Surroundings σ} (discreet : around.Discreet) (p : Program)
    (root : Path) (m : Stage σ) :
    (∀ before r after, (setup.transcribing around p root m).2.transcript = before ++ .said r :: after →
      ∃ e b a, Attribution setup around p root before r e b a) ∧
      Function.Injective Path.text := by
  refine ⟨?_, Path.text_injective⟩
  have fresh : Accounted setup around p root (m.keeping []) := by
    intro before r after split
    have blank : ([] : List Note) = before ++ .said r :: after := split
    cases before <;> cases blank
  have walk := (crew_accounted discreet).run p root (.roots p root) (m.keeping []) fresh
  by_cases success : (setup.transcribing around p root m).1 = .success
  · exact (walk.1 success).elim id id
  · exact walk.2 success

/-- Someone who counts events, and nothing else. -/
def counting : Surroundings Nat where
  listeners := [fun _ m => (none, { m with world := m.world + 1 })]
  pause m := (none, m)
  checkpoint m := (none, m)
  print _ w := w

theorem counting_discreet : counting.Discreet := by
  intro l there e m
  obtain rfl := List.mem_singleton.mp there
  exact ⟨rfl, rfl⟩

/-- What is printed of a transcript. -/
def Note.printed? : Note → Option String
  | said r => some (Console.printed ⟨true⟩ r)
  | _ => none

theorem transcribing_attributed_winding :
    let start : Stage Nat := { attempt := { robot := ⟨⟨0, 0⟩, .east⟩ }, world := 0 }
    let notes := (alley.transcribing counting winding [] start).2.transcript
    notes.filterMap Note.printed? =
        ["  [?] [Executor 0] Loop asks for 9 iterations; clamped to 2",
          "  [•] [Executor 0/1] Move (0, 0) -> (1, 0)",
          "  [?] [Executor 0/0/0] Skipping LOOP block spare: loop without iterations or children",
          "  [•] [Executor 0/0/1] Light at (1, 0): goal lit",
          "  [!] [Executor 0/1] Move to (2, 0) blocked"] ∧
      ∀ before r after, notes = before ++ .said r :: after →
        ∃ e b a, Attribution alley counting winding [] before r e b a :=
  ⟨by decide +kernel, (transcribing_attributed alley counting_discreet winding [] _).1⟩

end Lamplighter
