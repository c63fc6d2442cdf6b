/-
Lamplighter.Run.Record — what was seen of a run.

* `Moment` — the kinds of thing that are noted: an event, a pause or a checkpoint that was awaited, a
  sleep, a printed line, and a step of a script.
* `Entry` — one thing noted, with what there was to see right after it.
* `Record` — the entries of a run, with the number of each kind, and the lines printed since the last.
* `Booth` — from where a run is watched.
-/
import Lamplighter.Run.Event

namespace Lamplighter

/-! ## Moments -/

/-- The kinds of thing that are noted about a run. -/
inductive Moment where
  | event (kind : EventKind)
  | pause
  | checkpoint
  | sleep
  | line
  | step
  deriving DecidableEq, Repr

namespace Moment

/-- The name of a kind. -/
def name : Moment → String
  | event kind => kind.name
  | pause => "pause"
  | checkpoint => "checkpoint"
  | sleep => "sleep"
  | line => "log"
  | step => "do"

/-- All kinds. -/
def all : List Moment := EventKind.all.map event ++ [pause, checkpoint, sleep, line, step]

/-- The kind that a name stands for. -/
def ofName? (s : String) : Option Moment := all.find? (fun m => m.name == s)

end Moment

/-! ## Entries -/

/-- One thing noted about a run. `seen` is what there was to see of the run right after it: for a step,
after the step. -/
inductive Entry (α ω : Type) where
  | line (text : String)
  | event (e : Event) (seen : ω)
  | pause (path : Path) (seen : ω)
  | checkpoint (path : Path) (seen : ω)
  | sleep (milliseconds : Int) (seen : ω)
  | step (name : String) (answer : α) (lines : List String) (seen : ω)

namespace Entry

variable {α ω : Type}

/-- The kind of an entry. -/
def moment : Entry α ω → Moment
  | line .. => .line
  | event e _ => .event e.kind
  | pause .. => .pause
  | checkpoint .. => .checkpoint
  | sleep .. => .sleep
  | step .. => .step

end Entry

/-! ## Tallies -/

/-- The number of entries of each kind; kinds that are not listed have none. -/
abbrev Tally := List (Moment × Nat)

namespace Tally

/-- The number of entries of a kind. -/
def count (tally : Tally) (m : Moment) : Nat := (tally.lookup m).getD 0

/-- One more entry of a kind. -/
def bump (m : Moment) : Tally → Tally
  | [] => [(m, 1)]
  | (k, n) :: rest => if k = m then (k, n + 1) :: rest else (k, n) :: bump m rest

@[simp] theorem count_nil (m : Moment) : count [] m = 0 := rfl

theorem count_cons (k : Moment) (n : Nat) (rest : Tally) (m : Moment) :
    count ((k, n) :: rest) m = if m = k then n else count rest m := by
  by_cases h : m = k
  · simp [count, h]
  · have : (m == k) = false := by simpa using h
    simp [count, List.lookup_cons, this, h]

/-- One more entry of a kind is seen at that kind and at no other. -/
theorem count_bump (tally : Tally) (m other : Moment) :
    (tally.bump m).count other = tally.count other + if other = m then 1 else 0 := by
  induction tally with
  | nil => by_cases h : other = m <;> simp [bump, count_cons, h]
  | cons entry rest ih =>
    obtain ⟨k, n⟩ := entry
    by_cases hk : k = m
    · subst hk
      by_cases ho : other = k <;> simp [bump, count_cons, ho]
    · by_cases ho : other = k
      · subst ho
        simp [bump, count_cons, hk]
      · simp [bump, count_cons, hk, ho, ih]

end Tally

/-! ## Records -/

/-- What was noted about a run, the newest entry first. `pending` are the lines printed since, the newest
first: they are noted just before the next entry. -/
structure Record (α ω : Type) where
  entries : List (Entry α ω) := []
  tally : Tally := []
  pending : List String := []

namespace Record

variable {α ω : Type}

/-- A record with one more entry. -/
def put (e : Entry α ω) (r : Record α ω) : Record α ω :=
  { r with entries := e :: r.entries, tally := r.tally.bump e.moment }

/-- The lines that are pending, in order. -/
def lines (r : Record α ω) : List String := r.pending.reverse

/-- A record with nothing pending. -/
def quiet (r : Record α ω) : Record α ω := { r with pending := [] }

/-- Note the lines that are pending. -/
def flush (r : Record α ω) : Record α ω :=
  r.pending.foldr (fun text r => r.put (.line text)) r.quiet

theorem foldr_put_line (lines : List String) (r : Record α ω) :
    (lines.foldr (fun text r => r.put (.line text)) r).entries = lines.map .line ++ r.entries ∧
      (lines.foldr (fun text r => r.put (.line text)) r).pending = r.pending := by
  induction lines with
  | nil => exact ⟨rfl, rfl⟩
  | cons text rest ih => exact ⟨congrArg (Entry.line text :: ·) ih.1, ih.2⟩

/-- The pending lines are noted in the order in which they were printed. -/
@[simp] theorem entries_flush (r : Record α ω) :
    r.flush.entries = r.pending.map .line ++ r.entries := (foldr_put_line r.pending r.quiet).1

@[simp] theorem pending_flush (r : Record α ω) : r.flush.pending = [] :=
  (foldr_put_line r.pending r.quiet).2

/-- Note an entry, after the lines that are pending. -/
def note (e : Entry α ω) (r : Record α ω) : Record α ω := r.flush.put e

@[simp] theorem entries_note (e : Entry α ω) (r : Record α ω) :
    (r.note e).entries = e :: (r.pending.map .line ++ r.entries) :=
  congrArg (e :: ·) r.entries_flush

/-- Print the lines of a remark. -/
def say (console : Console) (remark : Remark) (r : Record α ω) : Record α ω :=
  { r with pending := (console.write remark).reverse ++ r.pending }

/-- The entries in the order in which they were noted. -/
def inOrder (r : Record α ω) : List (Entry α ω) := r.entries.reverse

end Record

/-- From where runs are watched: where their remarks are printed, whether a listener notes their events, and how
many milliseconds are noted for a sleep of some seconds, or what is complained of instead. -/
structure Booth where
  console : Console
  listening : Bool := true
  clock : Binary64 → Except Complaint Int := fun _ => .ok 0
  deriving Inhabited

end Lamplighter
