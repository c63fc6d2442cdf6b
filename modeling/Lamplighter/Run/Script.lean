/-
Lamplighter.Run.Script — scripts: steps to be taken one after the other, and during each other.

* `Cue` — steps to take right after the n-th entry of a kind in the record of a run.
* `Player` — how one step is taken: on what it finds, with whoever responds to what is noted meanwhile.
* `Player.act` — the steps of a cue, each of them noted; `Player.response` — who takes the steps of the
  cues that are due.
* `Player.perform` — a script: the answer to each step, and the record of what was seen of it.

A step of a cue may itself run a program. What is seen of that run goes into the record of the run that is
going on, and may be what another cue waits for. An entry is the n-th of its kind only once, so steps of
cues are never nested deeper than there are cues.
-/
import Lamplighter.Run.Record

namespace Lamplighter

/-! ## Cues -/

/-- Steps to take right after the n-th entry of a kind, counted from one. -/
structure Cue (κ : Type) where
  moment : Moment
  count : Nat
  steps : List κ

/-- The steps to take right after the n-th entry of a kind. -/
def Cue.due {κ : Type} (cues : List (Cue κ)) (m : Moment) (n : Nat) : List κ :=
  (cues.filter (fun cue => cue.moment = m ∧ cue.count = n)).flatMap Cue.steps

/-! ## Responses -/

/-- What is done at the n-th entry of a kind. -/
abbrev Response (α ω : Type) := Moment → Nat → ω → Record α ω → Option Fault × ω × Record α ω

namespace Response

variable {α ω : Type}

/-- Nobody responds. -/
def silence : Response α ω := fun _ _ s r => (none, s, r)

/-- Note an entry, and respond to it. -/
def noting (response : Response α ω) (e : Entry α ω) (s : ω) (r : Record α ω) :
    Option Fault × ω × Record α ω :=
  let r := r.note e
  response e.moment (r.tally.count e.moment) s r

end Response

/-! ## Players -/

/-- How steps are taken. A step that raises ends the steps of its cue, and is not noted. -/
structure Player (κ α ω : Type) where
  name : κ → String
  raised? : κ → Option Complaint
  take : Response α ω → κ → ω → Record α ω → α × ω × Record α ω

/-- A step of a script, with the cues of the run that it starts. -/
structure Item (κ : Type) where
  step : κ
  cues : List (Cue κ) := []

/-- A step that was taken: its answer, what was seen of it, and what there was to see after it. -/
structure Turn (κ α ω : Type) where
  step : κ
  answer : α
  notes : Record α ω
  after : ω

namespace Player

variable {κ α ω : Type}

/-- Take steps in order, and note each with the lines that it printed last. -/
def act (player : Player κ α ω) (response : Response α ω) :
    List κ → ω → Record α ω → Option Fault × ω × Record α ω
  | [], s, r => (none, s, r)
  | step :: rest, s, r =>
    match player.raised? step with
    | some complaint => (some (.raised complaint), s, r)
    | none =>
      let (answer, s, r) := player.take response step s r
      player.act response rest s (r.quiet.note (.step (player.name step) answer r.lines s))

/-- Take the steps of the cues that are due; they are nested at most `depth` deep. -/
def response (player : Player κ α ω) (cues : List (Cue κ)) : (depth : Nat) → Response α ω
  | 0 => .silence
  | depth + 1 => fun m n s r => player.act (player.response cues depth) (Cue.due cues m n) s r

/-- Take the steps of a script in order. -/
def perform (player : Player κ α ω) : List (Item κ) → ω → List (Turn κ α ω)
  | [], _ => []
  | ⟨step, cues⟩ :: rest, s =>
    let (answer, s, notes) := player.take (player.response cues cues.length) step s {}
    ⟨step, answer, notes, s⟩ :: player.perform rest s

end Player

end Lamplighter
