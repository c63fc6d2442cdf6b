/-
Lamplighter.Proofs.Run.Cut — a run whose token is set at some moment, beside the run in which it is not.

* `Tail` — how a run ends once its token is set, and what the other goes on with.
* `Late` — two acts from stages that differ in the token; `Fresh` — two acts from one stage with the token
  unset, which are the same until it is set.
* `Tail.andThen`, `Late.andThen`, `Fresh.andThen` — one thing and then another.

On the way out of nested blocks a cancelled walk takes a checkpoint at the end of each. The numbers in these
relations bound how many: of `d`, the suspensions that there have been leave `n` if the walk has stopped, and
`s` if it still counts as a success and more may come.
-/
import Lamplighter.Proofs.Run.Onlookers
import Lamplighter.Proofs.Run.Pairing

namespace Lamplighter

variable {σ : Type}

/-! ## Logs -/

/-- A beat at which no block starts and no failure is told. -/
def Beat.plain (x : Beat) : Prop := x.starts = false ∧ x.failed = false

/-- A suspension of a cancelled run, with the attempt as it was. -/
structure Beat.Idle (a : Attempt) (x : Beat) : Prop where
  cancelled : x.cancelled = true
  silent : x.event? = none
  attempt : x.attempt = a

theorem Beat.plain_of_silent {x : Beat} (h : x.event? = none) : x.plain := by
  simp [Beat.plain, Beat.starts, Beat.failed, Beat.started?, h]

/-- Nothing starts, so the block that started last is the same. -/
theorem lastStarted_append_of_not_starts {log more : List Beat} (h : ∀ y ∈ more, y.starts = false) :
    lastStarted (log ++ more) = lastStarted log := by
  have none_started : more.filterMap Beat.started? = [] := by
    refine List.filterMap_eq_nil_iff.mpr (fun y hy => ?_)
    simpa [Beat.starts] using h y hy
  simp [lastStarted, none_started]

theorem lastStarted_append_of_starts {log : List Beat} {x : Beat} {path : Path}
    (h : x.started? = some path) : lastStarted (log ++ [x]) = path := by
  simp [lastStarted, h]

/-! ## After the token is set -/

/-- How a run `c` ends whose token has been set, and what the uncancelled run `f` does meanwhile, from two
logs of which `moment` is the last part. The cut run has failed right there; or it succeeds, and then so does
the other, with nothing but suspensions; or it is cancelled, and the other starts a block, unless one has
started in that moment. -/
inductive Tail (n s d : Nat) (moment cutLog fullLog : List Beat) (a : Attempt)
    (c f : Ending × Stage (σ × List Beat)) : Prop
  | failed (cut : c.1 = .failure) (full : f.1 = .failure) (cut_log : c.2.log = cutLog)
      (full_log : f.2.log = fullLog) (why : ∃ y ∈ moment, y.failed = true) (room : n ≤ d)
  | done (late after : List Beat) (cut : c.1 = .success) (full : f.1 = .success)
      (cut_log : c.2.log = cutLog ++ late) (full_log : f.2.log = fullLog ++ after)
      (idle : ∀ y ∈ late, y.Idle a) (plain : ∀ y ∈ moment, y.plain) (quiet : ∀ y ∈ after, y.event? = none)
      (going : f.2.cancelled = false) (same : f.2.attempt = a) (room : late.length + s ≤ d)
  | stopped (late after : List Beat) (cut : c.1 = .cancelled) (cut_log : c.2.log = cutLog ++ late)
      (full_log : f.2.log = fullLog ++ after) (idle : ∀ y ∈ late, y.Idle a)
      (unfailed : ∀ y ∈ moment, y.failed = false) (starts : ∃ y ∈ moment ++ after, y.starts = true)
      (room : late.length + n ≤ d)

/-- Two acts from stages that differ in the token: the first hardly does anything. -/
def Late (n s d : Nat) (a b : Act (Stage (σ × List Beat))) : Prop :=
  ∀ c f, c.cancelled = true → f.cancelled = false → f.attempt = c.attempt →
    (a c).2.cancelled = true ∧ (a c).2.attempt = c.attempt ∧
      Tail n s d [] c.log f.log c.attempt (a c) (b f)

/-- An act adds to the log only. -/
def Grows (b : Act (Stage (σ × List Beat))) : Prop :=
  ∀ log : List Beat, b.Keeps (fun m => log <+: m.log) (fun _ => True)

theorem Grows.log {b : Act (Stage (σ × List Beat))} (h : Grows b) (m : Stage (σ × List Beat)) :
    ∃ more, (b m).2.log = m.log ++ more := by
  obtain ⟨more, e⟩ := (h m.log m List.prefix_rfl).1
  exact ⟨more, e.symm⟩

/-- An act starts a block, unless the run is cancelled. -/
def Starts (b : Act (Stage (σ × List Beat))) : Prop :=
  ∀ f, f.cancelled = false → ∃ more, (b f).2.log = f.log ++ more ∧ ∃ y ∈ more, y.starts = true

section Composition

variable {a a' b b' : Act (Stage (σ × List Beat))}

/-- What happens after the token is set, and then something more. -/
theorem Tail.andThen {n s d n' s' d' N S : Nat} {moment cutLog fullLog : List Beat} {t : Attempt}
    {m m' : Stage (σ × List Beat)} (h : Tail n s d moment cutLog fullLog t (a m) (b m'))
    (cancelled : (a m).2.cancelled = true) (still : (a m).2.attempt = t) (late : Late n' s' d' a' b')
    (grows : Grows b') (hN : N ≤ n) (hN' : N + d' ≤ s + n') (hS : S + d' ≤ s + s') :
    ((a.andThen a') m).2.cancelled = true ∧ ((a.andThen a') m).2.attempt = t ∧
      Tail N S d moment cutLog fullLog t ((a.andThen a') m) ((b.andThen b') m') := by
  cases h with
  | failed cut full cut_log full_log why room =>
    rw [Act.andThen_of_ne (by simp [cut]), Act.andThen_of_ne (by simp [full])]
    exact ⟨cancelled, still, .failed cut full cut_log full_log why (by omega)⟩
  | stopped before after cut cut_log full_log idle unfailed starts room =>
    rw [Act.andThen_of_ne (by simp [cut])]
    refine ⟨cancelled, still, ?_⟩
    by_cases full : (b m').1 = .success
    · obtain ⟨more, grown⟩ := grows.log (b m').2
      obtain ⟨y, hy, start⟩ := starts
      rw [Act.andThen_of_success full]
      refine .stopped before (after ++ more) cut cut_log ?_ idle unfailed ⟨y, ?_, start⟩ (by omega)
      · rw [grown, full_log, List.append_assoc]
      · rw [← List.append_assoc]
        exact List.mem_append_left _ hy
    · rw [Act.andThen_of_ne full]
      exact .stopped before after cut cut_log full_log idle unfailed starts (by omega)
  | done before after cut full cut_log full_log idle plain quiet going same room =>
    obtain ⟨cancelled', still', tail⟩ := late (a m).2 (b m').2 cancelled going (same.trans still.symm)
    rw [Act.andThen_of_success cut, Act.andThen_of_success full]
    refine ⟨cancelled', still'.trans still, ?_⟩
    rw [still, cut_log, full_log] at tail
    cases tail with
    | failed cut' full' cut_log' full_log' why =>
      obtain ⟨y, hy, -⟩ := why
      cases hy
    | done next after' cut' full' cut_log' full_log' idle' plain' quiet' going' same' room' =>
      refine .done (before ++ next) (after ++ after') cut' full' ?_ ?_ ?_ plain ?_ going' same' ?_
      · rw [cut_log', List.append_assoc]
      · rw [full_log', List.append_assoc]
      · intro y hy
        exact (List.mem_append.mp hy).elim (idle y) (idle' y)
      · intro y hy
        exact (List.mem_append.mp hy).elim (quiet y) (quiet' y)
      · rw [List.length_append]
        omega
    | stopped next after' cut' cut_log' full_log' idle' unfailed' starts' room' =>
      obtain ⟨y, hy, start⟩ := starts'
      refine .stopped (before ++ next) (after ++ after') cut' ?_ ?_ ?_ (fun y hy => (plain y hy).2)
        ⟨y, ?_, start⟩ ?_
      · rw [cut_log', List.append_assoc]
      · rw [full_log', List.append_assoc]
      · intro y hy
        exact (List.mem_append.mp hy).elim (idle y) (idle' y)
      · exact List.mem_append_right _ (List.mem_append_right _ hy)
      · rw [List.length_append]
        omega

theorem Late.andThen {n s d n' s' d' N S : Nat} (h : Late n s d a b) (late : Late n' s' d' a' b')
    (grows : Grows b') (hN : N ≤ n := by omega) (hN' : N + d' ≤ s + n' := by omega)
    (hS : S + d' ≤ s + s' := by omega) : Late N S d (a.andThen a') (b.andThen b') := by
  intro c f cancelled going same
  obtain ⟨cancelled', still, tail⟩ := h c f cancelled going same
  exact tail.andThen cancelled' still late grows hN hN' hS

theorem Late.done (n d : Nat) : Late n d d (Act.done : Act (Stage (σ × List Beat))) Act.done := by
  intro c f cancelled going same
  refine ⟨cancelled, rfl, .done [] [] rfl rfl ?_ ?_ ?_ ?_ ?_ going same ?_⟩
  all_goals simp [Act.done]

end Composition

/-! ## Before the token is set -/

/-- How a run `c` and the uncancelled run `f` go on from one stage with the token unset. They are the same; or
the token is set in some moment `x` that both have on record, and the rest is as `Tail` says. A run that stays
the same stays at least `lo` deep. -/
inductive Apart (lo n s : Nat) (log : List Beat) (c f : Ending × Stage (σ × List Beat)) : Prop
  | same (more : List Beat) (both : c = f) (going : f.2.cancelled = false)
      (deep : lo ≤ (lastStarted f.2.log).length) (grown : f.2.log = log ++ more)
      (unheard : ∀ y ∈ more, y.cancelled = false) (unfailed : f.1 = .success → ∀ y ∈ more, y.failed = false)
  | cut (before : List Beat) (x : Beat) (unheard : ∀ y ∈ before ++ [x], y.cancelled = false)
      (unfailed : ∀ y ∈ before, y.failed = false) (cancelled : c.2.cancelled = true)
      (still : c.2.attempt = x.attempt)
      (tail : Tail n s (lastStarted (log ++ (before ++ [x]))).length [x] (log ++ (before ++ [x]))
        (log ++ (before ++ [x])) x.attempt c f)

/-- Two acts from one stage with the token unset, at least `lo` deep. -/
def Fresh (lo n s : Nat) (a b : Act (Stage (σ × List Beat))) : Prop :=
  ∀ m, m.cancelled = false → lo ≤ (lastStarted m.log).length → Apart lo n s m.log (a m) (b m)

theorem Tail.mono {n s d N S : Nat} {moment cutLog fullLog : List Beat} {t : Attempt}
    {c f : Ending × Stage (σ × List Beat)} (h : Tail n s d moment cutLog fullLog t c f) (hN : N ≤ n)
    (hS : S ≤ s) : Tail N S d moment cutLog fullLog t c f := by
  cases h with
  | failed cut full cut_log full_log why room =>
    exact .failed cut full cut_log full_log why (Nat.le_trans hN room)
  | done late after cut full cut_log full_log idle plain quiet going same room =>
    exact .done late after cut full cut_log full_log idle plain quiet going same (by omega)
  | stopped late after cut cut_log full_log idle unfailed starts room =>
    exact .stopped late after cut cut_log full_log idle unfailed starts (by omega)

namespace Apart

variable {lo n s N S : Nat} {log : List Beat} {c f : Ending × Stage (σ × List Beat)}

theorem mono (h : Apart lo n s log c f) (hN : N ≤ n) (hS : S ≤ s) : Apart lo N S log c f := by
  cases h with
  | same more both going deep grown unheard unfailed =>
    exact .same more both going deep grown unheard unfailed
  | cut before x unheard unfailed cancelled still tail =>
    exact .cut before x unheard unfailed cancelled still (tail.mono hN hS)

theorem lower {lo' : Nat} (h : Apart lo' n s log c f) (hlo : lo ≤ lo') : Apart lo n s log c f := by
  cases h with
  | same more both going deep grown unheard unfailed =>
    exact .same more both going (Nat.le_trans hlo deep) grown unheard unfailed
  | cut before x unheard unfailed cancelled still tail =>
    exact .cut before x unheard unfailed cancelled still tail

/-- What has been on record before, while nothing happened, comes before. -/
theorem prepend {first : List Beat} (h : Apart lo n s (log ++ first) c f)
    (unheard : ∀ y ∈ first, y.cancelled = false) (unfailed : ∀ y ∈ first, y.failed = false) :
    Apart lo n s log c f := by
  cases h with
  | same more both going deep grown unheard' unfailed' =>
    refine .same (first ++ more) both going deep ?_ ?_ ?_
    · rw [grown, List.append_assoc]
    · intro y hy
      exact (List.mem_append.mp hy).elim (unheard y) (unheard' y)
    · intro success y hy
      exact (List.mem_append.mp hy).elim (unfailed y) (unfailed' success y)
  | cut before x unheard' unfailed' cancelled still tail =>
    refine .cut (first ++ before) x ?_ ?_ cancelled still ?_
    · intro y hy
      rw [List.append_assoc] at hy
      exact (List.mem_append.mp hy).elim (unheard y) (unheard' y)
    · intro y hy
      exact (List.mem_append.mp hy).elim (unfailed y) (unfailed' y)
    · rw [List.append_assoc] at tail
      rwa [List.append_assoc]

end Apart

namespace Fresh

variable {lo n s : Nat} {a a' b b' : Act (Stage (σ × List Beat))}

/-- One thing, and then another: the token is set during the first, or during the second, or not at all. -/
theorem andThen {n' s' nL sL dL N S : Nat} (h : Fresh lo n s a b) (h' : Fresh lo n' s' a' b')
    (late : Late nL sL dL a' b') (grows : Grows b') (hN : N ≤ n := by omega) (hN' : N ≤ n' := by omega)
    (hS' : S ≤ s' := by omega) (roomN : N + dL ≤ s + nL := by omega) (roomS : S + dL ≤ s + sL := by omega) :
    Fresh lo N S (a.andThen a') (b.andThen b') := by
  intro m going deep
  cases h m going deep with
  | same more both going' deep' grown unheard unfailed =>
    by_cases success : (b m).1 = .success
    · have second := (h' (b m).2 going' deep').mono hN' hS'
      rw [Act.andThen_of_success (by rw [both, success]), Act.andThen_of_success success, both]
      rw [grown] at second
      exact second.prepend unheard (unfailed success)
    · rw [Act.andThen_of_ne (by rwa [both]), Act.andThen_of_ne success]
      exact .same more both going' deep' grown unheard unfailed
  | cut before x unheard unfailed cancelled still tail =>
    obtain ⟨cancelled', still', tail'⟩ := tail.andThen cancelled still late grows hN roomN roomS
    exact .cut before x unheard unfailed cancelled' still' tail'

end Fresh

end Lamplighter
