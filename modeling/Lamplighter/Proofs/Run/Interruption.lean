/-
Lamplighter.Proofs.Run.Interruption — cancelling a run cuts it short, and changes nothing else.

* `Late.attend`, `Fresh.attend`, `Fresh.carryOut`, `Fresh.announce` — the acts of a crew, beside those of the
  crew whose onlookers never cancel.
* `runFrom_late`, `runFrom_fresh` — whole walks, by induction over the program.
* `CutShort`, `play_cutShort` — a run that is cancelled at any moment, beside the run that is not.
-/
import Lamplighter.Proofs.Run.Cut

namespace Lamplighter

variable {σ : Type} (setup : Setup) (o : Onlookers σ)

/-! ## Beats -/

/-- A beat of a run whose token is unset, at which nothing starts or fails. -/
theorem Apart.beat {lo n s : Nat} {log : List Beat} {x : Beat} {m c f : Stage (σ × List Beat)}
    (attended : Attended m c f) (noted : m.log = log ++ [x]) (attempt : m.attempt = x.attempt)
    (going : m.cancelled = false) (unheard : x.cancelled = false) (plain : x.plain)
    (deep : lo ≤ (lastStarted log).length) (hs : s ≤ lo) : Apart lo n s log (.success, c) (.success, f) := by
  have only : ∀ y ∈ [x], y = x := fun y hy => List.mem_singleton.mp hy
  have same_depth : lastStarted (log ++ [x]) = lastStarted log :=
    lastStarted_append_of_not_starts (fun y hy => by rw [only y hy]; exact plain.1)
  have full_log : f.log = log ++ [x] := attended.full_log.trans noted
  have full_going : f.cancelled = false := attended.full_cancelled.trans going
  rcases attended.same with rfl | cancelled
  · refine .same [x] rfl full_going ?_ full_log ?_ ?_
    · rwa [full_log, same_depth]
    · exact fun y hy => by rw [only y hy]; exact unheard
    · exact fun _ y hy => by rw [only y hy]; exact plain.2
  · refine .cut [] x ?_ ?_ cancelled (attended.cut_attempt.trans attempt) ?_
    · exact fun y hy => by rw [only y hy]; exact unheard
    · exact fun y hy => by cases hy
    · refine .done [] [] rfl rfl ?_ ?_ ?_ ?_ ?_ full_going (attended.full_attempt.trans attempt) ?_
      · rw [List.append_nil]
        exact attended.cut_log.trans noted
      · rw [List.append_nil]
        exact full_log
      · exact fun y hy => by cases hy
      · exact fun y hy => by rw [only y hy]; exact plain
      · exact fun y hy => by cases hy
      · rw [List.nil_append, same_depth, List.length_nil]
        omega

/-! ## Hooks -/

section Hooks

variable {occasion : Occasion} (silent : ∀ e, occasion ≠ .told e) (hook : Stage σ → Bool × σ)

include silent

theorem Beat.silent_of_hook (a : Attempt) (cancelled : Bool) :
    (Beat.mk occasion a cancelled).event? = none := by
  unfold Beat.event?
  cases occasion with
  | told e => exact absurd rfl (silent e)
  | pause | checkpoint => rfl

/-- A suspension of a cancelled run. -/
theorem Late.attend (n s : Nat) :
    Late n s (s + 1) (Act.call (Onlookers.attend occasion hook))
      (Act.call (Onlookers.attend occasion (Onlookers.calm hook))) := by
  intro c f cancelled going same
  have cut := Onlookers.attend_attended occasion hook c
  have full := Onlookers.attend_attended occasion hook f
  refine ⟨cut.cut_cancelled cancelled, cut.cut_attempt, ?_⟩
  refine .done _ _ rfl rfl cut.cut_log full.full_log ?_ ?_ ?_ (full.full_cancelled.trans going)
    (full.full_attempt.trans same) ?_
  · intro y hy
    rw [List.mem_singleton.mp hy]
    exact ⟨cancelled, Beat.silent_of_hook silent _ _, rfl⟩
  · exact fun y hy => by cases hy
  · intro y hy
    rw [List.mem_singleton.mp hy]
    exact Beat.silent_of_hook silent _ _
  · rw [List.length_singleton]
    omega

/-- A suspension, during which the token may be set. -/
theorem Fresh.attend {lo n s : Nat} (hs : s ≤ lo) :
    Fresh lo n s (Act.call (Onlookers.attend occasion hook))
      (Act.call (Onlookers.attend occasion (Onlookers.calm hook))) := by
  intro m going deep
  have attended := Onlookers.attend_attended occasion hook m
  exact .beat attended rfl rfl going going (Beat.plain_of_silent (Beat.silent_of_hook silent _ _)) deep hs

end Hooks

/-! ## Looks at the token -/

section Poll

variable {a b : Act (Stage (σ × List Beat))}

theorem poll_going {around : Surroundings (σ × List Beat)} {m : Stage (σ × List Beat)}
    (going : m.cancelled = false) : (setup.crew around).poll m = (.success, m) := by
  simp [Crew.poll, Setup.crew, going]

theorem poll_of_going {around : Surroundings (σ × List Beat)} {m : Stage (σ × List Beat)}
    (going : m.cancelled = false) : ((setup.crew around).poll.andThen a) m = a m := by
  have looked : (setup.crew around).poll m = (.success, m) := poll_going setup going
  rw [Act.andThen_of_success (by rw [looked]), looked]

theorem poll_of_cancelled {around : Surroundings (σ × List Beat)} {m : Stage (σ × List Beat)}
    (cancelled : m.cancelled = true) : ((setup.crew around).poll.andThen a) m = (.cancelled, m) := by
  have looked : (setup.crew around).poll m = (.cancelled, m) := by
    simp [Crew.poll, Setup.crew, cancelled]
  rw [Act.andThen_of_ne (by rw [looked]; simp), looked]

theorem Fresh.poll {lo n s : Nat} (h : Fresh lo n s a b) :
    Fresh lo n s ((setup.before o).poll.andThen a) ((setup.before o.patient).poll.andThen b) := by
  intro m going deep
  rw [poll_of_going setup going, poll_of_going setup going]
  exact h m going deep

/-- The run stops where the other goes on to start a block. -/
theorem Late.poll {n d : Nat} (starts : Starts b) (hn : n ≤ d) (s : Nat) :
    Late n s d ((setup.before o).poll.andThen a) ((setup.before o.patient).poll.andThen b) := by
  intro c f cancelled going same
  rw [poll_of_cancelled setup cancelled, poll_of_going setup going]
  obtain ⟨more, grown, y, hy, start⟩ := starts f going
  refine ⟨cancelled, rfl, .stopped [] more rfl (List.append_nil _).symm grown ?_ ?_ ⟨y, hy, start⟩ ?_⟩
  · intro y hy
    cases hy
  · intro y hy
    cases hy
  · simpa using hn

end Poll

/-! ## Announcements and commands -/

section Acts

/-- A block is announced, and the token is looked at before anything is done. -/
theorem Fresh.announce {lo n s : Nat} {a b : Act (Stage (σ × List Beat))} {path : Path}
    (h : Fresh path.length n s a b) (grows : Grows b) (hlo : lo ≤ path.length) (hn : n ≤ path.length)
    (block : Block) :
    Fresh lo n s
      ((Act.call ((setup.before o).announce path block)).andThen ((setup.before o).poll.andThen a))
      ((Act.call ((setup.before o.patient).announce path block)).andThen
        ((setup.before o.patient).poll.andThen b)) := by
  intro m going deep
  rw [o.call_announce, o.patient.call_announce, Act.change_andThen, Act.change_andThen]
  have attended := o.announce_attended setup path block m
  generalize ((setup.before o).announce path block m).2 = c at attended ⊢
  generalize ((setup.before o.patient).announce path block m).2 = f at attended ⊢
  obtain ⟨x, noted, starts, attempt, unheard, unfailed⟩ : ∃ x : Beat,
      (Stage.note (.told (Event.ofBlock .blockStarted path block none m.attempt)) { m with path }).log =
        m.log ++ [x] ∧ x.started? = some path ∧ x.attempt = m.attempt ∧ x.cancelled = false ∧
        x.failed = false :=
    ⟨_, rfl, rfl, rfl, going, rfl⟩
  have only : ∀ y ∈ [x], y = x := fun y hy => List.mem_singleton.mp hy
  have there : lastStarted (m.log ++ [x]) = path := lastStarted_append_of_starts starts
  have full_log : f.log = m.log ++ [x] := attended.full_log.trans noted
  have full_going : f.cancelled = false := attended.full_cancelled.trans going
  rw [poll_of_going setup full_going]
  rcases attended.same with rfl | cancelled
  · rw [poll_of_going setup full_going]
    have deep' : path.length ≤ (lastStarted c.log).length := Nat.le_of_eq (by rw [full_log, there])
    have next := (h c full_going deep').lower hlo
    rw [full_log] at next
    refine next.prepend ?_ ?_
    · exact fun y hy => by rw [only y hy]; exact unheard
    · exact fun y hy => by rw [only y hy]; exact unfailed
  · -- nothing is done at the block, while the other run goes on with it
    rw [poll_of_cancelled setup cancelled]
    obtain ⟨more, grown⟩ := grows.log f
    rw [full_log] at grown
    refine .cut [] x ?_ ?_ cancelled (attended.cut_attempt.trans attempt.symm) ?_
    · exact fun y hy => by rw [only y hy]; exact unheard
    · exact fun y hy => by cases hy
    · refine .stopped [] more rfl ?_ grown ?_ ?_ ⟨x, by simp, by simp [Beat.starts, starts]⟩ ?_
      · rw [List.append_nil]
        exact attended.cut_log.trans noted
      · exact fun y hy => by cases hy
      · exact fun y hy => by rw [only y hy]; exact unfailed
      · rw [List.nil_append, there, List.length_nil]
        omega

/-- A command is carried out, and the token may be set when listeners are told. -/
theorem Fresh.carryOut {lo n s : Nat} (hn : n ≤ lo) (hs : s ≤ lo) (path : Path) (b : Block) (name : String) :
    Fresh lo n s ((setup.before o).carryOut path b name) ((setup.before o.patient).carryOut path b name) := by
  intro m going deep
  have done := o.performed setup path b name m
  unfold Crew.carryOut
  generalize (setup.before o).perform path b name m = c at done ⊢
  generalize (setup.before o.patient).perform path b name m = f at done ⊢
  cases done with
  | broke fault t log cancelled =>
    refine .same [] rfl (cancelled.trans going) ?_ ?_ ?_ ?_
    · rwa [log]
    · rw [log, List.append_nil]
    · exact fun y hy => by cases hy
    · exact fun success => by cases success
  | finished ok t c f log cancelled attended =>
    have going' : t.cancelled = false := cancelled.trans going
    obtain ⟨x, noted, attempt, unheard, unstarted, failed⟩ : ∃ x : Beat,
        (Stage.note (.told (Event.ofBlock .commandFinished path b (some ok) t.attempt)) t).log =
          m.log ++ [x] ∧ t.attempt = x.attempt ∧ x.cancelled = false ∧ x.starts = false ∧ x.failed = !ok := by
      refine ⟨_, by rw [Stage.note_log, log], rfl, going', rfl, ?_⟩
      cases ok <;> rfl
    cases ok with
    | true => exact .beat attended noted attempt going' unheard ⟨unstarted, failed⟩ deep hs
    | false =>
      have only : ∀ y ∈ [x], y = x := fun y hy => List.mem_singleton.mp hy
      have same_depth : lastStarted (m.log ++ [x]) = lastStarted m.log :=
        lastStarted_append_of_not_starts (fun y hy => by rw [only y hy]; exact unstarted)
      have full_log : f.log = m.log ++ [x] := attended.full_log.trans noted
      rcases attended.same with rfl | heard
      · refine .same [x] rfl (attended.full_cancelled.trans going') ?_ full_log ?_ ?_
        · rwa [full_log, same_depth]
        · exact fun y hy => by rw [only y hy]; exact unheard
        · exact fun success => by cases success
      · refine .cut [] x ?_ ?_ heard (attended.cut_attempt.trans attempt) ?_
        · exact fun y hy => by rw [only y hy]; exact unheard
        · exact fun y hy => by cases hy
        · refine .failed rfl rfl (attended.cut_log.trans noted) full_log ⟨x, by simp, failed⟩ ?_
          rw [List.nil_append, same_depth]
          omega

end Acts

/-! ## Walks that nobody cancels -/

/-- Whatever a crew does before patient onlookers adds to the log. -/
theorem crew_grows (log : List Beat) :
    (setup.before o.patient).Keeps [] (fun m => log <+: m.log) (fun _ => True) where
  announce path b _ := by
    refine Act.call_keeps (fun m grown => ?_) (fun _ _ _ _ => trivial)
    rw [(o.announce_attended setup path b m).full_log]
    exact grown.trans (List.prefix_append _ _)
  perform path b name m _ grown := by
    have done := o.performed setup path b name m
    generalize (setup.before o).perform path b name m = c at done
    generalize (setup.before o.patient).perform path b name m = f at done ⊢
    cases done with
    | broke fault t same => rwa [same]
    | finished ok t c f same cancelled attended =>
      rw [attended.full_log, Stage.note_log, same]
      exact grown.trans (List.prefix_append _ _)
  perform_fault _ _ _ _ _ _ _ _ := trivial
  skip _ _ _ _ _ grown := grown
  clamp _ _ _ :=
    Act.call_keeps
      (fun _ grown => setup.clamp_keeps o.patient.around (I := fun m => log <+: m.log)
        (fun _ _ grown => grown) grown)
      (fun _ _ _ _ => trivial)
  pause m grown := grown.trans (List.prefix_append _ _)
  pause_fault _ _ _ _ := trivial
  checkpoint m grown := grown.trans (List.prefix_append _ _)
  checkpoint_fault _ _ _ _ := trivial

section Walks

variable (path : Path)

theorem runFrom_grows (i : Nat) (p : List Block) : Grows ((setup.before o.patient).runFrom path i p) :=
  fun log => Crew.runFrom_keeps (crew_grows setup o log) p path i List.nil_prefix

/-- What is done in a round of a loop after the suspension at its head. -/
theorem body_grows (kids : List Block) :
    Grows ((setup.before o.patient).poll.andThen ((setup.before o.patient).runFrom path 0 kids)) :=
  fun log => Act.andThen_keeps Crew.poll_keeps (runFrom_grows setup o path 0 kids log)

theorem rounds_grows (kids : List Block) (n : Nat) :
    Grows (((setup.before o.patient).round path kids).times n) :=
  fun log => Act.times_keeps
    (Act.andThen_keeps (crew_grows setup o log).rest (body_grows setup o path kids log)) n

theorem runBlock_grows (b : Block) :
    Grows (((setup.before o.patient).runBlock path b).andThen ((setup.before o.patient).settle b)) :=
  fun log => Act.andThen_keeps (Crew.runBlock_keeps (crew_grows setup o log) b path List.nil_prefix)
    ((crew_grows setup o log).settle b)

/-- What is done at a block once it is announced, and after it. -/
theorem rest_grows (i : Nat) (b : Block) (rest : List Block) :
    Grows ((((setup.before o.patient).runBlock (path ++ [(i : Int)]) b).andThen
      ((setup.before o.patient).settle b)).andThen
        ((setup.before o.patient).runFrom path (i + 1) rest)) :=
  fun log => Act.andThen_keeps (runBlock_grows setup o _ b log) (runFrom_grows setup o path (i + 1) rest log)

theorem announce_starts (b : Block) {a : Act (Stage (σ × List Beat))} (grows : Grows a) :
    Starts ((Act.call ((setup.before o.patient).announce path b)).andThen
      ((setup.before o.patient).poll.andThen a)) := by
  intro f going
  have attended := o.announce_attended setup path b f
  rw [o.patient.call_announce, Act.change_andThen, poll_of_going setup (attended.full_cancelled.trans going)]
  obtain ⟨more, grown⟩ := grows.log ((setup.before o.patient).announce path b f).2
  rw [attended.full_log, Stage.note_log, List.append_assoc] at grown
  exact ⟨_, grown, _, List.mem_append_left _ (List.mem_singleton_self _), rfl⟩

/-- Blocks that are walked start. -/
theorem runFrom_starts (i : Nat) {p : List Block} (hp : p ≠ []) :
    Starts ((setup.before o.patient).runFrom path i p) := by
  intro f going
  cases p with
  | nil => exact absurd rfl hp
  | cons b rest =>
    rw [Crew.runFrom_cons, poll_of_going setup going]
    exact announce_starts setup o _ b (rest_grows setup o path i b rest) f going

/-! ## Walks whose token is set -/

theorem runFrom_late (i : Nat) (p : List Block) :
    Late 0 0 0 ((setup.before o).runFrom path i p) ((setup.before o.patient).runFrom path i p) := by
  cases p with
  | nil =>
    rw [Crew.runFrom_nil, Crew.runFrom_nil]
    exact .done 0 0
  | cons b rest =>
    rw [Crew.runFrom_cons, Crew.runFrom_cons]
    exact .poll setup o (announce_starts setup o _ b (rest_grows setup o path i b rest)) (Nat.le_refl 0) 0

theorem rest_late : Late 0 0 1 (setup.before o).rest (setup.before o.patient).rest :=
  .attend (by simp) o.checkpoint 0 0

theorem body_late {kids : List Block} (hkids : kids ≠ []) (s : Nat) :
    Late 0 s 0 ((setup.before o).poll.andThen ((setup.before o).runFrom path 0 kids))
      ((setup.before o.patient).poll.andThen ((setup.before o.patient).runFrom path 0 kids)) :=
  .poll setup o (runFrom_starts setup o path 0 hkids) (Nat.le_refl 0) s

/-- A round of a loop is a suspension and no more. -/
theorem round_late {kids : List Block} (hkids : kids ≠ []) :
    Late 0 1 1 ((setup.before o).round path kids) ((setup.before o.patient).round path kids) :=
  (rest_late setup o).andThen (body_late setup o path hkids 1) (body_grows setup o path kids)

theorem rounds_late {kids : List Block} (hkids : kids ≠ []) (n : Nat) :
    Late 0 1 1 (((setup.before o).round path kids).times n)
      (((setup.before o.patient).round path kids).times n) := by
  induction n with
  | zero => exact .done 0 1
  | succ n ih =>
    rw [Act.times_succ, Act.times_succ]
    exact (round_late setup o path hkids).andThen ih (rounds_grows setup o path kids n)

end Walks

/-! ## Walks whose token is unset -/

/-- Nothing but remarks. -/
theorem Fresh.remarks {lo n s : Nat} {a : Act (Stage (σ × List Beat))}
    (plain : ∀ m, (a m).2.log = m.log ∧ (a m).2.cancelled = m.cancelled) : Fresh lo n s a a := by
  intro m going deep
  obtain ⟨log, cancelled⟩ := plain m
  refine .same [] rfl (cancelled.trans going) ?_ ?_ ?_ ?_
  · exact log ▸ deep
  · rw [List.append_nil]
    exact log
  · exact fun y hy => by cases hy
  · exact fun _ y hy => by cases hy

theorem Fresh.done {lo n s : Nat} : Fresh lo n s (Act.done : Act (Stage (σ × List Beat))) Act.done :=
  .remarks (fun _ => ⟨rfl, rfl⟩)

/-- A block that takes a checkpoint at its end. -/
theorem Fresh.andRest {n : Nat} {a b : Act (Stage (σ × List Beat))} (h : Fresh (n + 1) n (n + 1) a b) :
    Fresh (n + 1) n n (a.andThen (setup.before o).rest) (b.andThen (setup.before o.patient).rest) := by
  have fresh : Fresh (n + 1) n n (setup.before o).rest (setup.before o.patient).rest :=
    .attend (by simp) o.checkpoint (by omega)
  have grows : Grows (setup.before o.patient).rest := fun log => (crew_grows setup o log).rest
  exact h.andThen fresh (rest_late setup o) grows

/-- A command and the pause after it. -/
theorem command_fresh (n : Nat) (path : Path) (b : Block) (name : String) :
    Fresh (n + 1) n n ((setup.before o).command path b name)
      ((setup.before o.patient).command path b name) := by
  rw [Crew.command_eq, Crew.command_eq]
  have command : Fresh (n + 1) n (n + 1) ((setup.before o).carryOut path b name)
      ((setup.before o.patient).carryOut path b name) :=
    .carryOut setup o (by omega) (by omega) path b name
  have pause : Fresh (n + 1) n n (Act.call (setup.before o).pause)
      (Act.call (setup.before o.patient).pause) :=
    .attend (by simp) o.pause (by omega)
  have late : Late 0 0 1 (Act.call (setup.before o).pause) (Act.call (setup.before o.patient).pause) :=
    .attend (by simp) o.pause 0 0
  have grows : Grows (Act.call (setup.before o.patient).pause) :=
    fun log => Act.call_keeps (crew_grows setup o log).pause (crew_grows setup o log).pause_fault
  exact command.andThen pause late grows

/-- Rounds of a loop whose children are walked at its address. -/
theorem rounds_fresh {n : Nat} {path : Path} {kids : List Block} (hkids : kids ≠ [])
    (h : Fresh (n + 1) (n + 1) (n + 1) ((setup.before o).runFrom path 0 kids)
      ((setup.before o.patient).runFrom path 0 kids)) (k : Nat) :
    Fresh (n + 1) n (n + 1) (((setup.before o).round path kids).times k)
      (((setup.before o.patient).round path kids).times k) := by
  have head : Fresh (n + 1) (n + 1) (n + 1) (setup.before o).rest (setup.before o.patient).rest :=
    .attend (by simp) o.checkpoint (by omega)
  have round : Fresh (n + 1) (n + 1) (n + 1) ((setup.before o).round path kids)
      ((setup.before o.patient).round path kids) :=
    head.andThen (h.poll setup o) (body_late setup o path hkids 0) (body_grows setup o path kids)
  induction k with
  | zero => exact Fresh.done
  | succ k ih =>
    rw [Act.times_succ, Act.times_succ]
    exact round.andThen ih (rounds_late setup o path hkids k) (rounds_grows setup o path kids k)

/-- The remark on a loop that is clamped. -/
theorem noteClamp_fresh {lo n s : Nat} (path : Path) (k : Int) :
    Fresh lo n s ((setup.before o).noteClamp path k) ((setup.before o.patient).noteClamp path k) := by
  have cap : ∀ around : Surroundings (σ × List Beat), (setup.crew around).cap = setup.cap := fun _ => rfl
  simp only [Crew.noteClamp, cap]
  split
  · refine .remarks (fun m => ?_)
    rw [Act.call_left]
    exact setup.clamp_keeps o.around
      (I := fun m' : Stage (σ × List Beat) => m'.log = m.log ∧ m'.cancelled = m.cancelled) (fun _ _ same => same)
      ⟨rfl, rfl⟩
  · exact .done

/-- One block, with the checkpoint at its end. -/
theorem runBlock_fresh (n : Nat) (path : Path) (b : Block)
    (kids_fresh : ∀ kids, b.children = some kids →
      Fresh (n + 1) (n + 1) (n + 1) ((setup.before o).runFrom path 0 kids)
        ((setup.before o.patient).runFrom path 0 kids)) :
    Fresh (n + 1) n n
      (((setup.before o).runBlock path b).andThen ((setup.before o).settle b))
      (((setup.before o.patient).runBlock path b).andThen ((setup.before o.patient).settle b)) := by
  rw [Crew.runBlock_eq, Crew.runBlock_eq]
  unfold Crew.settle
  by_cases paced : b.isPaced = true
  · obtain ⟨name, task⟩ := b.isPaced_iff.mp paced
    rw [if_pos paced, if_pos paced, task, Act.andThen_done, Act.andThen_done]
    exact command_fresh setup o n path b name
  · rw [if_neg paced, if_neg paced]
    apply Fresh.andRest setup o
    cases task : b.task with
    | command name => exact absurd (b.isPaced_iff.mpr ⟨name, task⟩) paced
    | idle why => exact .remarks (fun _ => ⟨rfl, rfl⟩)
    | loop k kids =>
      obtain ⟨children, hkids⟩ := Block.children_of_task_loop task
      have clamp : Fresh (n + 1) n (n + 1) ((setup.before o).noteClamp path k)
          ((setup.before o.patient).noteClamp path k) := noteClamp_fresh setup o path k
      exact clamp.andThen (rounds_fresh setup o hkids (kids_fresh kids children) _)
        (rounds_late setup o path hkids _) (rounds_grows setup o path kids _)
    | onColor color kids =>
      have kids_fresh := kids_fresh kids (Block.children_of_task_onColor task).1
      intro m going deep
      unfold Crew.doTask
      cases onColor : setup.board.hasColor m.attempt.robot.position (.ofString color) with
      | true =>
        have looked : ∀ around : Surroundings (σ × List Beat), (setup.crew around).onColor color m = true :=
          fun _ => onColor
        simp only [looked, if_true]
        exact (kids_fresh m going deep).mono (by omega) (by omega)
      | false =>
        have looked : ∀ around : Surroundings (σ × List Beat), (setup.crew around).onColor color m = false :=
          fun _ => onColor
        simp only [looked]
        exact Fresh.done m going deep

/-- A walk over a program. -/
theorem runFrom_fresh (p : List Block) (path : Path) (i lo : Nat) (hlo : lo ≤ path.length + 1) :
    Fresh lo path.length path.length ((setup.before o).runFrom path i p)
      ((setup.before o.patient).runFrom path i p) := by
  -- the room that a block leaves is one less than its own depth: it may still take the checkpoint at its end
  refine (Block.induction
    (P := fun b => ∀ n (path : Path), path.length = n + 1 → Fresh (n + 1) n n
      (((setup.before o).runBlock path b).andThen ((setup.before o).settle b))
      (((setup.before o.patient).runBlock path b).andThen ((setup.before o.patient).settle b)))
    (Q := fun p => ∀ (path : Path) (i lo : Nat), lo ≤ path.length + 1 →
      Fresh lo path.length path.length ((setup.before o).runFrom path i p)
        ((setup.before o.patient).runFrom path i p)) ?_ ?_ ?_).2 p path i lo hlo
  · intro b kids_fresh n path hpath
    refine runBlock_fresh setup o n path b (fun kids children => ?_)
    have fresh := kids_fresh kids children path 0 (n + 1) (by omega)
    rwa [hpath] at fresh
  · intro path i lo _
    rw [Crew.runFrom_nil, Crew.runFrom_nil]
    exact .done
  · intro b rest block_fresh rest_fresh path i lo hlo
    have below : (path ++ [(i : Int)]).length = path.length + 1 := by simp
    have block := block_fresh path.length (path ++ [(i : Int)]) below
    have after := rest_fresh path (i + 1) (path.length + 1) (Nat.le_refl _)
    have whole := block.andThen after (runFrom_late setup o path (i + 1) rest)
      (runFrom_grows setup o path (i + 1) rest) (Nat.le_refl _) (Nat.le_refl _) (Nat.le_refl _)
    rw [Crew.runFrom_cons, Crew.runFrom_cons]
    refine Fresh.poll setup o (Fresh.announce setup o ?_ (rest_grows setup o path i b rest) ?_ ?_ b)
    · rwa [below]
    · omega
    · omega

/-! ## Runs that are cut short -/

/-- The last event is a failure exactly if the last beat is one, when no beat before it is. -/
theorem tellsFailure_getLast? {before : List Beat} {x : Beat} (unfailed : ∀ y ∈ before, y.failed = false) :
    ((before ++ [x]).filterMap Beat.event?).getLast?.any Event.tellsFailure = x.failed := by
  rw [List.filterMap_append]
  cases event : x.event? with
  | some e => simp [Beat.failed, event]
  | none =>
    have failed : x.failed = false := by simp [Beat.failed, event]
    simp only [List.filterMap_cons, event, List.filterMap_nil, List.append_nil, failed]
    cases last : (before.filterMap Beat.event?).getLast? with
    | none => rfl
    | some e =>
      obtain ⟨y, hy, told⟩ := List.mem_filterMap.mp (List.mem_of_getLast? last)
      have plain := unfailed y hy
      rw [Beat.failed, told] at plain
      exact plain

/-- A run that is cancelled (`cut`), beside the same run when nobody cancels it (`full`). The token is set at
the beat `x`, and up to there both runs have the same on record. After it, the cut run is suspended `late`, at
most as often as the block that started last is deep; no block starts and no command is carried out, for
listeners are told nothing and the run does not break off, and the attempt stays as it is. The run fails if
the last thing told is a failure, and is cancelled if a block starts at `x` or would have started `after` it;
otherwise it succeeds, and has told everything. -/
structure CutShort (before : List Beat) (x : Beat) (after late : List Beat)
    (cut full : Ending × Stage (σ × List Beat)) : Prop where
  full_log : full.2.log = before ++ x :: after
  cut_log : cut.2.log = before ++ x :: late
  unheard : ∀ y ∈ before ++ [x], y.cancelled = false
  heard : ∀ y ∈ late, y.cancelled = true
  silent : ∀ y ∈ late, y.event? = none
  still : ∀ y ∈ late, y.attempt = x.attempt
  attempt : cut.2.attempt = x.attempt
  few : late.length ≤ (lastStarted cut.2.log).length
  events : cut.2.events <+: full.2.events
  ending : cut.1 =
    if cut.2.events.getLast?.any Event.tellsFailure then .failure
    else if x.starts || after.any Beat.starts then .cancelled
    else .success
  whole : cut.1 = .success → cut.2.events = full.2.events

/-- The common part of a run that is cut short, whatever it ends with. -/
theorem cutShort_of_logs {n : Nat} {before : List Beat} {x : Beat} {after late : List Beat}
    {cut full : Ending × Stage (σ × List Beat)} (unheard : ∀ y ∈ before ++ [x], y.cancelled = false)
    (unfailed : ∀ y ∈ before, y.failed = false) (attempt : cut.2.attempt = x.attempt)
    (cut_log : cut.2.log = before ++ [x] ++ late) (full_log : full.2.log = before ++ [x] ++ after)
    (idle : ∀ y ∈ late, y.Idle x.attempt) (room : late.length + n ≤ (lastStarted (before ++ [x])).length)
    (ending : cut.1 = if x.failed then .failure else if x.starts || after.any Beat.starts then .cancelled
      else .success)
    (quiet : cut.1 = .success → ∀ y ∈ after, y.event? = none) :
    CutShort before x after late cut full := by
  have none_told : late.filterMap Beat.event? = [] :=
    List.filterMap_eq_nil_iff.mpr (fun y hy => (idle y hy).silent)
  have told : cut.2.events = (before ++ [x]).filterMap Beat.event? := by
    rw [Stage.events, cut_log, List.filterMap_append, none_told, List.append_nil]
  have told_full : full.2.events = (before ++ [x]).filterMap Beat.event? ++ after.filterMap Beat.event? := by
    rw [Stage.events, full_log, List.filterMap_append]
  have same_depth : lastStarted cut.2.log = lastStarted (before ++ [x]) := by
    rw [cut_log]
    exact lastStarted_append_of_not_starts (fun y hy => (Beat.plain_of_silent (idle y hy).silent).1)
  exact
    { full_log := by rw [full_log, List.append_assoc, List.singleton_append]
      cut_log := by rw [cut_log, List.append_assoc, List.singleton_append]
      unheard
      heard := fun y hy => (idle y hy).cancelled
      silent := fun y hy => (idle y hy).silent
      still := fun y hy => (idle y hy).attempt
      attempt
      few := by
        rw [same_depth]
        omega
      events := by
        rw [told, told_full]
        exact List.prefix_append _ _
      ending := by
        rw [told, tellsFailure_getLast? unfailed]
        exact ending
      whole := fun success => by
        rw [told, told_full, List.filterMap_eq_nil_iff.mpr (quiet success), List.append_nil] }

/-- A run that is cancelled, at whatever moment, at any suspension or while any listener is told of any event,
is cut short. The program, the level, the start, the bound on loops and what onlookers remember are arbitrary. -/
theorem play_cutShort (p : Program) (path : Path) (m : Stage (σ × List Beat)) (going : m.cancelled = false)
    (blank : m.log = []) (cancelled : (setup.play o.around p path m).2.cancelled = true) :
    ∃ before x after late, CutShort before x after late (setup.play o.around p path m)
      (setup.play o.patient.around p path m) := by
  have apart : Apart 0 path.length path.length m.log (setup.play o.around p path m)
      (setup.play o.patient.around p path m) :=
    runFrom_fresh setup o p path 0 0 (Nat.zero_le _) m going (Nat.zero_le _)
  rw [blank] at apart
  cases apart with
  | same more both going' =>
    rw [both, going'] at cancelled
    cases cancelled
  | cut before x unheard unfailed _ attempt tail =>
    simp only [List.nil_append] at tail
    cases tail with
    | failed cut full cut_log full_log why room =>
      obtain ⟨y, hy, failed⟩ := why
      rw [List.mem_singleton.mp hy] at failed
      refine ⟨before, x, [], [],
        cutShort_of_logs (n := path.length) unheard unfailed attempt ?_ ?_ ?_ ?_ ?_ ?_⟩
      · rw [cut_log, List.append_nil]
      · rw [full_log, List.append_nil]
      · exact fun y hy => by cases hy
      · simpa using room
      · rw [cut, failed]
        rfl
      · exact fun success y hy => by cases hy
    | done late after cut full cut_log full_log idle plain quiet going' same room =>
      obtain ⟨unstarted, unfailed'⟩ := plain x (List.mem_singleton_self x)
      refine ⟨before, x, after, late, cutShort_of_logs unheard unfailed attempt cut_log full_log idle room ?_
        (fun _ => quiet)⟩
      have none_starts : after.any Beat.starts = false := by
        simpa using fun y hy => (Beat.plain_of_silent (quiet y hy)).1
      rw [cut, unfailed', unstarted, none_starts]
      rfl
    | stopped late after cut cut_log full_log idle unfailed' starts room =>
      have unfailed' := unfailed' x (List.mem_singleton_self x)
      refine ⟨before, x, after, late,
        cutShort_of_logs unheard unfailed attempt cut_log full_log idle room ?_ ?_⟩
      · have starts : (x.starts || after.any Beat.starts) = true := by
          simpa using starts
        rw [cut, unfailed', starts]
        rfl
      · intro success
        rw [cut] at success
        cases success

/-- Someone who cancels a run at its first pause. -/
def impatient : Onlookers Unit where
  listeners := []
  pause _ := (true, ())
  checkpoint _ := (false, ())
  print _ w := w

/-- A run without a level. -/
def bare : Setup := ⟨⟨none⟩, .standard 1, 10, false⟩

/-- Two rounds of a loop in which a loop has one command to carry out. -/
def nested : Program := [.ofLoop (some 2) [.ofLoop (some 1) [.ofCommand (some Command.light.name)]]]

/-- A stage with nothing on record. -/
def blank : Stage (Unit × List Beat) := { attempt := { robot := ⟨⟨0, 0⟩, .north⟩ }, world := ((), []) }

theorem play_cutShort_nested :
    (bare.play impatient.around nested [] blank).1 = .cancelled ∧
      ∃ before x after late, CutShort before x after late (bare.play impatient.around nested [] blank)
        (bare.play impatient.patient.around nested [] blank) :=
  ⟨by decide +kernel, play_cutShort bare impatient nested [] blank rfl rfl (by decide +kernel)⟩

end Lamplighter
