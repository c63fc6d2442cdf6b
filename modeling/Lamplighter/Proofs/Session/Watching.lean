/-
Lamplighter.Proofs.Session.Watching — one run of a session, before audiences that differ in what they keep.

* `Audience.Shadows` — an audience that does what another does, and keeps something besides.
* `surroundings_shadows`, `run_shadows` — this changes nothing of the walk of a run, nor of the run.
* `Audience.heeded` — an audience in which every listener keeps what it is told.
* `Session.recording`, `walk_heeded` — the walk of a run on record, and what each listener is told during it.
* `finish_heeded` — what each of them is told at the end of the run.
-/
import Lamplighter.Proofs.Run.Recording
import Lamplighter.Proofs.Session.Pairing

namespace Lamplighter

variable {ρ ρ' : Type}

namespace Session

/-- Someone who does nothing that is seen (`of`). -/
def Unseen (of : ρ' → ρ) (act : Session → ρ' → Option Fault × Session × ρ') : Prop :=
  ∀ s w, (act s w).1 = none ∧ (act s w).2.1 = s ∧ of (act s w).2.2 = of w

/-- Someone who does what another does, as far as that is seen (`of`). -/
def SeenAs (of : ρ' → ρ) (act : Session → ρ' → Option Fault × Session × ρ')
    (act' : Session → ρ → Option Fault × Session × ρ) : Prop :=
  ∀ s w, act' s (of w) = ((act s w).1, (act s w).2.1, of (act s w).2.2)

end Session

/-- An audience that does what another does, as far as that is seen (`of`), and keeps something besides. It may have
more listeners, who do nothing that is seen. -/
structure Audience.Shadows (of : ρ' → ρ) (a : Audience ρ') (b : Audience ρ) : Prop where
  told : Thinned (fun l => ∀ e, Session.Unseen of (l e)) (fun l l' => ∀ e, Session.SeenAs of (l e) (l' e)) a.listeners
    b.listeners
  slept : ∀ n, Session.SeenAs of (a.sleep n) (b.sleep n)
  printed : ∀ r w, of (a.print r w) = b.print r (of w)

namespace Session

/-! ## Audiences that keep something besides -/

section Shadows

variable {of : ρ' → ρ} {a : Audience ρ'} {b : Audience ρ}

theorem visit_shadows {act : Session → ρ' → Option Fault × Session × ρ'}
    {act' : Session → ρ → Option Fault × Session × ρ} (same : SeenAs of act act') (st : Stage (Desk × ρ')) :
    (visit act st).1 = (visit act' (st.through (Prod.map id of))).1 ∧
      (visit act st).2.through (Prod.map id of) = (visit act' (st.through (Prod.map id of))).2 := by
  have acted := same (ofStage st) st.world.2
  have seen : visit act' (st.through (Prod.map id of)) =
      ((act' (ofStage st) (of st.world.2)).1, (act' (ofStage st) (of st.world.2)).2.1.onStage
        (act' (ofStage st) (of st.world.2)).2.2 (st.through (Prod.map id of))) := rfl
  rw [seen, acted]
  exact ⟨rfl, rfl⟩

theorem visit_unseen {act : Session → ρ' → Option Fault × Session × ρ'} (still : Unseen of act)
    (st : Stage (Desk × ρ')) :
    (visit act st).1 = none ∧ (visit act st).2.through (Prod.map id of) = st.through (Prod.map id of) := by
  obtain ⟨quiet, same, kept⟩ := still (ofStage st) st.world.2
  have seen : visit act st = ((act (ofStage st) st.world.2).1,
      (act (ofStage st) st.world.2).2.1.onStage (act (ofStage st) st.world.2).2.2 st) := rfl
  rw [seen, quiet, same]
  refine ⟨rfl, ?_⟩
  simp only [Stage.through, onStage, Prod.map, kept]
  rfl

variable (h : a.Shadows of b)

include h

theorem tell_shadows (e : Event) (st : Stage (Desk × ρ')) :
    ((surroundings a).tell e (surroundings a).listeners st).1 =
        ((surroundings b).tell e (surroundings b).listeners (st.through (Prod.map id of))).1 ∧
      ((surroundings a).tell e (surroundings a).listeners st).2.through (Prod.map id of) =
        ((surroundings b).tell e (surroundings b).listeners (st.through (Prod.map id of))).2 := by
  have printed : ∀ r w, Prod.map id of ((surroundings a).print r w) = (surroundings b).print r (Prod.map id of w) :=
    fun r w => Prod.ext rfl (h.printed r w.2)
  have told := h.told
  -- the session's own listener comes first, and notes the same in both
  have tracked : (track e st).2.through (Prod.map id of) = (track e (st.through (Prod.map id of))).2 := rfl
  have left : (surroundings a).tell e (surroundings a).listeners st =
      (surroundings a).tell e (a.listeners.map fun l e => visit (l e)) (track e st).2 := rfl
  have right : (surroundings b).tell e (surroundings b).listeners (st.through (Prod.map id of)) =
      (surroundings b).tell e (b.listeners.map fun l e => visit (l e)) (track e (st.through (Prod.map id of))).2 := rfl
  rw [left, right, ← tracked]
  generalize (track e st).2 = st
  revert st
  generalize a.listeners = ls at told
  generalize b.listeners = ls' at told
  induction told with
  | nil => exact fun _ => ⟨rfl, rfl⟩
  | drop unseen rest ih =>
    intro st
    obtain ⟨quiet, left⟩ := visit_unseen (unseen e) st
    rw [List.map_cons, Surroundings.tell_cons, Surroundings.hearing_quiet _ _ quiet, ← left]
    exact ih _
  | @keep l l' ls ls' alike rest ih =>
    intro st
    have shadows : Listener.Shadows (Prod.map id of) (fun e => visit (l e)) (fun e => visit (l' e)) :=
      fun e st => visit_shadows (alike e) st
    obtain ⟨met, left⟩ := Surroundings.Shadows.hearing printed e shadows st
    rw [List.map_cons, List.map_cons, Surroundings.tell_cons, Surroundings.tell_cons]
    generalize (surroundings a).hearing e (fun e => visit (l e)) st = heard at met left ⊢
    generalize (surroundings b).hearing e (fun e => visit (l' e)) _ = heard' at met left ⊢
    obtain ⟨fault, n⟩ := heard
    obtain ⟨fault', n'⟩ := heard'
    obtain rfl : fault = fault' := met
    obtain rfl : n.through (Prod.map id of) = n' := left
    cases fault with
    | none => exact ih n
    | some met => exact ⟨rfl, rfl⟩

/-- What an audience keeps besides changes nothing of a walk. -/
theorem surroundings_shadows : (surroundings a).Shadows (Prod.map id of) (surroundings b) where
  told := tell_shadows h
  pause st := by
    have delay : (st.through (Prod.map id of)).world.1.delay = st.world.1.delay := rfl
    simp only [surroundings, pause, delay]
    split
    · exact ⟨rfl, rfl⟩
    · exact visit_shadows (h.slept _) st
  checkpoint := visit_shadows (h.slept .zero)
  printed r w := Prod.ext rfl (h.printed r w.2)

theorem walk_shadows (s : Session) (level : Level) (program : Program) (w : ρ') :
    s.walk b level program (of w) =
      ((s.walk a level program w).1, (s.walk a level program w).2.through (Prod.map id of)) := by
  have walked := (surroundings_shadows h).play ((s.started level).setup level) program []
    ((s.started level).stage level.start (a.print (startRemark level program) w))
  have start : ((s.started level).stage level.start (a.print (startRemark level program) w)).through (Prod.map id of) =
      (s.started level).stage level.start (b.print (startRemark level program) (of w)) := by
    rw [← h.printed]
    rfl
  rw [start] at walked
  exact walked

/-- It changes nothing of what comes after the walk, either. -/
theorem shadows_after : AgreeAfter (fun s w t w' => t = s ∧ w' = of w) a b where
  alike := by
    rintro s w _ _ ⟨rfl, -⟩
    rfl
  ended := by
    rintro s w _ _ status failure ⟨rfl, rfl⟩
    exact ⟨rfl, rfl⟩
  reset := by
    rintro s w _ _ ⟨rfl, rfl⟩
    exact ⟨rfl, rfl⟩
  told := by
    refine h.told.mono ?_ ?_
    · rintro l unseen e s w _ _ _ ⟨rfl, rfl⟩
      obtain ⟨quiet, same, kept⟩ := unseen e _ w
      exact ⟨quiet, same.symm, kept.symm⟩
    · rintro l l' alike e s w _ _ _ ⟨rfl, rfl⟩
      rw [alike e _ w]
      exact ⟨rfl, rfl, rfl⟩
  printed := by
    rintro r s w _ _ ⟨rfl, rfl⟩
    exact ⟨rfl, (h.printed r w).symm⟩

/-- What an audience keeps besides changes nothing of a run. -/
theorem run_shadows (s : Session) (program : Option Program) (w : ρ') :
    let done := s.run a program w
    s.run b program (of w) = (done.1, done.2.1, of done.2.2) := by
  cases request : s.levelFor (program.getD s.program) with
  | error why =>
    rw [run_rejected request, run_rejected request, ← h.printed]
  | ok level =>
    by_cases status : s.status = .running
    · rw [run_illegal request status, run_illegal request status]
    · rw [run_started request status, run_started request status, walk_shadows h]
      dsimp only
      generalize s.walk a level (program.getD s.program) w = done
      obtain ⟨ending, st⟩ := done
      obtain ⟨answer, session, kept⟩ := resolve_agree (shadows_after h) level (verdict ending st.cancelled) st.failure
        (s := (ofStage st).settle) (w := st.world.2) ⟨rfl, rfl⟩
      exact Prod.ext answer (Prod.ext session kept)

end Shadows

end Session

/-! ## What each listener is told -/

/-- A listener who keeps what it is told, and then does what it does. -/
def Audience.heed (i : Nat) (l : Event → Session → ρ → Option Fault × Session × ρ) :
    Event → Session → ρ × Tidings → Option Fault × Session × (ρ × Tidings) := fun e s w =>
  ((l e s w.1).1, (l e s w.1).2.1, (l e s w.1).2.2, w.2 ++ [(i, e)])

/-- An audience in which every listener keeps what it is told. -/
def Audience.heeded (audience : Audience ρ) : Audience (ρ × Tidings) where
  listeners := audience.listeners.zipIdx.map fun x => heed x.2 x.1
  sleep n s w := ((audience.sleep n s w.1).1, (audience.sleep n s w.1).2.1, (audience.sleep n s w.1).2.2, w.2)
  print r w := (audience.print r w.1, w.2)

namespace Session

section Heeded

variable (audience : Audience ρ)

theorem heeded_shadows : audience.heeded.Shadows Prod.fst audience where
  told := .ofForall₂ (Surroundings.forall₂_zipIdx (fun _ _ _ _ _ => rfl) audience.listeners 0)
  slept _ _ _ := rfl
  printed _ _ := rfl

/-- During a walk, every listener is told of an event, unless the telling breaks off. -/
theorem heeded_tell (e : Event) (st : Stage (Desk × (ρ × Tidings)))
    (whole : ((surroundings audience.heeded).tell e (surroundings audience.heeded).listeners st).1 = none) :
    ((surroundings audience.heeded).tell e (surroundings audience.heeded).listeners st).2.world.2.2 =
      st.world.2.2 ++ Tidings.all audience.listeners.length [e] := by
  have heard (k : Nat) (l : Event → Session → ρ → Option Fault × Session × ρ)
      (st : Stage (Desk × (ρ × Tidings))) :
      ((surroundings audience.heeded).hearing e (fun e => visit (Audience.heed k l e)) st).2.world.2.2 =
        st.world.2.2 ++ [(k, e)] :=
    (surroundings audience.heeded).hearing_keeps e (I := fun n => n.world.2.2 = st.world.2.2 ++ [(k, e)])
      (fun _ _ same => same) rfl
  have from_ (k : Nat) (ls : List (Event → Session → ρ → Option Fault × Session × ρ))
      (st : Stage (Desk × (ρ × Tidings))) (whole : ((surroundings audience.heeded).tell e
        (((ls.zipIdx k).map fun x => Audience.heed x.2 x.1).map fun l e => visit (l e)) st).1 = none) :
      ((surroundings audience.heeded).tell e (((ls.zipIdx k).map fun x => Audience.heed x.2 x.1).map
        fun l e => visit (l e)) st).2.world.2.2 = st.world.2.2 ++ Tidings.of k ls.length e := by
    induction ls generalizing k st with
    | nil => exact (List.append_nil _).symm
    | cons l rest ih =>
      have kept := heard k l st
      rw [List.zipIdx_cons, List.map_cons, List.map_cons, Surroundings.tell_cons] at whole ⊢
      rw [List.length_cons, Tidings.of_succ]
      generalize (surroundings audience.heeded).hearing e _ st = came at kept whole ⊢
      obtain ⟨_ | fault, n⟩ := came
      · rw [ih (k + 1) n whole, show n.world.2.2 = _ from kept, List.append_assoc, List.singleton_append]
      · cases whole
  rw [Tidings.all_singleton]
  exact from_ 0 audience.listeners (track e st).2 whole

/-- A listener who leaves the session alone keeps what it is told of the end of a run, before anything is remarked. -/
theorem notifyOne_heeded (k : Nat) {l : Event → Session → ρ → Option Fault × Session × ρ} {e : Event} {s : Session}
    {w : ρ × Tidings} (quiet : (l e s w.1).2.1 = s) :
    (notifyOne audience.heeded e (Audience.heed k l) s w).2.1 = s ∧
      (notifyOne audience.heeded e (Audience.heed k l) s w).2.2.2 = w.2 ++ [(k, e)] :=
  notifyOne_keeps (K := fun t (w' : ρ × Tidings) => t = s ∧ w'.2 = w.2 ++ [(k, e)]) (fun _ _ _ same => same) ⟨quiet, rfl⟩

/-- At the end of a run, every listener is told that it has ended, unless the telling breaks off. -/
theorem notify_heeded (quiet : ∀ l ∈ audience.listeners, ∀ e s w, (l e s w).2.1 = s) (e : Event) (s : Session)
    (w : ρ × Tidings) (whole : (notify audience.heeded e audience.heeded.listeners s w).1 = none) :
    (notify audience.heeded e audience.heeded.listeners s w).2.1 = s ∧
      (notify audience.heeded e audience.heeded.listeners s w).2.2.2 =
        w.2 ++ Tidings.all audience.listeners.length [e] := by
  have from_ (k : Nat) (ls : List (Event → Session → ρ → Option Fault × Session × ρ))
      (quiet : ∀ l ∈ ls, ∀ e s w, (l e s w).2.1 = s) (w : ρ × Tidings)
      (unbroken : (notify audience.heeded e ((ls.zipIdx k).map fun x => Audience.heed x.2 x.1) s w).1 = none) :
      (notify audience.heeded e ((ls.zipIdx k).map fun x => Audience.heed x.2 x.1) s w).2.1 = s ∧
        (notify audience.heeded e ((ls.zipIdx k).map fun x => Audience.heed x.2 x.1) s w).2.2.2 =
          w.2 ++ Tidings.of k ls.length e := by
    induction ls generalizing k w with
    | nil => exact ⟨rfl, (List.append_nil _).symm⟩
    | cons l rest ih =>
      have heard := notifyOne_heeded audience k (quiet l List.mem_cons_self e s w.1)
      rw [List.zipIdx_cons, List.map_cons, notify_cons] at unbroken ⊢
      generalize notifyOne audience.heeded e (Audience.heed k l) s w = came at heard unbroken ⊢
      obtain ⟨_ | met, s', w'⟩ := came
      · obtain ⟨rfl, kept⟩ : s' = s ∧ w'.2 = w.2 ++ [(k, e)] := heard
        obtain ⟨still, told⟩ := ih (k + 1) (fun l hl => quiet l (List.mem_cons_of_mem _ hl)) w' unbroken
        refine ⟨still, told.trans ?_⟩
        rw [kept, List.append_assoc, List.length_cons, Tidings.of_succ]
        rfl
      · cases unbroken
  rw [Tidings.all_singleton]
  exact from_ 0 audience.listeners quiet w whole

/-- The walk of a run, on record. -/
def recording (audience : Audience ρ) (level : Level) (program : Program) (s : Session) (watch : ρ) :
    Ending × Stage ((Desk × ρ) × List Beat) :=
  ((s.started level).setup level).recording (surroundings audience) program []
    ((s.started level).stage level.start (audience.print (startRemark level program) watch))

theorem walk_recorded (level : Level) (program : Program) (s : Session) (watch : ρ) :
    s.walk audience level program watch =
      ((s.recording audience level program watch).1, (s.recording audience level program watch).2.through Prod.fst) :=
  play_recorded _ _ _ _ _

/-- In the walk of a run, every listener keeps what it is told, unless the telling breaks off. -/
theorem heeded_keen : (surroundings audience.heeded).Keen audience.listeners.length (fun w => w.2.2) where
  told := heeded_tell audience
  pause st := by
    simp only [surroundings, pause]
    split
    · rfl
    · rfl
  checkpoint _ := rfl
  printed _ _ := rfl

/-- During a walk that does not break off, every listener is told of the events that are put on record. -/
theorem walk_heeded (level : Level) (program : Program) (s : Session) (watch : ρ)
    (whole : ∀ fault, (s.recording audience level program watch).1 ≠ .broken fault) :
    (s.walk audience.heeded level program (watch, [])).2.world.2.2 =
      Tidings.all audience.listeners.length (s.recording audience level program watch).2.events :=
  (play_beside (heeded_keen audience) (surroundings_shadows (heeded_shadows audience)) ((s.started level).setup level)
    program [] (m := (s.started level).stage level.start
      (audience.heeded.print (startRemark level program) (watch, ([] : Tidings)))) rfl).2.2 (.inr whole)

end Heeded

end Session

end Lamplighter
