/-
Lamplighter.Proofs.Session.Reordering — runs on a level whose tiles and goals stand in another order.

* `Attempt.Reordered`, `Event.Reordered` — attempts and events that differ in the order of tiles and of flags only.
* `Level.Reordered.like` — a level is like the same level in another order.
* `Session.Reordered` — sessions on one level in two orders. `Session.Reordered.picture` — they have one picture.
* `reordered_runs` — their runs are the same.

No two tiles of the level may carry one id: a lookup by id finds the first of them, and the last decides with which flag
the id starts.
-/
import Lamplighter.Proofs.Reordering
import Lamplighter.Proofs.Session.Likeness

namespace Lamplighter

/-! ## Attempts -/

/-- Attempts on a level in two orders: one robot, the same goals lit, and the same flag under every id. -/
structure Attempt.Reordered (level level' : Level) (a a' : Attempt) : Prop where
  layout : a.store.layout = level.layout
  layout' : a'.store.layout = level'.layout
  robot : a'.robot = a.robot
  lit : a'.lit = a.lit
  flags : ∀ id, a'.store.get? id = a.store.get? id

namespace Level.Reordered

variable {level level' : Level} (order : level.Reordered level')

include order

/-- All goals are lit or not, in whatever order they stand. -/
theorem isSolved (lit : List Position) : Session.isSolved level' lit = Session.isSolved level lit :=
  order.goals.symm.all_eq

/-- A well-formed level whose tiles can be told apart is like the same level in another order. -/
theorem like (formed : level.WellFormed) (apart : TellsApart level.layout) :
    level.Like (Attempt.Reordered level level') Eq level' where
  layouts a a' same := ⟨same.layout, same.layout'⟩
  start := ⟨rfl, rfl, order.start, rfl, order.get?_ofLevel apart⟩
  setups rules cap verbose :=
    { cap := rfl
      execute := fun name a a' same => by
        have agree : a.Agree a' :=
          ⟨same.robot, same.lit, order.store formed apart same.layout same.layout' same.flags⟩
        obtain ⟨⟨robot, lit, store⟩, refusal, deeds⟩ := agree.execute (order.board formed) rules name
        refine ⟨⟨?_, ?_, robot, lit, store.get?⟩, refusal, deeds.imp ?_⟩
        · exact (a.execute_layout _ rules name).trans same.layout
        · exact (a'.execute_layout _ rules name).trans same.layout'
        · rintro d _ rfl
          exact ⟨rfl, fun _ => rfl⟩
      onColor := fun color a a' same => by
        rw [same.robot]
        exact (order.board formed).hasColor a.robot.position color
      tellable := fun d d' alike => alike.tellable }
  solved a a' same := by rw [same.lit, order.isSolved]
  lit a a' same := congrArg List.length same.lit
  goals := order.goals.length_eq.symm
  id := order.id
  said _ := rfl

end Level.Reordered

/-! ## Events -/

namespace Event

/-- Events that differ at most in the order of the flags that they show. -/
structure Reordered (e e' : Event) : Prop where
  rest : e' = { e with flags := e'.flags }
  flags : ∀ id, e'.flags.get? id = e.flags.get? id

/-- Events are alike if they differ at most in the order of their flags. -/
theorem like_reordered (level level' : Level) :
    Event.Like (Attempt.Reordered level level') level level' = Event.Reordered := by
  funext e e'
  refine propext ⟨?_, ?_⟩
  · rintro ⟨kind, path, blockId, command, success, outcome, shown⟩
    have robot : e'.robot = e.robot := shown.robot
    have lit : e'.lit = e.lit := shown.lit
    refine ⟨?_, shown.flags⟩
    rw [← kind, ← path, ← blockId, ← command, ← success, ← outcome, ← robot, ← lit]
  · rintro ⟨rest, flags⟩
    have robot : e'.robot = e.robot := by rw [rest]
    have lit : e'.lit = e.lit := by rw [rest]
    refine ⟨?_, ?_, ?_, ?_, ?_, ?_, rfl, rfl, robot, lit, flags⟩ <;> rw [rest]

end Event

/-! ## Sessions -/

namespace Session

/-- Sessions on one level in two orders, which differ in nothing else but in their catalogues and in the order of their
flags. -/
abbrev Reordered (level level' : Level) : Session → Session → Prop := Twin (Attempt.Reordered level level') level level'

/-- They have one robot, the same goals lit, and the same flag under every id. -/
theorem Reordered.state {level level' : Level} {s t : Session} (h : Reordered level level' s t) :
    t.robot = s.robot ∧ t.lit = s.lit ∧ ∀ id, t.store.get? id = s.store.get? id := by
  obtain ⟨robot, robot', there, there', same⟩ := h.attempts
  have still : robot' = robot := same.robot
  rw [there, there', still]
  exact ⟨rfl, same.lit, same.flags⟩

/-- They have one picture. -/
theorem Reordered.picture {level level' : Level} (order : level.Reordered level') (formed : level.WellFormed)
    {s t : Session} (h : Reordered level level' s t) : t.picture = s.picture := by
  obtain ⟨robot, lit, flags⟩ := h.state
  unfold Session.picture board
  rw [h.loaded, h.loaded', robot, lit]
  exact order.render formed flags _ _ _

/-- When the items of the layout and of the goals change places in an object from which a level is read, no two tiles of
which carry one id, then a level is read again. It has the same tiles and goals, and looks the same in every state; and
sessions that load the two differ in nothing but the order of flags. Before audiences that act alike in both, runs of
one program in such sessions have the same answer and the same reason to fail, leave the same robot, the same lit goals
and the same flags, and tell, await and print the same. -/
theorem reordered_runs (m m' : List (String × Json)) (level : Level) (read : Level.decode (.obj m) = .good level)
    (apart : Level.TellsApart level.layout) (shuffled : Level.AllShuffled m m') :
    ∃ level', Level.decode (.obj m') = .good level' ∧ level.Reordered level' ∧
    (∀ (store store' : Store) (robot : Option Pose) (lit : List Position) (symbols : Symbols),
      (∀ id, store'.get? id = store.get? id) →
      Picture.render ⟨some level'⟩ store' robot lit symbols = Picture.render ⟨some level⟩ store robot lit symbols) ∧
    (∀ (house : House) (other : Catalogue) (id id' delay : Int), house.catalogue.get? id = some level →
      other.get? id' = some level' →
      ∃ s t, (start house delay).load id = (.ok true, s) ∧
        (start { house with catalogue := other } delay).load id' = (.ok true, t) ∧ Reordered level level' s t) ∧
    (∀ s t : Session, Reordered level level' s t → t.picture = s.picture) ∧
    ∀ (ρ ρ' : Type) (W : ρ → ρ' → Prop) (a : Audience ρ) (b : Audience ρ') (program : Option Program) (s t : Session)
      (w : ρ) (w' : ρ'), a.Like (Reordered level level') Event.Reordered Eq W b → Reordered level level' s t → W w w' →
      let one := s.run a.diary program (w, [])
      let other := t.run b.diary program (w', [])
      s.run a program w = (one.1, one.2.1, one.2.2.1) ∧ t.run b program w' = (other.1, other.2.1, other.2.2.1) ∧
        other.1 = one.1 ∧ other.2.1.failure = one.2.1.failure ∧
        (∀ id, other.2.1.store.get? id = one.2.1.store.get? id) ∧
        other.2.1.robot = one.2.1.robot ∧ other.2.1.lit = one.2.1.lit ∧
        List.Forall₂ (Page.Like Event.Reordered Eq) one.2.2.2 other.2.2.2 ∧
        Reordered level level' one.2.1 other.2.1 ∧ W one.2.2.1 other.2.2.1 := by
  obtain ⟨level', read', order⟩ := Level.reordered_of_shuffled read shuffled
  have formed := Level.layoutFault?_eq_none.mp (Level.layoutFault?_of_decode read)
  have like := order.like formed apart
  refine ⟨level', read', order, fun _ _ robot lit symbols flags => order.render formed flags robot lit symbols,
    fun _ _ _ _ delay found found' => twin_load like found found' delay, fun _ _ => Reordered.picture order formed, ?_⟩
  intro ρ ρ' W a b program s t w w' audience twins memories one other
  rw [← Event.like_reordered level level'] at audience ⊢
  obtain ⟨one_run, other_run, answer, left, memories, pages⟩ := run_diaries like audience program twins memories
  obtain ⟨robot, lit, flags⟩ := Reordered.state left
  exact ⟨one_run, other_run, answer, left.failure, flags, robot, lit, pages, left, memories⟩

/-- The members of a file of a level with a switch for a door, and its tiles and goals. -/
def pavilionFile (tiles goals : List Json) : List (String × Json) :=
  [("id", .int 6), ("goals", .arr goals), ("grid_size", .int 2), ("layout", .arr tiles),
    ("start", .obj [("x", .int 0), ("y", .int 1), ("dir", .str "N")]), ("max_commands", .int 9)]

def pavilionTiles : List Json :=
  [.obj [("x", .int 0), ("y", .int 1)],
    .obj [("x", .int 0), ("y", .int 0), ("type", .str "switch"), ("target_id", .str "gate")],
    .obj [("x", .int 1), ("y", .int 0), ("type", .str "door"), ("id", .str "gate"), ("state", .bool false)],
    .obj [("x", .int 1), ("y", .int 1), ("type", .str "cracked"), ("id", .str "ice"), ("state", .bool true)]]

def pavilionGoals : List Json := [.obj [("x", .int 0), ("y", .int 1)], .obj [("x", .int 1), ("y", .int 0)]]

/-- The level of this file. -/
def pavilion : Level where
  id := 6
  size := 2
  layout := [{ position := ⟨0, 1⟩ }, { position := ⟨0, 0⟩, kind := .switch, target := some (.ofString "gate") },
    { position := ⟨1, 0⟩, kind := .door, id := some (.ofString "gate"), state := some false },
    { position := ⟨1, 1⟩, kind := .cracked, id := some (.ofString "ice"), state := some true }]
  start := ⟨⟨0, 1⟩, .north⟩
  goals := [⟨0, 1⟩, ⟨1, 0⟩]
  maxCommands := 9

/-- The same level, with its tiles and goals the other way round. -/
def pavilionBack : Level := { pavilion with layout := pavilion.layout.reverse, goals := pavilion.goals.reverse }

/-- A program that lights a goal of the pavilion, opens its door, and lights the goal behind it. -/
def stroll : Program := ["LIGHT", "MOVE", "TURN_R", "MOVE", "LIGHT"].map fun name => .ofCommand (some name)

/-- Someone who draws a picture of whatever happens. -/
def painter : Audience (List String) where
  listeners := [fun _ s pictures => (none, s, pictures ++ [s.picture])]
  sleep _ s pictures := (none, s, pictures)
  print _ pictures := pictures

/-- A painter sees the same in whatever order tiles and goals stand. -/
theorem painter_like {level level' : Level} (order : level.Reordered level') (formed : level.WellFormed) :
    painter.Like (Reordered level level') Event.Reordered Eq Eq painter where
  told := by
    refine .cons ?_ .nil
    rintro e e' s t pictures _ - twins rfl
    exact ⟨rfl, twins, congrArg (fun seen => pictures ++ [seen]) (Reordered.picture order formed twins).symm⟩
  slept := by
    rintro n s t pictures _ twins rfl
    exact ⟨rfl, twins, rfl⟩
  printed := by
    rintro r r' pictures _ - rfl
    rfl

theorem reordered_runs_pavilion :
    Level.decode (.obj (pavilionFile pavilionTiles pavilionGoals)) = .good pavilion ∧
      Level.TellsApart pavilion.layout ∧
      Level.AllShuffled (pavilionFile pavilionTiles pavilionGoals)
        (pavilionFile pavilionTiles.reverse pavilionGoals.reverse) ∧
      Level.decode (.obj (pavilionFile pavilionTiles.reverse pavilionGoals.reverse)) = .good pavilionBack ∧
      Reordered pavilion pavilionBack (guest pavilion) (guest pavilionBack) ∧
      let one := (guest pavilion).run painter.diary (some stroll) ([], [])
      let other := (guest pavilionBack).run painter.diary (some stroll) ([], [])
      other.1 = .ok .win ∧ other.2.1.robot = some ⟨⟨1, 0⟩, .east⟩ ∧ other.2.1.lit = [⟨0, 1⟩, ⟨1, 0⟩] ∧
        other.2.1.store.get? (.ofString "gate") = some true ∧ other.2.1.picture = one.2.1.picture ∧
        other.2.2.1 = one.2.2.1 ∧ one.2.2.2.length = 23 ∧
        List.Forall₂ (Page.Like Event.Reordered Eq) one.2.2.2 other.2.2.2 := by
  have read : Level.decode (.obj (pavilionFile pavilionTiles pavilionGoals)) = .good pavilion := rfl
  have apart : (pavilion.layout.filterMap Tile.id).Nodup := by decide +kernel
  have shuffled : Level.AllShuffled (pavilionFile pavilionTiles pavilionGoals)
      (pavilionFile pavilionTiles.reverse pavilionGoals.reverse) :=
    .cons ⟨rfl, .same _⟩ (.cons ⟨rfl, .items (.inr rfl) (List.reverse_perm _).symm⟩ (.cons ⟨rfl, .same _⟩
      (.cons ⟨rfl, .items (.inl rfl) (List.reverse_perm _).symm⟩ (.cons ⟨rfl, .same _⟩ (.cons ⟨rfl, .same _⟩ .nil)))))
  obtain ⟨back, read', order, -, load, looks, runs⟩ := reordered_runs _ _ pavilion read apart shuffled
  obtain rfl : pavilionBack = back := Checked.good.inj read'
  obtain ⟨s, t, loaded, loaded', twins⟩ := load (lodge pavilion) ⟨[pavilionBack]⟩ 6 6 5 rfl rfl
  obtain rfl : guest pavilion = s := congrArg Prod.snd loaded
  obtain rfl : guest pavilionBack = t := congrArg Prod.snd loaded'
  have formed := Level.layoutFault?_eq_none.mp (Level.layoutFault?_of_decode read)
  obtain ⟨-, -, answer, -, flags, robot, lit, pages, left, painted⟩ :=
    runs (List String) (List String) Eq painter painter (some stroll) _ _ [] [] (painter_like order formed) twins rfl
  refine ⟨read, apart, shuffled, read', twins, ?_⟩
  have won : ((guest pavilion).run painter.diary (some stroll) ([], [])).1 = .ok .win := by decide +kernel
  have final : ((guest pavilion).run painter.diary (some stroll) ([], [])).2.1.robot = some ⟨⟨1, 0⟩, .east⟩ := by
    decide +kernel
  have lights : ((guest pavilion).run painter.diary (some stroll) ([], [])).2.1.lit = [⟨0, 1⟩, ⟨1, 0⟩] := by
    decide +kernel
  have gate : ((guest pavilion).run painter.diary (some stroll) ([], [])).2.1.store.get? (.ofString "gate") =
      some true := by decide +kernel
  exact ⟨answer.trans won, robot.trans final, lit.trans lights, (flags _).trans gate, looks _ _ left, painted.symm,
    by decide +kernel, pages⟩

end Session

end Lamplighter
