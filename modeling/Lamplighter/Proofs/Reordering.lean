/-
Lamplighter.Proofs.Reordering — levels whose tiles and goals stand in another order.

* `Level.Shuffled` — what becomes of the members of a level when the items of its layout and of its goals change places.
* `Level.Reordered`, `Level.reordered_of_shuffled` — the level that is read from these has the same tiles and goals.
* `Level.TellsApart` — no id is carried by two tiles. `Store.get?_declared` — then the state that a tile declares for
  its id is the flag that the id starts with, wherever the tile stands.
* `Level.tileOn?_eq_of_perm`, `TellsApart.tileNamed?_eq`, `Level.Reordered.get?_ofLevel` — lookups by cell, by id and by
  flag do not see the order.
* `Attempt.Agree.execute` — every command does the same on boards and in attempts that agree on all lookups.
* `Level.Reordered.render` — both levels have one picture.
-/
import Lamplighter.Picture
import Lamplighter.Proofs.Decoding
import Lamplighter.Proofs.Run.Likeness
import Mathlib.Data.List.Find
import Mathlib.Data.List.Nodup
import Mathlib.Data.List.Perm.Basic

namespace Lamplighter

namespace Level

/-! ## Members in another order -/

/-- The members of a level whose items may change places. -/
def IsUnordered (name : String) : Prop := name = "layout" ∨ name = "goals"

instance (name : String) : Decidable (IsUnordered name) := inferInstanceAs (Decidable (_ ∨ _))

/-- What a member of a level may become when the items of its layout and of its goals change places. -/
inductive Shuffled (name : String) : Json → Json → Prop
  | same (j : Json) : Shuffled name j j
  | items {js js' : List Json} (free : IsUnordered name) (order : js.Perm js') : Shuffled name (.arr js) (.arr js')

/-- The members of an object, with the items of its layout and of its goals in some order. -/
def AllShuffled (m m' : List (String × Json)) : Prop :=
  List.Forall₂ (fun entry entry' => entry'.1 = entry.1 ∧ Shuffled entry.1 entry.2 entry'.2) m m'

/-- A level with its tiles and its goals in some order. -/
structure Reordered (level level' : Level) : Prop where
  rest : level' = { level with layout := level'.layout, goals := level'.goals }
  layout : level.layout.Perm level'.layout
  goals : level.goals.Perm level'.goals

namespace AllShuffled

variable {m m' : List (String × Json)} (h : AllShuffled m m')

include h

theorem member? (name : String) :
    Option.Rel (Shuffled name) (Json.member? m name) (Json.member? m' name) := by
  unfold Json.member?
  induction h with
  | nil => exact .none
  | @cons entry entry' _ _ first _ ih =>
    obtain ⟨key, value⟩ := entry
    obtain ⟨key', value'⟩ := entry'
    obtain ⟨same, shuffled⟩ := first
    obtain rfl : key' = key := same
    by_cases here : key' = name
    · subst here
      simpa using Option.Rel.some shuffled
    · simpa [here] using ih

/-- All other members stay as they are. -/
theorem member?_eq {name : String} (ordered : ¬IsUnordered name) : Json.member? m' name = Json.member? m name := by
  have found := h.member? name
  revert found
  generalize Json.member? m name = j
  generalize Json.member? m' name = j'
  rintro (⟨⟨⟩ | ⟨free, -⟩⟩ | _)
  · rfl
  · exact absurd free ordered
  · rfl

section Ordered

variable {α : Type} {f : Decode.Field} (read : Json → Checked α) (label : ¬IsUnordered f.label)
  (name : ¬IsUnordered f.name)

include label name

theorem find?_eq : f.find? m' = f.find? m := by
  unfold Decode.Field.find?
  rw [h.member?_eq label, h.member?_eq name]

theorem required : Decode.required f read m' = Decode.required f read m := by
  rw [Decode.required, Decode.required, h.find?_eq label name]

theorem optional (default : α) : Decode.optional f default read m' = Decode.optional f default read m := by
  rw [Decode.optional, Decode.optional, h.find?_eq label name]

end Ordered

/-- A list is read from its items in whatever order they stand. -/
theorem list {α : Type} {name : String} {read : Json → Checked α} {l : List α}
    (there : Decode.optional ⟨name, none⟩ [] (Decode.list read) m = .good l) :
    ∃ l', Decode.optional ⟨name, none⟩ [] (Decode.list read) m' = .good l' ∧ l.Perm l' := by
  have found := h.member? name
  simp only [Decode.optional, Decode.Field.find?_of_name] at there ⊢
  revert found there
  generalize Json.member? m name = j
  generalize Json.member? m' name = j'
  rintro (⟨⟨⟩ | ⟨-, order⟩⟩ | _) there
  · exact ⟨l, there, .refl l⟩
  · obtain ⟨js, same, items⟩ := Decode.list_good.mp (Checked.within_good.mp there)
    obtain rfl := Json.arr.inj same
    obtain ⟨l', items', order⟩ := List.perm_comp_forall₂ order.symm items
    exact ⟨l', Checked.within_good.mpr (Decode.list_good.mpr ⟨_, rfl, items'⟩), order.symm⟩
  · exact ⟨l, there, .refl l⟩

end AllShuffled

/-- A level is well-formed in whatever order its tiles and goals stand. -/
theorem WellFormed.reordered {level level' : Level} (h : level.WellFormed) (order : level.Reordered level') :
    level'.WellFormed := by
  obtain ⟨rest, layout, goals⟩ := order
  have positions := layout.map Tile.position
  rw [rest]
  refine ⟨?_, positions.nodup_iff.mp h.distinct, ?_, ?_⟩
  · exact fun t there => h.inside t (layout.mem_iff.mpr there)
  · exact fun g there => positions.mem_iff.mp (h.goals_on_tiles g (goals.mem_iff.mpr there))
  · obtain ⟨t, there, why⟩ := h.start_on_tile
    exact ⟨t, layout.mem_iff.mp there, why⟩

/-- A level whose tiles and goals change places in the object from which it is read can be read, and has the same tiles
and goals. -/
theorem reordered_of_shuffled {m m' : List (String × Json)} {level : Level} (read : decode (.obj m) = .good level)
    (shuffled : AllShuffled m m') : ∃ level', decode (.obj m') = .good level' ∧ level.Reordered level' := by
  obtain ⟨_, same, fields, faultless⟩ := decode_good.mp read
  obtain rfl := Json.obj.inj same
  obtain ⟨tiles, readTiles, layout⟩ := shuffled.list fields.layout
  obtain ⟨cells, readGoals, goals⟩ := shuffled.list fields.goals
  have order : level.Reordered { level with layout := tiles, goals := cells } := ⟨rfl, layout, goals⟩
  have formed := (layoutFault?_eq_none.mp faultless).reordered order
  refine ⟨_, decode_good.mpr ⟨m', rfl, ?_, layoutFault?_eq_none.mpr formed⟩, order⟩
  exact
    { id := (shuffled.required _ (by decide) (by decide)).trans fields.id
      title := (shuffled.optional _ (by decide) (by decide) _).trans fields.title
      description := (shuffled.optional _ (by decide) (by decide) _).trans fields.description
      size := (shuffled.required _ (by decide) (by decide)).trans fields.size
      layout := readTiles
      start := (shuffled.required _ (by decide) (by decide)).trans fields.start
      goals := readGoals
      palette := (shuffled.optional _ (by decide) (by decide) _).trans fields.palette
      budget := (shuffled.required _ (by decide) (by decide)).trans fields.budget }

/-! ## Lookups -/

/-- No id is carried by two tiles. -/
def TellsApart (layout : List Tile) : Prop := (layout.filterMap Tile.id).Nodup

theorem TellsApart.cons {t : Tile} {rest : List Tile} (h : TellsApart (t :: rest)) : TellsApart rest :=
  (List.Sublist.filterMap Tile.id (List.sublist_cons_self t rest)).nodup h

/-- No later tile has the id of an earlier one. -/
theorem TellsApart.tileNamed?_eq_none {t : Tile} {rest : List Tile} (h : TellsApart (t :: rest)) {id : Label}
    (carried : t.id = some id) : Level.tileNamed? rest id = none := by
  unfold TellsApart at h
  rw [List.filterMap_cons_some carried, List.nodup_cons, List.mem_filterMap] at h
  refine List.find?_eq_none.mpr fun u there same => h.1 ⟨u, there, ?_⟩
  simpa using same

/-- One tile carries an id. -/
theorem TellsApart.eq_of_id {layout : List Tile} (h : TellsApart layout) {t u : Tile} (there : t ∈ layout)
    (there' : u ∈ layout) {id : Label} (carried : t.id = some id) (carried' : u.id = some id) : t = u := by
  induction layout with
  | nil => cases there
  | cons first rest ih =>
    have none {v : Tile} (later : v ∈ rest) (same : first.id = some id) : v.id ≠ some id := by
      simpa using List.find?_eq_none.mp (h.tileNamed?_eq_none same) v later
    rcases List.mem_cons.mp there with rfl | later
    · rcases List.mem_cons.mp there' with rfl | later'
      · rfl
      · exact absurd carried' (none later' carried)
    · rcases List.mem_cons.mp there' with rfl | later'
      · exact absurd carried (none later carried')
      · exact ih h.cons later later'

/-- A tile is found by its id wherever it stands. -/
theorem TellsApart.tileNamed?_eq {layout layout' : List Tile} (h : TellsApart layout) (order : layout.Perm layout')
    (id : Label) : Level.tileNamed? layout' id = Level.tileNamed? layout id := by
  refine (List.find?_eq_find?_of_perm order ?_).symm
  rintro t ⟨there, carries⟩ u ⟨there', carries'⟩
  simp only [decide_eq_true_eq] at carries carries'
  exact h.eq_of_id there there' carries carries'

/-- A tile is found on its cell wherever it stands. -/
theorem tileOn?_eq_of_perm {layout layout' : List Tile} (distinct : (layout.map Tile.position).Nodup)
    (order : layout.Perm layout') (p : Position) : tileOn? layout' p = tileOn? layout p := by
  refine (List.find?_eq_find?_of_perm order ?_).symm
  rintro t ⟨there, on⟩ u ⟨there', on'⟩
  simp only [decide_eq_true_eq] at on on'
  exact List.inj_on_of_nodup_map distinct there there' (on.trans on'.symm)

end Level

namespace Store

theorem get?_declare {t : Tile} {id : Label} (carried : t.id = some id) (flags : Flags) :
    (declare flags t).get? id = t.state.or (flags.get? id) := by
  rw [declare, carried]
  cases t.state with
  | none => rfl
  | some state => simp [Flags.get?_set]

theorem get?_declare_of_ne {t : Tile} {id : Label} (other : t.id ≠ some id) (flags : Flags) :
    (declare flags t).get? id = flags.get? id := by
  unfold declare
  split
  · rename_i named _
    rw [Flags.get?_set, if_neg]
    rintro rfl
    exact other named
  · rfl

/-- If no id is carried by two tiles, then an id starts with the state that the tile declares which carries it. -/
theorem get?_declared {layout : List Tile} (apart : Level.TellsApart layout) (id : Label) :
    (declared layout).get? id = (Level.tileNamed? layout id).bind Tile.state := by
  suffices fold : ∀ flags : Flags,
      (layout.foldl declare flags).get? id = ((Level.tileNamed? layout id).bind Tile.state).or (flags.get? id) by
    simpa [declared] using fold []
  induction layout with
  | nil => exact fun flags => rfl
  | cons t rest ih =>
    intro flags
    rw [List.foldl_cons, ih apart.cons]
    by_cases carried : t.id = some id
    · have here : Level.tileNamed? (t :: rest) id = some t := List.find?_cons_of_pos (by simpa using carried)
      rw [apart.tileNamed?_eq_none carried, here, get?_declare carried]
      rfl
    · have later : Level.tileNamed? (t :: rest) id = Level.tileNamed? rest id :=
        List.find?_cons_of_neg (by simpa using carried)
      rw [later, get?_declare_of_ne carried]

/-! ## Stores and boards that agree -/

/-- Stores in which the same tile is found on each cell and by each id, and the same flag. -/
structure Agree (s s' : Store) : Prop where
  tileOn? : ∀ p, Level.tileOn? s'.layout p = Level.tileOn? s.layout p
  tileNamed? : ∀ id, Level.tileNamed? s'.layout id = Level.tileNamed? s.layout id
  get? : ∀ id, s'.get? id = s.get? id

namespace Agree

variable {s s' : Store} (h : s.Agree s')

include h

theorem set (id : Label) (value : Bool) : (s.set id value).Agree (s'.set id value) where
  tileOn? := h.tileOn?
  tileNamed? := h.tileNamed?
  get? other := by
    have same : s'.flags.get? other = s.flags.get? other := h.get? other
    simp only [Store.get?, Store.set, Flags.get?_set, same]

theorem destination? (p : Position) : s'.destination? p = s.destination? p := by
  simp only [Store.destination?, h.tileOn?, h.tileNamed?]

theorem enter (p : Position) : (s.enter p).Agree (s'.enter p) := by
  unfold Store.enter
  rw [h.tileOn?]
  split
  · unfold toggle
    rw [h.get?]
    exact h.set _ _
  · exact h

theorem leave (p : Position) : (s.leave p).Agree (s'.leave p) := by
  unfold Store.leave
  rw [h.tileOn?]
  split
  · exact h.set _ _
  · exact h

end Agree

end Store

namespace Board

/-- Boards with the same tiles and goals on each cell. -/
structure Agree (board board' : Board) : Prop where
  tileAt? : ∀ p, board'.tileAt? p = board.tileAt? p
  isGoal : ∀ p, board'.isGoal p = board.isGoal p

namespace Agree

variable {board board' : Board} (h : board.Agree board')

include h

theorem heightAt (p : Position) : board'.heightAt p = board.heightAt p := by
  rw [Board.heightAt, Board.heightAt, h.tileAt?]

theorem hasColor (p : Position) (color : Label) : board'.hasColor p color = board.hasColor p color := by
  rw [Board.hasColor, Board.hasColor, h.tileAt?]

theorem isWalkable {store store' : Store} (flags : ∀ id, store'.get? id = store.get? id) (p : Position) :
    board'.isWalkable store' p = board.isWalkable store p := by
  have stand (tile : Tile) : canStand store' tile = canStand store tile := by simp only [canStand, flags]
  rw [Board.isWalkable, Board.isWalkable, h.tileAt?]
  simp only [stand]

end Agree

end Board

namespace Level.Reordered

variable {level level' : Level} (order : level.Reordered level')

include order

theorem size : level'.size = level.size := by rw [order.rest]

theorem start : level'.start = level.start := by rw [order.rest]

theorem id : level'.id = level.id := by rw [order.rest]

/-- A well-formed level shows the same tiles and goals in whatever order they stand. -/
theorem board (formed : level.WellFormed) : (⟨some level⟩ : Board).Agree ⟨some level'⟩ where
  tileAt? p := by
    simp only [Board.tileAt?, order.size, tileOn?_eq_of_perm formed.distinct order.layout]
  isGoal p := by
    simp only [Board.isGoal, order.goals.mem_iff]

/-- The stores of a well-formed level agree in whatever order its tiles stand. -/
theorem store (formed : level.WellFormed) (apart : TellsApart level.layout) {s s' : Store}
    (layout : s.layout = level.layout) (layout' : s'.layout = level'.layout) (flags : ∀ id, s'.get? id = s.get? id) :
    s.Agree s' where
  tileOn? p := by rw [layout, layout', tileOn?_eq_of_perm formed.distinct order.layout]
  tileNamed? id := by rw [layout, layout', apart.tileNamed?_eq order.layout]
  get? := flags

/-- A level declares the same flags in whatever order its tiles stand. -/
theorem get?_ofLevel (apart : TellsApart level.layout) (id : Label) :
    (Store.ofLevel (some level')).get? id = (Store.ofLevel (some level)).get? id := by
  have apart' : TellsApart level'.layout := (order.layout.filterMap Tile.id).nodup_iff.mp apart
  unfold Store.get? Store.ofLevel
  rw [Store.get?_declared apart, Store.get?_declared apart', apart.tileNamed?_eq order.layout]

end Level.Reordered

/-! ## Commands -/

namespace Attempt

/-- Attempts with one robot, the same goals lit, and stores that agree. -/
structure Agree (a a' : Attempt) : Prop where
  robot : a'.robot = a.robot
  lit : a'.lit = a.lit
  store : a.store.Agree a'.store

section Commands

variable {board board' : Board} (boards : board.Agree board') {a a' : Attempt} (h : a.Agree a')

include h

theorem Agree.arrive (target : Position) : (a.arrive target).Agree (a'.arrive target) := by
  have landing := h.store.destination? target
  refine ⟨?_, h.lit, ?_⟩
  · simp only [Attempt.arrive, h.robot, landing]
  · simpa only [Attempt.arrive, h.robot] using (h.store.enter target).leave a.robot.position

include boards

theorem Agree.step (rules : Rules) (gait : Gait) :
    Report.Like Agree Eq (a.step board rules gait) (a'.step board' rules gait) := by
  have walkable := boards.isWalkable h.store.get?
  have arrived := h.arrive (a.robot.position.ahead a.robot.heading)
  unfold Attempt.step
  simp only [h.robot, walkable, boards.heightAt, h.store.destination?, arrived.robot]
  split
  · exact ⟨h, rfl, List.forall₂_refl _⟩
  · split
    · exact ⟨h, rfl, List.forall₂_refl _⟩
    · exact ⟨arrived, rfl, List.forall₂_refl _⟩

theorem Agree.light : Report.Like Agree Eq (a.light board) (a'.light board') := by
  unfold Attempt.light
  simp only [h.robot, boards.isGoal, h.lit]
  split
  · exact ⟨h, rfl, List.forall₂_refl _⟩
  · split
    · exact ⟨h, rfl, List.forall₂_refl _⟩
    · exact ⟨⟨rfl, rfl, h.store⟩, rfl, List.forall₂_refl _⟩

/-- Every command does the same in attempts that agree, on boards that agree. -/
theorem Agree.execute (rules : Rules) (name : String) :
    Report.Like Agree Eq (a.execute board rules name) (a'.execute board' rules name) := by
  unfold Attempt.execute
  cases Command.ofName? name with
  | none => exact ⟨h, rfl, .nil⟩
  | some c =>
    cases c with
    | move => exact h.step boards rules .move
    | jump => exact h.step boards rules .jump
    | light => exact h.light boards
    | turnLeft =>
      simp only [h.robot]
      exact ⟨⟨by simp only [turn, h.robot], h.lit, h.store⟩, rfl, List.forall₂_refl _⟩
    | turnRight =>
      simp only [h.robot]
      exact ⟨⟨by simp only [turn, h.robot], h.lit, h.store⟩, rfl, List.forall₂_refl _⟩
    | procedure => exact ⟨h, rfl, .nil⟩

end Commands

end Attempt

/-! ## Pictures -/

/-- A well-formed level looks the same in whatever order its tiles and goals stand. -/
theorem Level.Reordered.render {level level' : Level} (order : level.Reordered level') (formed : level.WellFormed)
    {store store' : Store} (flags : ∀ id, store'.get? id = store.get? id) (robot : Option Pose) (lit : List Position)
    (symbols : Symbols) :
    Picture.render ⟨some level'⟩ store' robot lit symbols = Picture.render ⟨some level⟩ store robot lit symbols := by
  have boards := order.board formed
  have glyph (p : Position) :
      Picture.glyph ⟨some level'⟩ store' lit p = Picture.glyph ⟨some level⟩ store lit p := by
    simp only [Picture.glyph, boards.isGoal, boards.tileAt?, boards.isWalkable flags]
  have row : Picture.row symbols ⟨some level'⟩ store' robot lit = Picture.row symbols ⟨some level⟩ store robot lit := by
    funext size y
    simp only [Picture.row, Picture.cell, glyph]
  simp only [Picture.render, Picture.rows, row, order.size]

end Lamplighter
