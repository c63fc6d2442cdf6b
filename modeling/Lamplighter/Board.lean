/-
Lamplighter.Board — what can be asked about the grid of a loaded level.

A board without a level answers every question as an empty grid does. Whether a cell can be walked
on depends on the live flags as well as on its tile: doors open and cracked tiles break.
-/
import Lamplighter.Store

namespace Lamplighter

/-- The grid of a level, or of no level. -/
structure Board where
  level : Option Level
  deriving DecidableEq, Repr, Inhabited

namespace Board

/-- A cell lies in the grid. -/
def inBounds (board : Board) (p : Position) : Bool :=
  match board.level with
  | none => false
  | some level => decide (Level.Inside level.size p)

/-- The tile on a cell of the grid. -/
def tileAt? (board : Board) (p : Position) : Option Tile :=
  match board.level with
  | none => none
  | some level => if Level.Inside level.size p then Level.tileOn? level.layout p else none

/-- The height of a cell; a cell without a tile has height 0. -/
def heightAt (board : Board) (p : Position) : Int :=
  match board.tileAt? p with
  | some tile => tile.height
  | none => 0

/-- Whether a tile can be walked on while the flags are as they are: never a void, a door only while
it is open, a cracked tile until it is broken. -/
def canStand (store : Store) (tile : Tile) : Bool :=
  match tile.kind, tile.id with
  | .void, _ => false
  | .door, none => false
  | .door, some id => store.get? id == some true
  | .cracked, none => true
  | .cracked, some id => store.get? id != some false
  | _, _ => true

/-- Whether a cell can be walked on. -/
def isWalkable (board : Board) (store : Store) (p : Position) : Bool :=
  match board.tileAt? p with
  | some tile => canStand store tile
  | none => false

/-- Whether a cell is a goal. -/
def isGoal (board : Board) (p : Position) : Bool :=
  match board.level with
  | none => false
  | some level => p ∈ level.goals

/-- Whether the tile on a cell has a colour. -/
def hasColor (board : Board) (p : Position) (color : Label) : Bool :=
  match board.tileAt? p with
  | some tile => tile.color == some color
  | none => false

end Board

end Lamplighter
