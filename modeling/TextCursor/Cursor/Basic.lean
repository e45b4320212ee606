import TextCursor.Error
import TextCursor.Grapheme.Cluster

/-!
Contract: a cursor, which is a movable window over a shared text.

Owns: the window, what is remembered of its division into clusters, and checked construction.

Offsets and sizes count code points of the source and are integers, because construction takes
whatever a caller computed and checks it.

Does not own: moves, which are steps of `Edit`.
-/

namespace TextCursor

/-- What has been computed for the current window. `kept` is the half-open range of clusters
between the leading and the trailing blank ones. -/
structure Cache where
  clusters : Option (List Cluster) := none
  count : Option Nat := none
  kept : Option (Nat × Nat) := none
deriving DecidableEq, Repr

structure Cursor where
  source : Text
  start : Int
  size : Int
  cache : Cache := {}
deriving DecidableEq, Repr

namespace Cursor

def Inside (cursor : Cursor) : Prop :=
  0 ≤ cursor.start ∧ 0 ≤ cursor.size ∧ cursor.start + cursor.size ≤ cursor.source.length

instance (cursor : Cursor) : Decidable cursor.Inside := by
  unfold Inside
  infer_instance

/-- A cursor over a window that has to lie within its source. -/
def make (source : Text) (start size : Int) : Except Error Cursor :=
  let cursor : Cursor := { source, start, size }
  if cursor.Inside then .ok cursor else .error (.outOfBounds start size source.length)

theorem make_of_inside {source : Text} {start size : Int}
    (inside : Inside { source, start, size }) :
    make source start size = .ok { source, start, size } := if_pos inside

/-- A cursor over a text from `start` on, to the text's end unless a size is given. -/
def ofText (source : Text) (start : Int) (size : Option Int) : Except Error Cursor :=
  make source start (size.getD (source.length - start))

/-- A cursor over the same source that starts `offset` code points into this window. It ends
with this window unless a size is given; only the source bounds it. -/
def sub (cursor : Cursor) (offset : Int) (size : Option Int) : Except Error Cursor :=
  make cursor.source (cursor.start + offset) (size.getD (cursor.size - offset))

/-- Another cursor over the same window, with nothing computed yet. -/
def copy (cursor : Cursor) : Except Error Cursor := cursor.sub 0 none

/-- The offset just past the window. -/
def stop (cursor : Cursor) : Int := cursor.start + cursor.size

def content (cursor : Cursor) : Text := cursor.source.slice cursor.start cursor.stop

end Cursor

end TextCursor
