import TextCursor.Cursor.Edit
import TextCursor.Text.Blank

/-!
Contract: windows without blank clusters at their ends.

Owns: the move past leading blanks, and the new cursors without trailing blanks or without
blanks at either end. A cluster is blank if it holds a blank code point.
-/

namespace TextCursor.Cursor

def isBlank (cluster : Cluster) : Bool := Text.holdsBlank cluster.text

/-- The half-open range of clusters that is left when blank ones are dropped first from the
front and then from the back. If all are blank it is empty and at the end. -/
def keptRange (clusters : List Cluster) : Nat × Nat :=
  let later := clusters.dropWhile isBlank
  let first := clusters.length - later.length
  (first, first + (later.reverse.dropWhile isBlank).length)

/-- The range to keep in the window, computed at most once until the window moves. -/
def kept : Edit (Nat × Nat) := do
  match (← get).cache.kept with
  | some range => return range
  | none =>
      let range := keptRange (← Cursor.clusters)
      modify fun cursor => { cursor with cache := { cursor.cache with kept := some range } }
      return range

/-- Moves past leading blank clusters. This moves the cursor itself; the other two trims
make new ones. -/
def skipBlanks : Edit Unit := do
  let clusters ← Cursor.clusters
  let cursor ← get
  let offset : Int :=
    match clusters.find? (fun cluster => !isBlank cluster) with
    | some cluster => cluster.offset
    | none => cursor.size
  moveTo (cursor.start + offset) (cursor.size - offset)

/-- A new cursor without the trailing blank clusters, found in a fresh segmentation. -/
def trimBack (cursor : Cursor) : Except Error Cursor :=
  let size :=
    match ((TextCursor.clusters cursor.content).reverse.dropWhile isBlank).head? with
    | some cluster => cluster.stop
    | none => 0
  make cursor.source cursor.start size

/-- A new cursor without blank clusters at either end. -/
def trim : Edit Cursor := do
  let range ← kept
  let cursor ← get
  if range.2 ≤ range.1 then .ofExcept (make cursor.source cursor.start 0)
  else do
    let clusters ← Cursor.clusters
    let first ← .ofExcept (existing clusters range.1)
    let last ← .ofExcept (existing clusters (range.2 - 1))
    .ofExcept (make cursor.source (cursor.start + first.offset) (last.stop - first.offset))

end TextCursor.Cursor
