import TextCursor.Cursor.Edit
import TextCursor.Text.Casing.Lower
import TextCursor.Text.Quoted

/-!
Contract: what a cursor tells about its window without moving it.

Owns: clusters by index and in order, their number, searches and comparisons of the window's
text, and the written form of a cursor.
-/

namespace TextCursor.Cursor

/-- The cluster at an index, or the empty text if there is none. -/
def clusterAt (index : Int) : Edit Text :=
  if index < 0 then return []
  else do
    let clusters ← Cursor.clusters
    match clusters[index.toNat]? with
    | some cluster => return cluster.text
    | none => return []

def clusterTexts : Edit (List Text) := do
  return (← Cursor.clusters).map Cluster.text

/-- The number of clusters, computed at most once until the window moves. -/
def clusterCount : Edit Nat := do
  match (← get).cache.count with
  | some count => return count
  | none =>
      let count := (← Cursor.clusters).length
      modify fun cursor => { cursor with cache := { cursor.cache with count := some count } }
      return count

/-- The leftmost offset at which a needle occurs in the window, or -1. -/
def offsetOf (cursor : Cursor) (needle : Text) : Int :=
  match cursor.content.find? needle with
  | some offset => offset
  | none => -1

def reads (cursor : Cursor) (other : Text) : Bool := cursor.content == other

/-- Equality of the lower-case forms, each taken on its own. -/
def readsIgnoringCase (cursor : Cursor) (other : Text) : Bool :=
  cursor.content.lower == other.lower

def beginsWith (cursor : Cursor) (other : Text) : Bool := other.isPrefixOf cursor.content

def endsWith (cursor : Cursor) (other : Text) : Bool := other.isSuffixOf cursor.content

def written (cursor : Cursor) : Text :=
  "<StringView: ".toList ++ cursor.content.quoted ++ ['>']

end TextCursor.Cursor
