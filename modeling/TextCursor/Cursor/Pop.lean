import TextCursor.Cursor.Edit

/-!
Contract: pieces removed from the ends of a window.

Owns: removal of a number of clusters at either end; removal of a field up to a delimiter that
is aligned with clusters; removal up to an occurrence of a needle at any code point.

Each operation yields the removed piece as a new cursor over the same source and leaves the
rest. A delimiter or needle that it moved past belongs to neither.
-/

namespace TextCursor.Cursor

def popAll : Edit Cursor := do
  let cursor ← get
  let piece ← .ofExcept cursor.copy
  moveTo cursor.stop 0
  return piece

/-- Removes the first clusters: none if the count is not positive, all if there are no more. -/
def popFront (count : Int) : Edit Cursor := do
  let cursor ← get
  if count ≤ 0 then .ofExcept (make cursor.source cursor.start 0)
  else do
    let clusters ← Cursor.clusters
    if clusters.length ≤ count then popAll
    else do
      let last ← .ofExcept (existing clusters (count - 1))
      let piece ← .ofExcept (make cursor.source cursor.start last.stop)
      moveTo (cursor.start + last.stop) (cursor.size - last.stop)
      return piece

/-- Removes the last clusters, counted in a fresh segmentation. -/
def popBack (count : Int) : Edit Cursor := do
  let cursor ← get
  if count ≤ 0 then .ofExcept (make cursor.source cursor.start 0)
  else do
    let clusters := TextCursor.clusters cursor.content
    if clusters.length ≤ count then popAll
    else do
      let first ← .ofExcept (existing clusters (clusters.length - count))
      let piece ← .ofExcept
        (make cursor.source (cursor.start + first.offset) (cursor.size - first.offset))
      moveTo cursor.start first.offset
      return piece

/-- A place in a window to split at: the size of what comes before it, and the offset just
past it. -/
structure Split where
  before : Int
  after : Int
deriving DecidableEq, Repr

/-- The first run of `width` clusters whose text is the delimiter. The run may be cut short by
the end of the list; `size` is the offset of that end. -/
def alignedSplit (delimiter : Text) (width : Nat) (size : Int) : List Cluster → Option Split
  | [] => none
  | cluster :: later =>
      let run := cluster :: later
      if (run.take width).flatMap Cluster.text = delimiter then
        some ⟨cluster.offset, match run.drop width with
          | next :: _ => next.offset
          | [] => size⟩
      else alignedSplit delimiter width size later

/-- The first occurrence of a delimiter that begins and ends at cluster boundaries of the
window, found in a fresh segmentation. -/
def findField (cursor : Cursor) (delimiter : Text) : Option Split :=
  alignedSplit delimiter (TextCursor.clusterTexts delimiter).length cursor.size
    (TextCursor.clusters cursor.content)

/-- Removes what comes before a split and what the split spans, and yields the former. -/
def popSplit (split : Split) : Edit Cursor := do
  let cursor ← get
  let piece ← .ofExcept (make cursor.source cursor.start split.before)
  moveTo (cursor.start + split.after) (cursor.size - split.after)
  return piece

/-- Removes the field before a delimiter and the delimiter. Without a delimiter the whole
window is the field. -/
def popField (delimiter : Text) : Edit Cursor := do
  match (← get).findField delimiter with
  | some split => popSplit split
  | none => popAll

/-- Removes the field before a delimiter and the delimiter. Without a delimiter nothing
happens. -/
def popField? (delimiter : Text) : Edit (Option Cursor) := do
  match (← get).findField delimiter with
  | some split => return some (← popSplit split)
  | none => return none

/-- The first offset from `offset` on at which the needle occurs, or else the last offset that
leaves room for it. That last offset is not compared. `rest` is the source from `offset` of the
window on. -/
def slide (needle : Text) (size : Int) : Text → Int → Int
  | [], offset => offset
  | c :: rest, offset =>
      if offset + needle.length < size ∧ ¬needle.isPrefixOf (c :: rest) then
        slide needle size rest (offset + 1)
      else offset

/-- Removes the text before the first occurrence of a needle, and the needle. The last position
that the needle fits at is never compared: a search that comes there yields the window to its
end, a needle there included, as does one that has no room to begin with. -/
def popBefore (needle : Text) : Edit Cursor := do
  let cursor ← get
  if cursor.size < needle.length then popAll
  else
    let offset := slide needle cursor.size (cursor.source.drop cursor.start.toNat) 0
    let past := offset + needle.length
    popSplit ⟨if past = cursor.size then past else offset, past⟩

/-- Removes the text before the first occurrence of a needle, and the needle. Every position is
compared, and without an occurrence nothing happens. -/
def popBefore? (needle : Text) : Edit (Option Cursor) := do
  let cursor ← get
  let rest : Text := cursor.source.drop cursor.start.toNat
  match rest.findBefore? needle cursor.stop cursor.start with
  | some position =>
      let offset := position - cursor.start
      return some (← popSplit ⟨offset, offset + needle.length⟩)
  | none => return none

end TextCursor.Cursor
