import TextCursor.Cursor.Edit
import TextCursor.Text.Read

/-!
Contract: runs of code points that a caller's predicate accepts.

Owns: the predicate, which may depend on the calls made before it, the walk over the window from
either end, and the four operations that look at or remove what a walk accepted.

A walk asks about one code point at a time, up to the first rejected one, and records every
call. If the predicate fails, the cursor stays as it is.
-/

namespace TextCursor

/-- Accepts or rejects a code point, given the code points it was asked about before in the
same walk, latest first. It is given nothing else, and all that it can do is answer or fail: while
a walk is under way it cannot work on the cursor, and the window is what it was as the walk
began. -/
abbrev Predicate := (earlier : Text) → Char → Except Error Bool

/-- A walk: the code points asked about in call order, and the number accepted. -/
structure Walk where
  calls : Text
  outcome : Except Error Nat

namespace Walk

/-- Continues a walk that has accepted the code points `earlier`, over `room` more. -/
def along (next : Nat → Except Error Char) (accepts : Predicate) (earlier : Text) :
    (room : Nat) → Walk
  | 0 => ⟨earlier.reverse, .ok earlier.length⟩
  | room + 1 =>
      match next earlier.length with
      | .error error => ⟨earlier.reverse, .error error⟩
      | .ok c =>
          match accepts earlier c with
          | .error error => ⟨(c :: earlier).reverse, .error error⟩
          | .ok false => ⟨(c :: earlier).reverse, .ok earlier.length⟩
          | .ok true => along next accepts (c :: earlier) room

end Walk

namespace Cursor

def walkFront (cursor : Cursor) (accepts : Predicate) : Walk :=
  Walk.along (fun index => cursor.source.read (cursor.start + index)) accepts []
    cursor.size.toNat

def walkBack (cursor : Cursor) (accepts : Predicate) : Walk :=
  Walk.along (fun index => cursor.source.read (cursor.stop - index - 1)) accepts []
    cursor.size.toNat

/-- A new cursor over the longest accepted run at the front. -/
def takeFrontWhile (cursor : Cursor) (accepts : Predicate) : Except Error Cursor := do
  let count ← (cursor.walkFront accepts).outcome
  make cursor.source cursor.start count

/-- A new cursor over the longest accepted run at the back. -/
def takeBackWhile (cursor : Cursor) (accepts : Predicate) : Except Error Cursor := do
  let count ← (cursor.walkBack accepts).outcome
  make cursor.source (cursor.stop - count) count

/-- Removes the longest accepted run from the front, and yields it. -/
def popFrontWhile (accepts : Predicate) : Edit Cursor := do
  let cursor ← get
  let count ← .ofExcept (cursor.walkFront accepts).outcome
  let piece ← .ofExcept (make cursor.source cursor.start count)
  moveTo (cursor.start + count) (cursor.size - count)
  return piece

/-- Removes the longest accepted run from the back, and yields it. -/
def popBackWhile (accepts : Predicate) : Edit Cursor := do
  let cursor ← get
  let count ← .ofExcept (cursor.walkBack accepts).outcome
  let piece ← .ofExcept (make cursor.source (cursor.stop - count) count)
  moveTo cursor.start (cursor.size - count)
  return piece

end Cursor

end TextCursor
