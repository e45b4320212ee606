import TextCursor.Cursor.Basic
import TextCursor.Proofs.Text.Span

/-!
Contract: windows as parts of a window.

Owns: the window of a cursor as a span of its source, the cursors over a part of a window, and
the construction that succeeds on them.

Offsets of a part are natural numbers that fit the window's text. The operations compute them as
integers, so `make_part` takes both.
-/

namespace TextCursor.Cursor

/-- The window alone, with nothing computed. -/
def bare (cursor : Cursor) : Cursor := { cursor with cache := {} }

/-- A new cursor over the same source, with its window at a given position. -/
def windowAt (cursor : Cursor) (start size : Int) : Cursor where
  source := cursor.source
  start := start
  size := size

/-- A new cursor over `size` code points of the window from `offset` on. -/
def part (cursor : Cursor) (offset size : Nat) : Cursor where
  source := cursor.source
  start := cursor.start + offset
  size := size

section Fields

variable (cursor : Cursor)

@[simp] theorem bare_source : cursor.bare.source = cursor.source := rfl

@[simp] theorem bare_start : cursor.bare.start = cursor.start := rfl

@[simp] theorem bare_size : cursor.bare.size = cursor.size := rfl

@[simp] theorem bare_stop : cursor.bare.stop = cursor.stop := rfl

@[simp] theorem bare_content : cursor.bare.content = cursor.content := rfl

end Fields

theorem part_front (cursor : Cursor) (size : Nat) :
    cursor.part 0 size = cursor.windowAt cursor.start size := by
  unfold part windowAt
  rw [Int.natCast_zero, Int.add_zero]

theorem make_eq_ok_iff {source : Text} {start size : Int} {cursor : Cursor} :
    make source start size = .ok cursor ↔
      Inside { source, start, size } ∧ cursor = { source, start, size } := by
  by_cases inside : Inside { source, start, size }
  · simp [make, inside, eq_comm]
  · simp [make, inside]

theorem make_eq_error_iff {source : Text} {start size : Int} {error : Error} :
    make source start size = .error error ↔
      ¬Inside { source, start, size } ∧ error = .outOfBounds start size source.length := by
  by_cases inside : Inside { source, start, size }
  · simp [make, inside]
  · simp [make, inside, eq_comm]

namespace Inside

variable {cursor : Cursor} {offset size : Nat}

/-- The content is what stands in the window. -/
theorem spans (inside : cursor.Inside) :
    cursor.source.Spans cursor.start cursor.stop cursor.content :=
  .of_le (by unfold stop; have := inside.2.1; omega) inside.1 inside.2.2

theorem size_eq (inside : cursor.Inside) : cursor.size = cursor.content.length := by
  have stop_eq := inside.spans.stop_eq
  rw [stop] at stop_eq
  omega

theorem content_ne_nil (inside : cursor.Inside) (more : cursor.size ≠ 0) : cursor.content ≠ [] := by
  intro empty
  rw [inside.size_eq, empty] at more
  contradiction

theorem spans_part (inside : cursor.Inside) (fits : offset + size ≤ cursor.content.length) :
    cursor.source.Spans (cursor.start + offset) (cursor.start + offset + size)
      ((cursor.content.drop offset).take size) := by
  refine (inside.spans.drop (by omega)).take ?_
  rw [List.length_drop]
  omega

theorem part (inside : cursor.Inside) (fits : offset + size ≤ cursor.content.length) :
    (cursor.part offset size).Inside := by
  have spans := inside.spans_part fits
  have inSource := spans.stop_le
  have startNonneg := spans.start_nonneg
  exact ⟨startNonneg, Int.natCast_nonneg size, inSource⟩

theorem content_part (inside : cursor.Inside) (fits : offset + size ≤ cursor.content.length) :
    (cursor.part offset size).content = (cursor.content.drop offset).take size :=
  (inside.spans_part fits).slice_eq

theorem part_whole (inside : cursor.Inside) :
    cursor.part 0 cursor.content.length = cursor.bare := by
  simp [Cursor.part, Cursor.bare, inside.size_eq]

/-- The part of the window from an offset on. -/
theorem part_behind (inside : cursor.Inside) (fits : offset ≤ cursor.content.length) :
    cursor.part offset (cursor.content.length - offset) =
      cursor.windowAt (cursor.start + offset) (cursor.size - offset) := by
  have sizeEq : ((cursor.content.length - offset : Nat) : Int) = cursor.size - offset := by
    rw [inside.size_eq]
    omega
  unfold Cursor.part Cursor.windowAt
  rw [sizeEq]

/-- The part of the window at its end, and the part before that. -/
theorem part_back (inside : cursor.Inside) (fits : size ≤ cursor.content.length) :
    cursor.part (cursor.content.length - size) size =
      cursor.windowAt (cursor.start + cursor.size - size) size := by
  have startEq : cursor.start + ((cursor.content.length - size : Nat) : Int) =
      cursor.start + cursor.size - size := by
    rw [inside.size_eq]
    omega
  unfold Cursor.part Cursor.windowAt
  rw [startEq]

theorem part_before (inside : cursor.Inside) (fits : size ≤ cursor.content.length) :
    cursor.part 0 (cursor.content.length - size) =
      cursor.windowAt cursor.start (cursor.size - size) := by
  have sizeEq : ((cursor.content.length - size : Nat) : Int) = cursor.size - size := by
    rw [inside.size_eq]
    omega
  rw [part_front, sizeEq]

theorem part_rest (inside : cursor.Inside) (fits : offset + size ≤ cursor.content.length) :
    cursor.part (offset + size) (cursor.content.length - (offset + size)) =
      cursor.windowAt (cursor.start + offset + size) (cursor.size - offset - size) := by
  rw [inside.part_behind fits, Int.natCast_add, ← Int.add_assoc, ← Int.sub_sub]

/-- The empty part at the end of the window. -/
theorem part_end (inside : cursor.Inside) :
    cursor.part cursor.content.length 0 = cursor.windowAt (cursor.start + cursor.size) 0 := by
  unfold Cursor.part Cursor.windowAt
  rw [inside.size_eq]
  rfl

/-- A checked construction accepts a part of the window. -/
theorem make_part (inside : cursor.Inside) (fits : offset + size ≤ cursor.content.length)
    {start width : Int} (startEq : start = cursor.start + offset) (widthEq : width = size) :
    make cursor.source start width = .ok (cursor.part offset size) := by
  subst startEq widthEq
  exact make_of_inside (inside.part fits)

theorem copy (inside : cursor.Inside) : cursor.copy = .ok cursor.bare := by
  have whole : make cursor.source cursor.start cursor.size = .ok cursor.bare :=
    make_of_inside inside
  simpa [Cursor.copy, sub] using whole

end Inside

theorem inside_whole (source : Text) : Inside { source, start := 0, size := source.length } :=
  ⟨Int.le_refl 0, Int.natCast_nonneg _, by simp⟩

theorem content_whole (source : Text) :
    content { source, start := 0, size := source.length } = source := by
  have spans : source.Spans 0 (0 + source.length) source := by
    rw [Int.zero_add]
    exact .whole source
  exact spans.slice_eq

end TextCursor.Cursor
