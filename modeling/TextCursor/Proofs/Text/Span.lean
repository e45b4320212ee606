import TextCursor.Text.Read

/-!
Contract: the code points between two positions of a text.

Owns: the relation between a text, two positions and what stands between them, shorter spans of
a span, and what reads and slices at its positions yield. Both positions lie within the text, so
none of them counts from the end.

A slice may also start behind its stop. It is empty then.
-/

namespace TextCursor

/-! ## Computations that go on -/

@[simp] theorem ok_bind {α β : Type} (value : α) (next : α → Except Error β) :
    (Except.ok value >>= next) = next value := rfl

@[simp] theorem error_bind {α β : Type} (error : Error) (next : α → Except Error β) :
    (Except.error error >>= next) = .error error := rfl

@[simp] theorem pure_eq_ok {α : Type} (value : α) : (pure value : Except Error α) = .ok value := rfl

theorem ok_of_bind {α β : Type} {outcome : Except Error α} {next : α → Except Error β} {last : β}
    (went : (outcome >>= next) = .ok last) :
    ∃ value, outcome = .ok value ∧ next value = .ok last := by
  cases outcome with
  | ok value => exact ⟨value, rfl, went⟩
  | error error => contradiction

namespace Text

/-! ## Spans -/

/-- The code points from `start` to `stop` of the text are `window`. -/
def Spans (text : Text) (start stop : Int) (window : Text) : Prop :=
  ∃ before after, text = before ++ window ++ after ∧
    start = before.length ∧ stop = before.length + window.length

namespace Spans

variable {text window : Text} {start stop : Int}

theorem stop_eq (spans : text.Spans start stop window) : stop = start + window.length := by
  obtain ⟨before, after, -, rfl, rfl⟩ := spans
  rfl

theorem start_nonneg (spans : text.Spans start stop window) : 0 ≤ start := by
  obtain ⟨before, after, -, rfl, -⟩ := spans
  omega

theorem stop_le (spans : text.Spans start stop window) : stop ≤ text.length := by
  obtain ⟨before, after, rfl, -, rfl⟩ := spans
  simp only [List.length_append]
  omega

/-- A whole text. -/
theorem whole (text : Text) : text.Spans 0 text.length text := ⟨[], [], by simp, rfl, by simp⟩

theorem drop (spans : text.Spans start stop window) {count : Nat} (fits : count ≤ window.length) :
    text.Spans (start + count) stop (window.drop count) := by
  obtain ⟨before, after, rfl, rfl, rfl⟩ := spans
  refine ⟨before ++ window.take count, after, ?_, ?_, ?_⟩
  · rw [List.append_assoc before (window.take count), List.take_append_drop]
  · simp only [List.length_append, List.length_take]
    omega
  · simp only [List.length_append, List.length_take, List.length_drop]
    omega

theorem take (spans : text.Spans start stop window) {count : Nat} (fits : count ≤ window.length) :
    text.Spans start (start + count) (window.take count) := by
  obtain ⟨before, after, rfl, rfl, rfl⟩ := spans
  refine ⟨before, window.drop count ++ after, ?_, rfl, ?_⟩
  · rw [List.append_assoc before (window.take count), ← List.append_assoc (window.take count),
      List.take_append_drop, ← List.append_assoc before]
  · simp only [List.length_take]
    omega

/-- The code point behind a span's start. -/
theorem read_head {c : Char} {rest : Text} (spans : text.Spans start stop (c :: rest)) :
    text.read start = .ok c := by
  obtain ⟨before, after, rfl, rfl, -⟩ := spans
  simp [read, at?]

theorem tail {c : Char} {rest : Text} (spans : text.Spans start stop (c :: rest)) :
    text.Spans (start + 1) stop rest :=
  spans.drop (by simp : 1 ≤ (c :: rest).length)

theorem lt_stop {c : Char} {rest : Text} (spans : text.Spans start stop (c :: rest)) :
    start < stop := by
  rw [spans.stop_eq, List.length_cons]
  omega

theorem stop_eq_start (spans : text.Spans start stop []) : stop = start := by
  simpa using spans.stop_eq

/-- The code point at an offset of a span. -/
theorem read_add (spans : text.Spans start stop window) {index : Nat}
    (inWindow : index < window.length) : text.read (start + index) = .ok window[index] := by
  have rest := spans.drop (Nat.le_of_lt inWindow)
  rw [List.drop_eq_getElem_cons inWindow] at rest
  exact rest.read_head

theorem bound_start (spans : text.Spans start stop window) : bound text start = start.toNat :=
  if_pos spans.start_nonneg

theorem bound_stop (spans : text.Spans start stop window) : bound text stop = stop.toNat :=
  if_pos (by rw [spans.stop_eq]; have := spans.start_nonneg; omega)

/-- The text from a span's start on begins with the span. -/
theorem drop_start (spans : text.Spans start stop window) :
    ∃ after, text.drop start.toNat = window ++ after := by
  obtain ⟨before, after, rfl, rfl, -⟩ := spans
  exact ⟨after, by simp⟩

theorem slice_eq (spans : text.Spans start stop window) : text.slice start stop = window := by
  obtain ⟨after, rest⟩ := spans.drop_start
  have length : stop.toNat - start.toNat = window.length := by
    rw [spans.stop_eq]
    have := spans.start_nonneg
    omega
  rw [slice, spans.bound_start, spans.bound_stop, rest, length, List.take_append_length]

/-- Between positions that lie within the text stands their slice. -/
theorem of_le (ordered : start ≤ stop) (startNonneg : 0 ≤ start) (inText : stop ≤ text.length) :
    text.Spans start stop (text.slice start stop) := by
  obtain ⟨first, rfl⟩ := Int.eq_ofNat_of_zero_le startNonneg
  obtain ⟨size, rfl⟩ : ∃ size : Nat, stop = first + size := ⟨(stop - first).toNat, by omega⟩
  have length : ((first : Int) + size).toNat - first = size := by omega
  have window : text.slice first (first + size) = (text.drop first).take size := by
    simp only [slice, bound, if_pos startNonneg, if_pos (show (0 : Int) ≤ first + size by omega),
      Int.toNat_natCast, length]
  rw [window]
  refine ⟨text.take first, (text.drop first).drop size, ?_, ?_, ?_⟩
  · rw [List.append_assoc, List.take_append_drop, List.take_append_drop]
  · simp only [List.length_take]
    omega
  · simp only [List.length_take, List.length_drop]
    omega

end Spans

/-! ## Slices between positions in either order -/

section Slices

variable {text : Text} {start stop : Int} (startNonneg : 0 ≤ start) (stopNonneg : 0 ≤ stop)

include startNonneg stopNonneg

theorem slice_eq_drop_take : text.slice start stop = (text.take stop.toNat).drop start.toNat := by
  rw [slice, bound, bound, if_pos startNonneg, if_pos stopNonneg, List.drop_take]

theorem length_slice (inText : stop ≤ text.length) :
    ((text.slice start stop).length : Int) = max 0 (stop - start) := by
  rw [slice_eq_drop_take startNonneg stopNonneg, List.length_drop, List.length_take]
  omega

theorem slice_eq_nil_of_le (crossed : stop ≤ start) : text.slice start stop = [] := by
  rw [slice_eq_drop_take startNonneg stopNonneg, List.drop_eq_nil_iff, List.length_take]
  omega

end Slices

end Text

end TextCursor
