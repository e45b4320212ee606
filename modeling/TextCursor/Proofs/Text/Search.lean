import TextCursor.Cursor.Pop
import TextCursor.Proofs.Text.Span

/-!
Contract: where a needle occurs in a text.

Owns: the leftmost occurrence, that searching a text finds it, and that the two searches which
read a longer text in place find what a search of their window finds. The one that never
compares its last position is a search of the window without its last code point.

Does not own: cursors, and clusters.
-/

namespace TextCursor

namespace Text

/-- The needle stands at the offset, and at none before it. -/
def IsLeftmost (text needle : Text) (offset : Nat) : Prop :=
  needle <+: text.drop offset ∧ ∀ earlier < offset, ¬needle <+: text.drop earlier

instance (text needle : Text) (offset : Nat) : Decidable (text.IsLeftmost needle offset) :=
  inferInstanceAs (Decidable (needle <+: text.drop offset ∧ _))

theorem isLeftmost_zero_iff {text needle : Text} : text.IsLeftmost needle 0 ↔ needle <+: text := by
  simp [IsLeftmost]

theorem isLeftmost_succ_iff {c : Char} {rest needle : Text} {offset : Nat} :
    IsLeftmost (c :: rest) needle (offset + 1) ↔
      ¬needle <+: c :: rest ∧ rest.IsLeftmost needle offset := by
  constructor
  · rintro ⟨here, notEarlier⟩
    refine ⟨notEarlier 0 (Nat.succ_pos _), here, ?_⟩
    intro earlier before
    exact notEarlier (earlier + 1) (Nat.succ_lt_succ before)
  · rintro ⟨notFirst, here, notEarlier⟩
    refine ⟨here, ?_⟩
    intro earlier before
    cases earlier with
    | zero => exact notFirst
    | succ earlier => exact notEarlier earlier (Nat.lt_of_succ_lt_succ before)

/-! ## Searching a text -/

section Find

variable {text needle : Text}

theorem find?_cons (c : Char) (rest needle : Text) :
    find? (c :: rest) needle =
      if needle <+: c :: rest then some 0 else (find? rest needle).map (· + 1) := by
  rw [find?]
  simp only [List.isPrefixOf_iff_prefix]

theorem find?_eq_some_iff {offset : Nat} :
    text.find? needle = some offset ↔ text.IsLeftmost needle offset := by
  induction text generalizing offset with
  | nil =>
      cases offset with
      | zero => simp [find?, isLeftmost_zero_iff]
      | succ offset =>
          -- What stands behind the end also stands at it.
          have notLeftmost : ¬IsLeftmost [] needle (offset + 1) := by
            rintro ⟨here, notEarlier⟩
            exact notEarlier 0 (Nat.succ_pos _) (by simpa using here)
          simp [find?, notLeftmost]
  | cons c rest inductionHypothesis =>
      rw [find?_cons]
      by_cases first : needle <+: c :: rest
      · rw [if_pos first]
        cases offset with
        | zero => simp [isLeftmost_zero_iff, first]
        | succ offset => simp [isLeftmost_succ_iff, first]
      · rw [if_neg first]
        cases offset with
        | zero => simp [isLeftmost_zero_iff, first]
        | succ offset => simp [isLeftmost_succ_iff, first, inductionHypothesis]

theorem find?_eq_none_iff : text.find? needle = none ↔ ¬needle <:+: text := by
  induction text with
  | nil => simp [find?]
  | cons c rest inductionHypothesis =>
      rw [find?_cons, List.infix_cons_iff]
      by_cases first : needle <+: c :: rest
      · simp [first]
      · simp [first, inductionHypothesis]

theorem IsLeftmost.add_length_le {offset : Nat} (leftmost : text.IsLeftmost needle offset) :
    offset + needle.length ≤ text.length := by
  obtain ⟨here, notEarlier⟩ := leftmost
  have fits := here.length_le
  rw [List.length_drop] at fits
  by_cases inText : offset ≤ text.length
  · omega
  · -- The needle is empty, so it stands at the beginning already.
    have empty : needle = [] := List.length_eq_zero_iff.mp (by omega)
    exact absurd (empty ▸ List.nil_prefix) (notEarlier 0 (by omega))

theorem find?_add_length_le {offset : Nat} (found : text.find? needle = some offset) :
    offset + needle.length ≤ text.length :=
  (find?_eq_some_iff.mp found).add_length_le

/-- A needle has no room in a shorter text. -/
theorem find?_of_length_lt (short : text.length < needle.length) : text.find? needle = none := by
  rw [find?_eq_none_iff]
  intro occurs
  have fits := occurs.length_le
  omega

/-- Where the last code point is not needed, it makes no difference whether it is there. -/
theorem prefix_drop_dropLast_iff {offset : Nat} (room : offset + needle.length < text.length) :
    needle <+: text.dropLast.drop offset ↔ needle <+: text.drop offset := by
  rw [List.dropLast_eq_take, List.drop_take, List.prefix_take_iff]
  have fits : needle.length ≤ text.length - 1 - offset := by omega
  exact and_iff_left fits

theorem isLeftmost_dropLast_iff (filled : text ≠ []) {offset : Nat} :
    IsLeftmost text.dropLast needle offset ↔
      text.IsLeftmost needle offset ∧ offset + needle.length < text.length := by
  have positive := List.length_pos_iff.mpr filled
  -- All places up to one that does not reach the end do not reach it either.
  have same : offset + needle.length < text.length → ∀ earlier ≤ offset,
      (needle <+: text.dropLast.drop earlier ↔ needle <+: text.drop earlier) := by
    intro room earlier before
    exact prefix_drop_dropLast_iff (by omega)
  constructor
  · intro leftmost
    have fits := leftmost.add_length_le
    rw [List.length_dropLast] at fits
    have room : offset + needle.length < text.length := by omega
    refine ⟨⟨(same room offset (Nat.le_refl _)).mp leftmost.1, ?_⟩, room⟩
    intro earlier before here
    exact leftmost.2 earlier before ((same room earlier (Nat.le_of_lt before)).mpr here)
  · rintro ⟨leftmost, room⟩
    refine ⟨(same room offset (Nat.le_refl _)).mpr leftmost.1, ?_⟩
    intro earlier before here
    exact leftmost.2 earlier before ((same room earlier (Nat.le_of_lt before)).mp here)

/-- Without its last code point a text holds the leftmost occurrence, unless that reaches the
end. -/
theorem find?_dropLast (filled : text ≠ []) :
    find? text.dropLast needle =
      (text.find? needle).filter fun offset => offset + needle.length < text.length := by
  ext offset
  rw [Option.filter_eq_some_iff, find?_eq_some_iff, find?_eq_some_iff,
    isLeftmost_dropLast_iff filled, decide_eq_true_iff]

end Find

/-! ## Searching in place -/

/-- Whether a needle that has room in a window begins it does not depend on what follows. -/
theorem isPrefixOf_append {needle window : Text} (after : Text)
    (fits : needle.length ≤ window.length) :
    needle.isPrefixOf (window ++ after) = needle.isPrefixOf window := by
  rw [Bool.eq_iff_iff, List.isPrefixOf_iff_prefix, List.isPrefixOf_iff_prefix]
  constructor
  · intro begins
    exact List.prefix_of_prefix_length_le begins (List.prefix_append _ _) fits
  · intro begins
    exact begins.trans (List.prefix_append _ _)

/-- The search that has to end by the window's end is a search of the window. -/
theorem findBefore?_append (window after needle : Text) {position stop : Int}
    (stopEq : stop = position + window.length) :
    findBefore? (window ++ after) needle stop position =
      (window.find? needle).map fun (offset : Nat) => position + offset := by
  induction window generalizing position with
  | nil =>
      rw [findBefore?.eq_def, find?]
      cases needle with
      | nil => simp [stopEq]
      | cons c later =>
          have late : stop < position + (c :: later).length := by
            rw [List.length_nil] at stopEq
            rw [List.length_cons]
            omega
          rw [if_pos late]
          rfl
  | cons c rest inductionHypothesis =>
      by_cases short : (c :: rest).length < needle.length
      · have late : stop < position + needle.length := by omega
        rw [find?_of_length_lt short, findBefore?.eq_def, if_pos late]
        rfl
      · have inTime : ¬stop < position + needle.length := by omega
        have shifted : stop = position + 1 + rest.length := by
          rw [stopEq, List.length_cons]
          omega
        rw [findBefore?.eq_def, if_neg inTime, isPrefixOf_append after (Nat.le_of_not_lt short),
          find?]
        cases needle.isPrefixOf (c :: rest) with
        | true => simp
        | false =>
            simp only [List.cons_append, Bool.false_eq_true, if_false, inductionHypothesis shifted]
            cases find? rest needle with
            | none => rfl
            | some offset =>
                show some (position + 1 + (offset : Int)) = some (position + (offset + 1 : Nat))
                congr 1
                omega

end Text

/-- A comparison that slides over a window, but not to its end, stops where a search of what
comes before the window's last code point finds the needle, or else as late as there is room. -/
theorem Cursor.slide_append (front behind needle : Text) (last : Char) {offset size : Int}
    (sizeEq : size = offset + front.length + 1) (fits : needle.length ≤ front.length + 1) :
    slide needle size (front ++ last :: behind) offset =
      offset + ((front.find? needle).getD (front.length + 1 - needle.length) : Nat) := by
  induction front generalizing offset with
  | nil =>
      rw [List.nil_append, slide, Text.find?]
      cases needle with
      | nil => simp
      | cons c later =>
          have noRoom : ¬offset + (c :: later).length < size := by
            rw [sizeEq, List.length_cons, List.length_nil]
            omega
          rw [if_neg fun going => noRoom going.1]
          simp
  | cons c rest inductionHypothesis =>
      rw [List.length_cons] at sizeEq fits
      rw [List.cons_append, slide, ← List.cons_append]
      by_cases room : needle.length ≤ (c :: rest).length
      · have inTime : offset + needle.length < size := by
          rw [List.length_cons] at room
          omega
        have shifted : size = offset + 1 + rest.length + 1 := by omega
        rw [Text.isPrefixOf_append _ room, Text.find?]
        cases needle.isPrefixOf (c :: rest) with
        | true => simp
        | false =>
            have further := inductionHypothesis shifted room
            rw [if_pos ⟨inTime, Bool.false_ne_true⟩, further, if_neg Bool.false_ne_true]
            cases Text.find? rest needle with
            | none =>
                simp only [Option.map_none, Option.getD_none, List.length_cons] at room ⊢
                omega
            | some found =>
                simp only [Option.map_some, Option.getD_some]
                omega
      · have noRoom : ¬offset + needle.length < size := by
          rw [List.length_cons] at room
          omega
        have noPlace : Text.find? (c :: rest) needle = none :=
          Text.find?_of_length_lt (Nat.lt_of_not_le room)
        rw [List.length_cons] at room ⊢
        have nothingLeft : rest.length + 1 + 1 - needle.length = 0 := by omega
        rw [if_neg fun going => noRoom going.1, noPlace, Option.getD_none, nothingLeft]
        simp

/-- Over a whole window, an empty one included. -/
theorem Cursor.slide_eq (window behind needle : Text) (fits : needle.length ≤ window.length) :
    slide needle window.length (window ++ behind) 0 =
      ((Text.find? window.dropLast needle).getD (window.length - needle.length) : Nat) := by
  rcases List.eq_nil_or_concat window with rfl | ⟨front, last, rfl⟩
  · have empty : needle = [] := List.length_eq_zero_iff.mp (by simpa using fits)
    subst empty
    cases behind with
    | nil => rfl
    | cons c later => rfl
  · rw [List.concat_eq_append] at fits ⊢
    have width : (front ++ [last]).length = front.length + 1 := by simp
    have stops := slide_append front behind needle last
      (show ((front ++ [last]).length : Int) = 0 + front.length + 1 by omega) (by omega)
    rw [List.append_assoc, List.dropLast_concat, List.singleton_append, stops, width]
    omega

end TextCursor
