import TextCursor.Proofs.Numeral.Written

/-!
Contract: what a scan for a number can see of a text.

Owns: that a scan from one position of a text to another answers as it does for the code points in
between alone, takes no more of them than there are, and never fails; and that a number stays the
same with something behind it that cannot go on a number.

A scan may start behind its stop, and also behind the end of the text. It reads nothing then.

Does not own: which number is read.
-/

namespace TextCursor

open Text

/-! ## Behind a number -/

namespace Text

/-- A text in which no number goes on: it is empty, or begins with neither a digit nor a point. -/
def EndsNumber (behind : Text) : Prop := ∀ c ∈ behind.head?, c.isDigit = false ∧ c ≠ '.'

theorem headSign_append {front : Text} (filled : front ≠ []) (behind : Text) :
    headSign (front ++ behind) = headSign front := by
  cases front with
  | nil => contradiction
  | cons c later => rfl

namespace EndsNumber

variable {behind : Text} (ends : behind.EndsNumber)

include ends

theorem no_point : headPoint behind = [] ∧ headFraction behind = [] := by
  cases behind with
  | nil => exact ⟨rfl, rfl⟩
  | cons c later =>
      have noPoint : ¬c = Decimal.point := (ends c rfl).2
      exact ⟨if_neg noPoint, if_neg noPoint⟩

theorem headDigits_append (front : Text) : headDigits (front ++ behind) = headDigits front := by
  apply takeWhile_append_of_refused
  intro c head
  rw [isDigit_eq]
  exact (ends c head).1

theorem headPoint_append (front : Text) : headPoint (front ++ behind) = headPoint front := by
  cases front with
  | nil => exact ends.no_point.1
  | cons c later => rfl

theorem headFraction_append (front : Text) :
    headFraction (front ++ behind) = headFraction front := by
  cases front with
  | nil => exact ends.no_point.2
  | cons c later => rw [List.cons_append, headFraction, headFraction, ends.headDigits_append]

end EndsNumber

end Text

namespace Numeral

section Append

variable {front behind : Text} (ends : behind.EndsNumber)

include ends

theorem Parts.ofUnsigned_append (sign front : Text) :
    Parts.ofUnsigned sign (front ++ behind) = Parts.ofUnsigned sign front := by
  have rest : (front ++ behind).drop (headDigits front).length =
      front.drop (headDigits front).length ++ behind :=
    List.drop_append_of_le_length (headDigits_isPrefix front).length_le
  simp only [Parts.ofUnsigned, ends.headDigits_append, rest, ends.headPoint_append,
    ends.headFraction_append]

variable (filled : front ≠ [])

include filled

/-- Something has to stand in front, since what is behind may begin with a sign. -/
theorem Parts.of_append : Parts.of (front ++ behind) = Parts.of front := by
  have rest : (front ++ behind).drop front.headSign.length =
      front.drop front.headSign.length ++ behind :=
    List.drop_append_of_le_length front.headSign_isPrefix.length_le
  rw [Parts.of, Parts.of, headSign_append filled, rest, Parts.ofUnsigned_append ends]

theorem integerOf_append : integerOf (front ++ behind) = integerOf front := by
  simp only [integerOf, Parts.of_append ends filled]

theorem decimalReadingOf_append : decimalReadingOf (front ++ behind) = decimalReadingOf front := by
  simp only [decimalReadingOf, Parts.of_append ends filled]

end Append

/-! ## Positions that cross -/

section Crossed

variable {text : Text} {start stop : Int} (crossed : stop ≤ start)

include crossed

theorem readSign_of_le : readSign text start stop = .ok ⟨false, start⟩ :=
  if_neg (Int.not_lt.mpr crossed)

theorem readDigits_of_le : readDigits text start stop = .ok ⟨0, start, 0⟩ := by
  rw [readDigits, Int.toNat_of_nonpos (Int.sub_nonpos_of_le crossed)]
  rfl

theorem readFraction_of_le : readFraction text start stop = .ok ⟨0, start, 0⟩ :=
  if_neg (Int.not_lt.mpr crossed)

theorem readInt_of_le : readInt text start stop = .ok (integerOf []) := by
  simp only [readInt, readSign_of_le crossed, readDigits_of_le crossed, ok_bind, Int.sub_self]
  rfl

theorem readDecimal_of_le : readDecimal text start stop = .ok (decimalReadingOf []) := by
  simp only [readDecimal, readSign_of_le crossed, readDigits_of_le crossed,
    readFraction_of_le crossed, ok_bind, Int.sub_self]
  rfl

end Crossed

/-! ## Scanners -/

/-- A scanner looks for a number in a text, from one position to another. -/
abbrev Scanner (α : Type) : Type := Text → (start stop : Int) → Except Error (Reading α)

section Scanners

variable {α : Type} (scan : Scanner α)

/-- The scan of a text from its beginning to its end. -/
def scanWhole (text : Text) : Except Error (Reading α) := scan text 0 text.length

/-- A scan between two positions ends well, and its reading comes from the code points in between:
they read the same as a text of their own, and whatever stands at `stop` and behind it may be
exchanged. -/
structure ReadsWithin (text : Text) (start stop : Int) (reading : Reading α) : Prop where
  ran : scan text start stop = .ok reading
  alone : scanWhole scan (text.slice start stop) = .ok reading
  unseen : ∀ other : Text, other.take stop.toNat = text.take stop.toNat →
    scan other start stop = .ok reading
  consumed_nonneg : 0 ≤ reading.consumed
  consumed_le : reading.consumed ≤ max 0 (stop - start)

variable (told : Text → Reading α)

/-- A scanner reads off its window, as `told` says, and reads nothing where its positions cross. -/
structure ReadsBy : Prop where
  spanned : ∀ {text window : Text} {start stop : Int}, text.Spans start stop window →
    scan text start stop = .ok (told window)
  crossed : ∀ {text : Text} {start stop : Int}, stop ≤ start →
    scan text start stop = .ok (told [])
  consumed : ∀ window, (told window).consumed = (told window).width
  width_le : ∀ window, (told window).width ≤ window.length

/-- A scanner keeps to its window, wherever in a text that ends, and reads of it what `told` says. A
number in it ends where no number can go on. -/
structure Confined : Prop where
  within : ∀ {text : Text} {start stop : Int}, 0 ≤ start → 0 ≤ stop → stop ≤ text.length →
    ReadsWithin scan text start stop (told (text.slice start stop))
  append : ∀ {front behind : Text}, front ≠ [] → behind.EndsNumber →
    scanWhole scan (front ++ behind) = scanWhole scan front

end Scanners

namespace ReadsBy

variable {α : Type} {scan : Scanner α} {told : Text → Reading α} (reads : ReadsBy scan told)

include reads

theorem whole (text : Text) : scanWhole scan text = .ok (told text) := reads.spanned (.whole text)

section Positions

variable {text : Text} {start stop : Int} (startNonneg : 0 ≤ start) (stopNonneg : 0 ≤ stop)
  (inText : stop ≤ text.length)

include startNonneg stopNonneg inText

theorem slice : scan text start stop = .ok (told (text.slice start stop)) := by
  rcases Int.le_total start stop with ordered | crossed
  · exact reads.spanned (.of_le ordered startNonneg inText)
  · rw [slice_eq_nil_of_le startNonneg stopNonneg crossed]
    exact reads.crossed crossed

theorem readsWithin : ReadsWithin scan text start stop (told (text.slice start stop)) where
  ran := reads.slice startNonneg stopNonneg inText
  alone := reads.whole _
  unseen other same := by
    -- The other text has the code points before `stop` as well, so `stop` lies within it.
    have inOther : stop ≤ other.length := by
      have length := congrArg List.length same
      rw [List.length_take, List.length_take] at length
      omega
    have window : other.slice start stop = text.slice start stop := by
      rw [slice_eq_drop_take startNonneg stopNonneg, same,
        ← slice_eq_drop_take startNonneg stopNonneg]
    rw [reads.slice startNonneg stopNonneg inOther, window]
  consumed_nonneg := by
    rw [reads.consumed]
    exact Int.natCast_nonneg _
  consumed_le := by
    rw [reads.consumed, ← length_slice startNonneg stopNonneg inText]
    exact Int.ofNat_le.mpr (reads.width_le _)

end Positions

theorem confined (append : ∀ {front behind : Text}, front ≠ [] → behind.EndsNumber →
    told (front ++ behind) = told front) : Confined scan told where
  within := reads.readsWithin
  append filled ends := by rw [reads.whole, reads.whole, append filled ends]

end ReadsBy

theorem readsBy_integerOf : ReadsBy readInt integerOf where
  spanned := readInt_eq
  crossed := readInt_of_le
  consumed := integerOf_consumed
  width_le := integerOf_width_le

theorem readsBy_decimalReadingOf : ReadsBy readDecimal decimalReadingOf where
  spanned := readDecimal_eq
  crossed := readDecimal_of_le
  consumed := decimalReadingOf_consumed
  width_le := decimalReadingOf_width_le

/-- Neither scanner sees anything outside its window or fails within a text, be its positions in
order or not: it reads what the window begins with. More text behind a text that is not empty
changes nothing, unless it begins with a digit or a point. -/
theorem scanners_confined :
    Confined readInt integerOf ∧ Confined readDecimal decimalReadingOf := by
  constructor
  · apply readsBy_integerOf.confined
    intro front behind filled ends
    exact integerOf_append ends filled
  · apply readsBy_decimalReadingOf.confined
    intro front behind filled ends
    exact decimalReadingOf_append ends filled

/-- The window ends behind the point of a numeral that goes on. The positions that cross lie on both
sides of the text's end. -/
theorem scanners_confined_behind_point :
    let text : Text := "x-12.345".toList
    ReadsWithin readInt text 1 5 ⟨-12, 3, true⟩ ∧
      ReadsWithin readDecimal text 1 5 ⟨⟨0xC028000000000000⟩, 4, true⟩ ∧
      ReadsWithin readInt text 9 5 ⟨0, 0, false⟩ ∧
      ReadsWithin readDecimal text 9 5 ⟨.zero false, 0, false⟩ ∧
      scanWhole readDecimal ("-12.".toList ++ "e5".toList) =
        scanWhole readDecimal "-12.".toList := by
  intro text
  obtain ⟨integers, decimals⟩ := scanners_confined
  have inText : (5 : Int) ≤ text.length := by decide
  have integer : integerOf (text.slice 1 5) = ⟨-12, 3, true⟩ := by decide +kernel
  have decimal : decimalReadingOf (text.slice 1 5) = ⟨⟨0xC028000000000000⟩, 4, true⟩ := by
    decide +kernel
  have ends : EndsNumber "e5".toList := by
    intro c head
    obtain rfl := Option.some.inj head
    decide
  refine ⟨?_, ?_, ?_, ?_, decimals.append (by decide) ends⟩
  · rw [← integer]
    exact integers.within (by decide) (by decide) inText
  · rw [← decimal]
    exact decimals.within (by decide) (by decide) inText
  · exact integers.within (by decide : (0 : Int) ≤ 9) (by decide) inText
  · exact decimals.within (by decide : (0 : Int) ≤ 9) (by decide) inText

end Numeral

end TextCursor
