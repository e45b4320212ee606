import TextCursor.Numeral.Scan
import TextCursor.Proofs.Text.Span

/-!
Contract: what the scanners read of a window.

Owns: the parts of the numeral at the head of a text, and the readings of an integer and of a
decimal number as functions of the window alone. Within a text neither scanner fails: every read
stays inside the window, and the one word that is converted as a whole is always a numeral.

Does not own: the grammar of numerals, or the value of a decimal numeral.
-/

namespace TextCursor

namespace Text

/-- The sign that a text begins with, or nothing. -/
def headSign : Text → Text
  | [] => []
  | c :: _ => if c = '-' ∨ c = '+' then [c] else []

/-- The digits that a text begins with. -/
def headDigits (text : Text) : Text := text.takeWhile isDigit

/-- The point that a text begins with, or nothing. -/
def headPoint : Text → Text
  | [] => []
  | c :: _ => if c = Decimal.point then [c] else []

/-- The digits behind a point that a text begins with. -/
def headFraction : Text → Text
  | [] => []
  | c :: rest => if c = Decimal.point then headDigits rest else []

theorem headSign_isPrefix (text : Text) : text.headSign <+: text := by
  cases text with
  | nil => exact List.nil_prefix
  | cons c rest => by_cases sign : c = '-' ∨ c = '+' <;> simp [headSign, sign]

theorem headDigits_isPrefix (text : Text) : text.headDigits <+: text := List.takeWhile_prefix _

theorem headFraction_isPrefix (text : Text) : text.headPoint ++ text.headFraction <+: text := by
  cases text with
  | nil => exact List.nil_prefix
  | cons c rest =>
      by_cases point : c = Decimal.point
      · simpa [headPoint, headFraction, point] using headDigits_isPrefix rest
      · simp [headPoint, headFraction, point]

theorem isDigit_of_mem_headDigits {text : Text} {c : Char} (member : c ∈ text.headDigits) :
    isDigit c = true := by
  induction text with
  | nil => simp [headDigits] at member
  | cons head rest inductionHypothesis =>
      simp only [headDigits, List.takeWhile_cons] at member
      split at member
      next digit =>
        rcases List.mem_cons.mp member with rfl | later
        · exact digit
        · exact inductionHypothesis later
      next => simp at member

end Text

open Text

namespace Numeral

/-- The parts of the numeral at the head of a text. Any of them may be empty. -/
structure Parts where
  sign : Text
  whole : Text
  point : Text
  fraction : Text

namespace Parts

/-- The parts of a text without a sign. -/
def ofUnsigned (sign text : Text) : Parts :=
  let whole := text.headDigits
  let behind : Text := text.drop whole.length
  ⟨sign, whole, behind.headPoint, behind.headFraction⟩

def of (text : Text) : Parts :=
  ofUnsigned text.headSign (text.drop text.headSign.length)

/-- The parts together. -/
def word (parts : Parts) : Text := parts.sign ++ parts.whole ++ parts.point ++ parts.fraction

def negative (parts : Parts) : Bool := parts.sign = ['-']

/-- Whether there is a digit on either side of the point. -/
def found (parts : Parts) : Bool := 0 < parts.whole.length + parts.fraction.length

def decimal (parts : Parts) : Decimal := ⟨parts.negative, parts.whole, parts.fraction⟩

end Parts

/-- The reading of an integer from a text. -/
def integerOf (text : Text) : Reading Int :=
  let parts := Parts.of text
  ⟨if parts.negative then -Text.natural parts.whole else Text.natural parts.whole,
    parts.sign.length + parts.whole.length, 0 < parts.whole.length⟩

/-- The reading of a decimal number from a text. -/
def decimalReadingOf (text : Text) : Reading Binary64 :=
  let parts := Parts.of text
  ⟨if parts.found then parts.decimal.toBinary64 else .zero parts.negative,
    parts.word.length, parts.found⟩

/-- The number of code points that a reading took. -/
def Reading.width {α : Type} (reading : Reading α) : Nat := reading.consumed.toNat

/-! ## Scanning a window -/

section Window

variable {text window : Text} {start stop : Int}

theorem readSign_eq (spans : text.Spans start stop window) :
    readSign text start stop =
      .ok ⟨window.headSign = ['-'], start + window.headSign.length⟩ := by
  cases window with
  | nil =>
      have atStop : ¬start < stop := by rw [spans.stop_eq_start]; omega
      simp [readSign, atStop, headSign]
  | cons c rest =>
      simp only [readSign, if_pos spans.lt_stop, spans.read_head, ok_bind]
      by_cases minus : c = '-'
      · subst minus
        rfl
      · by_cases plus : c = '+'
        · subst plus
          rfl
        · simp [headSign, minus, plus]

theorem digitsFrom_eq {run : DigitRun} (spans : text.Spans run.position stop window) :
    digitsFrom text window.length run = .ok
      ⟨window.headDigits.foldl (fun value digit => value * 10 + digitValue digit) run.value,
        run.position + window.headDigits.length, run.count + window.headDigits.length⟩ := by
  induction window generalizing run with
  | nil => simp [digitsFrom, headDigits]
  | cons c rest inductionHypothesis =>
      simp only [List.length_cons, digitsFrom, spans.read_head, ok_bind, headDigits,
        List.takeWhile_cons]
      split
      next digit =>
        have next : text.Spans (run.position + 1) stop rest := spans.tail
        rw [inductionHypothesis next]
        simp only [List.foldl_cons, List.length_cons, headDigits, Except.ok.injEq, DigitRun.mk.injEq,
          true_and]
        omega
      next => simp

theorem readDigits_eq (spans : text.Spans start stop window) :
    readDigits text start stop = .ok ⟨Text.natural window.headDigits,
      start + window.headDigits.length, window.headDigits.length⟩ := by
  have room : (stop - start).toNat = window.length := by rw [spans.stop_eq]; omega
  rw [readDigits, room, digitsFrom_eq spans, Nat.zero_add]
  rfl

theorem readFraction_eq (spans : text.Spans start stop window) :
    readFraction text start stop = .ok ⟨Text.natural window.headFraction,
      start + window.headPoint.length + window.headFraction.length,
      window.headFraction.length⟩ := by
  cases window with
  | nil =>
      have atStop : ¬start < stop := by rw [spans.stop_eq_start]; omega
      simp [readFraction, atStop, headPoint, headFraction, Text.natural]
  | cons c rest =>
      simp only [readFraction, if_pos spans.lt_stop, spans.read_head, ok_bind]
      by_cases point : c = Decimal.point
      · simp [point, readDigits_eq spans.tail, headPoint, headFraction]
      · simp [point, headPoint, headFraction, Text.natural]

/-- An integer is read off the window. -/
theorem readInt_eq (spans : text.Spans start stop window) :
    readInt text start stop = .ok (integerOf window) := by
  have digits := readDigits_eq (spans.drop window.headSign_isPrefix.length_le)
  simp only [readInt, readSign_eq spans, ok_bind, digits, pure_eq_ok, integerOf, Parts.of,
    Parts.ofUnsigned, Parts.negative, Except.ok.injEq, Reading.mk.injEq]
  refine ⟨rfl, ?_, rfl⟩
  omega

end Window

/-! ## The word that is read as a whole -/

namespace Parts

theorem word_isPrefix (text : Text) : (Parts.of text).word <+: text := by
  have sign := List.prefix_iff_eq_append.mp text.headSign_isPrefix
  generalize unsignedEq : text.drop text.headSign.length = unsigned at sign
  have whole := List.prefix_iff_eq_append.mp (headDigits_isPrefix unsigned)
  generalize behindEq : unsigned.drop (headDigits unsigned).length = behind at whole
  obtain ⟨rest, fraction⟩ := headFraction_isPrefix behind
  refine ⟨rest, ?_⟩
  simp only [word, Parts.of, ofUnsigned, unsignedEq, behindEq, List.append_assoc]
  rw [List.append_assoc] at fraction
  rw [fraction, whole, sign]

theorem isDigit_of_mem_fraction {text : Text} {c : Char} (member : c ∈ text.headFraction) :
    isDigit c = true := by
  cases text with
  | nil => simp [headFraction] at member
  | cons head rest =>
      simp only [headFraction] at member
      split at member
      · exact isDigit_of_mem_headDigits member
      · simp at member

/-- Behind the digits stands a point with its digits, or nothing that counts. -/
theorem point_cases (text : Text) :
    text.headPoint = [] ∧ text.headFraction = [] ∨ text.headPoint = [Decimal.point] := by
  cases text with
  | nil => exact Or.inl ⟨rfl, rfl⟩
  | cons c rest => by_cases point : c = Decimal.point <;> simp [headPoint, headFraction, point]

/-- Digits and a point read as what stands on its two sides. -/
theorem ofUnsigned?_eq (negative : Bool) {whole point fraction : Text}
    (wholeDigits : ∀ c ∈ whole, isDigit c = true)
    (fractionDigits : ∀ c ∈ fraction, isDigit c = true)
    (pointed : point = [] ∧ fraction = [] ∨ point = [Decimal.point])
    (found : 0 < whole.length + fraction.length) :
    Decimal.ofUnsigned? negative (whole ++ point ++ fraction) =
      some ⟨negative, whole, fraction⟩ := by
  have noDigit : isDigit Decimal.point = false := by decide
  unfold Decimal.ofUnsigned?
  rw [List.append_assoc, List.takeWhile_append_of_pos wholeDigits,
    List.dropWhile_append_of_pos wholeDigits]
  rcases pointed with ⟨rfl, rfl⟩ | rfl
  · have nonempty : whole ≠ [] := by
      rintro rfl
      simp at found
    simp [nonempty]
  · have nonempty : ¬(whole = [] ∧ fraction = []) := by
      rintro ⟨rfl, rfl⟩
      simp at found
    have digits : fraction.all isDigit = true := List.all_eq_true.mpr fractionDigits
    simp [noDigit, digits, nonempty]

theorem ofText?_of_not_sign {word : Text} (minus : word.head? ≠ some '-')
    (plus : word.head? ≠ some '+') : Decimal.ofText? word = Decimal.ofUnsigned? false word := by
  unfold Decimal.ofText?
  split
  · simp at minus
  · simp at plus
  · rfl

theorem headSign_cases (text : Text) :
    text.headSign = ['-'] ∨ text.headSign = ['+'] ∨
      text.headSign = [] ∧ text.head? ≠ some '-' ∧ text.head? ≠ some '+' := by
  cases text with
  | nil => simp [headSign]
  | cons c rest =>
      by_cases minus : c = '-'
      · simp [headSign, minus]
      · by_cases plus : c = '+' <;> simp [headSign, minus, plus]

/-- What is found reads as a whole, and as its parts. -/
theorem ofText?_word {text : Text} (found : (Parts.of text).found = true) :
    Decimal.ofText? (Parts.of text).word = some (Parts.of text).decimal := by
  have unsigned (negative : Bool) := ofUnsigned?_eq negative
    (fun _ member => isDigit_of_mem_headDigits member)
    (fun _ member => isDigit_of_mem_fraction member)
    (point_cases ((text.drop text.headSign.length).drop
      (headDigits (text.drop text.headSign.length)).length))
    (of_decide_eq_true found)
  have inText := word_isPrefix text
  rcases headSign_cases text with minus | plus | ⟨noSign, notMinus, notPlus⟩
  · have word : (Parts.of text).word = '-' :: ((Parts.of text).whole ++ (Parts.of text).point ++
        (Parts.of text).fraction) := by simp [Parts.word, Parts.of, ofUnsigned, minus]
    rw [word]
    exact (unsigned true).trans (by simp [decimal, negative, Parts.of, ofUnsigned, minus])
  · have word : (Parts.of text).word = '+' :: ((Parts.of text).whole ++ (Parts.of text).point ++
        (Parts.of text).fraction) := by simp [Parts.word, Parts.of, ofUnsigned, plus]
    rw [word]
    exact (unsigned false).trans (by simp [decimal, negative, Parts.of, ofUnsigned, plus])
  · have head {c : Char} (other : text.head? ≠ some c) : (Parts.of text).word.head? ≠ some c := by
      intro isHead
      obtain ⟨rest, whole⟩ := inText
      rw [← whole, List.head?_append, isHead] at other
      exact other rfl
    rw [ofText?_of_not_sign (head notMinus) (head notPlus)]
    have word : (Parts.of text).word = (Parts.of text).whole ++ (Parts.of text).point ++
        (Parts.of text).fraction := by simp [Parts.word, Parts.of, ofUnsigned, noSign]
    rw [word]
    exact (unsigned false).trans (by simp [decimal, negative, Parts.of, ofUnsigned, noSign])

end Parts

/-! ## What a reading takes up -/

section Width

variable (text : Text)

theorem integerOf_consumed : (integerOf text).consumed = (integerOf text).width := rfl

theorem integerOf_width_le : (integerOf text).width ≤ text.length := by
  have sign := text.headSign_isPrefix.length_le
  have whole := (headDigits_isPrefix (text.drop text.headSign.length)).length_le
  rw [List.length_drop] at whole
  show text.headSign.length + (headDigits (text.drop text.headSign.length)).length ≤ text.length
  omega

theorem decimalReadingOf_consumed :
    (decimalReadingOf text).consumed = (decimalReadingOf text).width := rfl

theorem decimalReadingOf_width_le : (decimalReadingOf text).width ≤ text.length :=
  (Parts.word_isPrefix text).length_le

end Width

/-! ## What is converted -/

/-- The reading of a decimal number, with the conversion of its word left open. -/
def readDecimalBy (convert : Text → Except Error Binary64) (text : Text) (start stop : Int) :
    Except Error (Reading Binary64) := do
  let sign ← readSign text start stop
  let whole ← readDigits text sign.position stop
  let fraction ← readFraction text whole.position stop
  let consumed := fraction.position - start
  if 0 < whole.count + fraction.count then
    return ⟨← convert (text.slice start fraction.position), consumed, true⟩
  else return ⟨.zero sign.negative, consumed, false⟩

theorem readDecimal_eq_readDecimalBy : readDecimal = readDecimalBy decimalOf := rfl

section Window

variable {text window : Text} {start stop : Int}

/-- What is converted is the word at the head of the window, if there is a digit in it, and
otherwise nothing. -/
theorem readDecimalBy_eq (convert : Text → Except Error Binary64)
    (spans : text.Spans start stop window) :
    readDecimalBy convert text start stop =
      if (Parts.of window).found then
        (convert (Parts.of window).word).map (⟨·, (Parts.of window).word.length, true⟩)
      else .ok ⟨.zero (Parts.of window).negative, (Parts.of window).word.length, false⟩ := by
  have unsigned := spans.drop window.headSign_isPrefix.length_le
  have behind := unsigned.drop (headDigits_isPrefix _).length_le
  generalize partsEq : Parts.of window = parts
  have sign : readSign text start stop = .ok ⟨parts.negative, start + parts.sign.length⟩ := by
    rw [readSign_eq spans, ← partsEq]
    rfl
  have whole : readDigits text (start + parts.sign.length) stop = .ok ⟨Text.natural parts.whole,
      start + parts.sign.length + parts.whole.length, parts.whole.length⟩ := by
    rw [← partsEq]
    exact readDigits_eq unsigned
  have fraction : readFraction text (start + parts.sign.length + parts.whole.length) stop =
      .ok ⟨Text.natural parts.fraction, start + parts.word.length, parts.fraction.length⟩ := by
    have position : start + parts.sign.length + parts.whole.length + parts.point.length +
        parts.fraction.length = start + parts.word.length := by
      simp only [Parts.word, List.length_append]
      omega
    rw [← position, ← partsEq]
    exact readFraction_eq behind
  have slice : text.slice start (start + parts.word.length) = parts.word := by
    have word := Parts.word_isPrefix window
    rw [partsEq] at word
    rw [(spans.take word.length_le).slice_eq, ← List.prefix_iff_eq_take.mp word]
  have consumed : start + (parts.word.length : Int) - start = parts.word.length := by omega
  simp only [readDecimalBy, sign, whole, fraction, ok_bind, slice, consumed]
  cases found : parts.found with
  | true =>
      rw [if_pos (of_decide_eq_true found), if_pos rfl]
      cases convert parts.word <;> rfl
  | false =>
      rw [if_neg (of_decide_eq_false found), if_neg Bool.false_ne_true, pure_eq_ok]

/-- A decimal number is read off the window. -/
theorem readDecimal_eq (spans : text.Spans start stop window) :
    readDecimal text start stop = .ok (decimalReadingOf window) := by
  rw [readDecimal_eq_readDecimalBy, readDecimalBy_eq decimalOf spans, decimalReadingOf]
  cases found : (Parts.of window).found with
  | true =>
      have number : decimalOf (Parts.of window).word = .ok (Parts.of window).decimal.toBinary64 := by
        rw [decimalOf, Parts.ofText?_word found]
      rw [if_pos rfl, if_pos rfl, number]
      rfl
  | false => rw [if_neg Bool.false_ne_true, if_neg Bool.false_ne_true]

end Window

end Numeral

end TextCursor
