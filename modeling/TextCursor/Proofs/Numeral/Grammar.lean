import TextCursor.Proofs.Numeral.Written

/-!
Contract: decimal numerals as the words of a grammar.

Owns: the grammar, with the parts that each word spells; that a word is read as a whole exactly if
it belongs to the grammar; and that the parts found at the head of a text make up the longest word
that the text begins with.

A word has at least one digit, in front of its point or behind it. Hence `7.` and `.5` are words,
while a sign or a point alone is none.

Does not own: the number that a numeral denotes.
-/

namespace TextCursor

open Text

/-- A run of digits, possibly empty. -/
def Text.AllDigits (text : Text) : Prop := ∀ c ∈ text, c.isDigit = true

namespace Decimal

/-- A word without a sign: digits before the point, the point, and digits behind it. -/
inductive Unsigned : (whole fraction word : Text) → Prop
  | integer {whole : Text} (filled : whole ≠ []) (digits : whole.AllDigits) :
      Unsigned whole [] whole
  | pointed {whole fraction : Text} (filled : whole ≠ []) (digits : whole.AllDigits)
      (later : fraction.AllDigits) : Unsigned whole fraction (whole ++ '.' :: fraction)
  | fraction {fraction : Text} (filled : fraction ≠ []) (later : fraction.AllDigits) :
      Unsigned [] fraction ('.' :: fraction)

/-- A word of the grammar, and the sign and the digits that it spells. -/
inductive Spells : Decimal → (word : Text) → Prop
  | plain {whole fraction word : Text} (unsigned : Unsigned whole fraction word) :
      Spells ⟨false, whole, fraction⟩ word
  | plus {whole fraction word : Text} (unsigned : Unsigned whole fraction word) :
      Spells ⟨false, whole, fraction⟩ ('+' :: word)
  | minus {whole fraction word : Text} (unsigned : Unsigned whole fraction word) :
      Spells ⟨true, whole, fraction⟩ ('-' :: word)

end Decimal

open Decimal

/-- The words of the grammar. -/
def IsNumeral (word : Text) : Prop := ∃ decimal : Decimal, decimal.Spells word

/-- The longest word of the grammar that a text begins with. -/
structure IsLongestNumeral (text word : Text) : Prop where
  isNumeral : IsNumeral word
  isPrefix : word <+: text
  longest : ∀ other, IsNumeral other → other <+: text → other.length ≤ word.length

namespace IsLongestNumeral

variable {text word : Text} (isLongest : IsLongestNumeral text word)

include isLongest

theorem isPrefix_of_isNumeral {other : Text} (numeral : IsNumeral other) (inText : other <+: text) :
    other <+: word :=
  List.prefix_of_prefix_length_le inText isLongest.isPrefix (isLongest.longest other numeral inText)

theorem unique {other : Text} (also : IsLongestNumeral text other) : other = word :=
  (isLongest.isPrefix_of_isNumeral also.isNumeral also.isPrefix).eq_of_length_le
    (also.longest word isLongest.isNumeral isLongest.isPrefix)

end IsLongestNumeral

/-! ## The words and their code points -/

theorem Text.allDigits_nil : AllDigits [] := nofun

namespace Text.AllDigits

variable {text : Text} (digits : text.AllDigits)

include digits

theorem isDigit : ∀ c ∈ text, Text.isDigit c = true := by
  intro c member
  rw [isDigit_eq]
  exact digits c member

theorem count_point : text.count '.' = 0 := by
  rw [List.count_eq_zero]
  intro member
  exact absurd (digits '.' member) (by decide)

end Text.AllDigits

theorem Text.AllDigits.of_isDigit {text : Text} (digits : ∀ c ∈ text, Text.isDigit c = true) :
    text.AllDigits := by
  intro c member
  rw [← isDigit_eq]
  exact digits c member

namespace Decimal

theorem Unsigned.ne_nil {whole fraction word : Text} (unsigned : Unsigned whole fraction word) :
    word ≠ [] := by
  cases unsigned with
  | integer filled => exact filled
  | pointed | fraction => simp

theorem Unsigned.mem {whole fraction word : Text} (unsigned : Unsigned whole fraction word) :
    ∀ c ∈ word, c.isDigit = true ∨ c = '.' := by
  intro c member
  cases unsigned with
  | integer _ digits => exact Or.inl (digits c member)
  | pointed _ digits later =>
      rcases List.mem_append.mp member with front | behind
      · exact Or.inl (digits c front)
      · rcases List.mem_cons.mp behind with point | behind
        · exact Or.inr point
        · exact Or.inl (later c behind)
  | fraction _ later =>
      rcases List.mem_cons.mp member with point | behind
      · exact Or.inr point
      · exact Or.inl (later c behind)

theorem Unsigned.count_point {whole fraction word : Text}
    (unsigned : Unsigned whole fraction word) : word.count '.' ≤ 1 := by
  cases unsigned with
  | integer _ digits => simp [digits.count_point]
  | pointed _ digits later => simp [digits.count_point, later.count_point]
  | fraction _ later => simp [later.count_point]

/-- A word without a sign begins with a digit or the point. -/
theorem Unsigned.not_sign {whole fraction word : Text} (unsigned : Unsigned whole fraction word) :
    word.head? ≠ some '-' ∧ word.head? ≠ some '+' := by
  have refused {c : Char} (noDigit : c.isDigit = false) (noPoint : c ≠ '.') :
      word.head? ≠ some c := by
    intro head
    rcases unsigned.mem c (List.mem_of_head? head) with digit | point
    · rw [noDigit] at digit
      contradiction
    · exact noPoint point
  exact ⟨refused (by decide) (by decide), refused (by decide) (by decide)⟩

/-- Nothing but digits, a point and a sign belongs to a word. -/
theorem Spells.mem {decimal : Decimal} {word : Text} (spells : decimal.Spells word) :
    ∀ c ∈ word, c.isDigit = true ∨ c = '.' ∨ c = '+' ∨ c = '-' := by
  intro c member
  cases spells with
  | plain unsigned => exact (unsigned.mem c member).imp_right Or.inl
  | plus unsigned =>
      rcases List.mem_cons.mp member with sign | behind
      · exact Or.inr (Or.inr (Or.inl sign))
      · exact (unsigned.mem c behind).imp_right Or.inl
  | minus unsigned =>
      rcases List.mem_cons.mp member with sign | behind
      · exact Or.inr (Or.inr (Or.inr sign))
      · exact (unsigned.mem c behind).imp_right Or.inl

theorem Spells.count_point {decimal : Decimal} {word : Text} (spells : decimal.Spells word) :
    word.count '.' ≤ 1 := by
  cases spells with
  | plain unsigned => exact unsigned.count_point
  | plus unsigned | minus unsigned => simpa using unsigned.count_point

/-- A point may stand at the end of a word that has none yet. -/
theorem Spells.append_point {decimal : Decimal} {word : Text} (spells : decimal.Spells word)
    (pointless : '.' ∉ word) : decimal.Spells (word ++ ['.']) := by
  have pointed {whole fraction front : Text} (unsigned : Unsigned whole fraction front)
      (pointless : '.' ∉ front) : Unsigned whole fraction (front ++ ['.']) := by
    cases unsigned with
    | integer filled digits => exact .pointed filled digits allDigits_nil
    | pointed | fraction => simp at pointless
  cases spells with
  | plain unsigned => exact .plain (pointed unsigned pointless)
  | plus unsigned => exact .plus (pointed unsigned (List.not_mem_of_not_mem_cons pointless))
  | minus unsigned => exact .minus (pointed unsigned (List.not_mem_of_not_mem_cons pointless))

end Decimal

namespace IsLongestNumeral

variable {text word : Text} (isLongest : IsLongestNumeral text word)

include isLongest

theorem mem : ∀ c ∈ word, c.isDigit = true ∨ c = '.' ∨ c = '+' ∨ c = '-' := by
  obtain ⟨decimal, spells⟩ := isLongest.isNumeral
  exact spells.mem

theorem count_point : word.count '.' ≤ 1 := by
  obtain ⟨decimal, spells⟩ := isLongest.isNumeral
  exact spells.count_point

/-- A point directly behind digits belongs to the longest word, whatever follows. -/
theorem append_point {front : Text} (numeral : IsNumeral front) (pointless : '.' ∉ front)
    (inText : front ++ ['.'] <+: text) : front ++ ['.'] <+: word := by
  obtain ⟨decimal, spells⟩ := numeral
  exact isLongest.isPrefix_of_isNumeral ⟨decimal, spells.append_point pointless⟩ inText

end IsLongestNumeral

namespace Decimal

/-! ## Words that are read as a whole -/

theorem Unsigned.read {whole fraction word : Text} (unsigned : Unsigned whole fraction word)
    (negative : Bool) : ofUnsigned? negative word = some ⟨negative, whole, fraction⟩ := by
  cases unsigned with
  | integer filled digits =>
      have read := Numeral.Parts.ofUnsigned?_eq negative digits.isDigit allDigits_nil.isDigit
        (Or.inl ⟨rfl, rfl⟩) (Nat.add_pos_left (List.length_pos_iff.mpr filled) _)
      simpa using read
  | pointed filled digits later =>
      have read := Numeral.Parts.ofUnsigned?_eq negative digits.isDigit later.isDigit (Or.inr rfl)
        (Nat.add_pos_left (List.length_pos_iff.mpr filled) _)
      simpa [point] using read
  | fraction filled later =>
      have read := Numeral.Parts.ofUnsigned?_eq negative allDigits_nil.isDigit later.isDigit
        (Or.inr rfl) (Nat.add_pos_right _ (List.length_pos_iff.mpr filled))
      simpa [point] using read

theorem unsigned_of_read {negative : Bool} {word : Text} {decimal : Decimal}
    (read : ofUnsigned? negative word = some decimal) :
    decimal.negative = negative ∧ Unsigned decimal.whole decimal.fraction word := by
  have digits : AllDigits (word.takeWhile Text.isDigit) :=
    .of_isDigit fun _ => isDigit_of_mem_headDigits
  have parted : word.takeWhile Text.isDigit ++ word.dropWhile Text.isDigit = word :=
    List.takeWhile_append_dropWhile
  unfold ofUnsigned? at read
  generalize word.takeWhile Text.isDigit = whole at read digits parted
  generalize word.dropWhile Text.isDigit = behind at read parted
  subst parted
  cases behind with
  | nil =>
      by_cases empty : whole = []
      · simp [empty] at read
      · simp [empty] at read
        subst read
        rw [List.append_nil]
        exact ⟨rfl, .integer empty digits⟩
  | cons mark fraction =>
      simp only [Option.ite_none_right_eq_some, Option.some.injEq] at read
      obtain ⟨⟨rfl, laterDigits, filled⟩, rfl⟩ := read
      have later : AllDigits fraction := .of_isDigit (List.all_eq_true.mp laterDigits)
      refine ⟨rfl, ?_⟩
      by_cases empty : whole = []
      · subst empty
        exact .fraction (by simpa using filled) later
      · exact .pointed empty digits later

/-- A word is read as a whole exactly if it belongs to the grammar, and then as what it spells. -/
theorem ofText?_eq_some_iff {word : Text} {decimal : Decimal} :
    ofText? word = some decimal ↔ decimal.Spells word := by
  constructor
  · intro read
    obtain ⟨negative, whole, fraction⟩ := decimal
    unfold ofText? at read
    split at read
    · obtain ⟨rfl, unsigned⟩ := unsigned_of_read read
      exact .minus unsigned
    · obtain ⟨rfl, unsigned⟩ := unsigned_of_read read
      exact .plus unsigned
    · obtain ⟨rfl, unsigned⟩ := unsigned_of_read read
      exact .plain unsigned
  · intro spells
    cases spells with
    | plain unsigned =>
        rw [Numeral.Parts.ofText?_of_not_sign unsigned.not_sign.1 unsigned.not_sign.2]
        exact unsigned.read false
    | plus unsigned => exact unsigned.read false
    | minus unsigned => exact unsigned.read true

end Decimal

/-! ## The word at the head of a text -/

namespace Numeral

open Decimal

/-- A run of digits at the head of a text belongs to all of the digits there. -/
theorem headDigits_append {digits : Text} (allDigits : digits.AllDigits) (behind : Text) :
    headDigits (digits ++ behind) = digits ++ headDigits behind :=
  List.takeWhile_append_of_pos allDigits.isDigit

namespace Parts

theorem ofUnsigned_pointed (sign : Text) {whole : Text} (digits : whole.AllDigits)
    (behind : Text) :
    ofUnsigned sign (whole ++ '.' :: behind) = ⟨sign, whole, ['.'], headDigits behind⟩ := by
  have run : headDigits (whole ++ '.' :: behind) = whole := by
    apply takeWhile_append_of_stop digits.isDigit
    intro c head
    obtain rfl := Option.some.inj head
    decide
  have isPoint : '.' = Decimal.point := rfl
  simp [ofUnsigned, run, headPoint, headFraction, ← isPoint]

/-- Any word without a sign that a text begins with fits into the parts that are found there. -/
theorem fits_of_unsigned (sign behind : Text) {whole fraction word : Text}
    (unsigned : Unsigned whole fraction word) :
    (ofUnsigned sign (word ++ behind)).found = true ∧
      sign.length + word.length ≤ (ofUnsigned sign (word ++ behind)).word.length := by
  -- With a point in the word, the digits before it are all that are found, and the rest follows.
  have fits_of_pointed {whole fraction : Text} (digits : whole.AllDigits)
      (later : fraction.AllDigits) (filled : 0 < whole.length + fraction.length) :
      (ofUnsigned sign (whole ++ '.' :: fraction ++ behind)).found = true ∧
        sign.length + (whole ++ '.' :: fraction).length ≤
          (ofUnsigned sign (whole ++ '.' :: fraction ++ behind)).word.length := by
    rw [List.append_assoc, List.cons_append, ofUnsigned_pointed sign digits,
      headDigits_append later]
    simp only [found, Parts.word, List.length_append, List.length_cons, List.length_nil,
      decide_eq_true_eq]
    omega
  cases unsigned with
  | integer filled digits =>
      have positive := List.length_pos_iff.mpr filled
      simp only [found, Parts.word, ofUnsigned, headDigits_append digits, List.length_append,
        decide_eq_true_eq]
      omega
  | pointed filled digits later =>
      exact fits_of_pointed digits later
        (Nat.add_pos_left (List.length_pos_iff.mpr filled) _)
  | fraction filled later =>
      exact fits_of_pointed allDigits_nil later
        (Nat.add_pos_right _ (List.length_pos_iff.mpr filled))

theorem fits_of_spells {decimal : Decimal} {word text : Text} (spells : decimal.Spells word)
    (inText : word <+: text) :
    (Parts.of text).found = true ∧ word.length ≤ (Parts.of text).word.length := by
  obtain ⟨behind, rfl⟩ := inText
  cases spells with
  | plain unsigned =>
      have noSign : headSign (word ++ behind) = [] := by
        cases word with
        | nil => exact absurd rfl unsigned.ne_nil
        | cons c later =>
            obtain ⟨notMinus, notPlus⟩ := unsigned.not_sign
            simp only [List.head?_cons, ne_eq, Option.some.injEq] at notMinus notPlus
            simp [headSign, notMinus, notPlus]
      have fits := fits_of_unsigned [] behind unsigned
      rw [List.length_nil, Nat.zero_add] at fits
      rw [Parts.of, noSign]
      exact fits
  | plus unsigned =>
      have fits := fits_of_unsigned ['+'] behind unsigned
      rwa [List.length_singleton, Nat.add_comm] at fits
  | minus unsigned =>
      have fits := fits_of_unsigned ['-'] behind unsigned
      rwa [List.length_singleton, Nat.add_comm] at fits

/-- The parts that are found make up a word. -/
theorem spells_of_found {text : Text} (found : (Parts.of text).found = true) :
    (Parts.of text).decimal.Spells (Parts.of text).word :=
  ofText?_eq_some_iff.mp (ofText?_word found)

/-- A digit is found exactly if a text begins with a word. -/
theorem found_iff {text : Text} :
    (Parts.of text).found = true ↔ ∃ word, IsNumeral word ∧ word <+: text := by
  constructor
  · intro found
    exact ⟨_, ⟨_, spells_of_found found⟩, word_isPrefix text⟩
  · rintro ⟨word, ⟨decimal, spells⟩, inText⟩
    exact (fits_of_spells spells inText).1

/-- What is found is the longest word. -/
theorem isLongestNumeral_iff {text word : Text} :
    IsLongestNumeral text word ↔ (Parts.of text).found = true ∧ word = (Parts.of text).word := by
  have isLongest (found : (Parts.of text).found = true) :
      IsLongestNumeral text (Parts.of text).word := by
    refine ⟨⟨_, spells_of_found found⟩, word_isPrefix text, ?_⟩
    rintro other ⟨decimal, spells⟩ inText
    exact (fits_of_spells spells inText).2
  constructor
  · intro other
    have found := found_iff.mpr ⟨word, other.isNumeral, other.isPrefix⟩
    exact ⟨found, (isLongest found).unique other⟩
  · rintro ⟨found, rfl⟩
    exact isLongest found

end Parts

end Numeral

end TextCursor
