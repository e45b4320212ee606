import TextCursor.Proofs.Numeral.Grammar
import TextCursor.Proofs.Script.Reachable

/-!
Contract: numbers at the head of a window, from any cursor that a script makes.

Owns: when a number is removed, which code points it takes and what it leaves behind it, that the
word which is converted is just what is taken, and that a look at a number tells what a removal
would yield.

An integer takes a sign, or none, and all the digits behind it. A decimal number takes the longest
word of its grammar.

Does not own: that grammar, or the number that a decimal numeral denotes.
-/

namespace TextCursor.Script

open Edit Cursor Numeral

/-- A removal yields a value, and takes what it was read from: the window begins with `taken`, and
what is left of it reads `behind`. -/
structure Removes (pops : Operation) (cursor : Cursor) (value : Value) (taken behind : Text) :
    Prop where
  content : cursor.content = taken ++ behind
  ran : pops.run.on cursor = (.ok (.outcome (.found value)),
    cursor.windowAt (cursor.start + taken.length) (cursor.size - taken.length))
  rest : (cursor.windowAt (cursor.start + taken.length) (cursor.size - taken.length)).content =
    behind

/-- A removal finds nothing, and leaves the cursor as it is. -/
def Misses (pops : Operation) (cursor : Cursor) : Prop :=
  pops.run.on cursor = (.ok (.outcome .missing), cursor)

/-- A look tells the value that a removal yields from a copy, or `missing` if it finds nothing, and
leaves the cursor as it is. -/
def TellsHead (looks pops : Operation) (missing : Value) (cursor : Cursor) : Prop :=
  ∃ copied told, cursor.copy = .ok copied ∧ looks.run.on cursor = (.ok (.value told), cursor) ∧
    ((pops.run.on copied).1 = .ok (.outcome (.found told)) ∨
      (pops.run.on copied).1 = .ok (.outcome .missing) ∧ told = missing)

section Operations

variable {α : Type} {looks pops : Operation} {value : α → Value} {step : Edit (Option α)}
  {cursor : Cursor}

theorem removes_of_found (runs : pops.run = attempt value step) (inside : cursor.Inside)
    {taken behind : Text} (content : cursor.content = taken ++ behind) {number : α}
    (ran : step.on cursor = (.ok (some number),
      cursor.windowAt (cursor.start + taken.length) (cursor.size - taken.length))) :
    Removes pops cursor (value number) taken behind := by
  have fits : taken.length ≤ cursor.content.length := by
    rw [content]
    exact (List.prefix_append taken behind).length_le
  have rest := (inside.holds_back fits).content
  rw [inside.part_behind fits] at rest
  refine ⟨content, ?_, ?_⟩
  · rw [runs, on_attempt value ran]
    rfl
  · rw [rest, content, List.drop_left]

theorem misses_of_missing (runs : pops.run = attempt value step)
    (ran : step.on cursor = (.ok none, cursor)) : Misses pops cursor := by
  rw [Misses, runs, on_attempt value ran]
  rfl

theorem tellsHead_of_reading {head : Cursor → Except Error α} {missing : α}
    (look : looks.run = do answer value (.ofExcept (head (← get))))
    (runs : pops.run = attempt value step) (inside : cursor.Inside) {reading : Reading α}
    {after : Cursor}
    (told : head cursor = .ok (if reading.found then reading.value else missing))
    (popped : step.on cursor.bare =
      if reading.found then (.ok (some reading.value), after) else (.ok none, cursor.bare)) :
    TellsHead looks pops (value missing) cursor := by
  refine ⟨cursor.bare, _, inside.copy, look ▸ on_computed value told, ?_⟩
  rw [runs]
  cases found : reading.found with
  | true =>
      rw [found, if_pos rfl] at popped
      rw [on_attempt value popped]
      exact Or.inl rfl
  | false =>
      rw [found, if_neg Bool.false_ne_true] at popped
      rw [on_attempt value popped]
      exact Or.inr ⟨rfl, rfl⟩

/-- What is taken is no other text. -/
theorem Removes.taken_eq {left right : Value} {taken behind other later : Text}
    (removes : Removes pops cursor left taken behind)
    (also : Removes pops cursor right other later) : taken = other := by
  have same := congrArg Prod.snd (removes.ran.symm.trans also.ran)
  have starts := congrArg Cursor.start same
  have lengths : taken.length = other.length := by
    simp only [windowAt] at starts
    omega
  exact List.append_inj_left (removes.content.symm.trans also.content) lengths

theorem Removes.not_misses {number : Value} {taken behind : Text}
    (removes : Removes pops cursor number taken behind) : ¬Misses pops cursor := by
  intro misses
  have same := congrArg Prod.fst (removes.ran.symm.trans misses)
  cases same

/-- Something is removed where that is possible, and only otherwise nothing is found. -/
theorem removes_or_misses_iff {possible : Prop}
    (removes : possible → ∃ number taken behind, Removes pops cursor number taken behind)
    (misses : ¬possible → Misses pops cursor) :
    ((∃ number taken behind, Removes pops cursor number taken behind) ↔ possible) ∧
      (Misses pops cursor ↔ ¬possible) := by
  refine ⟨⟨?_, removes⟩, ⟨?_, misses⟩⟩
  · rintro ⟨number, taken, behind, removed⟩
    by_contra impossible
    exact removed.not_misses (misses impossible)
  · intro missing holds
    obtain ⟨number, taken, behind, removed⟩ := removes holds
    exact removed.not_misses missing

end Operations

/-! ## Integers -/

def IsSign (sign : Text) : Prop := sign = [] ∨ sign = ['+'] ∨ sign = ['-']

/-- A text begins with a digit, or with one sign and directly behind it a digit. -/
def HasIntegerAhead (text : Text) : Prop :=
  ∃ sign digit, IsSign sign ∧ digit.isDigit = true ∧ sign ++ [digit] <+: text

/-- A text begins with an integer: a sign or none, at least one digit, and all digits behind it. -/
structure BeginsWithInteger (text sign digits behind : Text) : Prop where
  parts : text = sign ++ digits ++ behind
  isSign : IsSign sign
  filled : digits ≠ []
  allDigits : digits.AllDigits
  maximal : ∀ c ∈ behind.head?, c.isDigit = false

/-- Behind the digits that a text begins with stands none. -/
theorem isDigit_head_dropWhile (text : Text) :
    ∀ c ∈ (text.dropWhile Text.isDigit).head?, c.isDigit = false := by
  intro c head
  have refused := List.head?_dropWhile_not Text.isDigit text
  rw [Option.mem_def.mp head] at refused
  rw [← Text.isDigit_eq]
  exact refused

/-- Where a digit is ahead, all of its run is. -/
theorem HasIntegerAhead.exists_beginsWithInteger {text : Text} (ahead : HasIntegerAhead text) :
    ∃ sign digits behind, BeginsWithInteger text sign digits behind := by
  obtain ⟨sign, digit, isSign, isDigit, later, rfl⟩ := ahead
  have parted : Text.headDigits later ++ later.dropWhile Text.isDigit = later :=
    List.takeWhile_append_dropWhile
  refine ⟨sign, digit :: Text.headDigits later, later.dropWhile Text.isDigit, ?_, isSign,
    List.cons_ne_nil _ _, ?_, isDigit_head_dropWhile later⟩
  · simp [parted]
  · intro c member
    rcases List.mem_cons.mp member with rfl | further
    · exact isDigit
    · rw [← Text.isDigit_eq]
      exact Text.isDigit_of_mem_headDigits further

theorem hasIntegerAhead_of_found {text : Text} (found : (integerOf text).found = true) :
    HasIntegerAhead text := by
  have positive : 0 < (Text.headDigits (text.drop text.headSign.length)).length :=
    of_decide_eq_true found
  have isSign : IsSign text.headSign := by
    rcases Parts.headSign_cases text with minus | plus | ⟨none, -⟩
    · exact Or.inr (Or.inr minus)
    · exact Or.inr (Or.inl plus)
    · exact Or.inl none
  have whole := Text.headDigits_isPrefix (text.drop text.headSign.length)
  have isDigit : ∀ c ∈ Text.headDigits (text.drop text.headSign.length), Text.isDigit c = true :=
    fun _ => Text.isDigit_of_mem_headDigits
  -- The first of the digits that were counted is the one ahead.
  obtain ⟨digit, later, digits⟩ := List.exists_cons_of_length_pos positive
  rw [digits] at whole isDigit
  refine ⟨text.headSign, digit, isSign, ?_, ?_⟩
  · rw [← Text.isDigit_eq]
    exact isDigit digit List.mem_cons_self
  · rw [← List.prefix_append_right_inj text.headSign,
      List.prefix_iff_eq_append.mp text.headSign_isPrefix] at whole
    have first : [digit] <+: digit :: later := ⟨later, rfl⟩
    exact ((List.prefix_append_right_inj text.headSign).mpr first).trans whole

theorem BeginsWithInteger.reading {text sign digits behind : Text}
    (begins : BeginsWithInteger text sign digits behind) :
    integerOf text = ⟨if sign = ['-'] then -Text.inBaseTen digits else Text.inBaseTen digits,
      ((sign ++ digits).length : Nat), true⟩ := by
  obtain ⟨rfl, isSign, filled, allDigits, maximal⟩ := begins
  have stops : ∀ c ∈ behind.head?, Text.isDigit c = false := by
    simpa only [Text.isDigit_eq] using maximal
  have signed : Text.headSign (sign ++ (digits ++ behind)) = sign := by
    rcases isSign with rfl | rfl | rfl
    · exact Text.headSign_digits_append filled allDigits.isDigit behind
    · rfl
    · rfl
  rw [List.append_assoc, integerOf_sign_append stops filled allDigits.isDigit signed,
    List.length_append]

theorem BeginsWithInteger.isNumeral {text sign digits behind : Text}
    (begins : BeginsWithInteger text sign digits behind) : IsNumeral (sign ++ digits) := by
  have unsigned : Decimal.Unsigned digits [] digits := .integer begins.filled begins.allDigits
  rcases begins.isSign with rfl | rfl | rfl
  · exact ⟨_, .plain unsigned⟩
  · exact ⟨_, .plus unsigned⟩
  · exact ⟨_, .minus unsigned⟩

section Integers

variable {cursor : Cursor}

theorem removes_of_reading (inside : cursor.Inside) {taken behind : Text}
    (content : cursor.content = taken ++ behind) {value : Int}
    (reading : integerOf cursor.content = ⟨value, taken.length, true⟩) :
    Removes .popInt? cursor (.int value) taken behind := by
  have fits : taken.length ≤ cursor.content.length := by
    rw [content]
    exact (List.prefix_append taken behind).length_le
  have popped := on_popInt? inside
  rw [reading, if_pos rfl] at popped
  exact removes_of_found rfl inside content
    (popped.trans (congrArg (Prod.mk _) (inside.part_behind fits)))

theorem removes_of_beginsWithInteger (inside : cursor.Inside) {sign digits behind : Text}
    (begins : BeginsWithInteger cursor.content sign digits behind) :
    Removes .popInt? cursor
      (.int (if sign = ['-'] then -Text.inBaseTen digits else Text.inBaseTen digits))
      (sign ++ digits) behind :=
  removes_of_reading inside begins.parts begins.reading

theorem misses_of_not_hasIntegerAhead (inside : cursor.Inside)
    (nowhere : ¬HasIntegerAhead cursor.content) : Misses .popInt? cursor := by
  have missing : (integerOf cursor.content).found = false :=
    Bool.eq_false_iff.mpr fun found => nowhere (hasIntegerAhead_of_found found)
  have popped := on_popInt? inside
  rw [missing, if_neg Bool.false_ne_true] at popped
  exact misses_of_missing rfl popped

theorem popInt?_iff (inside : cursor.Inside) :
    ((∃ value taken behind, Removes .popInt? cursor value taken behind) ↔
        HasIntegerAhead cursor.content) ∧
      (Misses .popInt? cursor ↔ ¬HasIntegerAhead cursor.content) := by
  apply removes_or_misses_iff
  · intro ahead
    obtain ⟨sign, digits, behind, begins⟩ := ahead.exists_beginsWithInteger
    exact ⟨_, _, behind, removes_of_beginsWithInteger inside begins⟩
  · exact misses_of_not_hasIntegerAhead inside

/-- What is taken for an integer would do for a decimal number as well. -/
theorem isNumeral_of_popInt? (inside : cursor.Inside) {value : Value} {taken behind : Text}
    (removes : Removes .popInt? cursor value taken behind) : IsNumeral taken := by
  have ahead := (popInt?_iff inside).1.mp ⟨value, taken, behind, removes⟩
  obtain ⟨sign, digits, later, begins⟩ := ahead.exists_beginsWithInteger
  rw [removes.taken_eq (removes_of_beginsWithInteger inside begins)]
  exact begins.isNumeral

theorem headInt_tellsHead (inside : cursor.Inside) :
    TellsHead .headInt .popInt? (.int 0) cursor := by
  have popped := on_popInt? inside.holds_bare.inside
  rw [bare_content] at popped
  exact tellsHead_of_reading rfl rfl inside (headInt_eq inside) popped

end Integers

/-- From any cursor that a script made, an integer is removed exactly if the window begins with a
digit, or with one sign and directly behind it a digit. It takes the sign and all the digits that
follow, and is the number that they denote in base ten. A written number is read back where no digit
follows it. Without an integer there nothing moves. A look tells the same number, or zero. -/
theorem Reachable.popInt?_takes_whole_run {cursor : Cursor} (reachable : Reachable cursor) :
    ((∃ value taken behind, Removes .popInt? cursor value taken behind) ↔
        HasIntegerAhead cursor.content) ∧
      (Misses .popInt? cursor ↔ ¬HasIntegerAhead cursor.content) ∧
      (∀ sign digits behind, BeginsWithInteger cursor.content sign digits behind →
        Removes .popInt? cursor
          (.int (if sign = ['-'] then -Text.inBaseTen digits else Text.inBaseTen digits))
          (sign ++ digits) behind) ∧
      (∀ (value : Int) (behind : Text), cursor.content = Text.ofInt value ++ behind →
        (∀ c ∈ behind.head?, c.isDigit = false) →
          Removes .popInt? cursor (.int value) (Text.ofInt value) behind) ∧
      TellsHead .headInt .popInt? (.int 0) cursor := by
  have inside := reachable.sound.inside
  obtain ⟨removes, misses⟩ := popInt?_iff inside
  refine ⟨removes, misses, fun _ _ _ => removes_of_beginsWithInteger inside, ?_,
    headInt_tellsHead inside⟩
  intro value behind content noDigit
  have stops : ∀ c ∈ behind.head?, Text.isDigit c = false := by
    simpa only [Text.isDigit_eq] using noDigit
  have reading := integerOf_ofInt_append stops value
  rw [← content] at reading
  exact removes_of_reading inside content reading

/-- A sign, zeros at the front, and behind the digits one of another script, which is none here. -/
theorem popInt?_takes_whole_run_padded :
    let cursor : Cursor := { source := "=-0042٣7".toList, start := 1, size := 7 }
    Reachable cursor ∧ Removes .popInt? cursor (.int (-42)) "-0042".toList "٣7".toList ∧
      TellsHead .headInt .popInt? (.int 0) cursor := by
  intro cursor
  let script : List Step :=
    [⟨none, some "text", .create "=-0042٣7".toList 0 none⟩,
      ⟨some "text", none, .apply (.popFront 1)⟩]
  have placed : (Store.run {} script).2.cursors[0]? = some cursor := by decide +kernel
  have reachable : Reachable cursor := ⟨script, List.mem_of_getElem? placed⟩
  have begins : BeginsWithInteger cursor.content ['-'] "0042".toList "٣7".toList := by
    refine ⟨by decide +kernel, Or.inr (Or.inr rfl), by decide, ?_, ?_⟩
    · exact List.all_eq_true.mp (by decide)
    · intro c head
      obtain rfl := Option.some.inj head
      decide
  obtain ⟨-, -, takes, -, tells⟩ := reachable.popInt?_takes_whole_run
  exact ⟨reachable, takes _ _ _ begins, tells⟩

/-! ## Decimal numbers -/

/-- A text begins with a decimal numeral. -/
def HasNumeralAhead (text : Text) : Prop := ∃ word, IsNumeral word ∧ word <+: text

/-- The removal of a decimal number, with the conversion of its word left open. -/
def popDecimalBy (convert : Text → Except Error Binary64) : Edit (Option Binary64) := do
  let cursor ← get
  popReading (← .ofExcept (readDecimalBy convert cursor.source cursor.start cursor.stop))

theorem popDecimal?_eq_popDecimalBy : popDecimal? = popDecimalBy decimalOf := rfl

/-- The removal of a decimal number converts this word, in whatever way it converts one, and takes
it. The conversion that there is succeeds on it. -/
structure TakesWord (cursor : Cursor) (word : Text) : Prop where
  converts : ∀ convert, (popDecimalBy convert).on cursor =
    match convert word with
    | .ok number => (.ok (some number),
        cursor.windowAt (cursor.start + word.length) (cursor.size - word.length))
    | .error error => (.error error, cursor)
  removes : ∃ number behind, decimalOf word = .ok number ∧
    Removes .popDecimal? cursor (.real number) word behind

section Decimals

variable {cursor : Cursor}

theorem on_popDecimalBy_of_found (inside : cursor.Inside)
    (convert : Text → Except Error Binary64) {word : Text}
    (isLongest : IsLongestNumeral cursor.content word) :
    (popDecimalBy convert).on cursor =
      match convert word with
      | .ok number => (.ok (some number),
          cursor.windowAt (cursor.start + word.length) (cursor.size - word.length))
      | .error error => (.error error, cursor) := by
  obtain ⟨found, rfl⟩ := Parts.isLongestNumeral_iff.mp isLongest
  simp only [popDecimalBy, on_bind, on_get, readDecimalBy_eq convert inside.spans, if_pos found,
    on_ofExcept]
  cases convert (Parts.of cursor.content).word with
  | error error => rfl
  | ok number => rfl

theorem on_popDecimalBy_of_missing (inside : cursor.Inside)
    (convert : Text → Except Error Binary64) (nowhere : ¬HasNumeralAhead cursor.content) :
    (popDecimalBy convert).on cursor = (.ok none, cursor) := by
  have missing : ¬(Parts.of cursor.content).found = true := mt Parts.found_iff.mp nowhere
  simp only [popDecimalBy, on_bind, on_get, readDecimalBy_eq convert inside.spans, if_neg missing,
    on_ofExcept]
  rfl

theorem HasNumeralAhead.exists_isLongest {text : Text} (ahead : HasNumeralAhead text) :
    ∃ word, IsLongestNumeral text word :=
  ⟨_, Parts.isLongestNumeral_iff.mpr ⟨Parts.found_iff.mpr ahead, rfl⟩⟩

theorem takesWord_of_isLongest (inside : cursor.Inside) {word : Text}
    (isLongest : IsLongestNumeral cursor.content word) : TakesWord cursor word := by
  obtain ⟨decimal, spells⟩ := isLongest.isNumeral
  obtain ⟨behind, content⟩ := isLongest.isPrefix
  have number : decimalOf word = .ok decimal.toBinary64 := by
    rw [decimalOf, Decimal.ofText?_eq_some_iff.mpr spells]
  have popped := on_popDecimalBy_of_found inside decimalOf isLongest
  rw [number] at popped
  exact ⟨fun convert => on_popDecimalBy_of_found inside convert isLongest, _, behind, number,
    removes_of_found rfl inside content.symm popped⟩

/-- One conversion tells the words apart: that which fails and names the word. -/
theorem takesWord_iff (inside : cursor.Inside) {word : Text} :
    TakesWord cursor word ↔ IsLongestNumeral cursor.content word := by
  refine ⟨fun takes => ?_, takesWord_of_isLongest inside⟩
  have named := takes.converts fun word => .error (.unreadableNumeral word)
  by_cases ahead : HasNumeralAhead cursor.content
  · obtain ⟨longest, isLongest⟩ := ahead.exists_isLongest
    rw [on_popDecimalBy_of_found inside _ isLongest] at named
    have same := congrArg Prod.fst named
    simp only [Except.error.injEq, Error.unreadableNumeral.injEq] at same
    exact same ▸ isLongest
  · rw [on_popDecimalBy_of_missing inside _ ahead] at named
    cases congrArg Prod.fst named

theorem headDecimal_tellsHead (inside : cursor.Inside) :
    TellsHead .headDecimal .popDecimal? (.real (.zero false)) cursor := by
  have popped := on_popDecimal? inside.holds_bare.inside
  rw [bare_content] at popped
  exact tellsHead_of_reading rfl rfl inside (headDecimal_eq inside) popped

end Decimals

/-- From any cursor that a script made, a decimal number is removed exactly if the window begins with
a numeral. The longest one is taken, and just that word is converted, which cannot fail. It has no
more than one point, and nothing but digits and a sign besides; a point directly behind digits
belongs to it, whatever follows. Without a numeral nothing is converted and nothing moves. A look
tells the same number, or positive zero. Where an integer is removed a decimal number can be, and it
takes no less. -/
theorem Reachable.popDecimal?_takes_longest_numeral {cursor : Cursor}
    (reachable : Reachable cursor) :
    popDecimal? = popDecimalBy decimalOf ∧
      ((∃ value taken behind, Removes .popDecimal? cursor value taken behind) ↔
        HasNumeralAhead cursor.content) ∧
      (Misses .popDecimal? cursor ↔ ¬HasNumeralAhead cursor.content) ∧
      (∀ word, TakesWord cursor word ↔ IsLongestNumeral cursor.content word) ∧
      (¬HasNumeralAhead cursor.content →
        ∀ convert, (popDecimalBy convert).on cursor = (.ok none, cursor)) ∧
      (∀ word, IsLongestNumeral cursor.content word →
        word.count '.' ≤ 1 ∧ (∀ c ∈ word, c.isDigit = true ∨ c = '.' ∨ c = '+' ∨ c = '-') ∧
          ∀ front, IsNumeral front → '.' ∉ front → front ++ ['.'] <+: cursor.content →
            front ++ ['.'] <+: word) ∧
      TellsHead .headDecimal .popDecimal? (.real (.zero false)) cursor ∧
      ∀ value taken behind, Removes .popInt? cursor value taken behind →
        ∃ number word later, Removes .popDecimal? cursor number word later ∧ taken <+: word := by
  have inside := reachable.sound.inside
  have possible : HasNumeralAhead cursor.content →
      ∃ value taken behind, Removes .popDecimal? cursor value taken behind := by
    intro ahead
    obtain ⟨word, isLongest⟩ := ahead.exists_isLongest
    obtain ⟨number, behind, -, removes⟩ := (takesWord_of_isLongest inside isLongest).removes
    exact ⟨_, word, behind, removes⟩
  have impossible : ¬HasNumeralAhead cursor.content → Misses .popDecimal? cursor :=
    fun nowhere => misses_of_missing rfl (on_popDecimalBy_of_missing inside decimalOf nowhere)
  obtain ⟨removes, misses⟩ := removes_or_misses_iff possible impossible
  refine ⟨popDecimal?_eq_popDecimalBy, removes, misses, fun _ => takesWord_iff inside,
    fun nowhere convert => on_popDecimalBy_of_missing inside convert nowhere, ?_,
    headDecimal_tellsHead inside, ?_⟩
  · intro word isLongest
    exact ⟨isLongest.count_point, isLongest.mem, fun _ => isLongest.append_point⟩
  · intro value taken behind popped
    -- What the integer took is itself a numeral, so the longest one cannot be shorter.
    have numeral := isNumeral_of_popInt? inside popped
    have inContent : taken <+: cursor.content := ⟨behind, popped.content.symm⟩
    obtain ⟨word, isLongest⟩ := HasNumeralAhead.exists_isLongest ⟨taken, numeral, inContent⟩
    obtain ⟨number, later, -, taking⟩ := (takesWord_of_isLongest inside isLongest).removes
    exact ⟨_, word, later, taking, isLongest.isPrefix_of_isNumeral numeral inContent⟩

/-- A point directly behind the digits is taken, and the digit behind the underscore is not. -/
theorem popDecimal?_takes_longest_numeral_ending_in_point :
    let cursor : Cursor := { source := "=-12._5e3".toList, start := 1, size := 8 }
    Reachable cursor ∧ IsLongestNumeral cursor.content "-12.".toList ∧
      TakesWord cursor "-12.".toList ∧
      TellsHead .headDecimal .popDecimal? (.real (.zero false)) cursor := by
  intro cursor
  let script : List Step :=
    [⟨none, some "text", .create "=-12._5e3".toList 0 none⟩,
      ⟨some "text", none, .apply (.popFront 1)⟩]
  have placed : (Store.run {} script).2.cursors[0]? = some cursor := by decide +kernel
  have reachable : Reachable cursor := ⟨script, List.mem_of_getElem? placed⟩
  have isLongest : IsLongestNumeral cursor.content "-12.".toList :=
    Parts.isLongestNumeral_iff.mpr (by decide +kernel)
  obtain ⟨-, -, -, takes, -, -, tells, -⟩ := reachable.popDecimal?_takes_longest_numeral
  exact ⟨reachable, isLongest, (takes _).mpr isLongest, tells⟩

end TextCursor.Script
