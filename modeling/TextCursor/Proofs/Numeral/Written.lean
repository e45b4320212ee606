import Mathlib.Data.List.Induction
import Mathlib.Data.Nat.Digits.Defs
import TextCursor.Proofs.Numeral.Scan

/-!
Contract: a written integer is read back.

Owns: which code points are digits, that the digits of a number denote it, and the reading of a
text that begins with a written integer and has no further digit behind it.

Does not own: decimal numerals.
-/

namespace TextCursor

namespace Text

theorem takeWhile_eq_nil_of_stop {accepts : Char → Bool} {behind : Text}
    (stops : ∀ c ∈ behind.head?, accepts c = false) : behind.takeWhile accepts = [] := by
  cases behind with
  | nil => rfl
  | cons c later =>
      have refused : ¬accepts c = true := by simp [stops c rfl]
      exact List.takeWhile_cons_of_neg refused

/-- A run ends where the first code point stands that does not belong to it. -/
theorem takeWhile_append_of_stop {accepts : Char → Bool} {front behind : Text}
    (accepted : ∀ c ∈ front, accepts c = true) (stops : ∀ c ∈ behind.head?, accepts c = false) :
    (front ++ behind).takeWhile accepts = front := by
  rw [List.takeWhile_append_of_pos accepted, takeWhile_eq_nil_of_stop stops, List.append_nil]

/-- No run gets longer by text behind it that begins with something it refuses. -/
theorem takeWhile_append_of_refused {accepts : Char → Bool} {behind : Text}
    (stops : ∀ c ∈ behind.head?, accepts c = false) (front : Text) :
    (front ++ behind).takeWhile accepts = front.takeWhile accepts := by
  induction front with
  | nil => exact takeWhile_eq_nil_of_stop stops
  | cons c later inductionHypothesis =>
      rw [List.cons_append, List.takeWhile_cons, List.takeWhile_cons, inductionHypothesis]

/-- The ten digits are those of ASCII. -/
theorem isDigit_eq (c : Char) : isDigit c = c.isDigit := by
  have table : digits = ['0', '1', '2', '3', '4', '5', '6', '7', '8', '9'] := by decide
  have code (other : Char) : c = other ↔ c.toNat = other.toNat := Char.toNat_inj.symm
  rw [Bool.eq_iff_iff, Char.isDigit_iff_toNat]
  simp only [isDigit, table, List.contains_iff_mem, List.mem_cons, List.not_mem_nil, or_false, code,
    Char.reduceToNat]
  omega

theorem isDigit_of_mem_toDigits {value : Nat} {c : Char} (member : c ∈ Nat.toDigits 10 value) :
    isDigit c = true := by
  rw [isDigit_eq]
  exact Nat.isDigit_of_mem_toDigits (by decide) (by decide) member

/-- The number that digits denote: the last one counts ones, the one before it tens, and so on. -/
def inBaseTen (digits : Text) : Nat := Nat.ofDigits 10 (digits.reverse.map digitValue)

theorem inBaseTen_append (front behind : Text) :
    inBaseTen (front ++ behind) = inBaseTen front * 10 ^ behind.length + inBaseTen behind := by
  rw [inBaseTen, List.reverse_append, List.map_append, Nat.ofDigits_append, List.length_map,
    List.length_reverse, Nat.mul_comm, Nat.add_comm]
  rfl

/-- What a scan accumulates is the number that the digits denote. -/
theorem natural_eq_inBaseTen (digits : Text) : natural digits = inBaseTen digits := by
  induction digits using List.reverseRecOn with
  | nil => rfl
  | append_singleton front digit inductionHypothesis =>
      have further : natural (front ++ [digit]) = natural front * 10 + digitValue digit := by
        simp [natural]
      rw [further, inductionHypothesis, inBaseTen_append]
      simp [inBaseTen]

theorem inBaseTen_toDigits (value : Nat) : inBaseTen (Nat.toDigits 10 value) = value := by
  have denoted := Nat.ofDigitChars_ten_toDigits (n := value)
  rw [Nat.ofDigitChars] at denoted
  rw [← natural_eq_inBaseTen]
  simpa only [natural, digitValue, Nat.mul_comm] using denoted

/-- A digit is not mistaken for a sign. -/
theorem headSign_digits_append {digits : Text} (filled : digits ≠ [])
    (allDigits : ∀ c ∈ digits, isDigit c = true) (behind : Text) :
    headSign (digits ++ behind) = [] := by
  cases digits with
  | nil => contradiction
  | cons first later =>
      have digit := allDigits first List.mem_cons_self
      have noSign : ¬(first = '-' ∨ first = '+') := by
        rintro (rfl | rfl)
        · contradiction
        · contradiction
      rw [List.cons_append, headSign, if_neg noSign]

end Text

namespace Numeral

open Text

variable {behind : Text} (stops : ∀ c ∈ behind.head?, isDigit c = false)

include stops

/-- The reading of digits behind a sign, or behind none. -/
theorem integerOf_sign_append {sign digits : Text} (filled : digits ≠ [])
    (allDigits : ∀ c ∈ digits, isDigit c = true)
    (signed : headSign (sign ++ (digits ++ behind)) = sign) :
    integerOf (sign ++ (digits ++ behind)) =
      ⟨if sign = ['-'] then -inBaseTen digits else inBaseTen digits,
        (sign.length + digits.length : Nat), true⟩ := by
  have whole : (Parts.of (sign ++ (digits ++ behind))).whole = digits := by
    rw [Parts.of, signed, List.drop_left]
    exact takeWhile_append_of_stop allDigits stops
  have parted : (Parts.of (sign ++ (digits ++ behind))).sign = sign := signed
  have someDigit : 0 < digits.length := List.length_pos_iff.mpr filled
  simp only [integerOf, Parts.negative, whole, parted, natural_eq_inBaseTen, decide_eq_true_eq,
    Int.natCast_add, someDigit, decide_true]

/-- Where no digit follows, a written integer is read as it was written. -/
theorem integerOf_ofInt_append (value : Int) :
    integerOf (ofInt value ++ behind) = ⟨value, (ofInt value).length, true⟩ := by
  by_cases negative : value < 0
  · have signed : headSign (['-'] ++ (Nat.toDigits 10 value.natAbs ++ behind)) = ['-'] := rfl
    have same : -(value.natAbs : Int) = value := by omega
    have reading := integerOf_sign_append stops Nat.toDigits_ne_nil
      (fun _ => isDigit_of_mem_toDigits) signed
    rw [if_pos rfl, inBaseTen_toDigits, same] at reading
    rw [ofInt, if_pos negative]
    simpa [Nat.add_comm] using reading
  · have signed : headSign ([] ++ (Nat.toDigits 10 value.toNat ++ behind)) = [] :=
      headSign_digits_append Nat.toDigits_ne_nil (fun _ => isDigit_of_mem_toDigits) behind
    have same : (value.toNat : Int) = value := by omega
    have reading := integerOf_sign_append stops Nat.toDigits_ne_nil
      (fun _ => isDigit_of_mem_toDigits) signed
    rw [if_neg (by decide), inBaseTen_toDigits, same] at reading
    rw [ofInt, if_neg negative]
    simpa using reading

end Numeral

end TextCursor
