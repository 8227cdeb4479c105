import Mathlib.Tactic.Common
import Wordbook.Number.Decimal
import Wordbook.Proofs.Text.Blank

/-!
# The decimal text of integers

The digits of a natural number are common digits, the first of them is no zero unless it is the only
one, they denote the number, and they are as many as are allowed exactly for the integers that have
a text.
-/

namespace Wordbook
namespace Number

theorem isPlainDigit_of_mem_toDigits
    (number : Nat)
    {digit : Char}
    (present : digit ∈ Nat.toDigits 10 number) :
    isPlainDigit digit = true := by
  have isDigit := Nat.isDigit_of_mem_toDigits (by decide) (by decide) present
  simp only [Char.isDigit, Bool.and_eq_true, decide_eq_true_eq, ge_iff_le,
    UInt32.le_iff_toNat_le] at isDigit
  change 48 ≤ digit.toNat ∧ digit.toNat ≤ 57 at isDigit
  simpa only [isPlainDigit, Bool.and_eq_true, decide_eq_true_eq] using isDigit

/-- The digits of a number denote it. -/
theorem ofDigits_toDigits (number : Nat) :
    ofDigits 10 ((Nat.toDigits 10 number).map fun digit => digit.toNat - 48) = number := by
  have denoted := Nat.ofDigitChars_ten_toDigits (n := number)
  rw [Nat.ofDigitChars_eq_foldl] at denoted
  rw [ofDigits, List.foldl_map]
  have zeroCode : '0'.toNat = 48 := rfl
  simpa only [Nat.mul_comm, zeroCode] using denoted

/-- The digits of a positive number start with one that is no zero. -/
theorem exists_toDigits_eq_cons
    {number : Nat}
    (positive : 0 < number) :
    ∃ digit digits, Nat.toDigits 10 number = digit :: digits ∧ digit ≠ '0' := by
  induction number using Nat.strongRecOn with
  | ind number inductionHypothesis =>
      by_cases small : number < 10
      · refine ⟨_, [], Nat.toDigits_of_lt_base small, ?_⟩
        intro zero
        have code := Nat.toNat_digitChar_of_lt_ten small
        rw [zero] at code
        have : '0'.toNat = 48 := rfl
        omega
      · obtain ⟨digit, digits, equal, nonzero⟩ :=
          inductionHypothesis (number / 10) (by omega) (by omega)
        refine ⟨digit, digits ++ [(number % 10).digitChar], ?_, nonzero⟩
        rw [Nat.toDigits_of_base_le (by decide) (by omega), equal, List.cons_append]

theorem hasText_iff_length_le (value : Int) :
    hasText value = true ↔ (Nat.toDigits 10 value.natAbs).length ≤ digitLimit := by
  have some : 0 < digitLimit := by decide
  rw [hasText_iff]
  unfold tooLarge
  generalize digitLimit = limit at some ⊢
  exact (Nat.length_toDigits_le_iff (by decide) some).symm

theorem pow_le_tooLarge
    {digits : Nat}
    (few : digits ≤ digitLimit) :
    Nat.pow 10 digits ≤ tooLarge := by
  unfold tooLarge
  generalize digitLimit = limit at few ⊢
  exact Nat.pow_le_pow_right (by decide) few

theorem signed_natAbs (value : Int) : signed (value < 0) value.natAbs = value := by
  by_cases negative : value < 0
  · simp only [signed, negative, decide_true, if_true]
    omega
  · simp only [signed, negative, decide_false, Bool.false_eq_true, if_false]
    omega

/-! ## Reading the text back -/

/-- A common digit is no blank, no sign, no underscore, and stands for itself. -/
theorem plain_of_isPlainDigit
    {digit : Char}
    (isDigit : isPlainDigit digit = true) :
    plainChar digit = digit ∧ isSpace digit = false ∧ Text.isBlank digit = false ∧
      digit ≠ '+' ∧ digit ≠ '-' ∧ digit ≠ '_' ∧ digitValue? digit = some (digit.toNat - 48) ∧
      digit.toNat - 48 < 10 := by
  simp only [isPlainDigit, Bool.and_eq_true, decide_eq_true_eq] at isDigit
  obtain ⟨low, high⟩ := isDigit
  have other (char : Char) (outside : char.toNat < 48 ∨ 57 < char.toNat) : digit ≠ char := by
    rintro rfl
    omega
  refine ⟨?_, ?_, ?_, other '+' (by decide), other '-' (by decide), other '_' (by decide), ?_,
    by omega⟩
  · rw [plainChar, if_pos (by omega)]
  · simp only [isSpace, Bool.or_eq_false_iff, Bool.and_eq_false_iff, beq_eq_false_iff_ne,
      decide_eq_false_iff_not]
    omega
  · simp only [Text.isBlank, Text.isBlankCode, Bool.or_eq_false_iff, Bool.and_eq_false_iff,
      beq_eq_false_iff_ne, decide_eq_false_iff_not]
    omega
  · simp [digitValue?, low, high]

/-- Digits are read as the list of their values. -/
theorem readDigitsFrom_plain
    {digits : List Char}
    (areDigits : ∀ digit ∈ digits, isPlainDigit digit = true)
    (taken : List Nat)
    (afterDigit : Bool)
    (begun : digits ≠ [] ∨ afterDigit = true) :
    readDigitsFrom 10 taken afterDigit digits =
      some (taken.reverse ++ digits.map fun digit => digit.toNat - 48) := by
  induction digits generalizing taken afterDigit with
  | nil => simp [readDigitsFrom, begun.resolve_left (by simp)]
  | cons digit digits inductionHypothesis =>
      rw [List.forall_mem_cons] at areDigits
      obtain ⟨-, -, -, -, -, notUnderscore, value, small⟩ := plain_of_isPlainDigit areDigits.1
      have rest := inductionHypothesis areDigits.2 ((digit.toNat - 48) :: taken) true (.inr rfl)
      rw [readDigitsFrom, if_neg (by simpa using notUnderscore)]
      simp [value, small, rest]

/-- No letter announces the base ten. -/
theorem splitBase_ten (chars : List Char) : splitBase 10 chars = (10, chars) := by
  unfold splitBase
  split
  case h_1 letter rest =>
    have unannounced :
        (10 == if letter == 'x' || letter == 'X' then 16
          else if letter == 'o' || letter == 'O' then 8
          else if letter == 'b' || letter == 'B' then 2
          else 0) = false := by
      repeat' split
      all_goals rfl
    simp only [unannounced, Nat.reduceBEq, Bool.false_or, Bool.and_false, Bool.false_eq_true,
      if_false]
  case h_2 => rfl

/-- Digits behind a sign are read as the number that they denote, unless they are too many. -/
theorem readPlainInt_digits
    {digits chars : List Char}
    {negative : Bool}
    (signed : splitSign chars = (negative, digits))
    (areDigits : ∀ digit ∈ digits, isPlainDigit digit = true)
    (given : digits ≠ []) :
    readPlainInt 10 chars =
      if digits.length > digitLimit then .tooManyDigits digits.length
      else
        .value (Number.signed negative (ofDigits 10 (digits.map fun digit => digit.toNat - 48))) := by
  have belong : ∀ digit ∈ digits, belongsToDigits 10 digit = true := by
    intro digit present
    obtain ⟨-, -, -, -, -, -, value, small⟩ := plain_of_isPlainDigit (areDigits digit present)
    simp only [belongsToDigits, value, Option.any_some, small, decide_true, Bool.or_true]
  have taken : digits.takeWhile (belongsToDigits 10) = digits :=
    List.takeWhile_eq_self_iff.mpr belong
  have rest : digits.dropWhile (belongsToDigits 10) = [] := List.dropWhile_eq_nil_iff.mpr belong
  have read := readDigitsFrom_plain areDigits [] false (.inl given)
  simp only [readPlainInt, signed, splitBase_ten, taken, rest, readDigits?, read]
  rw [List.reverse_nil, List.nil_append, List.length_map, Number.signed]
  split
  · case isTrue many =>
      have long : digits.length > digitLimit := by simpa [isBinaryBase] using many
      rw [if_pos long]
  · case isFalse few =>
      have short : ¬ digits.length > digitLimit := by simpa [isBinaryBase] using few
      rw [if_neg short]
      rfl

/-- The text of an integer has digits, behind a sign if it is negative. -/
theorem splitSign_decimalText (value : Int) :
    splitSign (decimalText value).toList = (decide (value < 0), Nat.toDigits 10 value.natAbs) := by
  rw [decimalText, String.toList_ofList]
  by_cases negative : value < 0
  · rw [if_pos negative, decide_eq_true negative, splitSign]
  · rw [if_neg negative, decide_eq_false negative, splitSign]
    all_goals
      intro rest signed
      have isDigit := isPlainDigit_of_mem_toDigits value.natAbs (signed ▸ List.mem_cons_self)
      exact absurd isDigit (by decide)

/-- A character of the text of an integer is a digit or a minus sign. -/
theorem decimalText_ne_empty (value : Int) : decimalText value ≠ "" := by
  intro empty
  have split := splitSign_decimalText value
  rw [empty] at split
  have noDigits : Nat.toDigits 10 value.natAbs = [] := (congrArg Prod.snd split).symm
  exact absurd (congrArg List.length noDigits) (Nat.ne_of_gt Nat.length_toDigits_pos)

theorem mem_decimalText
    {value : Int}
    {char : Char}
    (present : char ∈ (decimalText value).toList) :
    char = '-' ∨ isPlainDigit char = true := by
  rw [decimalText, String.toList_ofList] at present
  split at present
  · exact (List.mem_cons.mp present).imp id (isPlainDigit_of_mem_toDigits _)
  · exact .inr (isPlainDigit_of_mem_toDigits _ present)

/-- The text of an integer has no blanks that could be trimmed off. -/
theorem trim_decimalText (value : Int) : Text.trim (decimalText value) = decimalText value := by
  have solid : ∀ char ∈ (decimalText value).toList, Text.isBlank char = false := by
    intro char present
    rcases mem_decimalText present with rfl | isDigit
    · decide
    · exact (plain_of_isPlainDigit isDigit).2.2.1
  rw [Text.trim, Text.trimBy_of_none solid, String.ofList_toList]

theorem plainChars_decimalText (value : Int) :
    plainChars (decimalText value).toList = (decimalText value).toList := by
  have stays : ∀ char ∈ (decimalText value).toList, plainChar char = id char := by
    intro char present
    rcases mem_decimalText present with rfl | isDigit
    · rfl
    · exact (plain_of_isPlainDigit isDigit).1
  have noSpace : ∀ char ∈ (decimalText value).toList, isSpace char = false := by
    intro char present
    rcases mem_decimalText present with rfl | isDigit
    · decide
    · exact (plain_of_isPlainDigit isDigit).2.1
  rw [plainChars, List.map_congr_left stays, List.map_id, Text.trimBy_of_none noSpace]

/-- The decimal text of an integer is read back, unless it has too many digits. -/
theorem readDecimal_decimalText (value : Int) :
    readDecimal (decimalText value) =
      if hasText value = true then .value value
      else .tooManyDigits (Nat.toDigits 10 value.natAbs).length := by
  have given : Nat.toDigits 10 value.natAbs ≠ [] :=
    List.ne_nil_of_length_pos Nat.length_toDigits_pos
  rw [readDecimal, readInt, plainChars_decimalText,
    readPlainInt_digits (splitSign_decimalText value)
      (fun _ present => isPlainDigit_of_mem_toDigits _ present) given,
    ofDigits_toDigits, signed_natAbs]
  by_cases short : hasText value = true
  · rw [if_pos short, if_neg (Nat.not_lt.mpr ((hasText_iff_length_le value).mp short))]
  · have long := Nat.not_le.mp (mt (hasText_iff_length_le value).mpr short)
    rw [if_neg short, if_pos long]

end Number
end Wordbook
