import Mathlib.Data.Nat.Digits.Defs
import Wordbook.Proofs.Number.DecimalText

/-!
# Texts that are read as integers

A text is read as no integer if it starts with a character that stands in none.  A numeral, in the
digits of any scripts and with a plus sign or without, is read as the number that its digits denote,
unless they are too many.
-/

namespace Wordbook

/-! ## Decimal digits of all scripts -/

namespace Unicode

/-- A decimal digit stands behind the first one of its script, as far as its value tells. -/
theorem exists_first_of_decimalValue?
    {digit : Char}
    {value : Nat}
    (valued : decimalValue? digit = some value) :
    ∃ first ∈ decimalZeros, digit.toNat = first + value ∧ value < 10 := by
  obtain ⟨first, found, rfl⟩ := Option.map_eq_some_iff.mp valued
  have near := List.find?_some found
  simp only [Bool.and_eq_true, decide_eq_true_eq] at near
  exact ⟨first, List.mem_of_find?_eq_some found, by omega, by omega⟩

theorem eq_of_mem_decimalZeros : ∀ first ∈ decimalZeros, first < 128 → first = 48 := by decide

theorem not_isBlankCode_of_mem_decimalZeros :
    ∀ first ∈ decimalZeros, ∀ value < 10, Text.isBlankCode (first + value) = false := by
  decide +kernel

/-- No decimal digit is blank. -/
theorem not_isBlank_of_decimalValue?
    {digit : Char}
    {value : Nat}
    (valued : decimalValue? digit = some value) :
    Text.isBlank digit = false := by
  obtain ⟨first, present, code, small⟩ := exists_first_of_decimalValue? valued
  rw [Text.isBlank, code]
  exact not_isBlankCode_of_mem_decimalZeros first present value small

end Unicode

namespace Number

/-- The common digit of a value. -/
def commonDigit (value : Nat) : Char := Char.ofNat (48 + value)

theorem commonDigit_spec :
    ∀ value < 10,
      isPlainDigit (commonDigit value) = true ∧ (commonDigit value).toNat - 48 = value := by
  decide

/-- A decimal digit of any script is read as the common one. -/
theorem plainChar_of_decimalValue?
    {digit : Char}
    {value : Nat}
    (valued : Unicode.decimalValue? digit = some value) :
    plainChar digit = commonDigit value := by
  obtain ⟨first, present, code, -⟩ := Unicode.exists_first_of_decimalValue? valued
  rw [plainChar]
  by_cases common : digit.toNat < 128
  · have isZero := Unicode.eq_of_mem_decimalZeros first present (by omega)
    rw [if_pos common, commonDigit, ← isZero, ← code, Char.ofNat_toNat]
  · rw [if_neg common, Unicode.not_isBlank_of_decimalValue? valued, if_neg Bool.false_ne_true,
      valued]
    rfl

/-! ## Numerals -/

/-- Characters are decimal digits with some values. -/
def AreDigits (digits : List Char) (values : List Nat) : Prop :=
  digits.map Unicode.decimalValue? = values.map some

namespace AreDigits

variable {digits : List Char} {values : List Nat}

theorem exists_of_isDecimal
    (decimal : ∀ digit ∈ digits, Unicode.isDecimal digit = true) :
    ∃ values, AreDigits digits values := by
  induction digits with
  | nil => exact ⟨[], rfl⟩
  | cons digit digits inductionHypothesis =>
      rw [List.forall_mem_cons] at decimal
      obtain ⟨value, valued⟩ := Option.isSome_iff_exists.mp decimal.1
      obtain ⟨values, areDigits⟩ := inductionHypothesis decimal.2
      exact ⟨value :: values, congrArg₂ List.cons valued areDigits⟩

theorem length_eq (areDigits : AreDigits digits values) : digits.length = values.length := by
  simpa using congrArg List.length areDigits

theorem exists_value
    (areDigits : AreDigits digits values)
    {digit : Char}
    (present : digit ∈ digits) :
    ∃ value ∈ values, Unicode.decimalValue? digit = some value := by
  have inside := List.mem_map_of_mem (f := Unicode.decimalValue?) present
  rw [areDigits] at inside
  obtain ⟨value, isValue, same⟩ := List.mem_map.mp inside
  exact ⟨value, isValue, same.symm⟩

theorem lt_ten
    (areDigits : AreDigits digits values)
    {value : Nat}
    (present : value ∈ values) :
    value < 10 := by
  have inside := List.mem_map_of_mem (f := some) present
  rw [← areDigits] at inside
  obtain ⟨digit, -, valued⟩ := List.mem_map.mp inside
  obtain ⟨-, -, -, small⟩ := Unicode.exists_first_of_decimalValue? valued
  exact small

/-- Digits of all scripts are read as common digits of the same values. -/
theorem map_plainChar (areDigits : AreDigits digits values) :
    digits.map plainChar = values.map commonDigit := by
  induction digits generalizing values with
  | nil =>
      cases values with
      | nil => rfl
      | cons => cases areDigits
  | cons digit digits inductionHypothesis =>
      cases values with
      | nil => cases areDigits
      | cons value values =>
          obtain ⟨valued, rest⟩ := List.cons_eq_cons.mp areDigits
          rw [List.map_cons, plainChar_of_decimalValue? valued, inductionHypothesis rest,
            List.map_cons]

end AreDigits

/-- The digits of a numeral are read as the number that they denote, the most significant first. -/
theorem ofDigits_eq (base : Nat) (digits : List Nat) :
    ofDigits base digits = Nat.ofDigits base digits.reverse := by
  induction digits using List.reverseRecOn with
  | nil => rfl
  | append_singleton digits digit inductionHypothesis =>
      rw [ofDigits] at inductionHypothesis
      rw [ofDigits, List.foldl_append, inductionHypothesis, List.foldl_cons, List.foldl_nil,
        List.reverse_append, List.reverse_singleton, List.singleton_append, Nat.ofDigits_cons,
        Nat.mul_comm, Nat.add_comm]

theorem isPlainDigit_of_mem_map_commonDigit
    {values : List Nat}
    (small : ∀ value ∈ values, value < 10)
    {digit : Char}
    (present : digit ∈ values.map commonDigit) :
    isPlainDigit digit = true := by
  obtain ⟨value, inside, rfl⟩ := List.mem_map.mp present
  exact (commonDigit_spec value (small value inside)).1

theorem map_toNat_commonDigit
    {values : List Nat}
    (small : ∀ value ∈ values, value < 10) :
    (values.map commonDigit).map (fun digit => digit.toNat - 48) = values := by
  rw [List.map_map]
  exact (List.map_congr_left fun value inside =>
    (commonDigit_spec value (small value inside)).2).trans (List.map_id values)

/-- Digits of any scripts, behind a plus sign or none, are read as the number that they denote,
unless they are too many. -/
theorem readInt_numeral
    {sign digits : List Char}
    {values : List Nat}
    (signed : sign = [] ∨ sign = ['+'])
    (areDigits : AreDigits digits values)
    (given : digits ≠ []) :
    readInt 10 (sign ++ digits) =
      if values.length > digitLimit then .tooManyDigits values.length
      else .value (Nat.ofDigits 10 values.reverse : Nat) := by
  have small : ∀ value ∈ values, value < 10 := fun _ inside => areDigits.lt_ten inside
  have arePlain : ∀ digit ∈ values.map commonDigit, isPlainDigit digit = true :=
    fun _ present => isPlainDigit_of_mem_map_commonDigit small present
  have someDigit : values.map commonDigit ≠ [] := by
    rw [← areDigits.map_plainChar]
    simpa using given
  have plain : plainChars (sign ++ digits) = sign ++ values.map commonDigit := by
    have signPlain : sign.map plainChar = sign := by
      rcases signed with rfl | rfl
      · rfl
      · rfl
    rw [plainChars, List.map_append, signPlain, areDigits.map_plainChar]
    refine Text.trimBy_of_none fun char present => ?_
    rcases List.mem_append.mp present with inSign | inDigits
    · rcases signed with rfl | rfl
      · cases inSign
      · cases List.mem_singleton.mp inSign
        decide
    · exact (plain_of_isPlainDigit (arePlain char inDigits)).2.1
  have split : splitSign (sign ++ values.map commonDigit) = (false, values.map commonDigit) := by
    rcases signed with rfl | rfl
    · obtain ⟨first, rest, whole⟩ := List.exists_cons_of_ne_nil someDigit
      have isPlain := arePlain first (whole ▸ List.mem_cons_self)
      obtain ⟨-, -, -, notPlus, notMinus, -⟩ := plain_of_isPlainDigit isPlain
      rw [List.nil_append, whole, splitSign]
      · rintro rest' ⟨⟩
        exact notPlus rfl
      · rintro rest' ⟨⟩
        exact notMinus rfl
    · rfl
  rw [readInt, plain, readPlainInt_digits split arePlain someDigit, map_toNat_commonDigit small,
    List.length_map, ofDigits_eq, Number.signed, if_neg Bool.false_ne_true]

/-! ## Texts that are no numbers -/

/-- A character stands for itself when a number is read, and no number starts with it. -/
def IsForeign (char : Char) : Prop :=
  char.toNat < 128 ∧ isSpace char = false ∧ belongsToDigits 10 char = false ∧ char ∉ ['+', '-']

instance (char : Char) : Decidable (IsForeign char) :=
  inferInstanceAs (Decidable (_ ∧ _))

/-- A text that starts with a foreign character is read as no number. -/
theorem readInt_of_foreign
    {char : Char}
    (foreign : IsForeign char)
    (rest : List Char) :
    readInt 10 (char :: rest) = .malformed := by
  obtain ⟨common, solid, noDigit, noSign⟩ := foreign
  obtain ⟨trimmed, plain⟩ : ∃ trimmed, plainChars (char :: rest) = char :: trimmed := by
    have same : plainChar char = char := by rw [plainChar, if_pos common]
    rw [plainChars, List.map_cons, same]
    exact Text.exists_trimBy_cons solid _
  have unsigned : splitSign (char :: trimmed) = (false, char :: trimmed) := by
    rw [splitSign]
    all_goals
      rintro _ ⟨⟩
      simp at noSign
  rw [readInt, plain]
  simp only [readPlainInt, unsigned, splitBase_ten, List.takeWhile_cons, noDigit,
    Bool.false_eq_true, if_false]
  rfl

end Number
end Wordbook
