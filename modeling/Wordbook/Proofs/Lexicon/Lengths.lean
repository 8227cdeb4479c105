import Wordbook.Lexicon
import Wordbook.Proofs.Number.Integral
import Wordbook.Proofs.Number.Reading

/-!
# Spellings of a length

The greatest length of a token is given as a positive integer, as a number equal to one, or as its
numeral.  A value is accepted exactly when it spells a positive integer in one of these ways, and
everything else is refused for its length.
-/

namespace Wordbook
namespace Lexicon

/-- A text writes a numeral: decimal digits of any scripts, a plus sign in front of them or none, and
blanks around. -/
inductive WritesNumeral : List Char → List Nat → Prop
  | intro
      {front sign digits back : List Char}
      {values : List Nat}
      (frontBlank : ∀ char ∈ front, Text.isBlank char = true)
      (backBlank : ∀ char ∈ back, Text.isBlank char = true)
      (signed : sign = [] ∨ sign = ['+'])
      (given : digits ≠ [])
      (areDigits : Number.AreDigits digits values) :
      WritesNumeral (front ++ (sign ++ digits) ++ back) values

/-- A value spells a positive integer: it is a number equal to it, or the text of a numeral of at
most 4300 digits, leading zeros counted, that denotes it. -/
inductive SpellsLength : Json → Nat → Prop
  | number
      {value : Json}
      {length : Nat}
      (positive : 0 < length)
      (same : value.IsInteger length) :
      SpellsLength value length
  | text
      {text : String}
      {values : List Nat}
      {length : Nat}
      (positive : 0 < length)
      (written : WritesNumeral text.toList values)
      (short : values.length ≤ 4300)
      (denotes : Nat.ofDigits 10 values.reverse = length) :
      SpellsLength (.str text) length

/-! ## Numerals -/

theorem isCount_of_digits
    {sign digits : List Char}
    {values : List Nat}
    (signed : sign = [] ∨ sign = ['+'])
    (given : digits ≠ [])
    (areDigits : Number.AreDigits digits values) :
    isCount (sign ++ digits) = true := by
  have decimal : ∀ digit ∈ digits, Unicode.isDecimal digit = true := by
    intro digit present
    obtain ⟨value, -, valued⟩ := areDigits.exists_value present
    rw [Unicode.isDecimal, valued, Option.isSome_some]
  have counted : (!digits.isEmpty && digits.all Unicode.isDecimal) = true := by
    simpa [given] using decimal
  rcases signed with rfl | rfl
  · unfold isCount
    split
    case h_1 rest same =>
      -- The plus sign is no digit.
      subst same
      exact absurd (decimal '+' List.mem_cons_self) (by decide +kernel)
    case h_2 => exact counted
  · exact counted

theorem exists_digits_of_isCount {chars : List Char} (counted : isCount chars = true) :
    ∃ sign digits values, chars = sign ++ digits ∧ (sign = [] ∨ sign = ['+']) ∧ digits ≠ [] ∧
      Number.AreDigits digits values := by
  have found {digits : List Char}
      (count : (!digits.isEmpty && digits.all Unicode.isDecimal) = true) :
      digits ≠ [] ∧ ∃ values, Number.AreDigits digits values := by
    simp only [Bool.and_eq_true, Bool.not_eq_true', List.isEmpty_eq_false_iff,
      List.all_eq_true] at count
    exact ⟨count.1, Number.AreDigits.exists_of_isDecimal count.2⟩
  unfold isCount at counted
  split at counted
  case h_1 rest =>
    obtain ⟨given, values, areDigits⟩ := found counted
    exact ⟨['+'], rest, values, rfl, .inr rfl, given, areDigits⟩
  case h_2 =>
    obtain ⟨given, values, areDigits⟩ := found counted
    exact ⟨[], chars, values, rfl, .inl rfl, given, areDigits⟩

/-- A text is a count when it is trimmed to one, and then it writes a numeral. -/
theorem writesNumeral_iff {chars : List Char} {values : List Nat} :
    WritesNumeral chars values ↔
      ∃ sign digits, Text.trimBy Text.isBlank chars = sign ++ digits ∧
        (sign = [] ∨ sign = ['+']) ∧ digits ≠ [] ∧ Number.AreDigits digits values := by
  constructor
  · rintro ⟨frontBlank, backBlank, signed, given, areDigits⟩
    rename_i front sign digits back
    refine ⟨sign, digits, ?_, signed, given, areDigits⟩
    rw [Text.trimBy_append frontBlank backBlank]
    refine Text.trimBy_of_none fun char present => ?_
    rcases List.mem_append.mp present with inSign | inDigits
    · rcases signed with rfl | rfl
      · cases inSign
      · cases List.mem_singleton.mp inSign
        decide
    · obtain ⟨value, -, valued⟩ := areDigits.exists_value inDigits
      exact Unicode.not_isBlank_of_decimalValue? valued
  · rintro ⟨sign, digits, trimmed, signed, given, areDigits⟩
    obtain ⟨front, back, frontBlank, backBlank, whole⟩ := Text.exists_trimBy Text.isBlank chars
    rw [whole, trimmed]
    exact .intro frontBlank backBlank signed given areDigits

/-! ## Lengths -/

theorem positive?_eq_some_iff {value : Int} {length : Nat} :
    positive? value = some length ↔ 0 < length ∧ value = length := by
  unfold positive?
  split
  · rw [Option.some.injEq]
    omega
  · refine iff_of_false nofun ?_
    omega

/-- Of numbers those are lengths that are positive integers. -/
theorem lengthOf?_of_number
    {value : Json}
    (noText : ∀ text, value ≠ .str text) :
    lengthOf? value = value.integer?.bind positive? := by
  cases value with
  | float number =>
      rw [lengthOf?, Json.integer?]
      cases Number.shape number with
      | finite parts =>
          dsimp only
          split
          · rfl
          · rfl
      | infinite => rfl
      | notANumber => rfl
  | str text => exact absurd rfl (noText text)
  | null | bool | int | arr | obj => rfl

/-- Of texts those are lengths that write a numeral which is short enough and denotes no zero. -/
theorem lengthOf?_str_eq_some_iff {text : String} {length : Nat} :
    lengthOf? (.str text) = some length ↔
      ∃ values, WritesNumeral text.toList values ∧ values.length ≤ 4300 ∧ 0 < length ∧
        Nat.ofDigits 10 values.reverse = length := by
  have reads {sign digits : List Char} {values : List Nat}
      (trimmed : Text.trimBy Text.isBlank text.toList = sign ++ digits)
      (signed : sign = [] ∨ sign = ['+'])
      (given : digits ≠ [])
      (areDigits : Number.AreDigits digits values) :
      lengthOf? (.str text) = some length ↔
        values.length ≤ 4300 ∧ 0 < length ∧ Nat.ofDigits 10 values.reverse = length := by
    dsimp only [lengthOf?]
    rw [trimmed, if_pos (isCount_of_digits signed given areDigits),
      Number.readInt_numeral signed areDigits given]
    by_cases short : values.length ≤ 4300
    · have few : ¬ values.length > Number.digitLimit := Nat.not_lt.mpr short
      rw [if_neg few, and_iff_right short]
      exact positive?_eq_some_iff.trans (by rw [Int.natCast_inj])
    · have many : values.length > Number.digitLimit := Nat.not_le.mp short
      rw [if_pos many]
      exact iff_of_false nofun fun fits => short fits.1
  constructor
  · intro found
    by_cases counted : isCount (Text.trimBy Text.isBlank text.toList) = true
    · obtain ⟨sign, digits, values, trimmed, signed, given, areDigits⟩ :=
        exists_digits_of_isCount counted
      exact ⟨values, writesNumeral_iff.mpr ⟨sign, digits, trimmed, signed, given, areDigits⟩,
        (reads trimmed signed given areDigits).mp found⟩
    · dsimp only [lengthOf?] at found
      rw [if_neg counted] at found
      cases found
  · rintro ⟨values, written, denotes⟩
    obtain ⟨sign, digits, trimmed, signed, given, areDigits⟩ := writesNumeral_iff.mp written
    exact (reads trimmed signed given areDigits).mpr denotes

theorem lengthOf?_eq_some_iff {value : Json} {length : Nat} :
    lengthOf? value = some length ↔ SpellsLength value length := by
  by_cases isText : ∃ text, value = .str text
  · obtain ⟨text, rfl⟩ := isText
    rw [lengthOf?_str_eq_some_iff]
    constructor
    · rintro ⟨values, written, short, positive, denotes⟩
      exact .text positive written short denotes
    · rintro (⟨-, ⟨⟩⟩ | ⟨positive, written, short, denotes⟩)
      exact ⟨_, written, short, positive, denotes⟩
  · have noText : ∀ text, value ≠ .str text := fun text same => isText ⟨text, same⟩
    rw [lengthOf?_of_number noText, Option.bind_eq_some_iff]
    simp only [Json.integer?_eq_some_iff, positive?_eq_some_iff]
    constructor
    · rintro ⟨_, same, positive, rfl⟩
      exact .number positive same
    · rintro (⟨positive, same⟩ | ⟨-, -, -, -⟩)
      · exact ⟨_, same, positive, rfl⟩
      · exact absurd rfl (noText _)

/-- A length is accepted exactly from the values that spell it, and whatever spells none is refused
for its length. -/
theorem readLength_accepts (value : Json) :
    (∀ length, readLength value = .ok length ↔ SpellsLength value length) ∧
      ((∀ length, ¬ SpellsLength value length) ↔
        ∃ issue, readLength value = .error issue ∧
          issue.kind = .invalidLength ∧ issue.family = .validation) := by
  simp only [← lengthOf?_eq_some_iff, readLength]
  cases lengthOf? value with
  | some found =>
      refine ⟨fun length => by simp, iff_of_false (fun none => none found rfl) ?_⟩
      rintro ⟨issue, ⟨⟩, -⟩
  | none =>
      refine ⟨fun length => by simp, iff_of_true (fun _ => nofun) ?_⟩
      exact ⟨.invalidLength, rfl, rfl, rfl⟩

end Lexicon
end Wordbook
