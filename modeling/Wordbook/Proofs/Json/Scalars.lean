import Wordbook.Json.Printer
import Wordbook.Json.Reader
import Wordbook.Proofs.Encoding.Utf8
import Wordbook.Proofs.Number.DecimalText

/-!
# Strings and integers read back

The printed form of a string is read back whatever follows its closing quote.  The printed form of
an integer is read back in front of anything that ends a value.
-/

namespace Wordbook
namespace Json

/-- What may stand behind a printed value: the end of the text, a comma, a closing bracket or a line
break. -/
def EndsValue : List Char → Prop
  | [] => True
  | char :: _ => char = ',' ∨ char = ']' ∨ char = '\x7d' ∨ char = '\n'

/-! ## Integers -/

theorem EndsValue.not_digit
    {char : Char}
    {rest : List Char}
    (ends : EndsValue (char :: rest)) :
    Number.isPlainDigit char = false := by
  rcases ends with rfl | rfl | rfl | rfl <;> decide

theorem readFraction_of_ends
    {rest : List Char}
    (ends : EndsValue rest) :
    readFraction rest = ([], rest) := by
  cases rest with
  | nil => rfl
  | cons char rest => rcases ends with rfl | rfl | rfl | rfl <;> rfl

theorem readPower_of_ends
    {rest : List Char}
    (ends : EndsValue rest) :
    readPower? rest = none := by
  cases rest with
  | nil => rfl
  | cons char rest => rcases ends with rfl | rfl | rfl | rfl <;> rfl

/-- Taking digits off a text stops where the value ends. -/
theorem takeWhile_digits_append
    {digits rest : List Char}
    (areDigits : ∀ digit ∈ digits, Number.isPlainDigit digit = true)
    (ends : EndsValue rest) :
    (digits ++ rest).takeWhile Number.isPlainDigit = digits ∧
      (digits ++ rest).dropWhile Number.isPlainDigit = rest := by
  have stops : rest.takeWhile Number.isPlainDigit = [] ∧
      rest.dropWhile Number.isPlainDigit = rest := by
    cases rest with
    | nil => exact ⟨rfl, rfl⟩
    | cons char rest => simp [ends.not_digit]
  rw [List.takeWhile_append_of_pos areDigits, List.dropWhile_append_of_pos areDigits, stops.1,
    stops.2, List.append_nil]
  exact ⟨rfl, rfl⟩

theorem readWhole_toDigits
    (number : Nat)
    {rest : List Char}
    (ends : EndsValue rest) :
    readWhole? (Nat.toDigits 10 number ++ rest) = some (Nat.toDigits 10 number, rest) := by
  by_cases zero : number = 0
  · subst zero
    rfl
  · obtain ⟨digit, digits, equal, nonzero⟩ :=
      Number.exists_toDigits_eq_cons (Nat.pos_of_ne_zero zero)
    have areDigits : ∀ found ∈ digit :: digits, Number.isPlainDigit found = true := by
      rw [← equal]
      exact fun found present => Number.isPlainDigit_of_mem_toDigits _ present
    have split := takeWhile_digits_append
      (fun found present => areDigits found (List.mem_cons_of_mem digit present)) ends
    rw [equal, List.cons_append, readWhole?]
    · simp only [areDigits digit List.mem_cons_self, if_true, split.1, split.2]
    · exact nonzero

/-- A number is read with its sign from its digits. -/
theorem readNumber_toDigits
    (negative : Bool)
    (start : List Char)
    {number : Nat}
    {rest : List Char}
    (short : (Nat.toDigits 10 number).length ≤ Number.digitLimit)
    (ends : EndsValue rest) :
    readNumber negative start (Nat.toDigits 10 number ++ rest) =
      .ok (.int (Number.signed negative number), rest) := by
  rw [readNumber, readWhole_toDigits number ends]
  simp only [readFraction_of_ends ends, readPower_of_ends ends, List.append_nil,
    List.isEmpty_nil, if_true, Number.ofDigits_toDigits, gt_iff_lt, Nat.not_lt.mpr short, if_false]

/-- A text that starts with a digit, or with a minus sign before one, starts with no word. -/
theorem readWord_of_digit
    {digit : Char}
    (isDigit : Number.isPlainDigit digit = true)
    (rest : List Char) :
    readWord? (digit :: rest) = none ∧ readWord? ('-' :: digit :: rest) = none := by
  have other (letter : Char) (notDigit : Number.isPlainDigit letter = false) : letter ≠ digit := by
    rintro rfl
    rw [isDigit] at notDigit
    contradiction
  have notN := other 'n' rfl
  have notT := other 't' rfl
  have notF := other 'f' rfl
  have notNaN := other 'N' rfl
  have notInfinity := other 'I' rfl
  have notMinus := other '-' rfl
  constructor <;>
    simp [readWord?, wordValues, afterWord?, notN, notT, notF, notNaN, notInfinity, notMinus]

theorem readScalar_digit
    {digit : Char}
    (isDigit : Number.isPlainDigit digit = true)
    (rest : List Char) :
    readScalar (digit :: rest) = readNumber false (digit :: rest) (digit :: rest) := by
  have notMinus : digit ≠ '-' := by
    rintro rfl
    exact absurd isDigit (by decide)
  rw [readScalar, (readWord_of_digit isDigit rest).1]
  intro body equal
  exact notMinus (List.cons.inj equal).1

theorem readScalar_minus
    {digit : Char}
    (isDigit : Number.isPlainDigit digit = true)
    (rest : List Char) :
    readScalar ('-' :: digit :: rest) =
      readNumber true ('-' :: digit :: rest) (digit :: rest) := by
  rw [readScalar, (readWord_of_digit isDigit rest).2]

/-- An integer with a text is read back in front of anything that ends a value. -/
theorem readScalar_decimalText
    {value : Int}
    {rest : List Char}
    (short : Number.hasText value = true)
    (ends : EndsValue rest) :
    readScalar ((Number.decimalText value).toList ++ rest) = .ok (.int value, rest) := by
  have length := (Number.hasText_iff_length_le value).mp short
  have read (negative : Bool) (start : List Char) :=
    readNumber_toDigits negative start length ends
  obtain ⟨digit, digits, equal⟩ :=
    List.exists_cons_of_ne_nil (Nat.toDigits_ne_nil (n := value.natAbs) (b := 10))
  have isDigit : Number.isPlainDigit digit = true :=
    Number.isPlainDigit_of_mem_toDigits value.natAbs
      (by rw [equal]; exact List.mem_cons_self)
  have signed := Number.signed_natAbs value
  rw [equal, List.cons_append] at read
  by_cases negative : value < 0
  · rw [decide_eq_true negative] at signed
    simp only [Number.decimalText, negative, if_true, String.toList_ofList, equal,
      List.cons_append]
    rw [readScalar_minus isDigit, read, signed]
  · rw [decide_eq_false negative] at signed
    simp only [Number.decimalText, negative, if_false, String.toList_ofList, equal,
      List.cons_append]
    rw [readScalar_digit isDigit, read, signed]

/-! ## Strings -/

theorem hexValue_hexDigit {value : Nat} (small : value < 16) :
    Text.hexValue? (Text.hexDigit value) = some value := by
  revert value
  decide

/-- Four digits of a unit are read back to it, unless they end the text. -/
theorem readUnit_hexPadded
    {unit : Nat}
    (small : unit < 0x10000)
    {rest : List Char}
    (more : rest ≠ []) :
    readUnit? (Text.hexPadded 4 unit ++ rest) = some (unit, rest) := by
  simp only [Text.hexPadded, List.nil_append, List.cons_append, readUnit?]
  rw [hexValue_hexDigit (by omega), hexValue_hexDigit (by omega), hexValue_hexDigit (by omega),
    hexValue_hexDigit (by omega)]
  have notEmpty : rest.isEmpty = false := by simpa using more
  simp only [Option.bind_eq_bind, Option.bind_some, notEmpty, Bool.false_eq_true, if_false]
  congr 2
  omega

theorem readUnicodeEscape_control
    {char : Char}
    (control : char.toNat < 32)
    {rest : List Char}
    (more : rest ≠ []) :
    readUnicodeEscape (Text.hexPadded 4 char.toNat ++ rest) = .ok (char, rest) := by
  have notHigh : Encoding.isHighSurrogate char.toNat = false := by
    simp only [Encoding.isHighSurrogate, Bool.and_eq_false_iff, decide_eq_false_iff_not]
    omega
  rw [readUnicodeEscape, readUnit_hexPadded (by omega) more]
  simp only [notHigh, Bool.false_eq_true, if_false, Encoding.charOf_toNat]

/-- One escaped character is read by one step. -/
theorem readString_escapeChar
    (opening : List Char)
    (fuel : Nat)
    (taken : List Char)
    (char : Char)
    {rest : List Char}
    (more : rest ≠ []) :
    readString opening (fuel + 1) taken (escapeChar false char ++ rest) =
      readString opening fuel (char :: taken) rest := by
  have named (code : Nat) (equal : char.toNat = code) : char = Char.ofNat code := by
    rw [← equal, Char.ofNat_toNat]
  simp only [escapeChar, beq_iff_eq, Bool.false_and, Bool.false_eq_true, if_false]
  split_ifs with quote backslash feed return_ tab page back control
  · rw [named 34 quote]
    rfl
  · rw [named 92 backslash]
    rfl
  · rw [named 10 feed]
    rfl
  · rw [named 13 return_]
    rfl
  · rw [named 9 tab]
    rfl
  · rw [named 12 page]
    rfl
  · rw [named 8 back]
    rfl
  · simp only [unitEscape, List.cons_append, readString]
    simp only [readUnicodeEscape_control control more]
    rfl
  · simp [readString, quote, backslash, control]

/-- The characters of a printed string are read back up to its closing quote. -/
theorem readString_escaped
    (opening : List Char)
    (fuel : Nat)
    (taken text rest : List Char)
    (enough : text.length < fuel) :
    readString opening fuel taken
        (text.flatMap (escapeChar false) ++ Char.ofNat 34 :: rest) =
      .ok (String.ofList (taken.reverse ++ text), rest) := by
  induction text generalizing fuel taken with
  | nil =>
      obtain ⟨fuel, rfl⟩ := Nat.exists_eq_succ_of_ne_zero (by omega : fuel ≠ 0)
      simp [readString]
  | cons char text inductionHypothesis =>
      simp only [List.length_cons] at enough
      obtain ⟨fuel, rfl⟩ := Nat.exists_eq_succ_of_ne_zero (by omega : fuel ≠ 0)
      rw [List.flatMap_cons, List.append_assoc,
        readString_escapeChar opening fuel taken char (by simp),
        inductionHypothesis fuel (char :: taken) (by omega)]
      simp

end Json
end Wordbook
