import Wordbook.Number.Binary64
import Wordbook.Text.Blank
import Wordbook.Unicode.Class

/-!
# Numbers in text

Integers are written and read with at most 4300 decimal digits.  Digits of every decimal script
count, single underscores may stand between digits, and blanks around the number are dropped.
-/

namespace Wordbook
namespace Number

/-- The longest decimal text of an integer. -/
def digitLimit : Nat := 4300

/-- The smallest natural number whose decimal text is too long. -/
def tooLarge : Nat := Nat.pow 10 digitLimit

/-- An integer has a decimal text. -/
def hasText (value : Int) : Bool := value.natAbs < tooLarge

theorem hasText_iff (value : Int) : hasText value = true ↔ value.natAbs < tooLarge :=
  decide_eq_true_iff

-- Reasoning goes through `hasText_iff`: the bound is never to be computed on the way.
attribute [irreducible] hasText

/-- The decimal text of an integer of any size. -/
def decimalText (value : Int) : String :=
  let digits := Nat.toDigits 10 value.natAbs
  String.ofList (if value < 0 then '-' :: digits else digits)

/-- The decimal text of an integer, if it is short enough. -/
def decimalText? (value : Int) : Option String :=
  if hasText value then some (decimalText value) else none

/-- What stands for a character when a number is read: blanks become spaces and digits of all
scripts become the common ones.  Separator controls below the space stay as they are. -/
def plainChar (char : Char) : Char :=
  if char.toNat < 128 then char
  else if Text.isBlank char then ' '
  else
    match Unicode.decimalValue? char with
    | some value => Char.ofNat (48 + value)
    | none => '?'

/-- The blanks that may stand around a number. -/
def isSpace (char : Char) : Bool :=
  char.toNat == 32 || (9 ≤ char.toNat && char.toNat ≤ 13)

/-- The characters of a number with the blanks around it dropped. -/
def plainChars (chars : List Char) : List Char :=
  Text.trimBy isSpace (chars.map plainChar)

/-- The value of a letter or digit as a digit of a large base. -/
def digitValue? (char : Char) : Option Nat :=
  let code := char.toNat
  if 48 ≤ code && code ≤ 57 then some (code - 48)
  else if 97 ≤ code && code ≤ 122 then some (code - 87)
  else if 65 ≤ code && code ≤ 90 then some (code - 55)
  else none

/-- The digits of a base with single underscores between them, or nothing; `taken` holds the
reversed digits before, and the flag tells whether a digit stands right before. -/
def readDigitsFrom (base : Nat) (taken : List Nat) (afterDigit : Bool) :
    List Char → Option (List Nat)
  | [] => if afterDigit then some taken.reverse else none
  | char :: rest =>
      if char == '_' then
        if afterDigit then readDigitsFrom base taken false rest else none
      else
        match digitValue? char with
        | some value =>
            if value < base then readDigitsFrom base (value :: taken) true rest else none
        | none => none

/-- The digits of a base with single underscores between them, or nothing. -/
def readDigits? (base : Nat) (chars : List Char) : Option (List Nat) :=
  readDigitsFrom base [] false chars

/-- The natural number that digits of a base denote. -/
def ofDigits (base : Nat) (digits : List Nat) : Nat :=
  digits.foldl (fun value digit => value * base + digit) 0

/-- What reading an integer can give. -/
inductive IntReading where
  | value (value : Int)
  | malformed
  | tooManyDigits (count : Nat)
deriving DecidableEq

/-- Split a sign off a number. -/
def splitSign : List Char → Bool × List Char
  | '+' :: rest => (false, rest)
  | '-' :: rest => (true, rest)
  | chars => (false, chars)

/-- The base of a number that may announce it, and its digits: base zero takes the base from the
announcement. -/
def splitBase (base : Nat) (chars : List Char) : Nat × List Char :=
  let announced (letter : Char) : Nat :=
    if letter == 'x' || letter == 'X' then 16
    else if letter == 'o' || letter == 'O' then 8
    else if letter == 'b' || letter == 'B' then 2
    else 0
  match chars with
  | '0' :: letter :: rest =>
      if announced letter != 0 && (base == 0 || base == announced letter) then
        (announced letter, match rest with
          | '_' :: others => others
          | _ => rest)
      else (if base == 0 then 10 else base, chars)
  | _ => (if base == 0 then 10 else base, chars)

/-- A base is a power of two, so that its digits need no limit. -/
def isBinaryBase (base : Nat) : Bool :=
  base == 2 || base == 4 || base == 8 || base == 16 || base == 32

/-- A character is a digit of a base, or an underscore between digits. -/
def belongsToDigits (base : Nat) (char : Char) : Bool :=
  char == '_' || (digitValue? char).any (· < base)

/-- Read an integer from its characters without blanks around them.  Too many digits are refused
before what follows them is looked at. -/
def readPlainInt (base : Nat) (chars : List Char) : IntReading :=
  let (negative, unsignedChars) := splitSign chars
  let (radix, digitsText) := splitBase base unsignedChars
  let rest := digitsText.dropWhile (belongsToDigits radix)
  match readDigits? radix (digitsText.takeWhile (belongsToDigits radix)) with
  | none => .malformed
  | some digits =>
      if !isBinaryBase radix && digits.length > digitLimit then .tooManyDigits digits.length
      else if !rest.isEmpty then .malformed
      else
        let value := ofDigits radix digits
        if base == 0 && radix == 10 && digits.head? == some 0 && value != 0 then .malformed
        else .value (if negative then -(value : Int) else value)

/-- Read an integer in a base from two to thirty-six, or in the base it announces. -/
def readInt (base : Nat) (chars : List Char) : IntReading := readPlainInt base (plainChars chars)

/-- Read a decimal integer. -/
def readDecimal (text : String) : IntReading := readInt 10 text.toList

/-- A character is one of the ten common digits. -/
def isPlainDigit (char : Char) : Bool := 48 ≤ char.toNat && char.toNat ≤ 57

/-- Drop the underscores of a number, which may stand only between two digits; `taken` holds the
reversed characters before. -/
def dropUnderscores? (taken : List Char) (afterDigit : Bool) : List Char → Option (List Char)
  | [] => some taken.reverse
  | char :: rest =>
      if char == '_' then
        if afterDigit && rest.head?.any isPlainDigit then dropUnderscores? taken false rest
        else none
      else dropUnderscores? (char :: taken) (isPlainDigit char) rest

/-- The exponent of a number in scientific form, or nothing if the text is no exponent. -/
def readExponent? : List Char → Option Int
  | [] => some 0
  | mark :: rest =>
      if mark == 'e' || mark == 'E' then
        let (negative, digits) := splitSign rest
        if digits.isEmpty || !digits.all isPlainDigit then none
        else some (signed negative (ofDigits 10 (digits.map fun digit => digit.toNat - 48)))
      else none

/-- The number nearest to `digits * 10 ^ exponent`, infinite past the largest one. -/
def ofDecimal (negative : Bool) (digits : Nat) (exponent : Int) : Float :=
  if digits == 0 then ofBits negative 0
  else
    let size : Int := (digits.log2 : Int) * 3 / 10 + exponent
    if size > 400 then infinity negative
    else if size < -800 then ofBits negative 0
    else
      let ratio :=
        if exponent ≥ 0 then (digits * Nat.pow 10 exponent.natAbs, 1)
        else (digits, Nat.pow 10 exponent.natAbs)
      (ofRatio? negative ratio.1 ratio.2).getD (infinity negative)

/-- Read a number in decimal or scientific form, or one of the names of infinity and of no
number. -/
def readPlainFloat? (chars : List Char) : Option Float :=
  let (negative, body) := splitSign chars
  let name := String.ofList (body.map Char.toLower)
  if name == "inf" || name == "infinity" then some (infinity negative)
  else if name == "nan" then
    some (ofBits negative (2047 * Nat.pow 2 52 + Nat.pow 2 51))
  else
    let whole := body.takeWhile isPlainDigit
    let afterWhole := body.dropWhile isPlainDigit
    let (fraction, afterFraction) :=
      match afterWhole with
      | '.' :: rest => (rest.takeWhile isPlainDigit, rest.dropWhile isPlainDigit)
      | _ => ([], afterWhole)
    if whole.isEmpty && fraction.isEmpty then none
    else
      (readExponent? afterFraction).map fun exponent =>
        ofDecimal negative
          (ofDigits 10 ((whole ++ fraction).map fun digit => digit.toNat - 48))
          (exponent - fraction.length)

/-- Read a binary number from text. -/
def readFloat? (chars : List Char) : Option Float :=
  (dropUnderscores? [] false (plainChars chars)).bind readPlainFloat?

end Number
end Wordbook
