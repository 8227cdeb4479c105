import Wordbook.Encoding
import Wordbook.Json.Basic
import Wordbook.Number.Decimal
import Wordbook.Text.Hexadecimal

/-!
# Reading JSON

The text is read from left to right; a fault names what was expected and where.  Names of infinities
and of no number are accepted, and of two members with one name the last value wins.
-/

namespace Wordbook
namespace Json

/-- What a text that is no JSON lacks or has too much of. -/
inductive Reason where
  | expectingValue
  | expectingName
  | expectingColon
  | expectingComma
  | unterminatedString
  | controlCharacter
  | badEscape
  | badUnicodeEscape
  | extraData
deriving DecidableEq

/-- The words for a reason. -/
def Reason.text : Reason → String
  | .expectingValue => "Expecting value"
  | .expectingName => "Expecting property name enclosed in double quotes"
  | .expectingColon => "Expecting ':' delimiter"
  | .expectingComma => "Expecting ',' delimiter"
  | .unterminatedString => "Unterminated string starting at"
  | .controlCharacter => "Invalid control character at"
  | .badEscape => "Invalid \\escape"
  | .badUnicodeEscape => "Invalid \\uXXXX escape"
  | .extraData => "Extra data"

/-- Why a text is no JSON value: a fault with the count of characters from it to the end, an integer
of too many digits, or containers nested too deep. -/
inductive ReadFault where
  | malformed (reason : Reason) (remaining : Nat)
  | tooManyDigits (count : Nat)
  | tooDeep

/-- How deep containers may be nested in each other. -/
def nestingLimit : Nat := 985

/-- What was read, and the text after it. -/
abbrev Reading (Result : Type) := Except ReadFault (Result × List Char)

/-- A character that may stand between tokens. -/
def isSeparator (char : Char) : Bool :=
  char.toNat == 32 || char.toNat == 9 || char.toNat == 10 || char.toNat == 13

/-- Text without the separators at its start. -/
def skipSeparators (chars : List Char) : List Char := chars.dropWhile isSeparator

/-- The value of four hexadecimal digits that do not end the text, and the text after them. -/
def readUnit? : List Char → Option (Nat × List Char)
  | a :: b :: c :: d :: rest => do
      let first ← Text.hexValue? a
      let second ← Text.hexValue? b
      let third ← Text.hexValue? c
      let fourth ← Text.hexValue? d
      if rest.isEmpty then none else some (first * 4096 + second * 256 + third * 16 + fourth, rest)
  | _ => none

/-- The character that a letter after a backslash stands for. -/
def shortEscape? (char : Char) : Option Char :=
  match char.toNat with
  | 34 => some char
  | 92 => some char
  | 47 => some char
  | 98 => some (Char.ofNat 8)
  | 102 => some (Char.ofNat 12)
  | 110 => some '\n'
  | 114 => some '\r'
  | 116 => some '\t'
  | _ => none

/-- Read an escape whose letter `u` was read: one unit, or two that make a surrogate pair. -/
def readUnicodeEscape (afterMark : List Char) : Reading Char :=
  match readUnit? afterMark with
  | none => .error (.malformed .badUnicodeEscape (afterMark.length + 1))
  | some (unit, rest) =>
      if Encoding.isHighSurrogate unit then
        match rest with
        | '\\' :: 'u' :: others =>
            if others.length < 5 then .ok (Text.charOf unit, rest)
            else
              match readUnit? others with
              | none => .error (.malformed .badUnicodeEscape (others.length + 1))
              | some (low, after) =>
                  if Encoding.isLowSurrogate low then
                    .ok (Char.ofNat (Encoding.joinSurrogates unit low), after)
                  else .ok (Text.charOf unit, rest)
        | _ => .ok (Text.charOf unit, rest)
      else .ok (Text.charOf unit, rest)

/-- Read the rest of a string, `opening` being the text from its first quote on and `taken` holding
the reversed text so far. -/
def readString (opening : List Char) : Nat → List Char → List Char → Reading String
  | 0, _, _ => .error (.malformed .unterminatedString opening.length)
  | _ + 1, _, [] => .error (.malformed .unterminatedString opening.length)
  | fuel + 1, taken, char :: rest =>
      if char.toNat == 34 then .ok (String.ofList taken.reverse, rest)
      else if char.toNat == 92 then
        match rest with
        | [] => .error (.malformed .unterminatedString opening.length)
        | mark :: others =>
            if mark == 'u' then
              match readUnicodeEscape others with
              | .error fault => .error fault
              | .ok (decoded, after) => readString opening fuel (decoded :: taken) after
            else
              match shortEscape? mark with
              | some decoded => readString opening fuel (decoded :: taken) others
              | none => .error (.malformed .badEscape (rest.length + 1))
      else if char.toNat < 32 then .error (.malformed .controlCharacter (rest.length + 1))
      else readString opening fuel (char :: taken) rest

/-- Read the digits of a number after its sign: no zero stands before another digit. -/
def readWhole? : List Char → Option (List Char × List Char)
  | '0' :: rest => some (['0'], rest)
  | char :: rest =>
      if Number.isPlainDigit char then
        some (char :: rest.takeWhile Number.isPlainDigit, rest.dropWhile Number.isPlainDigit)
      else none
  | [] => none

/-- A fraction with its point, if one follows. -/
def readFraction : List Char → List Char × List Char
  | '.' :: rest =>
      let digits := rest.takeWhile Number.isPlainDigit
      if digits.isEmpty then ([], '.' :: rest) else (digits, rest.dropWhile Number.isPlainDigit)
  | chars => ([], chars)

/-- An exponent with its mark, if one follows. -/
def readPower? : List Char → Option (Int × List Char)
  | mark :: rest =>
      if mark == 'e' || mark == 'E' then
        let (negative, unsignedRest) := Number.splitSign rest
        let digits := unsignedRest.takeWhile Number.isPlainDigit
        if digits.isEmpty then none
        else
          some (Number.signed negative
              (Number.ofDigits 10 (digits.map fun digit => digit.toNat - 48)),
            unsignedRest.dropWhile Number.isPlainDigit)
      else none
  | [] => none

/-- Read a number after its sign, `start` being the text from the sign on. -/
def readNumber (negative : Bool) (start body : List Char) : Reading Json :=
  match readWhole? body with
  | none => .error (.malformed .expectingValue start.length)
  | some (whole, afterWhole) =>
      let (fraction, afterFraction) := readFraction afterWhole
      let digits := (whole ++ fraction).map fun digit => digit.toNat - 48
      match readPower? afterFraction with
      | some (power, rest) =>
          .ok (.float (Number.ofDecimal negative (Number.ofDigits 10 digits)
            (power - fraction.length)), rest)
      | none =>
          if fraction.isEmpty then
            if whole.length > Number.digitLimit then .error (.tooManyDigits whole.length)
            else .ok (.int (Number.signed negative (Number.ofDigits 10 digits)), afterWhole)
          else
            .ok (.float (Number.ofDecimal negative (Number.ofDigits 10 digits)
              (-(fraction.length : Int))), afterFraction)

/-- The text after a word, if the text starts with it. -/
def afterWord? : List Char → List Char → Option (List Char)
  | [], chars => some chars
  | _ :: _, [] => none
  | letter :: word, char :: chars => if letter == char then afterWord? word chars else none

/-- The words that are values. -/
def wordValues : List (String × Json) :=
  [("null", .null), ("true", .bool true), ("false", .bool false), ("NaN", .float Number.notANumber),
    ("Infinity", .float (Number.infinity false)), ("-Infinity", .float (Number.infinity true))]

/-- Read a word that is a value. -/
def readWord? (chars : List Char) : Option (Json × List Char) :=
  wordValues.findSome? fun entry =>
    (afterWord? entry.1.toList chars).map fun rest => (entry.2, rest)

/-- Read a value that is no container. -/
def readScalar (chars : List Char) : Reading Json :=
  match readWord? chars with
  | some reading => .ok reading
  | none =>
      match chars with
      | '-' :: body => readNumber true chars body
      | _ => readNumber false chars chars

mutual

/-- Read a value that starts right here; `room` tells how deep containers may still be nested, and
the fuel exceeds twice the number of characters. -/
def readValue : Nat → (room : Nat) → List Char → Reading Json
  | 0, _, chars => .error (.malformed .expectingValue chars.length)
  | fuel + 1, room, chars =>
      match chars with
      | [] => .error (.malformed .expectingValue 0)
      | char :: rest =>
          if char.toNat == 34 then
            match readString chars fuel [] rest with
            | .error fault => .error fault
            | .ok (text, after) => .ok (.str text, after)
          else if char == '[' then
            match room with
            | 0 => .error .tooDeep
            | room + 1 =>
                match skipSeparators rest with
                | ']' :: after => .ok (.arr [], after)
                | items => readItems fuel room [] items
          else if char == '\x7b' then
            match room with
            | 0 => .error .tooDeep
            | room + 1 =>
                match skipSeparators rest with
                | '\x7d' :: after => .ok (.obj [], after)
                | members => readMembers fuel room [] members
          else readScalar chars

/-- Read the items of an array from one on, `items` holding the reversed ones before. -/
def readItems : Nat → (room : Nat) → List Json → List Char → Reading Json
  | 0, _, _, chars => .error (.malformed .expectingValue chars.length)
  | fuel + 1, room, items, chars =>
      match readValue fuel room chars with
      | .error fault => .error fault
      | .ok (item, after) =>
          match skipSeparators after with
          | ']' :: rest => .ok (.arr (item :: items).reverse, rest)
          | ',' :: rest => readItems fuel room (item :: items) (skipSeparators rest)
          | rest => .error (.malformed .expectingComma rest.length)

/-- Read the members of an object from one on. -/
def readMembers : Nat → (room : Nat) → List (String × Json) → List Char → Reading Json
  | 0, _, _, chars => .error (.malformed .expectingName chars.length)
  | fuel + 1, room, members, chars =>
      match chars with
      | [] => .error (.malformed .expectingName 0)
      | char :: rest =>
          if char.toNat == 34 then
            match readString chars fuel [] rest with
            | .error fault => .error fault
            | .ok (name, afterName) =>
                match skipSeparators afterName with
                | ':' :: afterColon =>
                    match readValue fuel room (skipSeparators afterColon) with
                    | .error fault => .error fault
                    | .ok (value, after) =>
                        match skipSeparators after with
                        | '\x7d' :: others => .ok (.obj (putMember name value members), others)
                        | ',' :: others =>
                            readMembers fuel room (putMember name value members)
                              (skipSeparators others)
                        | others => .error (.malformed .expectingComma others.length)
                | others => .error (.malformed .expectingColon others.length)
          else .error (.malformed .expectingName chars.length)

end

/-- Read a whole text as one value with separators around it. -/
def read (chars : List Char) : Except ReadFault Json :=
  match readValue (2 * chars.length + 2) nestingLimit (skipSeparators chars) with
  | .error fault => .error fault
  | .ok (value, after) =>
      match skipSeparators after with
      | [] => .ok value
      | rest => .error (.malformed .extraData rest.length)

/-- The message of a fault in a text: what is wrong, with line, column and index. -/
def Reason.message (reason : Reason) (chars : List Char) (remaining : Nat) : String :=
  let before := chars.take (chars.length - remaining)
  let line := before.count '\n' + 1
  let column := (before.reverse.takeWhile (· != '\n')).length + 1
  reason.text ++ ": line " ++ toString line ++ " column " ++ toString column ++ " (char " ++
    toString before.length ++ ")"

end Json
end Wordbook
