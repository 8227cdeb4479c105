import Wordbook.Encoding.Handling

/-!
# Text in escapes

Characters beyond a range are written as a backslash, a letter and the digits of their code points.
The full form also escapes backslashes and controls, and reads every escape that a literal may hold;
the raw form only knows code points of four and eight digits.
-/

namespace Wordbook
namespace Encoding
namespace Escaped

/-- A byte that is a basic character. -/
def byteOf (char : Char) : UInt8 := UInt8.ofNat char.toNat

/-- The bytes of a character in the full form. -/
def encodeChar (char : Char) : List UInt8 :=
  let code := char.toNat
  match char with
  | '\t' => [92, 116]
  | '\n' => [92, 110]
  | '\r' => [92, 114]
  | '\\' => [92, 92]
  | _ =>
      if 32 ≤ code && code < 127 then [byteOf char] else (Text.escapedCode code).map byteOf

/-- The bytes of a text in the full form. -/
def encode (chars : List Char) : List UInt8 := chars.flatMap encodeChar

/-- The bytes of a character in the raw form. -/
def encodeRawChar (char : Char) : List UInt8 :=
  if char.toNat < 256 then [byteOf char] else (Text.escapedCode char.toNat).map byteOf

/-- The bytes of a text in the raw form. -/
def encodeRaw (chars : List Char) : List UInt8 := chars.flatMap encodeRawChar

/-- The text of an escape with the number of bytes behind the backslash that it takes, or a fault in
so many bytes and why. -/
inductive Reading where
  | text (chars : List Char) (length : Nat)
  | fault (length : Nat) (reason : String)

/-- The value of hexadecimal digits at the start of some bytes, at most a number of them, and how
many there are. -/
def hexRun (count : Nat) (bytes : List UInt8) : Nat × Nat :=
  let values := (bytes.take count).map fun byte => Text.hexValue? (Char.ofNat byte.toNat)
  let digits := values.takeWhile Option.isSome
  (digits.foldl (fun value digit => value * 16 + digit.getD 0) 0, digits.length)

/-- The escape of a letter and a number of hexadecimal digits. -/
def readHex (count : Nat) (tooShort tooLarge : String) (bytes : List UInt8) : Reading :=
  let (value, length) := hexRun count bytes
  if length < count then .fault (1 + length) tooShort
  else if value > 0x10ffff then .fault (1 + length) tooLarge
  else .text [Text.charOf value] (1 + length)

/-- The escape of a name in braces. -/
def readName (bytes : List UInt8) : Reading :=
  let malformed := "malformed \\N character escape"
  match bytes with
  | [] => .fault 1 malformed
  | opening :: inside =>
      if opening != 123 then .fault 1 malformed
      else
        let name := inside.takeWhile (· != 125)
        if name.length = inside.length then .fault (2 + name.length) malformed
        else if name.isEmpty then .fault 2 malformed
        else
          match Unicode.charNamed? (name.map fun byte => Char.ofNat byte.toNat) with
          | some char => .text [char] (3 + name.length)
          | none => .fault (3 + name.length) "unknown Unicode character name"

/-- The character that a letter behind a backslash stands for. -/
def shortEscape? (letter : UInt8) : Option Char :=
  match Char.ofNat letter.toNat with
  | '\\' => some '\\'
  | '\'' => some '\''
  | '"' => some '"'
  | 'a' => some (Char.ofNat 7)
  | 'b' => some (Char.ofNat 8)
  | 'f' => some (Char.ofNat 12)
  | 'n' => some '\n'
  | 'r' => some '\r'
  | 't' => some '\t'
  | 'v' => some (Char.ofNat 11)
  | _ => none

/-- A byte is an octal digit. -/
def isOctal (byte : UInt8) : Bool := 48 ≤ byte.toNat && byte.toNat ≤ 55

/-- The reason given for too few digits behind a letter. -/
def tooShort : Char → String
  | 'x' => "truncated \\xXX escape"
  | 'u' => "truncated \\uXXXX escape"
  | _ => "truncated \\UXXXXXXXX escape"

/-- Read what stands behind a backslash in the full form. -/
def read : List UInt8 → Reading
  | [] => .fault 0 "\\ at end of string"
  | letter :: rest =>
      let illegal := "illegal Unicode character"
      match Char.ofNat letter.toNat with
      | '\n' => .text [] 1
      | 'x' => readHex 2 (tooShort 'x') illegal rest
      | 'u' => readHex 4 (tooShort 'u') illegal rest
      | 'U' => readHex 8 (tooShort 'U') illegal rest
      | 'N' => readName rest
      | char =>
          match shortEscape? letter with
          | some meant => .text [meant] 1
          | none =>
              let digits := ((letter :: rest).take 3).takeWhile isOctal
              if digits.isEmpty then .text ['\\', char] 1
              else
                let value := digits.foldl (fun value digit => value * 8 + (digit.toNat - 48)) 0
                .text [Text.charOf value] digits.length

/-- Read what stands behind a backslash in the raw form. -/
def readRaw : List UInt8 → Reading
  | [] => .text ['\\'] 0
  | letter :: rest =>
      let outside := "\\Uxxxxxxxx out of range"
      match Char.ofNat letter.toNat with
      | 'u' => readHex 4 (tooShort 'u') outside rest
      | 'U' => readHex 8 (tooShort 'U') outside rest
      | char => .text ['\\', char] 1

/-- The text of bytes from a position on, with `fuel` above their number; `decoded` holds the
reversed text so far. -/
def decodeFrom (label : String) (reader : List UInt8 → Reading) (rescue : FaultRule)
    (whole : List UInt8) : (fuel position : Nat) → (decoded : List Char) → List UInt8 →
    Except DecodeFault (List Char)
  | 0, _, decoded, _ => .ok decoded.reverse
  | _ + 1, _, decoded, [] => .ok decoded.reverse
  | fuel + 1, position, decoded, byte :: rest =>
      if byte != 92 then
        decodeFrom label reader rescue whole fuel (position + 1)
          (Char.ofNat byte.toNat :: decoded) rest
      else
        match reader rest with
        | .text chars length =>
            decodeFrom label reader rescue whole fuel (position + 1 + length)
              (chars.reverse ++ decoded) (rest.drop length)
        | .fault length reason =>
            match rescue (byte :: rest.take length) with
            | some text =>
                decodeFrom label reader rescue whole fuel (position + 1 + length)
                  (text.reverse ++ decoded) (rest.drop length)
            | none => .error ⟨label, whole, position, position + 1 + length, reason⟩

/-- The text of bytes in the full form. -/
def decode (rescue : FaultRule) (bytes : List UInt8) : Except DecodeFault (List Char) :=
  decodeFrom "unicodeescape" read rescue bytes (bytes.length + 1) 0 [] bytes

/-- The text of bytes in the raw form. -/
def decodeRaw (rescue : FaultRule) (bytes : List UInt8) : Except DecodeFault (List Char) :=
  decodeFrom "rawunicodeescape" readRaw rescue bytes (bytes.length + 1) 0 [] bytes

end Escaped
end Encoding
end Wordbook
