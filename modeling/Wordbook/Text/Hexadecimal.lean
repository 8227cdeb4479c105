/-!
# Hexadecimal digits and code points

The digits `0` to `9` and `a` to `f`, read in either case and written in lower case, and the
characters that stand at code points.
-/

namespace Wordbook
namespace Text

/-- The character with a code point; surrogates have none and give the replacement character. -/
def charOf (code : Nat) : Char :=
  if 0xd800 ≤ code && code ≤ 0xdfff then Char.ofNat 0xfffd else Char.ofNat code

/-- The lower-case digit for a value below sixteen. -/
def hexDigit (value : Nat) : Char :=
  if value < 10 then Char.ofNat (48 + value) else Char.ofNat (87 + value)

/-- The value of a digit in either case. -/
def hexValue? (char : Char) : Option Nat :=
  let code := char.toNat
  if 48 ≤ code && code ≤ 57 then some (code - 48)
  else if 97 ≤ code && code ≤ 102 then some (code - 87)
  else if 65 ≤ code && code ≤ 70 then some (code - 55)
  else none

/-- The last `width` digits of a number. -/
def hexPadded : Nat → Nat → List Char
  | 0, _ => []
  | width + 1, value => hexPadded width (value / 16) ++ [hexDigit (value % 16)]

/-- A code point written as an escape of as few digits as it needs. -/
def escapedCode (code : Nat) : List Char :=
  if code < 256 then '\\' :: 'x' :: hexPadded 2 code
  else if code < 65536 then '\\' :: 'u' :: hexPadded 4 code
  else '\\' :: 'U' :: hexPadded 8 code

/-- The two digits of each byte in turn. -/
def hexOfBytes (bytes : List UInt8) : String :=
  String.ofList (bytes.flatMap fun byte => [hexDigit (byte.toNat / 16), hexDigit (byte.toNat % 16)])

/-- The bytes written by pairs of digits. -/
def bytesOfHex? : List Char → Option (List UInt8)
  | [] => some []
  | high :: low :: rest => do
      let highValue ← hexValue? high
      let lowValue ← hexValue? low
      let others ← bytesOfHex? rest
      some (UInt8.ofNat (highValue * 16 + lowValue) :: others)
  | [_] => none

end Text
end Wordbook
