import Wordbook.Encoding
import Wordbook.Unicode.Name

/-!
# What is done about faults

A rule of a name tells what stands for characters that an encoding does not have, or for bytes that
are no text.  Some rules only know one direction, and some only what no text holds.
-/

namespace Wordbook
namespace Encoding

/-- The rules. -/
inductive Handling where
  | strict
  | ignore
  | replace
  | escape
  | reference
  | byName
  | foreignBytes
  | foreignCodes
  | unknown (name : String)
deriving DecidableEq

namespace Handling

/-- The rule of a name. -/
def ofName (name : String) : Handling :=
  match name with
  | "strict" => strict
  | "ignore" => ignore
  | "replace" => replace
  | "backslashreplace" => escape
  | "xmlcharrefreplace" => reference
  | "namereplace" => byName
  | "surrogateescape" => foreignBytes
  | "surrogatepass" => foreignCodes
  | _ => unknown name

/-- The name of a rule. -/
def name : Handling → String
  | strict => "strict"
  | ignore => "ignore"
  | replace => "replace"
  | escape => "backslashreplace"
  | reference => "xmlcharrefreplace"
  | byName => "namereplace"
  | foreignBytes => "surrogateescape"
  | foreignCodes => "surrogatepass"
  | unknown name => name

/-- What stands for a character that an encoding does not have. -/
def substitute? (handling : Handling) (char : Char) : Option (List Char) :=
  match handling with
  | ignore => some []
  | replace => some ['?']
  | escape => some (Text.escapedCode char.toNat)
  | reference => some ('&' :: '#' :: Nat.toDigits 10 char.toNat ++ [';'])
  | byName =>
      some (match Unicode.nameOf? char with
        | some name => '\\' :: 'N' :: '\x7b' :: name ++ ['\x7d']
        | none => Text.escapedCode char.toNat)
  | _ => none

/-- What stands for bytes that are no text. -/
def rescue? (handling : Handling) (bytes : List UInt8) : Option (List Char) :=
  match handling with
  | ignore => some []
  | replace => some [Char.ofNat 0xfffd]
  | escape => some (bytes.flatMap fun byte => '\\' :: 'x' :: Text.hexPadded 2 byte.toNat)
  | foreignBytes =>
      if bytes.all fun byte => 128 ≤ byte.toNat then
        some (bytes.map fun byte => Text.charOf (0xdc00 + byte.toNat))
      else none
  | _ => none

end Handling

/-- Why a text is not encoded, or bytes are not decoded.  The words of some faults are told again by
who asked for the coding, those of others are not. -/
inductive CodingFault where
  | encoding (fault : EncodeFault)
  | decoding (fault : DecodeFault)
  | unknownHandling (name : String)
  | wrongDirection
  | other (why : String)
  | toldOnce (why : String)

namespace CodingFault

/-- The fault of an encoding under a rule. -/
def ofEncoding (handling : Handling) (fault : EncodeFault) : CodingFault :=
  match handling with
  | .unknown name => unknownHandling name
  | _ => encoding fault

/-- The fault of a decoding under a rule. -/
def ofDecoding (handling : Handling) (fault : DecodeFault) : CodingFault :=
  match handling with
  | .unknown name => unknownHandling name
  | .reference | .byName => wrongDirection
  | _ => decoding fault

end CodingFault
end Encoding
end Wordbook
