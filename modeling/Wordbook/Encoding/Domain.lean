import Wordbook.Encoding.Punycode
import Wordbook.Text.Pieces
import Wordbook.Text.Quoted
import Wordbook.Unicode.Case
import Wordbook.Unicode.Composition

/-!
# Names of domains

The labels of a name are written one by one.  A label of basic characters stands for itself; any
other is prepared, so that spellings that differ in case or composition agree, and written as
insertions behind a prefix.
-/

namespace Wordbook
namespace Encoding
namespace Domain

/-- What stands before a label of insertions. -/
def acePrefix : List Char := "xn--".toList

/-- A label has too few or too many characters. -/
def labelLength : CodingFault := .other "label empty or too long"

/-- A character that is dropped from labels. -/
def isDropped (char : Char) : Bool :=
  let code := char.toNat
  let single :=
    [0xad, 0x34f, 0x1806, 0x180b, 0x180c, 0x180d, 0x200b, 0x200c, 0x200d, 0x2060, 0xfeff]
  single.contains code || (0xfe00 ≤ code && code ≤ 0xfe0f)

/-- A label prepared for comparison. -/
def prepare (label : List Char) : Except CodingFault (List Char) :=
  let folded := (label.filter fun char => !isDropped char).flatMap Unicode.foldChar
  let composed := Unicode.compose folded
  match composed.find? fun char => 128 ≤ char.toNat && !Unicode.isPrintable char with
  | some char =>
      .error (.other ("Invalid character " ++ Text.quoted (String.singleton char)))
  | none => .ok composed

/-- The bytes of basic characters. -/
def bytesOf (chars : List Char) : List UInt8 := chars.map fun char => UInt8.ofNat char.toNat

/-- All characters are basic. -/
def isBasic (chars : List Char) : Bool := chars.all fun char => char.toNat < 128

/-- A written label, if it is not empty or too long. -/
def fitting (label : List UInt8) : Except CodingFault (List UInt8) :=
  if 0 < label.length && label.length < 64 then .ok label else .error labelLength

/-- The bytes of a label. -/
def encodeLabel (label : List Char) : Except CodingFault (List UInt8) := do
  if isBasic label then fitting (bytesOf label)
  else
    let prepared ← prepare label
    if isBasic prepared then fitting (bytesOf prepared)
    else if acePrefix.isPrefixOf prepared then throw (.other "Label starts with ACE prefix")
    else fitting (bytesOf acePrefix ++ Punycode.encode prepared)

/-- A character that stands between labels. -/
def isDot (char : Char) : Bool := [0x2e, 0x3002, 0xff0e, 0xff61].contains char.toNat

/-- The bytes of a name. -/
def encode (chars : List Char) : Except CodingFault (List UInt8) := do
  let labels := Text.cutAt isDot chars
  if chars.isEmpty then return []
  else if isBasic chars then
    if labels.dropLast.any fun label => label.isEmpty || 64 ≤ label.length then throw labelLength
    if (labels.getLastD []).length ≥ 64 then throw (.other "label too long")
    return bytesOf chars
  else
    let (written, dot) :=
      if (labels.getLastD []).isEmpty then (labels.dropLast, [46]) else (labels, [])
    let parts ← written.mapM encodeLabel
    let joined :=
      parts.foldl (fun found part => if found.isEmpty then part else found ++ 46 :: part) []
    return joined ++ dot

/-- The words for a fault in the insertions of a label. -/
def withinLabel : CodingFault → CodingFault
  | .other why => .other ("decoding with 'punycode' codec failed (UnicodeError: " ++ why ++ ")")
  | fault => fault

/-- The text of a label.  Insertions must be those that are written for the text. -/
def decodeLabel (label : List UInt8) : Except CodingFault (List Char) := do
  let prefixBytes := bytesOf acePrefix
  if prefixBytes.isPrefixOf label then
    let text ← (Punycode.decode .strict (label.drop prefixBytes.length)).mapError withinLabel
    let again ← encodeLabel text
    let basic ← (Encoding.decode .ascii label).mapError .decoding
    if bytesOf (basic.map Char.toLower) == again then return text
    else
      throw (.toldOnce ("('IDNA does not round-trip', " ++ Text.quotedBytes label ++ ", " ++
        Text.quotedBytes again ++ ")"))
  else (Encoding.decode .ascii label).mapError .decoding

/-- The pieces of bytes between dots. -/
def cutDots (bytes : List UInt8) : List (List UInt8) :=
  (Text.cutAt (fun char => char == '.') (bytes.map fun byte => Char.ofNat byte.toNat)).map bytesOf

/-- The text of a name. -/
def decode (bytes : List UInt8) : Except CodingFault (List Char) := do
  let labels := cutDots bytes
  let (read, dot) :=
    if (labels.getLastD []).isEmpty then (labels.dropLast, ['.']) else (labels, [])
  let parts ← read.mapM decodeLabel
  return Text.joinWith ['.'] parts ++ dot

end Domain
end Encoding
end Wordbook
