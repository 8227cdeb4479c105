import Wordbook.Encoding.Handling

/-!
# Text in seven bits

Plain characters stand for themselves.  All others are put into sections that start with a plus
sign: the bits of their units of sixteen, six at a time, as letters, digits and two marks.
-/

namespace Wordbook
namespace Encoding
namespace Seven

/-- The letters of sections in the order of their values. -/
def letters : List Char :=
  "ABCDEFGHIJKLMNOPQRSTUVWXYZabcdefghijklmnopqrstuvwxyz0123456789+/".toList

/-- The letter of a value below sixty-four. -/
def letterOf (value : Nat) : UInt8 := UInt8.ofNat (letters.getD value 'A').toNat

/-- The value of a letter. -/
def valueOf? (byte : UInt8) : Option Nat :=
  letters.findIdx? fun letter => letter.toNat == byte.toNat

/-- A character that stands for itself when text is written. -/
def isPlain (char : Char) : Bool :=
  let code := char.toNat
  code == 9 || code == 10 || code == 13 ||
    (32 ≤ code && code < 126 && char != '+' && char != '\\')

/-- A byte that stands for itself when text is read. -/
def standsForItself (byte : UInt8) : Bool := byte.toNat < 128 && byte.toNat != 43

/-- Bits that wait to be written: how many, and their value. -/
structure Bits where
  count : Nat
  value : Nat

/-- The letters of all full groups of six bits, and the bits that are left. -/
def Bits.groups (bits : Bits) : List UInt8 × Bits :=
  let left := bits.count % 6
  let full := bits.count / 6
  ((List.range full).map fun place =>
    letterOf (bits.value / Nat.pow 2 (left + 6 * (full - 1 - place)) % 64),
    ⟨left, bits.value % Nat.pow 2 left⟩)

/-- The letter that ends a section, if bits are left. -/
def Bits.last (bits : Bits) : List UInt8 :=
  if bits.count = 0 then [] else [letterOf (bits.value * Nat.pow 2 (6 - bits.count))]

/-- The bits of a character behind others. -/
def Bits.push (bits : Bits) (char : Char) : Bits :=
  let code := char.toNat
  if code < 0x10000 then ⟨bits.count + 16, bits.value * Nat.pow 2 16 + code⟩
  else
    let high := 0xd800 + (code - 0x10000) / 1024
    let low := 0xdc00 + (code - 0x10000) % 1024
    ⟨bits.count + 32, bits.value * Nat.pow 2 32 + high * Nat.pow 2 16 + low⟩

/-- The bytes of characters; inside a section there are bits that wait. -/
def encodeFrom (section? : Option Bits) : List Char → List UInt8
  | [] =>
      match section? with
      | some bits => bits.last ++ [45]
      | none => []
  | char :: rest =>
      let byte := UInt8.ofNat char.toNat
      match section? with
      | some bits =>
          if isPlain char then
            let mark := if (valueOf? byte).isSome || char == '-' then [45] else []
            bits.last ++ mark ++ byte :: encodeFrom none rest
          else
            let (written, left) := (bits.push char).groups
            written ++ encodeFrom (some left) rest
      | none =>
          if char == '+' then 43 :: 45 :: encodeFrom none rest
          else if isPlain char then byte :: encodeFrom none rest
          else
            let (written, left) := (Bits.push ⟨0, 0⟩ char).groups
            43 :: written ++ encodeFrom (some left) rest

/-- The bytes of a text. -/
def encode (chars : List Char) : List UInt8 := encodeFrom none chars

/-- A section under way: where it started, the bits that wait, and the first half of a surrogate
pair that waits for the second. -/
structure Section where
  start : Nat
  bits : Bits
  half : Option Nat

/-- The text of a unit of sixteen bits in a section, and the half of a pair that it leaves. -/
def textOfUnit (half : Option Nat) (unit : Nat) : List Char × Option Nat :=
  let single : List Char × Option Nat :=
    if isHighSurrogate unit then ([], some unit) else ([Text.charOf unit], none)
  match half with
  | some high =>
      if isLowSurrogate unit then ([Text.charOf (joinSurrogates high unit)], none)
      else (Text.charOf high :: single.1, single.2)
  | none => single

/-- A section after a letter of a value, and the text that it gave. -/
def Section.push (found : Section) (value : Nat) : List Char × Section :=
  let count := found.bits.count + 6
  let total := found.bits.value * 64 + value
  if count < 16 then ([], { found with bits := ⟨count, total⟩ })
  else
    let left := count - 16
    let (text, half) := textOfUnit found.half (total / Nat.pow 2 left)
    (text, { found with bits := ⟨left, total % Nat.pow 2 left⟩, half := half })

/-- What is wrong with a section that ends, if anything. -/
def Section.fault? (found : Section) : Option String :=
  if found.bits.count ≥ 6 then some "partial character in shift sequence"
  else if found.bits.count > 0 && found.bits.value != 0 then
    some "non-zero padding bits in shift sequence"
  else none

/-- Where a reader stands: among plain bytes, right behind a plus sign at a position, or further
inside a section. -/
inductive Place where
  | plain
  | opened (start : Nat)
  | inside (found : Section)

/-- What a byte does: it gives text and leads to a place, or bytes up to it from a position on are
at fault. -/
inductive Step where
  | text (chars : List Char) (next : Place)
  | fault (before : List Char) (start : Nat) (reason : String)

/-- What a byte does among plain bytes. -/
def plainStep (position : Nat) (byte : UInt8) : Step :=
  if byte == 43 then .text [] (.opened position)
  else if standsForItself byte then .text [Char.ofNat byte.toNat] .plain
  else .fault [] position "unexpected special character"

/-- What a byte does behind text that waited. -/
def Step.behind (waiting : List Char) : Step → Step
  | .text chars next => .text (waiting ++ chars) next
  | .fault before start reason => .fault (waiting ++ before) start reason

/-- What a byte at a position does. -/
def step (position : Nat) (byte : UInt8) : Place → Step
  | .plain => plainStep position byte
  | .opened start =>
      match valueOf? byte with
      | some value =>
          let (chars, next) := Section.push ⟨start, ⟨0, 0⟩, none⟩ value
          .text chars (.inside next)
      | none =>
          if byte == 45 then .text ['+'] .plain else .fault [] start "ill-formed sequence"
  | .inside found =>
      match valueOf? byte with
      | some value =>
          let (chars, next) := found.push value
          .text chars (.inside next)
      | none =>
          match found.fault? with
          | some reason => .fault [] found.start reason
          | none =>
              let waiting :=
                if standsForItself byte then (found.half.map Text.charOf).toList else []
              if byte == 45 then .text waiting .plain
              else (plainStep position byte).behind waiting

/-- A section cannot end where the bytes do. -/
def Section.isOpen (found : Section) : Bool := found.half.isSome || found.fault?.isSome

/-- The text of bytes from a position on; `decoded` holds the reversed text so far. -/
def decodeFrom (rescue : FaultRule) (whole : List UInt8) :
    (position : Nat) → Place → (decoded : List Char) → List UInt8 → Except DecodeFault (List Char)
  | position, place, decoded, [] =>
      match place with
      | .inside found =>
          if found.isOpen then
            match rescue (whole.drop found.start) with
            | some text => .ok (decoded.reverse ++ text)
            | none =>
                .error ⟨"utf7", whole, found.start, position, "unterminated shift sequence"⟩
          else .ok decoded.reverse
      | _ => .ok decoded.reverse
  | position, place, decoded, byte :: rest =>
      match step position byte place with
      | .text chars next =>
          decodeFrom rescue whole (position + 1) next (chars.reverse ++ decoded) rest
      | .fault before start reason =>
          match rescue ((whole.take (position + 1)).drop start) with
          | some text =>
              decodeFrom rescue whole (position + 1) .plain
                (text.reverse ++ before.reverse ++ decoded) rest
          | none => .error ⟨"utf7", whole, start, position + 1, reason⟩

/-- The text of bytes. -/
def decode (rescue : FaultRule) (bytes : List UInt8) : Except DecodeFault (List Char) :=
  decodeFrom rescue bytes 0 .plain [] bytes

end Seven
end Encoding
end Wordbook
