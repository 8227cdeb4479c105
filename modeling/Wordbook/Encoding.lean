import Wordbook.Text.Hexadecimal
import Wordbook.Unicode.Ranges

/-!
# Text as bytes

The encodings that text is read from and written to.  A decoding step takes one character off the
bytes or says how many of them are at fault and why; what happens then is up to the caller.
-/

namespace Wordbook
namespace Encoding

/-! ## Encodings of single bytes

A table tells the character of each byte.  Going back from a character, the last of its bytes is
taken. -/

/-- The code point of each byte, if it has one. -/
structure Charmap where
  codes : Array (Option Nat)
deriving DecidableEq

namespace Charmap

/-- The code points that a word of a packed table stands for. -/
def codesOfWord (word : String) : List (Option Nat) :=
  match word.splitOn "?" with
  | [_, count] => List.replicate (count.toNat?.getD 1) none
  | _ =>
      match word.splitOn "-" with
      | [first, last] =>
          let start := Unicode.hexCode first
          (List.range (Unicode.hexCode last + 1 - start)).map fun step => some (start + step)
      | _ => [some (Unicode.hexCode word)]

/-- The table that the rows of a packed table stand for. -/
def ofRows (rows : List String) : Charmap :=
  ⟨((rows.flatMap fun row => row.splitOn " ").flatMap codesOfWord).toArray⟩

/-- The code point of a byte. -/
def code? (map : Charmap) (byte : UInt8) : Option Nat := (map.codes[byte.toNat]?).join

/-- The byte of a code point. -/
def byte? (map : Charmap) (code : Nat) : Option UInt8 :=
  (map.codes.toList.zipIdx.reverse.find? fun entry => entry.1 == some code).map fun entry =>
    UInt8.ofNat entry.2

end Charmap

/-! ## Encodings of all kinds -/

/-- The order of the bytes of a unit. -/
inductive ByteOrder where
  | big
  | little
deriving DecidableEq

/-- The encodings that take one character after the other. -/
inductive Codec where
  | ascii
  | latin
  | utf8
  | utf16 (order : ByteOrder)
  | utf32 (order : ByteOrder)
  | single (map : Charmap)
deriving DecidableEq

/-- The name of an encoding in messages. -/
def Codec.label : Codec → String
  | .ascii => "ascii"
  | .latin => "latin-1"
  | .utf8 => "utf-8"
  | .utf16 .big => "utf-16-be"
  | .utf16 .little => "utf-16-le"
  | .utf32 .big => "utf-32-be"
  | .utf32 .little => "utf-32-le"
  | .single _ => "charmap"

/-- One step of decoding: a code point and the bytes it took, or the bytes at fault and the
reason. -/
inductive Step where
  | code (value length : Nat)
  | fault (length : Nat) (reason : String)

/-- A byte that continues a character of several bytes. -/
def isContinuation (byte : UInt8) : Bool := byte.toNat / 64 == 2

/-- The six bits of a continuation byte. -/
def lowBits (byte : UInt8) : Nat := byte.toNat % 64

/-- The reason given for a byte that cannot go on with a character. -/
def badContinuation : String := "invalid continuation byte"

/-- The reason given for bytes that end inside a character. -/
def endOfData : String := "unexpected end of data"

/-- One step of UTF-8 decoding; the bytes of a surrogate may be let through. -/
def utf8Step (surrogates : Bool) (lead : UInt8) (rest : List UInt8) : Step :=
  let first := lead.toNat
  if first < 0x80 then .code first 1
  else if first < 0xc2 || 0xf5 ≤ first then .fault 1 "invalid start byte"
  else if first < 0xe0 then
    match rest with
    | [] => .fault 1 endOfData
    | second :: _ =>
        if isContinuation second then .code ((first - 0xc0) * 64 + lowBits second) 2
        else .fault 1 badContinuation
  else if first < 0xf0 then
    match rest with
    | [] => .fault 1 endOfData
    | second :: others =>
        let isSurrogate := first == 0xed && second.toNat ≥ 0xa0
        if !isContinuation second || (first == 0xe0 && second.toNat < 0xa0) ||
            (isSurrogate && !surrogates) then .fault 1 badContinuation
        else
          match others with
          | [] => if isSurrogate then .fault 1 badContinuation else .fault 2 endOfData
          | third :: _ =>
              if isContinuation third then
                .code ((first - 0xe0) * 4096 + lowBits second * 64 + lowBits third) 3
              else if isSurrogate then .fault 1 badContinuation
              else .fault 2 badContinuation
  else
    match rest with
    | [] => .fault 1 endOfData
    | second :: others =>
        if !isContinuation second || (first == 0xf0 && second.toNat < 0x90) ||
            (first == 0xf4 && second.toNat ≥ 0x90) then .fault 1 badContinuation
        else
          match others with
          | [] => .fault 2 endOfData
          | third :: fourths =>
              if !isContinuation third then .fault 2 badContinuation
              else
                match fourths with
                | [] => .fault 3 endOfData
                | fourth :: _ =>
                    if isContinuation fourth then
                      .code ((first - 0xf0) * 262144 + lowBits second * 4096 + lowBits third * 64 +
                        lowBits fourth) 4
                    else .fault 3 badContinuation

/-- The value of two bytes in an order. -/
def unit16 (order : ByteOrder) (first second : UInt8) : Nat :=
  match order with
  | .big => first.toNat * 256 + second.toNat
  | .little => second.toNat * 256 + first.toNat

/-- A code unit opens a surrogate pair. -/
def isHighSurrogate (unit : Nat) : Bool := 0xd800 ≤ unit && unit ≤ 0xdbff

/-- A code unit closes a surrogate pair. -/
def isLowSurrogate (unit : Nat) : Bool := 0xdc00 ≤ unit && unit ≤ 0xdfff

/-- The code point of a surrogate pair. -/
def joinSurrogates (high low : Nat) : Nat := 0x10000 + (high - 0xd800) * 1024 + (low - 0xdc00)

/-- One step of UTF-16 decoding; a lone surrogate may be let through. -/
def utf16Step (surrogates : Bool) (order : ByteOrder) (first : UInt8) (rest : List UInt8) : Step :=
  match rest with
  | [] => .fault 1 "truncated data"
  | second :: others =>
      let unit := unit16 order first second
      if isHighSurrogate unit then
        match others with
        | third :: fourth :: _ =>
            let next := unit16 order third fourth
            if isLowSurrogate next then .code (joinSurrogates unit next) 4
            else if surrogates then .code unit 2
            else .fault 2 "illegal UTF-16 surrogate"
        | _ => if surrogates then .code unit 2 else .fault (2 + others.length) endOfData
      else if isLowSurrogate unit then
        if surrogates then .code unit 2 else .fault 2 "illegal encoding"
      else .code unit 2

/-- One step of UTF-32 decoding; a lone surrogate may be let through. -/
def utf32Step (surrogates : Bool) (order : ByteOrder) (first : UInt8) (rest : List UInt8) : Step :=
  match rest with
  | second :: third :: fourth :: _ =>
      let high := unit16 order first second
      let low := unit16 order third fourth
      let code :=
        match order with
        | .big => high * 65536 + low
        | .little => low * 65536 + high
      if 0xd800 ≤ code && code ≤ 0xdfff && !surrogates then
        .fault 4 "code point in surrogate code point range(0xd800, 0xe000)"
      else if code > 0x10ffff then .fault 4 "code point not in range(0x110000)"
      else .code code 4
  | _ => .fault (1 + rest.length) "truncated data"

/-- The reason given for what a table does not have. -/
def unmapped : String := "character maps to <undefined>"

/-- One step of decoding. -/
def Codec.step (codec : Codec) (surrogates : Bool) (first : UInt8) (rest : List UInt8) : Step :=
  match codec with
  | .ascii =>
      if first.toNat < 128 then .code first.toNat 1 else .fault 1 "ordinal not in range(128)"
  | .latin => .code first.toNat 1
  | .utf8 => utf8Step surrogates first rest
  | .utf16 order => utf16Step surrogates order first rest
  | .utf32 order => utf32Step surrogates order first rest
  | .single map =>
      match map.code? first with
      | some code => .code code 1
      | none => .fault 1 unmapped

/-- Bytes that are no text in an encoding: which ones, and why. -/
structure DecodeFault where
  label : String
  bytes : List UInt8
  start : Nat
  stop : Nat
  reason : String

/-- The message for bytes that are no text. -/
def DecodeFault.message (fault : DecodeFault) : String :=
  let place :=
    if fault.stop == fault.start + 1 then
      "byte 0x" ++ Text.hexOfBytes [fault.bytes.getD fault.start 0] ++ " in position " ++
        toString fault.start
    else
      "bytes in position " ++ toString fault.start ++ "-" ++ toString (fault.stop - 1)
  "'" ++ fault.label ++ "' codec can't decode " ++ place ++ ": " ++ fault.reason

/-- What a fault turns into: nothing if decoding must stop, else the text that replaces the
bytes. -/
abbrev FaultRule := List UInt8 → Option (List Char)

/-- Decode bytes from a position on, `fuel` bounding the steps and `decoded` holding the reversed
text so far. -/
def decodeFrom (codec : Codec) (surrogates : Bool) (rule : FaultRule) (whole : List UInt8) :
    Nat → Nat → List Char → List UInt8 → Except DecodeFault (List Char)
  | 0, _, decoded, _ => .ok decoded.reverse
  | _ + 1, _, decoded, [] => .ok decoded.reverse
  | fuel + 1, position, decoded, first :: rest =>
      match codec.step surrogates first rest with
      | .code value length =>
          decodeFrom codec surrogates rule whole fuel (position + length)
            (Text.charOf value :: decoded) (rest.drop (length - 1))
      | .fault length reason =>
          match rule ((first :: rest).take length) with
          | some replacement =>
              decodeFrom codec surrogates rule whole fuel (position + length)
                (replacement.reverse ++ decoded) (rest.drop (length - 1))
          | none => .error ⟨codec.label, whole, position, position + length, reason⟩

/-- Decode bytes, a number of them at the start being passed over. -/
def decodeWith (codec : Codec) (surrogates : Bool) (rule : FaultRule) (skipped : Nat)
    (bytes : List UInt8) : Except DecodeFault (List Char) :=
  decodeFrom codec surrogates rule bytes (bytes.length + 1) skipped [] (bytes.drop skipped)

/-- Decode bytes that must be text throughout. -/
def decode (codec : Codec) (bytes : List UInt8) : Except DecodeFault (List Char) :=
  decodeWith codec false (fun _ => none) 0 bytes

/-- The bytes of a character in UTF-8. -/
def utf8Char (char : Char) : List UInt8 :=
  let code := char.toNat
  if code < 0x80 then [UInt8.ofNat code]
  else if code < 0x800 then [UInt8.ofNat (0xc0 + code / 64), UInt8.ofNat (0x80 + code % 64)]
  else if code < 0x10000 then
    [UInt8.ofNat (0xe0 + code / 4096), UInt8.ofNat (0x80 + code / 64 % 64),
      UInt8.ofNat (0x80 + code % 64)]
  else
    [UInt8.ofNat (0xf0 + code / 262144), UInt8.ofNat (0x80 + code / 4096 % 64),
      UInt8.ofNat (0x80 + code / 64 % 64), UInt8.ofNat (0x80 + code % 64)]

/-- The two bytes of a unit in an order. -/
def bytes16 (order : ByteOrder) (unit : Nat) : List UInt8 :=
  let high := UInt8.ofNat (unit / 256)
  let low := UInt8.ofNat (unit % 256)
  match order with
  | .big => [high, low]
  | .little => [low, high]

/-- The bytes of a character, or nothing if the encoding does not have it. -/
def Codec.encodeChar? (codec : Codec) (char : Char) : Option (List UInt8) :=
  let code := char.toNat
  match codec with
  | .ascii => if code < 128 then some [UInt8.ofNat code] else none
  | .latin => if code < 256 then some [UInt8.ofNat code] else none
  | .utf8 => some (utf8Char char)
  | .utf16 order =>
      if code < 0x10000 then some (bytes16 order code)
      else
        some (bytes16 order (0xd800 + (code - 0x10000) / 1024) ++
          bytes16 order (0xdc00 + (code - 0x10000) % 1024))
  | .utf32 order =>
      some (match order with
        | .big => bytes16 order (code / 65536) ++ bytes16 order (code % 65536)
        | .little => bytes16 order (code % 65536) ++ bytes16 order (code / 65536))
  | .single map => (map.byte? code).map fun byte => [byte]

/-- The reason given for a character that an encoding does not have. -/
def Codec.lack : Codec → String
  | .ascii => "ordinal not in range(128)"
  | .latin => "ordinal not in range(256)"
  | _ => unmapped

/-- Characters that an encoding does not have: which ones, and why. -/
structure EncodeFault where
  label : String
  chars : List Char
  start : Nat
  stop : Nat
  reason : String

/-- The message for characters that an encoding does not have. -/
def EncodeFault.message (fault : EncodeFault) : String :=
  let place :=
    if fault.stop = fault.start + 1 then
      let code := (fault.chars.getD fault.start ' ').toNat
      "character '" ++ String.ofList (Text.escapedCode code) ++ "' in position " ++
        toString fault.start
    else
      "characters in position " ++ toString fault.start ++ "-" ++ toString (fault.stop - 1)
  "'" ++ fault.label ++ "' codec can't encode " ++ place ++ ": " ++ fault.reason

/-- What is put in the place of a character that an encoding does not have, if anything. -/
abbrev SubstitutionRule := Char → Option (List Char)

/-- The bytes of characters that stand in the place of another one, if the encoding has them all. -/
def Codec.substituted? (codec : Codec) (rule : SubstitutionRule) (char : Char) :
    Option (List UInt8) := do
  let chars ← rule char
  let bytes ← chars.mapM codec.encodeChar?
  return bytes.flatten

/-- The bytes of a text from a place on.  A fault takes in all characters in a row that the encoding
does not have. -/
def encodeFrom (codec : Codec) (rule : SubstitutionRule) (whole : List Char) :
    (place : Nat) → (encoded : List (List UInt8)) → List Char → Except EncodeFault (List UInt8)
  | _, encoded, [] => .ok encoded.reverse.flatten
  | place, encoded, char :: rest =>
      match (codec.encodeChar? char).or (codec.substituted? rule char) with
      | some bytes => encodeFrom codec rule whole (place + 1) (bytes :: encoded) rest
      | none =>
          let run := (char :: rest).takeWhile fun other => (codec.encodeChar? other).isNone
          .error ⟨codec.label, whole, place, place + run.length, codec.lack⟩

/-- The bytes of a text. -/
def encodeWith (codec : Codec) (rule : SubstitutionRule) (chars : List Char) :
    Except EncodeFault (List UInt8) :=
  encodeFrom codec rule chars 0 [] chars

/-- The bytes of a text in UTF-8. -/
def encodeUtf8 (chars : List Char) : List UInt8 := chars.flatMap utf8Char

/-- The marks that announce an encoding, a longer one before its own start. -/
def byteOrderMarks : List (List UInt8 × Codec) :=
  [([0x00, 0x00, 0xfe, 0xff], .utf32 .big),
   ([0xff, 0xfe, 0x00, 0x00], .utf32 .little),
   ([0xfe, 0xff], .utf16 .big),
   ([0xff, 0xfe], .utf16 .little),
   ([0xef, 0xbb, 0xbf], .utf8)]

/-- The encoding that the zero bytes of JSON bytes without a mark announce. -/
def announcedByZeros (bytes : List UInt8) : Codec :=
  match bytes with
  | first :: second :: third :: fourth :: _ =>
      if first == 0 then (if second == 0 then .utf32 .big else .utf16 .big)
      else if second == 0 then
        (if third == 0 && fourth == 0 then .utf32 .little else .utf16 .little)
      else .utf8
  | [first, second] =>
      if first == 0 then .utf16 .big
      else if second == 0 then .utf16 .little
      else .utf8
  | _ => .utf8

/-- The encoding that JSON bytes announce by a mark or by their zero bytes, and the length of the
mark. -/
def announced (bytes : List UInt8) : Codec × Nat :=
  match byteOrderMarks.find? fun entry => entry.1.isPrefixOf bytes with
  | some (mark, codec) => (codec, mark.length)
  | none => (announcedByZeros bytes, 0)

/-- Decode bytes in the encoding they announce.  Positions in faults count the mark, except in
UTF-8, whose mark is taken off first. -/
def decodeAnnounced (bytes : List UInt8) : Except DecodeFault (List Char) :=
  match announced bytes with
  | (.utf8, skipped) => decodeWith .utf8 true (fun _ => none) 0 (bytes.drop skipped)
  | (codec, skipped) => decodeWith codec true (fun _ => none) skipped bytes

end Encoding
end Wordbook
