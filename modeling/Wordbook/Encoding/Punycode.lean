import Wordbook.Encoding.Handling

/-!
# Text as basic characters and insertions

The basic characters of a text stand first.  Behind them each other character is given by the number
of states that are passed until it is inserted: the states go through all places of the text so far,
and then to the next code point.  The numbers are written in digits whose weights adapt to the
numbers before.
-/

namespace Wordbook
namespace Encoding
namespace Punycode

/-- The threshold of a digit at a place under a bias. -/
def threshold (place bias : Nat) : Nat :=
  let found := 36 * (place + 1) - bias
  if found < 1 then 1 else if found > 26 then 26 else found

/-- A number divided until it is small; `fuel` bounds the divisions, which are counted. -/
def shrink : (fuel divisions delta : Nat) → Nat × Nat
  | 0, divisions, delta => (divisions, delta)
  | fuel + 1, divisions, delta =>
      if delta > 455 then shrink fuel (divisions + 36) (delta / 35) else (divisions, delta)

/-- The bias after a number. -/
def adapt (delta : Nat) (first : Bool) (count : Nat) : Nat :=
  let damped := if first then delta / 700 else delta / 2
  let spread := damped + damped / count
  let (divisions, small) := shrink (spread.log2 + 1) 0 spread
  divisions + 36 * small / (small + 38)

/-- The initial bias. -/
def firstBias : Nat := 72

/-- The digit of a value. -/
def digitOf (value : Nat) : UInt8 :=
  UInt8.ofNat (if value < 26 then 97 + value else 22 + value)

/-- The digits of a number from a place on; `fuel` bounds them. -/
def digitsFrom (bias : Nat) : (fuel place number : Nat) → List UInt8
  | 0, _, _ => []
  | fuel + 1, place, number =>
      let least := threshold place bias
      if number < least then [digitOf number]
      else
        let base := 36 - least
        digitOf (least + (number - least) % base) ::
          digitsFrom bias fuel (place + 1) ((number - least) / base)

/-- The digits of a number under a bias. -/
def digits (bias number : Nat) : List UInt8 := digitsFrom bias (number.log2 + 2) 0 number

/-- The places of a code point in a text, each counted among the code points that are not
greater. -/
def placesOf (code : Nat) (codes : List Nat) : List Nat :=
  ((codes.filter (· ≤ code)).zipIdx.filter fun entry => entry.1 == code).map Prod.snd

/-- How far the states have come: the code point, and the place of the last insertion. -/
structure State where
  code : Nat
  place : Int
  deltas : List Nat

/-- The numbers for a code point and its places, put before the reversed ones so far. -/
def State.insert (codes : List Nat) (state : State) (code : Nat) : State :=
  let smaller := (codes.filter (· < code)).length
  let passed := (smaller + 1) * (code - state.code)
  let start : State × Nat := ({ state with code := code }, passed)
  ((placesOf code codes).foldl (fun (found, extra) place =>
    (⟨code, place, (extra + (place - found.place) - 1 : Int).toNat :: found.deltas⟩, 0)) start).1

/-- The numbers for the characters of a text that are not basic. -/
def deltasOf (codes : List Nat) : List Nat :=
  let others := (codes.filter (128 ≤ ·)).mergeSort.eraseDups
  (others.foldl (State.insert codes) ⟨128, -1, []⟩).deltas.reverse

/-- The digits of numbers in turn. -/
def writeDeltas (basics : Nat) (bias count : Nat) : List Nat → List UInt8
  | [] => []
  | delta :: rest =>
      digits bias delta ++
        writeDeltas basics (adapt delta (count == 0) (basics + count + 1)) (count + 1) rest

/-- The bytes of a text. -/
def encode (chars : List Char) : List UInt8 :=
  let codes := chars.map Char.toNat
  let basics := codes.filter (· < 128)
  let written := writeDeltas basics.length firstBias 0 (deltasOf codes)
  if basics.isEmpty then written else basics.map UInt8.ofNat ++ 45 :: written

/-- Why insertions cannot be read. -/
inductive Misreading where
  | incomplete
  | badDigit (char : Char)
  | outside (code : Nat)

/-- The words for why insertions cannot be read. -/
def Misreading.message : Misreading → String
  | .incomplete => "incomplete punicode string"
  | .badDigit char => "Invalid extended code point '" ++ String.singleton char ++ "'"
  | .outside code => "Invalid character U+" ++ String.ofList (Nat.toDigits 16 code)

/-- The value of a digit in capitals. -/
def valueOf? (char : Char) : Option Nat :=
  let code := char.toNat
  if 65 ≤ code && code ≤ 90 then some (code - 65)
  else if 48 ≤ code && code ≤ 57 then some (code - 22)
  else none

/-- Read a number: `weight` is the weight of the next digit. -/
def readNumber (bias : Nat) :
    (place weight found : Nat) → List Char → Except Misreading (Nat × List Char)
  | _, _, _, [] => .error .incomplete
  | place, weight, found, char :: rest =>
      match valueOf? char with
      | none => .error (.badDigit char)
      | some value =>
          let least := threshold place bias
          let total := found + value * weight
          if value < least then .ok (total, rest)
          else readNumber bias (place + 1) (weight * (36 - least)) total rest

/-- Insert characters as numbers tell; `fuel` bounds the numbers.  If not all of it must be read,
reading ends at what is wrong. -/
def insertAll (strict first : Bool) :
    (fuel bias code : Nat) → (place : Int) → List Char → List Char → Except Misreading (List Char)
  | 0, _, _, _, text, _ => .ok text
  | _ + 1, _, _, _, text, [] => .ok text
  | fuel + 1, bias, code, place, text, digits =>
      match readNumber bias 0 1 0 digits with
      | .error reason => if strict then .error reason else .ok text
      | .ok (delta, rest) =>
          let length := text.length + 1
          let reached := (place + delta + 1).toNat
          let next := code + reached / length
          if strict && next > 0x10ffff then .error (.outside next)
          else
            let shown := if next > 0x10ffff then '?'.toNat else next
            let here := reached % length
            insertAll strict false fuel (adapt delta first length) shown here
              (text.take here ++ Text.charOf shown :: text.drop here) rest

/-- The bytes before the last hyphen and those behind it. -/
def splitLast (bytes : List UInt8) : List UInt8 × List UInt8 :=
  let behind := bytes.reverse.takeWhile (· != 45)
  if behind.length = bytes.length then ([], bytes)
  else (bytes.take (bytes.length - behind.length - 1), behind.reverse)

/-- The text of bytes under a rule, which may be strict, replace or ignore. -/
def decode (handling : Handling) (bytes : List UInt8) : Except CodingFault (List Char) := do
  let (basics, insertions) := splitLast bytes
  let text ← (decodeWith .ascii false handling.rescue? 0 basics).mapError .decoding
  let digits ← (Encoding.decode .ascii insertions).mapError .decoding
  (insertAll (handling == .strict) true (digits.length + 1) firstBias 128 (-1) text
    (digits.map Char.toUpper)).mapError fun reason => .other reason.message

end Punycode
end Encoding
end Wordbook
