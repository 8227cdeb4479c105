import Wordbook.Issue
import Wordbook.Json.Display
import Wordbook.Text.Blank

/-!
# The lexicon

An alphabet and a greatest length determine a vocabulary: every token over the alphabet up to that
length, shorter ones first and those of one length in the order of the alphabet.
-/

namespace Wordbook

/-- An alphabet and the greatest length of a token. -/
structure Lexicon where
  alphabet : String
  maxLength : Nat
  alphabet_ne : alphabet ≠ ""
  maxLength_pos : 0 < maxLength
deriving DecidableEq

namespace Lexicon

/-- Build a lexicon from an alphabet and a length that are not checked yet. -/
def make (alphabet : String) (maxLength : Int) : Except Issue Lexicon :=
  if alphabet_ne : alphabet = "" then .error .emptyAlphabet
  else if maxLength_pos : 0 < maxLength.toNat then
    .ok ⟨alphabet, maxLength.toNat, alphabet_ne, maxLength_pos⟩
  else .error .invalidLength

/-- Characters without the repetitions, each where it first stands. -/
def distinct : List Char → List Char
  | [] => []
  | char :: rest => char :: (distinct rest).filter (· != char)

/-- An alphabet from any value: the distinct characters of its text. -/
def readAlphabet (value : Json) : Except Issue String :=
  if value.isTruthy then .ok (String.ofList (distinct value.plain.toList))
  else .error .emptyAlphabet

/-- A sign and decimal digits of any script make up the text. -/
def isCount (chars : List Char) : Bool :=
  let digits :=
    match chars with
    | '+' :: rest => rest
    | _ => chars
  !digits.isEmpty && digits.all Unicode.isDecimal

/-- The positive natural number that an integer is. -/
def positive? (value : Int) : Option Nat := if 0 < value then some value.toNat else none

/-- The positive natural number that a value denotes, if it does. -/
def lengthOf? : Json → Option Nat
  | .int value => positive? value
  | .float value =>
      match Number.shape value with
      | .finite parts => if parts.isIntegral then positive? parts.truncate else none
      | _ => none
  | .str text =>
      let trimmed := Text.trimBy Text.isBlank text.toList
      if isCount trimmed then
        match Number.readInt 10 trimmed with
        | .value value => positive? value
        | _ => none
      else none
  | _ => none

/-- Read a length from any value: a positive integer, a float equal to one, or its text. -/
def readLength (value : Json) : Except Issue Nat :=
  match lengthOf? value with
  | some length => .ok length
  | none => .error .invalidLength

/-- The sum of the next powers of a size, stopping once it passes the limit; the flag tells whether
the last length was reached. -/
def countFrom (size : Int) (limit : Option Int) : Nat → Int → Int → Int × Bool
  | 0, _, total => (total, true)
  | remaining + 1, level, total =>
      let nextLevel := level * size
      let nextTotal := total + nextLevel
      if limit.any (· < nextTotal) then (nextTotal, remaining == 0)
      else countFrom size limit remaining nextLevel nextTotal

/-- The size of a vocabulary, or a lower bound past the limit, and whether it is exact. -/
def count (size maxLength : Int) (limit : Option Int) : Int × Bool :=
  if size ≤ 1 then (size * maxLength, true) else countFrom size limit maxLength.toNat 1 0

/-- The words one letter longer than those given, grouped by the word they extend. -/
def extendWords (letters : List Char) (words : List (List Char)) : List (List Char) :=
  words.flatMap fun word => letters.map fun letter => word ++ [letter]

/-- The words of the next lengths, `words` being those of the length before. -/
def wordsFrom (letters : List Char) : Nat → List (List Char) → List (List Char)
  | 0, _ => []
  | remaining + 1, words =>
      let longer := extendWords letters words
      longer ++ wordsFrom letters remaining longer

/-- Every token over an alphabet up to a length, in canonical order. -/
def tokens (alphabet : String) (maxLength : Nat) : List String :=
  (wordsFrom alphabet.toList maxLength [[]]).map String.ofList

/-- Vocabularies larger than this are generated only when asked for again. -/
def threshold : Int := 10000

/-- The failure for a vocabulary beyond the threshold: it tells how many tokens there would be. -/
def excess (count : Int) (exact : Bool) : Failure :=
  if Number.hasText count then .issue (.tooManyTokens count exact)
  else .breach (.tooManyDigits none)

end Lexicon
end Wordbook
