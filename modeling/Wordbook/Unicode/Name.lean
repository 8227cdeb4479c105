import Wordbook.Unicode.NameTable
import Wordbook.Unicode.Ranges

/-!
# Finding characters by name

Most characters are named by a table, ideographs by their code point, and Hangul syllables by the
sounds they are made of.  Names in the table are found in letters of either case, the others in
capitals only.
-/

namespace Wordbook
namespace Unicode

/-- The characters that a character of a table of names stands for. -/
def unpackedName (char : Char) : List Char :=
  if char.isAlphanum then [char]
  else
    match nameMarks.lookup char with
    | some text => text.toList
    | none => [char]

/-- The code point that a word starts with, if it has one, and the rest of the word. -/
def splitCode (word : String) : Option Nat × List Char :=
  match word.splitOn "=" with
  | [code, rest] => (some (hexCode code), rest.toList)
  | _ => (none, word.toList)

/-- The name that a word stands for behind another name. -/
def nameBehind (before word : List Char) : List Char :=
  let shared := (word.takeWhile Char.isLower).foldl (fun count digit =>
    count * 26 + (digit.toNat - 97)) 0
  before.take shared ++ (word.dropWhile Char.isLower).flatMap unpackedName

/-- The first character of a row of names that a test of the code point and the name finds; without
one, the next code point and the name of the last character. -/
def findInRow (test : Nat → List Char → Bool) (next : Nat) (before : List Char) :
    List String → Except (Nat × List Char) (Nat × List Char)
  | [] => .error (next, before)
  | word :: words =>
      let (code?, rest) := splitCode word
      let code := code?.getD next
      let name := nameBehind before rest
      if test code name then .ok (code, name) else findInRow test (code + 1) name words

/-- The first character of some rows of names that a test of the code point and the name finds. -/
def findInRows (test : Nat → List Char → Bool) (next : Nat) (before : List Char) :
    List String → Except (Nat × List Char) (Nat × List Char)
  | [] => .error (next, before)
  | row :: rows =>
      match findInRow test next before (row.splitOn " ") with
      | .ok found => .ok found
      | .error (code, name) => findInRows test code name rows

/-- The first character of the table of names that a test of the code point and the name finds. -/
def findNamed (test : Nat → List Char → Bool) : Option (Nat × List Char) :=
  match nameRows.foldlM (fun (next, before) rows =>
      match findInRows test next before rows with
      | .ok found => Except.error found
      | .error state => .ok state) ((0, []) : Nat × List Char) with
  | .error found => some found
  | .ok _ => none

/-- The aliases in order, each with its code point. -/
def aliases : List (Nat × List Char) :=
  (aliasRows.flatMap fun row => row.splitOn " ").filterMap fun word =>
    match word.splitOn "=" with
    | [code, name] => some (hexCode code, name.toList)
    | _ => none

/-- The families of characters that are named after their code points: the start of the name, and
the first and the last code point of each run. -/
def numberedFamilies : List (String × List (Nat × Nat)) := [
  ("CJK_COMPATIBILITY_IDEOGRAPH-",
    [(0xf900, 0xfa6d), (0xfa70, 0xfad9), (0x2f800, 0x2fa1d)]),
  ("KHITAN_SMALL_SCRIPT_CHARACTER-", [(0x18b00, 0x18cd5)]),
  ("NUSHU_CHARACTER-", [(0x1b170, 0x1b2fb)])]

/-- The start of the name of an ideograph. -/
def ideographStart : String := "CJK_UNIFIED_IDEOGRAPH-"

/-- The runs of ideographs. -/
def ideographs : List (Nat × Nat) := [
  (0x3400, 0x4dbf), (0x4e00, 0x9fff), (0x20000, 0x2a6df), (0x2a700, 0x2b738), (0x2b740, 0x2b81d),
  (0x2b820, 0x2cea1), (0x2ceb0, 0x2ebe0), (0x30000, 0x3134a)]

/-- A code point is in one of some runs. -/
def inRuns (runs : List (Nat × Nat)) (code : Nat) : Bool :=
  runs.any fun run => run.1 ≤ code && code ≤ run.2

/-- A code point in hexadecimal digits, four at least. -/
def codeDigits (code : Nat) : List Char :=
  let digits := (Nat.toDigits 16 code).map Char.toUpper
  List.replicate (4 - digits.length) '0' ++ digits

/-- The code point that hexadecimal digits in capitals denote, if they are the digits of one. -/
def codeOfDigits? (digits : List Char) : Option Nat :=
  if (digits.length == 4 || digits.length == 5) &&
      digits.all fun digit => digit.isDigit || (65 ≤ digit.toNat && digit.toNat ≤ 70) then
    some (hexCode (String.ofList digits))
  else none

/-- The sounds that a Hangul syllable starts with. -/
def leadingSounds : List String :=
  ["G", "GG", "N", "D", "DD", "R", "M", "B", "BB", "S", "SS", "", "J", "JJ", "C", "K", "T", "P",
    "H"]

/-- The sounds in the middle of a Hangul syllable. -/
def middleSounds : List String :=
  ["A", "AE", "YA", "YAE", "EO", "E", "YEO", "YE", "O", "WA", "WAE", "OE", "YO", "U", "WEO", "WE",
    "WI", "YU", "EU", "YI", "I"]

/-- The sounds that a Hangul syllable ends with. -/
def trailingSounds : List String :=
  ["", "G", "GG", "GS", "N", "NJ", "NH", "D", "L", "LG", "LM", "LB", "LS", "LT", "LP", "LH", "M",
    "B", "BS", "S", "SS", "NG", "J", "C", "K", "T", "P", "H"]

/-- The place of the longest of some sounds that a text starts with, and the text after it. -/
def takeSound (sounds : List String) (chars : List Char) : Option (Nat × List Char) :=
  let longest := sounds.zipIdx.foldl (fun best (sound, place) =>
    if sound.toList.isPrefixOf chars &&
        (best.all fun (other : Nat × Nat) => other.2 < sound.length) then
      some (place, sound.length)
    else best) none
  longest.map fun (place, length) => (place, chars.drop length)

/-- The start of the name of a Hangul syllable. -/
def hangulStart : String := "HANGUL_SYLLABLE_"

/-- The Hangul syllable of some sounds. -/
def hangulOfSounds? (chars : List Char) : Option Nat := do
  let (leading, afterLeading) ← takeSound leadingSounds chars
  let (middle, afterMiddle) ← takeSound middleSounds afterLeading
  let (trailing, rest) ← takeSound trailingSounds afterMiddle
  if rest.isEmpty then some (0xac00 + (leading * 21 + middle) * 28 + trailing) else none

/-- The sounds of a Hangul syllable. -/
def soundsOfHangul (code : Nat) : List Char :=
  let index := code - 0xac00
  ((leadingSounds.getD (index / 588) "") ++ (middleSounds.getD (index % 588 / 28) "") ++
    trailingSounds.getD (index % 28) "").toList

/-- A text behind a start that it has. -/
def behind? (start : String) (chars : List Char) : Option (List Char) :=
  if start.toList.isPrefixOf chars then some (chars.drop start.length) else none

/-- Underscores and blanks changed for each other, in which the tables differ from names. -/
def swapBlanks (chars : List Char) : List Char :=
  chars.map fun char => if char == ' ' then '_' else if char == '_' then ' ' else char

/-- The code point with a name that is in one of the tables, or in a family of numbered names. -/
def codeInTables? (name : List Char) : Option Nat :=
  let numbered := numberedFamilies.findSome? fun (start, runs) => do
    let digits ← behind? start name
    let code ← codeOfDigits? digits
    if inRuns runs code && codeDigits code == digits then some code else none
  numbered.or
    ((aliases.find? fun entry => entry.2 == name).map Prod.fst |>.or
      ((findNamed fun _ found => found == name).map Prod.fst))

/-- The character of a name. -/
def charNamed? (name : List Char) : Option Char :=
  let packed := swapBlanks name
  let code? :=
    match behind? hangulStart packed, behind? ideographStart packed with
    | some sounds, _ => hangulOfSounds? sounds
    | none, some digits => (codeOfDigits? digits).filter (inRuns ideographs)
    | none, none => codeInTables? (packed.map Char.toUpper)
  code?.map Char.ofNat

/-- The first code point of a private area whose characters are shown by the aliases in order. -/
def aliasArea : Nat := 0xf0000

/-- The name of a character that is to be written by its name. -/
def nameOf? (char : Char) : Option (List Char) :=
  let code := char.toNat
  let packed : Option (List Char) :=
    if 0xac00 ≤ code && code ≤ 0xd7a3 then some (hangulStart.toList ++ soundsOfHangul code)
    else if inRuns ideographs code then some (ideographStart.toList ++ codeDigits code)
    else if aliasArea ≤ code then (aliases[code - aliasArea]?).map Prod.snd
    else
      match numberedFamilies.find? fun family => inRuns family.2 code with
      | some (start, _) => some (start.toList ++ codeDigits code)
      | none => (findNamed fun found _ => found == code).map Prod.snd
  packed.map swapBlanks

end Unicode
end Wordbook
