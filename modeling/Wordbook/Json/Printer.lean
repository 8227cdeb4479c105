import Wordbook.Json.Basic
import Wordbook.Number.Decimal
import Wordbook.Number.Layout
import Wordbook.Text.Hexadecimal

/-!
# JSON text

A value is written on one line or with two blanks of margin a level.  Characters outside ASCII stand
for themselves or are escaped, as the caller asks.
-/

namespace Wordbook
namespace Json

/-- How JSON text is set: on one line without blanks, or spread over lines. -/
inductive Layout where
  | compact
  | spread
deriving DecidableEq

/-- The escape of a sixteen-bit unit. -/
def unitEscape (unit : Nat) : List Char := '\\' :: 'u' :: Text.hexPadded 4 unit

/-- A character as it stands inside a JSON string. -/
def escapeChar (ascii : Bool) (char : Char) : List Char :=
  let code := char.toNat
  if code == 34 then ['\\', char]
  else if code == 92 then ['\\', '\\']
  else if code == 10 then ['\\', 'n']
  else if code == 13 then ['\\', 'r']
  else if code == 9 then ['\\', 't']
  else if code == 12 then ['\\', 'f']
  else if code == 8 then ['\\', 'b']
  else if code < 32 then unitEscape code
  else if ascii && code > 126 then
    if code < 0x10000 then unitEscape code
    else
      unitEscape (0xd800 + (code - 0x10000) / 1024) ++ unitEscape (0xdc00 + (code - 0x10000) % 1024)
  else [char]

/-- A JSON string with its quotes. -/
def stringChars (ascii : Bool) (text : String) : List Char :=
  Char.ofNat 34 :: text.toList.flatMap (escapeChar ascii) ++ [Char.ofNat 34]

/-- The text of a binary number; infinities and the value that is no number have names. -/
def floatChars (number : Float) : List Char :=
  match Number.shape number with
  | .finite _ => (Number.text number).toList
  | .infinite true => "-Infinity".toList
  | .infinite false => "Infinity".toList
  | .notANumber => "NaN".toList

/-- A line break and the margin of a level. -/
def newLine (layout : Layout) (level : Nat) : List Char :=
  match layout with
  | .compact => []
  | .spread => '\n' :: List.replicate (2 * level) ' '

/-- The mark between a name and its value. -/
def nameMark (layout : Layout) : List Char :=
  match layout with
  | .compact => [':']
  | .spread => [':', ' ']

mutual

/-- The text of a value that stands at a level. -/
def chars (ascii : Bool) (layout : Layout) (level : Nat) : Json → List Char
  | .null => "null".toList
  | .bool true => "true".toList
  | .bool false => "false".toList
  | .int value => (Number.decimalText value).toList
  | .float value => floatChars value
  | .str value => stringChars ascii value
  | .arr [] => ['[', ']']
  | .arr (item :: items) =>
      '[' :: newLine layout (level + 1) ++ chars ascii layout (level + 1) item ++
        itemsChars ascii layout (level + 1) items ++ newLine layout level ++ [']']
  | .obj [] => ['\x7b', '\x7d']
  | .obj ((name, value) :: members) =>
      '\x7b' :: newLine layout (level + 1) ++ stringChars ascii name ++ nameMark layout ++
        chars ascii layout (level + 1) value ++ membersChars ascii layout (level + 1) members ++
        newLine layout level ++ ['\x7d']

/-- The text of the items after the first. -/
def itemsChars (ascii : Bool) (layout : Layout) (level : Nat) : List Json → List Char
  | [] => []
  | item :: items =>
      ',' :: newLine layout level ++ chars ascii layout level item ++
        itemsChars ascii layout level items

/-- The text of the members after the first. -/
def membersChars (ascii : Bool) (layout : Layout) (level : Nat) : List (String × Json) → List Char
  | [] => []
  | (name, value) :: members =>
      ',' :: newLine layout level ++ stringChars ascii name ++ nameMark layout ++
        chars ascii layout level value ++ membersChars ascii layout level members

end

mutual

/-- The first integer in a value whose decimal text is too long. -/
def tooLongInt? : Json → Option Int
  | .int value => if Number.hasText value then none else some value
  | .arr items => tooLongIntOfItems? items
  | .obj members => tooLongIntOfMembers? members
  | _ => none

/-- The first integer in a list of values whose decimal text is too long. -/
def tooLongIntOfItems? : List Json → Option Int
  | [] => none
  | item :: items => (tooLongInt? item).or (tooLongIntOfItems? items)

/-- The first integer in a list of members whose decimal text is too long. -/
def tooLongIntOfMembers? : List (String × Json) → Option Int
  | [] => none
  | (_, value) :: members => (tooLongInt? value).or (tooLongIntOfMembers? members)

end

/-- The text of a value. -/
def print (layout : Layout) (value : Json) : String := String.ofList (chars false layout 0 value)

/-- The text of a value on one line in ASCII. -/
def printAscii (value : Json) : String := String.ofList (chars true .compact 0 value)

end Json
end Wordbook
