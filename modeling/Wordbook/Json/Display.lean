import Wordbook.Issue
import Wordbook.Json.Basic
import Wordbook.Number.Layout
import Wordbook.Text.Quoted

/-!
# Values shown in messages

A value inside a message has capital words for null and the truth values, quoted text, and brackets
with a blank after every comma.  Text on its own is shown without quotes.
-/

namespace Wordbook
namespace Json

/-- The name of a value's type in messages. -/
def typeName : Json → String
  | .null => "NoneType"
  | .bool _ => "bool"
  | .int _ => "int"
  | .float _ => "float"
  | .str _ => "str"
  | .arr _ => "list"
  | .obj _ => "dict"

mutual

/-- A value as it is shown inside another one. -/
def shownChars : Json → List Char
  | .null => "None".toList
  | .bool true => "True".toList
  | .bool false => "False".toList
  | .int value => (Number.decimalText value).toList
  | .float value => (Number.text value).toList
  | .str value => Text.quoteChars value.toList
  | .arr [] => ['[', ']']
  | .arr (item :: items) => '[' :: shownChars item ++ shownItems items ++ [']']
  | .obj [] => ['\x7b', '\x7d']
  | .obj ((name, value) :: members) =>
      '\x7b' :: Text.quoteChars name.toList ++ ':' :: ' ' :: shownChars value ++
        shownMembers members ++ ['\x7d']

/-- The items after the first, as they are shown. -/
def shownItems : List Json → List Char
  | [] => []
  | item :: items => ',' :: ' ' :: shownChars item ++ shownItems items

/-- The members after the first, as they are shown. -/
def shownMembers : List (String × Json) → List Char
  | [] => []
  | (name, value) :: members =>
      ',' :: ' ' :: Text.quoteChars name.toList ++ ':' :: ' ' :: shownChars value ++
        shownMembers members

end

/-- A value with quotes if it is text. -/
def shown (value : Json) : String := String.ofList (shownChars value)

/-- A value as text: text stands for itself. -/
def plain : Json → String
  | .str value => value
  | value => shown value

/-- How deep values may be nested in each other to be shown. -/
def displayLimit : Nat := 985

mutual

/-- What keeps a value from being shown when so many levels are left: it is nested too deep, or an
integer in it has too many digits. -/
def obstacle? : Nat → Json → Option Breach
  | 0, _ => some .tooDeep
  | _ + 1, .int value => if Number.hasText value then none else some (.tooManyDigits none)
  | room + 1, .arr items => obstacleInItems? room items
  | room + 1, .obj members => obstacleInMembers? room members
  | _ + 1, _ => none

/-- What keeps the first of some values from being shown that is kept from it. -/
def obstacleInItems? (room : Nat) : List Json → Option Breach
  | [] => none
  | item :: items => (obstacle? room item).or (obstacleInItems? room items)

/-- What keeps the value of the first of some members from being shown that is kept from it. -/
def obstacleInMembers? (room : Nat) : List (String × Json) → Option Breach
  | [] => none
  | (_, value) :: members => (obstacle? room value).or (obstacleInMembers? room members)

end

/-- A value as text, if it can be shown. -/
def written (value : Json) : Except Breach String :=
  match obstacle? displayLimit value with
  | some breach => .error breach
  | none => .ok value.plain

end Json
end Wordbook
