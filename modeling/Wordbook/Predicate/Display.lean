import Wordbook.Number.Layout
import Wordbook.Predicate.Equality
import Wordbook.Text.Pieces
import Wordbook.Text.Quoted

/-!
# Values as text

A value is shown as a program would write it, text and bytes between quotes and containers in their
brackets; a container inside itself is cut short.  Text alone stands for itself.
-/

namespace Wordbook
namespace Predicate

/-- The decimal characters of an integer, if there are not too many. -/
def intChars (value : Int) : Except Fault (List Char) :=
  match Number.decimalText? value with
  | some text => .ok text.toList
  | none => .error (.tooManyDigits none)

/-- A float with its sign, as a part of a complex number. -/
def partChars (number : Float) (sign : Bool) : List Char :=
  let bare := (Number.bareText number).toList
  if sign && !Number.writtenNegative number then '+' :: bare else bare

/-- A complex number: the imaginary part alone if the real one is zero, else both in parentheses. -/
def complexChars (real imaginary : Float) : List Char :=
  if Number.isZero real && !Number.isNegative real then partChars imaginary false ++ ['j']
  else '(' :: partChars real false ++ partChars imaginary true ++ ['j', ')']

/-- Shown values with commas between them. -/
def listed (items : List (List Char)) : List Char :=
  Text.joinWith [',', ' '] items

/-- A shown value between brackets. -/
def enclosed (opening : String) (body : List Char) (closing : String) : List Char :=
  opening.toList ++ body ++ closing.toList

namespace Heap

/-- A value that is shown inside itself is cut short. -/
def cutShort : Value → List Char
  | .list _ => "[...]".toList
  | .dict _ => "\x7b...\x7d".toList
  | .tuple _ _ => "(...)".toList
  | .view _ _ _ => "...".toList
  | value => (value.label ++ "(...)").toList

/-- The parts of a container as they are shown, unless it is one of the containers around it. -/
def within (inner : (inside : List Value) → Value → Except Fault (List Char)) (inside : List Value)
    (container : Value) (parts : (Value → Except Fault (List Char)) → Except Fault (List Char)) :
    Except Fault (List Char) :=
  if inside.any container.same then .ok (cutShort container)
  else parts (inner (container :: inside))

/-- A value as it is shown, with a function that shows the values in it; `inside` holds the
containers around it. -/
def shownWith (heap : Heap) (inner : (inside : List Value) → Value → Except Fault (List Char))
    (inside : List Value) (value : Value) : Except Fault (List Char) :=
  match value with
  | .nothing => .ok "None".toList
  | .bool value => .ok (if value then "True" else "False").toList
  | .int value _ => intChars value
  | .float value _ => .ok (Number.text value).toList
  | .complex real imaginary _ => .ok (complexChars real imaginary)
  | .text text _ => .ok (Text.quoteChars text.toList)
  | .bytes bytes _ => .ok (Text.quotedBytes bytes).toList
  | .tuple [] _ => .ok "()".toList
  | .tuple [item] _ => within inner inside value fun shownItem => do
      return enclosed "(" (← shownItem item) ",)"
  | .tuple items _ => within inner inside value fun shownItem => do
      return enclosed "(" (listed (← items.mapM shownItem)) ")"
  | .frozen [] _ => .ok "frozenset()".toList
  | .frozen items _ => within inner inside value fun shownItem => do
      return enclosed "frozenset(\x7b" (listed (← items.mapM shownItem)) "\x7d)"
  | .range start stop step _ => do
      let bounds := if step = 1 then [start, stop] else [start, stop, step]
      return enclosed "range(" (listed (← bounds.mapM intChars)) ")"
  | .slice lower upper step =>
      return enclosed "slice(" (listed (← [lower, upper, step].mapM (inner inside))) ")"
  | .ellipsis => .ok "Ellipsis".toList
  | .type denoted => .ok ("<class '" ++ denoted.label ++ "'>").toList
  | .union members _ => do
      let shown ← members.mapM fun member =>
        match member with
        | .type denoted => .ok denoted.label.toList
        | other => inner inside other
      return Text.joinWith " | ".toList shown
  | .applied starred origin arguments _ => do
      let shown ← arguments.mapM fun argument =>
        match argument with
        | .type denoted => .ok denoted.label.toList
        | .ellipsis => .ok "...".toList
        | other => inner inside other
      return enclosed ((if starred then "*" else "") ++ origin.label ++ "[")
        (if shown.isEmpty then "()".toList else listed shown) "]"
  | .function named => .ok ("<built-in function " ++ named.label ++ ">").toList
  | .method receiver name _ =>
      .ok ("<built-in method " ++ name ++ " of " ++ receiver.label ++ " object>").toList
  | .descriptor owner name =>
      .ok ("<method '" ++ name ++ "' of '" ++ owner.label ++ "' objects>").toList
  | .property owner name =>
      .ok ("<attribute '" ++ name ++ "' of '" ++ owner.label ++ "' objects>").toList
  | .list address =>
      within inner inside value fun shownItem => do
        return enclosed "[" (listed (← (heap.list address).toList.mapM shownItem)) "]"
  | .dict address =>
      within inner inside value fun shownItem => do
        let items ← (heap.dict address).entries.mapM fun entry => do
          let key ← shownItem entry.key
          return key ++ [':', ' '] ++ (← shownItem entry.value)
        return enclosed "\x7b" (listed items) "\x7d"
  | .set address =>
      match (heap.set address).keys with
      | [] => .ok "set()".toList
      | keys =>
          within inner inside value fun shownItem => do
            return enclosed "\x7b" (listed (← keys.mapM shownItem)) "\x7d"
  | .view aspect address _ =>
      within inner inside value fun shownItem => do
        let items ← (heap.dict address).entries.mapM fun entry => shownItem (entry.aspect aspect)
        return enclosed (value.label ++ "([") (listed items) "])"
  | .iterator kind _ => .ok ("<" ++ kind.label ++ " object>").toList

/-- A value nested at most so deep as it is shown. -/
def shownAt (heap : Heap) : Nat → (inside : List Value) → Value → Except Fault (List Char)
  | 0, _, _ => .error (.tooDeep "while getting the repr of an object")
  | depth + 1, inside, value => heap.shownWith (heap.shownAt depth) inside value

/-- A value as it is shown inside another one. -/
def shown (heap : Heap) (value : Value) : Except Fault (List Char) :=
  heap.shownAt nestingLimit [] value

/-- A value as text. -/
def plain (heap : Heap) : Value → Except Fault (List Char)
  | .text text _ => .ok text.toList
  | value => heap.shown value

/-- A value as a text value: text stays itself, and the names of the truth values are common. -/
def plainText (heap : Heap) (value : Value) : Except Fault Value := do
  match value with
  | .text _ _ => return value
  | .bool _ => return (Value.ofChars (← heap.plain value)).withMark .common
  | _ => return .ofCharsApart (← heap.plain value)

/-- A character in ASCII. -/
def asciiChar (char : Char) : List Char :=
  if char.toNat < 128 then [char] else Text.escapedCode char.toNat

/-- A value as it is shown in ASCII. -/
def shownAscii (heap : Heap) (value : Value) : Except Fault (List Char) :=
  return (← heap.shown value).flatMap asciiChar

/-- The words for what stopped a program; those for a missing key show the key. -/
def words (heap : Heap) : Stop → Except Fault String
  | .unbound name place => .ok (Stop.unboundWords name place)
  | .failed (.missingKey key) => return String.ofList (← heap.shown key)
  | .failed (.other _ why) => .ok why

end Heap
end Predicate
end Wordbook
