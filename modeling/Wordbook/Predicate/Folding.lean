import Wordbook.Predicate.Operators

/-!
# Constants

An operation on constants is a constant too: its value is worked out before the program runs, so
that each evaluation gives one and the same value.  Operations that fail, or whose results would be
large, are left to the run.  A template with a tuple of values that are not all known turns into a
text with fields.
-/

namespace Wordbook
namespace Predicate
namespace Folding

/-- The most bits of an integer that is worked out. -/
def bitLimit : Nat := 128

/-- The most items of a tuple that is repeated. -/
def itemLimit : Nat := 256

/-- The most items of a repeated tuple, those of the tuples in it included. -/
def totalLimit : Nat := 1024

/-- The most characters of a text that is repeated. -/
def textLimit : Nat := 4096

/-- How many bits an integer has. -/
def bits (value : Int) : Nat := if value = 0 then 0 else value.natAbs.log2 + 1

mutual

/-- What is left of a limit when the items of a value are counted, those of the tuples in it
included; none if it is exceeded. -/
def withoutItems (limit : Nat) : Value → Option Nat
  | .tuple items _ =>
      if items.length ≤ limit then withoutAll (limit - items.length) items else none
  | _ => some limit

/-- What is left of a limit when the items of some values are counted. -/
def withoutAll (limit : Nat) : List Value → Option Nat
  | [] => some limit
  | value :: values =>
      match withoutItems limit value with
      | some left => withoutAll left values
      | none => none

end

/-- A sequence of a length may be repeated so often. -/
def mayRepeat (sequence : Value) (length limit : Nat) (count : Int) : Bool :=
  length == 0 ||
    (0 ≤ count && count ≤ (limit / length : Nat) &&
      (count == 0 || (withoutItems (totalLimit / count.toNat) sequence).isSome))

/-- A product is worked out. -/
def mayMultiply (left right : Value) : Bool :=
  match left.int?, right.int? with
  | some first, some second =>
      first == 0 || second == 0 || bits first + bits second ≤ bitLimit
  | some count, none | none, some count =>
      match if left.int?.isSome then right else left with
      | .tuple items mark => mayRepeat (.tuple items mark) items.length itemLimit count
      | .text text mark => mayRepeat (.text text mark) text.length textLimit count
      | .bytes bytes mark => mayRepeat (.bytes bytes mark) bytes.length textLimit count
      | _ => true
  | none, none => true

/-- An operation of two operands is worked out. -/
def mayApply (op : BinaryOp) (left right : Value) : Bool :=
  match op, left.int?, right.int? with
  | .multiply, _, _ => mayMultiply left right
  | .power, some first, some second =>
      first == 0 || second ≤ 0 || bits first ≤ bitLimit / second.toNat
  | .lShift, some first, some second =>
      first == 0 || second == 0 ||
        (0 ≤ second && second ≤ bitLimit && bits first ≤ bitLimit - second.toNat)
  | .modulo, _, _ =>
      match left with
      | .text _ _ | .bytes _ _ => false
      | _ => true
  | _, _, _ => true

/-- The result of an operation on constants, if it has one. -/
def result? (work : Work Value) : Option Value := (work.alone? .empty).map Prod.fst

/-- The value of an operation on a constant. -/
def unary? (op : UnaryOp) (operand : Value) : Option Value :=
  result? (Operators.unaryUnmarked op operand)

/-- The value of an operation on two constants. -/
def binary? (op : BinaryOp) (left right : Value) : Option Value :=
  if mayApply op left right then result? (Operators.binaryUnmarked op .plain left right) else none

/-- The item of a constant that another one names. -/
def item? (container key : Value) : Option Value :=
  match Heap.item #[] container key with
  | .ok found => some found
  | .error _ => none

/-- The values of items that are all constants. -/
def constants? (items : List Item) : Option (List Value) :=
  items.mapM fun item =>
    match item with
    | .one (.constant value) => some value
    | _ => none

/-- The digits of a number in a template, at most three of them, and the text after them. -/
def readCount? (chars : List Char) : Option (Option Nat × List Char) :=
  let digits := chars.takeWhile Number.isPlainDigit
  if digits.isEmpty then some (none, chars)
  else if 3 ≤ digits.length then none
  else
    some (some (Number.ofDigits 10 (digits.map fun digit => digit.toNat - 48)),
      chars.drop digits.length)

/-- The layout of a field for a width and a precision. -/
def layoutOf (left : Bool) (width precision : Option Nat) : List Char :=
  let arrow := if !left && width.any (· > 0) then ['>'] else []
  let shownWidth := (width.map (Nat.toDigits 10)).getD []
  let shownPrecision := (precision.map fun count => '.' :: Nat.toDigits 10 count).getD []
  arrow ++ shownWidth ++ shownPrecision

/-- The precision of a directive, and the text after it. -/
def readPrecision? : List Char → Option (Option Nat × List Char)
  | '.' :: more => do
      let (count, after) ← readCount? more
      return (some (count.getD 0), after)
  | chars => some (none, chars)

/-- The conversion that a letter in a directive stands for. -/
def conversion? : Char → Option Conversion
  | 's' => some .plain
  | 'r' => some .quoted
  | 'a' => some .ascii
  | _ => none

/-- A layout as part of a field, unless it is empty. -/
def specOf (layout : List Char) : Option Expr :=
  if layout.isEmpty then none else some (.constant (.text (String.ofList layout) .common))

/-- The field that a directive of a template stands for, after its percent sign. -/
def field? (value : Expr) (chars : List Char) : Option (Expr × List Char) := do
  let isFlag (char : Char) : Bool := [ '-', '+', ' ', '#', '0' ].contains char
  let flags := chars.takeWhile isFlag
  let (width, afterWidth) ← readCount? (chars.dropWhile isFlag)
  let (precision, rest) ← readPrecision? afterWidth
  let conversion ← rest.head?.bind conversion?
  let spec := specOf (layoutOf (flags.contains '-') width precision)
  return (.field value conversion spec, rest.tail)

/-- A piece of text, unless it is empty. -/
def literalPiece (taken : List Char) : List Expr :=
  if taken.isEmpty then [] else [.constant (.text (String.ofList taken.reverse) .common)]

/-- The pieces of a template with some values, if there is one for each of its directives; `taken`
holds the reversed text before, and `fuel` bounds the characters. -/
def piecesFrom? : (fuel : Nat) → (taken : List Char) → List Expr → List Char → Option (List Expr)
  | 0, _, _, _ => none
  | _ + 1, taken, [], [] => some (literalPiece taken)
  | _ + 1, _, _ :: _, [] => none
  | fuel + 1, taken, values, '%' :: '%' :: rest => piecesFrom? fuel ('%' :: taken) values rest
  | _ + 1, _, [], '%' :: _ => none
  | fuel + 1, taken, value :: values, '%' :: rest => do
      let (field, after) ← field? value rest
      return literalPiece taken ++ field :: (← piecesFrom? fuel [] values after)
  | fuel + 1, taken, values, char :: rest => piecesFrom? fuel (char :: taken) values rest

/-- The values of items, none of which is spread out. -/
def singles? : List Item → Option (List Expr)
  | [] => some []
  | .one value :: items => (singles? items).map (value :: ·)
  | .spread _ :: _ => none

/-- The text with fields that a template with a display of values stands for. -/
def template? (template : Value) (items : List Item) : Option Expr := do
  let values ← singles? items
  match template with
  | .text text _ => return .joined (← piecesFrom? (text.length + 1) [] values text.toList)
  | _ => none

end Folding
end Predicate
end Wordbook
