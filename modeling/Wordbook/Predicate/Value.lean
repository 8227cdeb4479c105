import Wordbook.Predicate.Node

/-!
# Values

The values that a program computes with.  Lists, dictionaries, sets and iterators can change: they
live in cells of a heap, and a value only tells the address of its cell.  The other values carry a
mark that tells two equal ones apart when they were made apart.
-/

namespace Wordbook
namespace Predicate

/-- The types of values. -/
inductive ValueType where
  | nothing
  | bool
  | int
  | float
  | complex
  | text
  | bytes
  | tuple
  | list
  | dict
  | set
  | frozenset
  | range
  | slice
  | ellipsis
  | type
  | union
  | «alias»
  | function
  | method
  | property
  | keyView
  | valueView
  | pairView
  | listIterator
  | listReversal
  | rangeIterator
  | longRangeIterator
  | plainIterator
  | setIterator
  | keyIterator
  | valueIterator
  | pairIterator
  | keyReversal
  | valueReversal
  | pairReversal
  | reversal
  | enumeration
  | zip
  | map
  | filter
  | generator
  | asyncGenerator
deriving DecidableEq

/-- The name of a type. -/
def ValueType.label : ValueType → String
  | .nothing => "NoneType"
  | .bool => "bool"
  | .int => "int"
  | .float => "float"
  | .complex => "complex"
  | .text => "str"
  | .bytes => "bytes"
  | .tuple => "tuple"
  | .list => "list"
  | .dict => "dict"
  | .set => "set"
  | .frozenset => "frozenset"
  | .range => "range"
  | .slice => "slice"
  | .ellipsis => "ellipsis"
  | .type => "type"
  | .union => "types.UnionType"
  | .«alias» => "types.GenericAlias"
  | .function => "builtin_function_or_method"
  | .method => "method_descriptor"
  | .property => "getset_descriptor"
  | .keyView => "dict_keys"
  | .valueView => "dict_values"
  | .pairView => "dict_items"
  | .listIterator => "list_iterator"
  | .listReversal => "list_reverseiterator"
  | .rangeIterator => "range_iterator"
  | .longRangeIterator => "longrange_iterator"
  | .plainIterator => "iterator"
  | .setIterator => "set_iterator"
  | .keyIterator => "dict_keyiterator"
  | .valueIterator => "dict_valueiterator"
  | .pairIterator => "dict_itemiterator"
  | .keyReversal => "dict_reversekeyiterator"
  | .valueReversal => "dict_reversevalueiterator"
  | .pairReversal => "dict_reverseitemiterator"
  | .reversal => "reversed"
  | .enumeration => "enumerate"
  | .zip => "zip"
  | .map => "map"
  | .filter => "filter"
  | .generator => "generator"
  | .asyncGenerator => "async_generator"

/-- The functions that a program may name. -/
inductive Function where
  | abs
  | all
  | any
  | chr
  | divmod
  | isinstance
  | len
  | max
  | min
  | ord
  | round
  | sorted
  | sum
deriving DecidableEq

/-- The name of a function. -/
def Function.label : Function → String
  | .abs => "abs"
  | .all => "all"
  | .any => "any"
  | .chr => "chr"
  | .divmod => "divmod"
  | .isinstance => "isinstance"
  | .len => "len"
  | .max => "max"
  | .min => "min"
  | .ord => "ord"
  | .round => "round"
  | .sorted => "sorted"
  | .sum => "sum"

/-- What a view of a dictionary, or a walk over one, shows of each pair. -/
inductive Aspect where
  | keys
  | values
  | pairs
deriving DecidableEq

/-- What tells a value from others that are equal to it.  Equal values with the common mark are one
and the same.  A value that a run makes gets a number of its own; until then its mark is not set, or
says that it stays apart even where equal values are one.  A constant of the program that is not
equal to itself is numbered among those that are written there. -/
inductive Mark where
  | common
  | unset
  | apart
  | own (number : Nat)
  | written (number : Nat)
deriving DecidableEq, Inhabited

/-- The mark of a value that was just made. -/
def Mark.fresh : Mark := .unset

/-- Two marks are one number, so what they mark is one value. -/
def Mark.meets : Mark → Mark → Bool
  | .own left, .own right | .written left, .written right => left == right
  | _, _ => false

/-- Two marks are common, so what they mark is one value if it is equal. -/
def Mark.areCommon : Mark → Mark → Bool
  | .common, .common => true
  | _, _ => false

/-- Values.  A method is an operation bound to its receiver, and a descriptor one that is not bound
yet.  An applied type that was taken out of itself by a star is starred. -/
inductive Value where
  | nothing
  | bool (value : Bool)
  | int (value : Int) (mark : Mark := Mark.fresh)
  | float (value : Float) (mark : Mark := Mark.fresh)
  | complex (real imaginary : Float) (mark : Mark := Mark.fresh)
  | text (text : String) (mark : Mark := Mark.fresh)
  | bytes (bytes : List UInt8) (mark : Mark := Mark.fresh)
  | tuple (items : List Value) (mark : Mark := Mark.fresh)
  | frozen (items : List Value) (mark : Mark := Mark.fresh)
  | range (start stop step : Int) (mark : Mark := Mark.fresh)
  | slice (lower upper step : Value)
  | ellipsis
  | type (denoted : ValueType)
  | union (members : List Value) (mark : Mark := Mark.fresh)
  | applied (starred : Bool) (origin : ValueType) (arguments : List Value)
      (mark : Mark := Mark.fresh)
  | function (function : Function)
  | method (receiver : Value) (name : String) (mark : Mark := Mark.fresh)
  | descriptor (owner : ValueType) (name : String)
  | property (owner : ValueType) (name : String)
  | list (address : Nat)
  | dict (address : Nat)
  | set (address : Nat)
  | view (aspect : Aspect) (address : Nat) (mark : Mark := Mark.fresh)
  | iterator (kind : ValueType) (address : Nat)
deriving Inhabited

namespace Value

/-- The type of a value. -/
def typeOf : Value → ValueType
  | nothing => .nothing
  | bool _ => .bool
  | int _ _ => .int
  | float _ _ => .float
  | complex _ _ _ => .complex
  | text _ _ => .text
  | bytes _ _ => .bytes
  | tuple _ _ => .tuple
  | frozen _ _ => .frozenset
  | range _ _ _ _ => .range
  | slice _ _ _ => .slice
  | ellipsis => .ellipsis
  | type _ => .type
  | union _ _ => .union
  | applied _ _ _ _ => .«alias»
  | function _ => .function
  | method _ _ _ => .function
  | descriptor _ _ => .method
  | property _ _ => .property
  | list _ => .list
  | dict _ => .dict
  | set _ => .set
  | view .keys _ _ => .keyView
  | view .values _ _ => .valueView
  | view .pairs _ _ => .pairView
  | iterator kind _ => kind

/-- The name of the type of a value. -/
def label (value : Value) : String := value.typeOf.label

/-- The mark of a value, if it can have one. -/
def mark? : Value → Option Mark
  | int _ mark | float _ mark | complex _ _ mark | text _ mark | bytes _ mark | tuple _ mark
  | frozen _ mark | range _ _ _ mark | union _ mark | applied _ _ _ mark | method _ _ mark
  | view _ _ mark => some mark
  | _ => none

/-- A value with another mark. -/
def withMark (mark : Mark) : Value → Value
  | int value _ => int value mark
  | float value _ => float value mark
  | complex real imaginary _ => complex real imaginary mark
  | text chars _ => text chars mark
  | bytes content _ => bytes content mark
  | tuple items _ => tuple items mark
  | frozen items _ => frozen items mark
  | range start stop step _ => range start stop step mark
  | union members _ => union members mark
  | applied starred origin arguments _ => applied starred origin arguments mark
  | method receiver name _ => method receiver name mark
  | view aspect address _ => view aspect address mark
  | value => value

/-- All values equal to this one are one and the same: small integers, text of one character at most
that is not far up in the code, a byte or none, and the tuple without items. -/
def isCommon : Value → Bool
  | int value _ => -5 ≤ value && value ≤ 256
  | text chars _ => chars.isEmpty || (chars.utf8ByteSize ≤ 2 && chars.length == 1 &&
      chars.toList.all fun char => char.toNat < 256)
  | bytes [] _ | bytes [_] _ | tuple [] _ => true
  | _ => false

/-- A value that has not got its mark yet. -/
def isUnmarked (value : Value) : Bool :=
  match value.mark? with
  | some .unset | some .apart => true
  | _ => false

mutual

/-- A value is not equal to itself, or holds one that is not. -/
def isNumberless : Value → Bool
  | float value _ => value != value
  | complex real imaginary _ => real != real || imaginary != imaginary
  | tuple items _ => anyNumberless items
  | _ => false

/-- One of some values is not equal to itself, or holds one that is not. -/
def anyNumberless : List Value → Bool
  | [] => false
  | value :: values => value.isNumberless || anyNumberless values

end

/-- A float as a value. -/
def ofFloat (number : Float) : Value := float number

/-- Characters as a value. -/
def ofChars (chars : List Char) : Value := text (String.ofList chars)

/-- Characters as a value that stays apart from equal ones; only the text without characters is
one. -/
def ofCharsApart (chars : List Char) : Value :=
  text (String.ofList chars) (if chars.isEmpty then .common else .apart)

/-- Bytes as a value that stays apart from equal ones; only the value without bytes is one. -/
def ofBytesApart (content : List UInt8) : Value :=
  bytes content (if content.isEmpty then .common else .apart)

/-- A part of a text as a value: the whole of it is the text itself. -/
def partOfText (whole : Value) (chars : List Char) : Value :=
  match whole with
  | text given _ => if given == String.ofList chars then whole else ofChars chars
  | _ => ofChars chars

/-- A part of some bytes as a value: the whole of it is the value itself. -/
def partOfBytes (whole : Value) (content : List UInt8) : Value :=
  match whole with
  | bytes given _ => if given == content then whole else bytes content
  | _ => bytes content

/-- The text that an operation made of another: one that is equal is the text itself, and others
stay apart. -/
def madeOfText (whole : Value) (chars : List Char) : Value :=
  match whole with
  | text given _ => if given == String.ofList chars then whole else ofCharsApart chars
  | _ => ofCharsApart chars

/-- The bytes that an operation made of others: equal ones are the value itself, and others stay
apart. -/
def madeOfBytes (whole : Value) (content : List UInt8) : Value :=
  match whole with
  | bytes given _ => if given == content then whole else ofBytesApart content
  | _ => ofBytesApart content

/-- A character as a value. -/
def ofChar (char : Char) : Value :=
  text (String.singleton char) (if char.toNat < 256 then .common else .unset)

/-- A byte as a value. -/
def ofByte (byte : UInt8) : Value := int byte.toNat .common

/-- The integer that a value is, truth values included. -/
def int? : Value → Option Int
  | int value _ => some value
  | bool value => some (if value then 1 else 0)
  | _ => none

/-- The value of a literal; equal literals are one and the same. -/
def ofLiteral : Literal → Value
  | .nothing => nothing
  | .bool value => bool value
  | .int value => int value .common
  | .float value => float value .common
  | .imaginary value => complex 0.0 value .common
  | .text value => text value .common
  | .bytes value => bytes value .common
  | .ellipsis => ellipsis

mutual

/-- Two values are one and the same: they have one number or one address, or are common and equal in
every respect. -/
def same : Value → Value → Bool
  | nothing, nothing => true
  | bool left, bool right => left == right
  | int left mark, int right other => mark.meets other || (mark.areCommon other && left == right)
  | float left mark, float right other =>
      mark.meets other || (mark.areCommon other && left.toBits == right.toBits)
  | complex real imaginary mark, complex otherReal otherImaginary other =>
      mark.meets other || (mark.areCommon other && real.toBits == otherReal.toBits &&
        imaginary.toBits == otherImaginary.toBits)
  | text left mark, text right other => mark.meets other || (mark.areCommon other && left == right)
  | bytes left mark, bytes right other =>
      mark.meets other || (mark.areCommon other && left == right)
  | tuple left mark, tuple right other =>
      mark.meets other || (mark.areCommon other && allSame left right)
  | frozen left mark, frozen right other =>
      mark.meets other || (mark.areCommon other && allSame left right)
  | range start stop step mark, range otherStart otherStop otherStep other =>
      mark.meets other || (mark.areCommon other && start == otherStart && stop == otherStop &&
        step == otherStep)
  | slice lower upper step, slice otherLower otherUpper otherStep =>
      same lower otherLower && same upper otherUpper && same step otherStep
  | ellipsis, ellipsis => true
  | type left, type right => left == right
  | union left mark, union right other =>
      mark.meets other || (mark.areCommon other && allSame left right)
  | applied starred left arguments mark, applied otherStarred right otherArguments other =>
      mark.meets other || (mark.areCommon other && starred == otherStarred && left == right &&
        allSame arguments otherArguments)
  | function left, function right => left == right
  | method left name mark, method right otherName other =>
      mark.meets other || (mark.areCommon other && name == otherName && same left right)
  | descriptor left leftName, descriptor right rightName => left == right && leftName == rightName
  | property left leftName, property right rightName => left == right && leftName == rightName
  | list left, list right => left == right
  | dict left, dict right => left == right
  | set left, set right => left == right
  | view left leftAddress mark, view right rightAddress other =>
      mark.meets other || (mark.areCommon other && left == right && leftAddress == rightAddress)
  | iterator _ left, iterator _ right => left == right
  | _, _ => false

/-- Two lists hold the same values. -/
def allSame : List Value → List Value → Bool
  | [], [] => true
  | left :: lefts, right :: rights => same left right && allSame lefts rights
  | _, _ => false

end

end Value

/-- How many numbers a range holds. -/
def rangeLength (start stop step : Int) : Nat :=
  if step > 0 then
    if start < stop then ((stop - start - 1) / step + 1).toNat else 0
  else if step < 0 then
    if stop < start then ((start - stop - 1) / (-step) + 1).toNat else 0
  else 0

end Predicate
end Wordbook
