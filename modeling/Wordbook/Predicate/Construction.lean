import Wordbook.Predicate.Method.Text
import Wordbook.Predicate.Operators

/-!
# Construction

Calling a type makes one of its values: from nothing, from another value, from text.
-/

namespace Wordbook
namespace Predicate
namespace Construction

/-- What a call of a type may be given: one value at most, and nothing by name. -/
def optional (name : String) (arguments : Arguments) : Except Fault (Option Value) :=
  return (← arguments.between name name 0 1).head?

/-- The text of a value that cannot be read as a number, cut to a length. -/
def shownLiteral (heap : Heap) (value : Value) (length : Option Nat) : Except Fault String := do
  let chars ← heap.shown value
  return String.ofList (match length with
    | some count => chars.take count
    | none => chars)

/-- Read an integer from characters. -/
def readInt (heap : Heap) (base : Nat) (value : Value) (chars : List Char) :
    Except Fault Value := do
  match Number.readInt base chars with
  | .value found => return .int found
  | .tooManyDigits count => throw (.tooManyDigits (some count))
  | .malformed =>
      throw (.value ("invalid literal for int() with base " ++ toString base ++ ": " ++
        (← shownLiteral heap value (some 200))))

/-- The characters of text or of bytes. -/
def chars? : Value → Option (List Char)
  | .text text _ => some text.toList
  | .bytes bytes _ => some (bytes.map fun byte => Char.ofNat byte.toNat)
  | _ => none

/-- An integer from a value. -/
def intOf (heap : Heap) (value : Value) : Except Fault Value :=
  match value with
  | .int _ _ => .ok value
  | .float number _ => (Arithmetic.truncate number).map fun found => .int found
  | _ =>
      match value.int?, chars? value with
      | some number, _ => .ok (.int number)
      | none, some chars => readInt heap 10 value chars
      | none, none =>
          .error (.typing ("int() argument must be a string, a bytes-like object or a real " ++
            "number, not '" ++ value.label ++ "'"))

/-- An integer from the arguments of a call. -/
def int (heap : Heap) (arguments : Arguments) : Except Fault Value := do
  let given ← arguments.bind "int" 1 ["base"] 0 2
  match (given[0]?.join : Option Value), (given[1]?.join : Option Value) with
  | none, none => return .int 0
  | none, some _ => throw (.typing "int() missing string argument")
  | some value, none => intOf heap value
  | some value, some base =>
      let radix ← integer base
      if (radix != 0 && radix < 2) || 36 < radix then
        throw (.value "int() base must be >= 2 and <= 36, or 0")
      match chars? value with
      | some chars => readInt heap radix.toNat value chars
      | none => throw (.typing "int() can't convert non-string with explicit base")

/-- A float from a value. -/
def floatOf (heap : Heap) (value : Value) : Except Fault Value := do
  match value with
  | .float _ _ => return value
  | _ =>
      match value.int?, chars? value with
      | some number, _ => return .ofFloat (← floatOfInt number)
      | none, some chars =>
          match Number.readFloat? chars with
          | some number => return .ofFloat number
          | none =>
              throw (.value ("could not convert string to float: " ++
                (← shownLiteral heap value none)))
      | none, none =>
          throw (.typing ("float() argument must be a string or a real number, not '" ++
            value.label ++ "'"))

/-- Text from the arguments of a call. -/
def text (heap : Heap) (arguments : Arguments) : Except Fault Value := do
  let given ← arguments.bind "str" 0 ["object", "encoding", "errors"] 0 3
  let encoding := given[1]?.join
  let rule := given[2]?.join
  let encodingText ← Coding.textArgument "str" "encoding" encoding "utf-8"
  let ruleText ← Coding.textArgument "str" "errors" rule "strict"
  match (given[0]?.join : Option Value) with
  | none => return .text ""
  | some value =>
      if encoding.isNone && rule.isNone then heap.plainText value
      else
        match value with
        | .bytes [] _ => return .text ""
        | .bytes bytes _ => Coding.decode bytes encodingText ruleText
        | .text _ _ => throw (.typing "decoding str is not supported")
        | _ =>
            throw (.typing ("decoding to str: need a bytes-like object, " ++ value.label ++
              " found"))

/-- A range from the arguments of a call. -/
def range (arguments : Arguments) : Except Fault Value := do
  let given ← arguments.between "range" "range" 1 3
  match given with
  | [stop] => return .range 0 (← integer stop) 1
  | start :: stop :: rest =>
      let first ← integer start
      let last ← integer stop
      let step ← match rest with
        | value :: _ => integer value
        | [] => pure 1
      if step = 0 then throw (.value "range() arg 3 must not be zero")
      return .range first last step
  | [] => return .nothing

/-- A walk that numbers the items of a value. -/
def enumeration (arguments : Arguments) : Work Value := do
  let count := arguments.positional.length + arguments.named.length
  let make (value : Value) (start : Option Value) : Work Value := do
    let first ← match start with
      | some given => Work.ofExcept (integer given)
      | none => pure 0
    let source ← Work.iterator value
    Work.newWalk .enumeration (.enumeration source first)
  let unexpected (name : String) : Work Value := Work.raise (Arguments.unexpected "enumerate" name)
  match arguments.positional, arguments.named with
  | [value], [] => make value none
  | [value, start], [] => make value (some start)
  | [value], [(name, start)] =>
      if name == "start" then make value (some start) else unexpected name
  | [], [(name, value)] => if name == "iterable" then make value none else unexpected name
  | [], [(first, one), (second, other)] =>
      if first == "start" then
        if second == "iterable" then make other (some one) else unexpected second
      else if first != "iterable" then unexpected first
      else if second != "start" then unexpected second
      else make one (some other)
  | [], _ => Work.raise (.typing "enumerate() missing required argument 'iterable'")
  | _, _ =>
      Work.raise (.typing ("enumerate() takes at most 2 arguments (" ++ toString count ++ " given)"))

/-- A walk over several values side by side. -/
def zipped (arguments : Arguments) : Work Value := do
  let named : Arguments := ⟨[], arguments.named⟩
  let given ← Work.ofExcept (named.bind "zip" 0 ["strict"] 0 0)
  let strict ← match given[0]?.join with
    | some value => Work.truth value
    | none => pure false
  let sources ← arguments.positional.mapM Work.iterator
  Work.newWalk .zip (.zip sources strict)

/-- A walk that calls a function with the items of some values. -/
def mapped (arguments : Arguments) : Work Value := do
  match ← Work.ofExcept (arguments.unnamed "map") with
  | function :: value :: values =>
      let first ← Work.iterator value
      let others ← values.mapM Work.iterator
      Work.newWalk .map (.map function first others)
  | _ => Work.raise (.typing "map() must have at least two arguments.")

/-- A walk over the items that a function accepts. -/
def filtered (arguments : Arguments) : Work Value := do
  let given ← Work.ofExcept (arguments.between "filter" "filter" 2 2)
  let source ← Work.iterator (given.getD 1 .nothing)
  Work.newWalk .filter (.filter (given.headD .nothing) source)

/-- The type of a walk back over what a view shows. -/
def backKind : Aspect → ValueType
  | .keys => .keyReversal
  | .values => .valueReversal
  | .pairs => .pairReversal

/-- A walk over a value from its end. -/
def reversed (arguments : Arguments) : Work Value := do
  let given ← Work.ofExcept (arguments.between "reversed" "reversed" 1 1)
  let value := given.headD .nothing
  let back (aspect : Aspect) (address : Nat) : Work Value := do
    let table ← Work.look fun heap => heap.dict address
    Work.newWalk (backKind aspect) (.dictBack address aspect table.slots.size table.size)
  match value with
  | .list address =>
      let size ← Work.look fun heap => (heap.list address).size
      Work.newWalk .listReversal (.listBack address size)
  | .tuple items _ => Work.newWalk .reversal (.values items.reverse)
  | .text chars _ => Work.newWalk .reversal (.chars chars.toList.reverse)
  | .bytes bytes _ =>
      Work.newWalk .reversal (.values (bytes.reverse.map Value.ofByte))
  | .range start stop step _ =>
      let count := rangeLength start stop step
      let last := start + ((count : Int) - 1) * step
      let kind : ValueType :=
        if Work.fitsWord start && Work.fitsWord stop && Work.fitsWord step then .rangeIterator
        else .longRangeIterator
      Work.newWalk kind (.range last (-step) count)
  | .dict address => back .keys address
  | .view aspect address _ => back aspect address
  | _ => Work.raise (.typing ("'" ++ value.label ++ "' object is not reversible"))

/-- Make a value of a type. -/
def call (kind : ValueType) (arguments : Arguments) : Work Value := do
  match kind with
  | .bool =>
      match ← Work.ofExcept (optional "bool" arguments) with
      | some value => return .bool (← Work.truth value)
      | none => return .bool false
  | .int => Work.inspect fun heap => int heap arguments
  | .float =>
      match ← Work.ofExcept (optional "float" arguments) with
      | some value => Work.inspect fun heap => floatOf heap value
      | none => return .ofFloat 0.0
  | .text => Work.inspect fun heap => text heap arguments
  | .list =>
      match ← Work.ofExcept (optional "list" arguments) with
      | some value => Work.newList (← Work.gather value)
      | none => Work.newList #[]
  | .tuple =>
      match ← Work.ofExcept (optional "tuple" arguments) with
      | some value =>
          match value with
          | .tuple _ _ => return value
          | _ => return .tuple (← Work.gather value).toList
      | none => return .tuple []
  | .set =>
      match ← Work.ofExcept (optional "set" arguments) with
      | some value => return .set (← SetMethod.copyOf value)
      | none => return .set (← Work.newSet)
  | .frozenset =>
      match ← Work.ofExcept (optional "frozenset" arguments) with
      | some value =>
          match value with
          | .frozen _ _ => return value
          | _ => SetMethod.ofKind (.frozen []) (← SetMethod.copyOf value)
      | none => return .frozen []
  | .dict => DictMethod.make arguments
  | .range => Work.ofExcept (range arguments)
  | .enumeration => enumeration arguments
  | .zip => zipped arguments
  | .map => mapped arguments
  | .filter => filtered arguments
  | .reversal => reversed arguments
  | _ => Work.raise (.typing ("cannot create '" ++ kind.label ++ "' instances"))

end Construction
end Predicate
end Wordbook
