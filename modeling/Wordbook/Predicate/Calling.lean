import Wordbook.Predicate.Attribute

/-!
# Calls

Functions, types and operations can be called.  An operation that was taken from a type gets its
receiver as the first argument.
-/

namespace Wordbook
namespace Predicate
namespace Calling

/-- Call an operation of a type that needs no receiver. -/
def ownOperation (kind : ValueType) (name : String) (arguments : Arguments) :
    Work Value := do
  match kind with
  | .dict => DictMethod.fromKeys arguments
  | .float => Work.ofExcept (FloatMethod.fromHex arguments)
  | .bytes => BytesMethod.call name .nothing [] arguments
  | .text => TextMethod.call name .nothing [] arguments
  | .bool => return .bool (← Work.truth (← IntMethod.fromBytes arguments))
  | _ => IntMethod.fromBytes arguments

/-- Call an operation of a receiver. -/
def operation (receiver : Value) (name : String) (arguments : Arguments) :
    Work Value := do
  match receiver with
  | .type kind => ownOperation kind name arguments
  | .text text _ => TextMethod.call name receiver text.toList arguments
  | .bytes bytes _ => BytesMethod.call name receiver bytes arguments
  | .list address => ListMethod.call name address arguments
  | .tuple items _ => TupleMethod.call name items arguments
  | .range start stop step _ => RangeMethod.call name start stop step arguments
  | .dict address => DictMethod.call name address arguments
  | .view _ _ _ => DictMethod.callView receiver arguments
  | .set address =>
      if SetMethod.names.contains name then SetMethod.call name receiver arguments
      else SetMethod.change name address arguments
  | .frozen _ _ =>
      if name == "copy" then
        Work.ofExcept (arguments.nothing "frozenset.copy")
        return receiver
      else SetMethod.call name receiver arguments
  | .int value _ => IntMethod.call name receiver value arguments
  | .bool value =>
      let number : Int := if value then 1 else 0
      IntMethod.call name (.int number) number arguments
  | .float value _ => Work.ofExcept (FloatMethod.call name receiver value arguments)
  | .complex real imaginary _ => Work.ofExcept (ComplexMethod.call real imaginary arguments)
  | _ => Work.raise (.noAttribute receiver name)

/-- Call an operation that was taken from a type. -/
def unbound (owner : ValueType) (name : String) (arguments : Arguments) :
    Work Value := do
  match arguments.positional with
  | [] =>
      Work.raise (.typing ("unbound method " ++ owner.label ++ "." ++ name ++
        "() needs an argument"))
  | receiver :: rest =>
      if receiver.typeOf.owner == owner then
        operation receiver name ⟨rest, arguments.named⟩
      else
        Work.raise (.typing ("descriptor '" ++ name ++ "' for '" ++ owner.label ++
          "' objects doesn't apply to a '" ++ receiver.label ++ "' object"))

/-- A value can be called. -/
def isCallable : Value → Bool
  | .function _ | .type _ | .applied _ _ _ _ | .method _ _ _ | .descriptor _ _ => true
  | _ => false

/-- The operations that take any number of arguments, or some in a span, and none by name. -/
def spanning (kind : ValueType) : List String :=
  match kind with
  | .text | .bytes => ["count", "endswith", "find", "index", "rfind", "rindex", "startswith"]
  | .set | .frozenset =>
      ["difference", "difference_update", "intersection", "intersection_update", "union", "update"]
  | _ => []

/-- The fault of arguments given by name to an operation that was bound to its receiver before the
call, if it has one of its own. -/
def refusedNames? (callee : Value) : Option Fault :=
  match callee with
  | .method receiver name _ =>
      if (spanning receiver.typeOf).contains name then
        some (.typing (name ++ "() takes no keyword arguments"))
      else none
  | _ => none

/-- The fault of a value that cannot be called. -/
def notCallable (value : Value) : Fault :=
  .typing ("'" ++ value.label ++ "' object is not callable")

/-- Call a value. -/
def call (callee : Value) (arguments : Arguments) : Work Value := do
  Work.marked (← match callee with
    | .function function => Functions.call function arguments
    | .type kind => Construction.call kind arguments
    | .applied _ origin _ _ => Construction.call origin arguments
    | .method receiver name _ => operation receiver name arguments
    | .descriptor owner name => unbound owner name arguments
    | _ => Work.raise (notCallable callee))

/-- How a callee is named in the words about its arguments. -/
def shownCallee (heap : Heap) (callee : Value) : Except Fault String := do
  match callee with
  | .function function => return function.label ++ "()"
  | .type kind => return kind.label ++ "()"
  | .applied _ origin _ _ => return origin.label ++ "()"
  | .method (.type kind) name _ => return kind.label ++ "." ++ name ++ "()"
  | .method receiver name _ => return receiver.label ++ "." ++ name ++ "()"
  | .descriptor owner name => return owner.label ++ "." ++ name ++ "()"
  | .property owner name => return owner.label ++ "." ++ name ++ "()"
  | _ => return String.ofList (← heap.plain callee)

end Calling
end Predicate
end Wordbook
