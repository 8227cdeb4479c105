import Wordbook.Predicate.Construction
import Wordbook.Predicate.Functions
import Wordbook.Predicate.Method.Bytes
import Wordbook.Predicate.Method.Number

/-!
# Attributes

What a name stands for behind the point of a value: a property that has a value at once, or an
operation bound to the value.  Behind the point of a type stands an operation that still waits for
its receiver.  Attributes cannot be changed, so an assignment to one has only words for why not.
-/

namespace Wordbook
namespace Predicate

/-- The type whose operations the values of a type have: truth values have those of integers. -/
def ValueType.owner : ValueType → ValueType
  | .bool => .int
  | kind => kind

/-- The names of the operations of the values of a type. -/
def ValueType.operations : ValueType → List String
  | .text => TextMethod.names
  | .bytes => BytesMethod.names
  | .list => ListMethod.names
  | .tuple => TupleMethod.names
  | .range => RangeMethod.names
  | .dict => DictMethod.names
  | .keyView | .pairView => DictMethod.viewNames
  | .set => SetMethod.names ++ SetMethod.changingNames
  | .frozenset => SetMethod.names
  | .int | .bool => IntMethod.names
  | .float => FloatMethod.names
  | .complex => ComplexMethod.names
  | _ => []

/-- The names of the properties of the values of a type. -/
def ValueType.properties : ValueType → List String
  | .int | .bool => IntMethod.properties
  | .float => FloatMethod.properties
  | .complex => ComplexMethod.properties
  | _ => []

/-- Whether an operation of a type needs no receiver: it may belong to the type, or stand alone. -/
inductive OwnOperation where
  | ofType
  | alone

/-- An operation of a type that needs no receiver. -/
def ValueType.ownOperation? (kind : ValueType) (name : String) : Option OwnOperation :=
  match kind, name with
  | .dict, "fromkeys" | .int, "from_bytes" | .bool, "from_bytes" | .float, "fromhex"
  | .bytes, "fromhex" => some .ofType
  | .text, "maketrans" | .bytes, "maketrans" => some .alone
  | _, _ => none

namespace Attribute

/-- The value of a property; the real part of a real number is the number itself. -/
def property (value : Value) (name : String) : Value :=
  match value with
  | .float _ _ => if name == "imag" then .ofFloat 0.0 else value
  | .complex real imaginary _ => .ofFloat (if name == "imag" then imaginary else real)
  | .int number _ => if name == "real" || name == "numerator" then value else
      IntMethod.property name number
  | _ => IntMethod.property name (value.int?.getD 0)

/-- An operation that needs no receiver as a value; one that belongs to a type is bound to it anew
each time. -/
def ownOperation (kind : ValueType) (name : String) : OwnOperation → Value
  | .ofType => .method (.type kind) name
  | .alone => .method (.type kind) name .common

/-- What a name stands for behind the point of a type, if anything. -/
def ofType? (kind : ValueType) (name : String) : Option Value :=
  if kind.properties.contains name then some (.property kind.owner name)
  else if kind.operations.contains name then
    some (match kind.ownOperation? name with
      | some found => ownOperation kind name found
      | none => .descriptor kind.owner name)
  else none

/-- What a name stands for behind the point of a value. -/
def find (value : Value) (name : String) : Except Fault Value :=
  let found : Option Value :=
    match value with
    | .type denoted => ofType? denoted name
    | .applied _ origin _ _ => ofType? origin name
    | _ =>
        if value.typeOf.properties.contains name then some (property value name)
        else if value.typeOf.operations.contains name then
          some (match value.typeOf.ownOperation? name with
            | some found => ownOperation value.typeOf name found
            | none => .method value name)
        else none
  match found with
  | some result => .ok result
  | none =>
      .error (.noAttribute
        (match value with
          | .applied _ origin _ _ => .type origin
          | _ => value) name)

/-- Why an attribute of a value cannot be assigned to. -/
def unassignable (value : Value) (name : String) : Fault :=
  let kind := value.typeOf
  match value with
  | .type denoted =>
      .typing ("cannot set '" ++ name ++ "' attribute of immutable type '" ++ denoted.label ++ "'")
  | .complex _ _ _ =>
      if kind.properties.contains name then .other .attribute "readonly attribute"
      else if kind.operations.contains name then
        .other .attribute ("'complex' object attribute '" ++ name ++ "' is read-only")
      else .noAttribute value name
  | _ =>
      if kind.properties.contains name then
        .other .attribute ("attribute '" ++ name ++ "' of '" ++ kind.owner.label ++
          "' objects is not writable")
      else if kind.operations.contains name then
        .other .attribute ("'" ++ kind.label ++ "' object attribute '" ++ name ++ "' is read-only")
      else .noAttribute value name

end Attribute
end Predicate
end Wordbook
