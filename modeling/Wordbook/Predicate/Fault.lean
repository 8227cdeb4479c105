import Wordbook.Issue
import Wordbook.Predicate.Program

/-!
# Faults

What can go wrong while a program runs.  An operation on values ends with a fault: a key that is not
there is kept apart from the other faults, which carry their words; the words that several
operations share are given here.  A program is also stopped by a name without a value, which no
operation on values can meet.
-/

namespace Wordbook
namespace Predicate

/-- The kinds of faults that carry their words. -/
inductive FaultKind where
  | typing
  | value
  | attribute
  | index
  | lookup
  | division
  | overflow
  | running
  | recursion
  | memory
  | unicode
  | encoding
  | decoding
deriving DecidableEq

/-- The name of a kind. -/
def FaultKind.label : FaultKind → String
  | .typing => "TypeError"
  | .value => "ValueError"
  | .attribute => "AttributeError"
  | .index => "IndexError"
  | .lookup => "LookupError"
  | .division => "ZeroDivisionError"
  | .overflow => "OverflowError"
  | .running => "RuntimeError"
  | .recursion => "RecursionError"
  | .memory => "MemoryError"
  | .unicode => "UnicodeError"
  | .encoding => "UnicodeEncodeError"
  | .decoding => "UnicodeDecodeError"

/-- A fault of an operation. -/
inductive Fault where
  | missingKey (key : Value)
  | other (kind : FaultKind) (why : String)

namespace Fault

/-- A value of a wrong type. -/
def typing (why : String) : Fault := .other .typing why

/-- A value of the right type that will not do. -/
def value (why : String) : Fault := .other .value why

/-- A place outside of a sequence. -/
def index (why : String) : Fault := .other .index why

/-- A division by zero. -/
def division (why : String) : Fault := .other .division why

/-- A number that is too large. -/
def overflow (why : String) : Fault := .other .overflow why

/-- The name of the kind of a fault. -/
def label : Fault → String
  | .missingKey _ => "KeyError"
  | .other kind _ => kind.label

/-- Operands that an operation does not take. -/
def operands (operator : String) (left right : Value) : Fault :=
  typing ("unsupported operand type(s) for " ++ operator ++ ": '" ++ left.label ++ "' and '" ++
    right.label ++ "'")

/-- Operands that have no order. -/
def unordered (operator : String) (left right : Value) : Fault :=
  typing ("'" ++ operator ++ "' not supported between instances of '" ++ left.label ++ "' and '" ++
    right.label ++ "'")

/-- A value that cannot be walked over. -/
def notIterable (found : Value) : Fault :=
  typing ("'" ++ found.label ++ "' object is not iterable")

/-- A value that is no integer where one is needed. -/
def notInteger (found : Value) : Fault :=
  typing ("'" ++ found.label ++ "' object cannot be interpreted as an integer")

/-- A value that cannot be a key. -/
def unhashable (kind : ValueType) : Fault :=
  typing ("unhashable type: '" ++ kind.label ++ "'")

/-- A value that does not have an attribute. -/
def noAttribute (found : Value) (name : String) : Fault :=
  .other .attribute
    (match found with
      | .type denoted => "type object '" ++ denoted.label ++ "' has no attribute '" ++ name ++ "'"
      | _ => "'" ++ found.label ++ "' object has no attribute '" ++ name ++ "'")

/-- An integer of more decimal digits than may be written. -/
def tooManyDigits (count : Option Nat) : Fault := value (digitLimitMessage count)

/-- An integer that no float is near to. -/
def tooLargeForFloat : Fault := overflow "int too large to convert to float"

/-- An integer that is no place or count of items. -/
def tooLargeForIndex : Fault := overflow "cannot fit 'int' into an index-sized integer"

/-- An integer that is too large for a machine word. -/
def tooLargeForWord : Fault := overflow "Python int too large to convert to C ssize_t"

/-- An integer that is too large for half a machine word. -/
def tooLargeForHalfWord : Fault := overflow "Python int too large to convert to C int"

/-- More memory is needed than there is. -/
def memory : Fault := .other .memory ""

/-- Values nested too deep. -/
def tooDeep (doing : String) : Fault :=
  .other .recursion ("maximum recursion depth exceeded " ++ doing)

end Fault

/-- Where a name without a value was looked for. -/
inductive Place where
  | here
  | around
  | anywhere
deriving DecidableEq

/-- Why a program is stopped: by a name without a value, or by the fault of an operation. -/
inductive Stop where
  | unbound (name : String) (place : Place)
  | failed (fault : Fault)

namespace Stop

/-- The name of the kind of what stopped a program. -/
def label : Stop → String
  | .unbound _ .here => "UnboundLocalError"
  | .unbound _ _ => "NameError"
  | .failed fault => fault.label

/-- The words for a name without a value. -/
def unboundWords (name : String) : Place → String
  | .here => "cannot access local variable '" ++ name ++
      "' where it is not associated with a value"
  | .around => "cannot access free variable '" ++ name ++
      "' where it is not associated with a value in enclosing scope"
  | .anywhere => "name '" ++ name ++ "' is not defined"

end Stop
end Predicate
end Wordbook
