import Wordbook.Predicate.Operators

/-!
# Functions

The functions that a program may call by name.
-/

namespace Wordbook
namespace Predicate
namespace Functions

/-- Some value of an iterator, or none, counts as true: the walk stops at the first that decides. -/
def quantify (wanted : Bool) (value : Value) : Work Value := do
  let source ← Work.iterator value
  return .bool (← Work.fold source (!wanted) fun state item => do
    let found ← Work.truth item
    return if found == wanted then (false, wanted) else (true, state))

/-- The character of a code. -/
def characterOf (value : Value) : Except Fault Value := do
  let code ← smallInteger value
  if 0 ≤ code && code ≤ 0x10ffff then return .ofChar (Char.ofNat code.toNat)
  else throw (.value "chr() arg not in range(0x110000)")

/-- The code of a character. -/
def codeOf (value : Value) : Except Fault Value :=
  let wrong (length : Nat) : Fault :=
    .typing ("ord() expected a character, but string of length " ++ toString length ++ " found")
  match value with
  | .text text _ =>
      match text.toList with
      | [char] => .ok (.int char.toNat)
      | chars => .error (wrong chars.length)
  | .bytes [byte] _ => .ok (.int byte.toNat)
  | .bytes bytes _ => .error (wrong bytes.length)
  | _ =>
      .error (.typing ("ord() expected string of length 1, but " ++ value.label ++ " found"))

/-- A value is of a type; truth values are integers too. -/
def isOfType (value : Value) (kind : ValueType) : Bool :=
  value.typeOf == kind || (kind == .int && value.typeOf == .bool)

/-- The fault of a type with arguments, which no value is an instance of. -/
def parameterized : Fault :=
  .typing "isinstance() argument 2 cannot be a parameterized generic"

/-- A value is of one of the types that another names; `depth` bounds how they are nested. -/
def isInstance (value : Value) : (depth : Nat) → Value → Except Fault Bool
  | 0, _ => .error (.tooDeep "in __instancecheck__")
  | depth + 1, kinds =>
      let anyOf (members : List Value) : Except Fault Bool :=
        members.foldlM (fun found member =>
          if found then .ok true else isInstance value depth member) false
      match kinds with
      | .type denoted => .ok (isOfType value denoted)
      | .tuple items _ => anyOf items
      | .union members _ =>
          if members.any fun member => member.typeOf == .«alias» then .error parameterized
          else
            .ok (members.any fun member =>
              match member with
              | .type denoted => isOfType value denoted
              | _ => member.typeOf == value.typeOf)
      | .applied _ _ _ _ =>
          .error parameterized
      | _ =>
          .error (.typing "isinstance() arg 2 must be a type, a tuple of types, or a union")

/-- The largest or smallest of some values, by their keys. -/
def extreme (name : String) (op : OrderOp) (arguments : Arguments) :
    Work Value := do
  let given := arguments.positional
  if given.isEmpty then
    Work.raise (.typing (name ++ " expected at least 1 argument, got 0"))
  let named : Arguments := ⟨[], arguments.named⟩
  let options ← Work.ofExcept (named.bind name 0 ["key", "default"] 0 0)
  let fallback := options[1]?.join
  if given.length > 1 && fallback.isSome then
    Work.raise (.typing ("Cannot specify a default for " ++ name ++
      "() with multiple positional arguments"))
  let container :=
    match given with
    | [value] => value
    | _ => .tuple given
  let key := (options[0]?.join).getD .nothing
  let source ← Work.iterator container
  let best ← Work.fold source (none : Option (Value × Value)) fun state item => do
    let rank ← Work.keyOf key item
    match state with
    | none => return (true, some (rank, item))
    | some (held, _) =>
        if ← Work.inspect fun heap => heap.order op rank held then return (true, some (rank, item))
        else return (true, state)
  match best with
  | some (_, item) => return item
  | none =>
      match fallback with
      | some value => return value
      | none => Work.raise (.value (name ++ "() arg is an empty sequence"))

/-- A number rounded to an integer or to decimal places; an integer without places to round stays
the same. -/
def rounded (arguments : Arguments) : Except Fault Value := do
  let given ← arguments.bind "round" 0 ["number", "ndigits"] 1 2
  let places : Option Value :=
    match (given[1]?.join : Option Value) with
    | some .nothing => none
    | other => other
  let value := (given[0]?.join).getD .nothing
  match value with
  | .float number _ =>
      match places with
      | none => return .int (← Arithmetic.roundToInt number)
      | some place => Arithmetic.roundToPlaces number (← integer place)
  | _ =>
      match value.int? with
      | some number =>
          let count ← match places with
            | none => pure 0
            | some place => integer place
          if count < 0 then return .int (Arithmetic.roundInt number count)
          else
            match value with
            | .int _ _ => return value
            | _ => return .int number
      | none => throw (.typing ("type " ++ value.label ++ " doesn't define __round__ method"))

/-- A sorted list of the items of a value. -/
def sorted (arguments : Arguments) : Work Value := do
  match arguments.positional with
  | [value] =>
      let items ← Work.gather value
      let named : Arguments := ⟨[], arguments.named⟩
      let given ← Work.ofExcept (named.bind "sort" 0 ["key", "reverse"] 0 0)
      let reverse ← match given[1]?.join with
        | some flag => Work.ofExcept ((smallInteger flag).map fun found => found != 0)
        | none => pure false
      Work.newList (← Work.sorted items ((given[0]?.join).getD .nothing) reverse)
  | given => Work.raise (Arguments.expected "sorted" 1 1 given.length)

/-- A number made once more, if it is one that a sum is reckoned with in place. -/
def remade (value : Value) : Value :=
  match value with
  | .int number _ => if Work.fitsWord number then .int number else value
  | .float number _ => .ofFloat number
  | _ => value

/-- The sum of the items of a value, from a start on. -/
def total (arguments : Arguments) : Work Value := do
  let given ← Work.ofExcept (arguments.bind "sum" 1 ["start"] 1 2)
  let source ← Work.iterator ((given[0]?.join).getD .nothing)
  let start := (given[1]?.join).getD (.int 0)
  match start with
  | .text _ _ => Work.raise (.typing "sum() can't sum strings [use ''.join(seq) instead]")
  | .bytes _ _ => Work.raise (.typing "sum() can't sum bytes [use b''.join(seq) instead]")
  | _ =>
      let found ← Work.fold source start fun found item => do
        return (true, ← Operators.binary .add .plain found item)
      return if found.same start then remade start else found

/-- Call a function. -/
def call (function : Function) (arguments : Arguments) : Work Value := do
  match function with
  | .abs => Work.ofExcept ((arguments.single "abs").bind Arithmetic.absolute)
  | .all => quantify false (← Work.ofExcept (arguments.single "all"))
  | .any => quantify true (← Work.ofExcept (arguments.single "any"))
  | .chr => Work.ofExcept ((arguments.single "chr").bind characterOf)
  | .divmod =>
      let given ← Work.ofExcept (arguments.between "divmod" "divmod" 2 2)
      Work.ofExcept
        (Arithmetic.quotientAndRemainder (given.headD .nothing) (given.getD 1 .nothing))
  | .isinstance =>
      let given ← Work.ofExcept (arguments.between "isinstance" "isinstance" 2 2)
      return .bool (← Work.ofExcept
        (isInstance (given.headD .nothing) nestingLimit (given.getD 1 .nothing)))
  | .len =>
      let value ← Work.ofExcept (arguments.single "len")
      return .int (← Work.inspect fun heap => heap.lengthOf value)
  | .max => extreme "max" .greater arguments
  | .min => extreme "min" .less arguments
  | .ord => Work.ofExcept ((arguments.single "ord").bind codeOf)
  | .round => Work.ofExcept (rounded arguments)
  | .sorted => sorted arguments
  | .sum => total arguments

end Functions
end Predicate
end Wordbook
