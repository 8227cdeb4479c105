import Wordbook.Predicate.Signature

/-!
# Operations of dictionaries and their views
-/

namespace Wordbook
namespace Predicate
namespace DictMethod

/-- The fault of an element that should be a pair. -/
def notPair (place length : Nat) : Fault :=
  .value ("dictionary update sequence element #" ++ toString place ++ " has length " ++
    toString length ++ "; 2 is required")

/-- Put a pair, given as the element at a place, into a dictionary. -/
def putPair (address place : Nat) (element : Value) : Work Unit := do
  match ← Work.iterator? element with
  | none =>
      Work.raise (.typing ("cannot convert dictionary update sequence element #" ++ toString place ++
        " to a sequence"))
  | some _ =>
      match (← Work.gather element).toList with
      | [key, value] => Work.dictSet address key value
      | items => Work.raise (notPair place items.length)

/-- A value that is no dictionary, but has the operation that shows the keys of one: the type of
dictionaries. -/
def isDictType : Value → Bool
  | .type .dict | .applied _ .dict _ _ => true
  | _ => false

/-- The fault of the type of dictionaries in the place of a dictionary. -/
def needsReceiver : Fault := .typing "unbound method dict.keys() needs an argument"

/-- Put all pairs of a dictionary, or of a walk over pairs, into a dictionary. -/
def putAll (address : Nat) (value : Value) : Work Unit := do
  match value with
  | .dict other => Work.dictMerge address other
  | _ =>
      if isDictType value then Work.raise needsReceiver
      let source ← Work.iterator value
      let _ ← Work.fold source 0 fun place element => do
        putPair address place element
        return (true, place + 1)
      return ()

/-- Values given by name as pairs. -/
def namedPairs (arguments : Arguments) : List (Value × Value) :=
  arguments.named.map fun entry => (.text entry.1 .common, entry.2)

/-- Put the pairs that a call was given in its only argument, if it has one, into a dictionary. -/
def putGiven (name : String) (address : Nat) (arguments : Arguments) :
    Work Unit := do
  match arguments.positional with
  | [] => pure ()
  | [value] => putAll address value
  | given => Work.raise (Arguments.expected name 0 1 given.length)

/-- A new dictionary of what a call was given: pairs, then named values. -/
def make (arguments : Arguments) : Work Value := do
  let address ← Work.newDict
  putGiven "dict" address arguments
  Work.dictSetAll address (namedPairs arguments)
  return .dict address

/-- A new dictionary that gives some keys one value. -/
def fromKeys (arguments : Arguments) : Work Value := do
  let given ← Work.ofExcept (arguments.between "fromkeys" "dict.fromkeys" 1 2)
  let keys := given.headD .nothing
  let value := given.getD 1 .nothing
  let address ← match keys with
    | .dict other =>
        let source ← Work.look fun heap => heap.dict other
        Work.allocate (.dict (.ofCapacity (Table.capacityToHold source.size) source.textual))
    | .set _ | .frozen _ _ =>
        let count ← Work.look fun heap => ((heap.elements? keys).getD []).length
        Work.allocate (.dict (.ofCapacity (Table.capacityToHold count) false))
    | _ => Work.newDict
  let source ← Work.iterator keys
  Work.forEach source fun key => Work.dictSet address key value
  return .dict address

/-- The names of the operations of dictionaries. -/
def names : List String :=
  ["clear", "copy", "fromkeys", "get", "items", "keys", "pop", "popitem", "setdefault", "update",
    "values"]

/-- Call an operation of a dictionary. -/
def call (name : String) (address : Nat) (arguments : Arguments) : Work Value := do
  let shown := "dict." ++ name
  match name with
  | "clear" =>
      Work.ofExcept (arguments.nothing shown)
      Work.updateDict address fun _ => .empty
      return .nothing
  | "copy" =>
      Work.ofExcept (arguments.nothing shown)
      return .dict (← Work.dictCopy address)
  | "fromkeys" => fromKeys arguments
  | "get" =>
      let given ← Work.ofExcept (arguments.between name shown 1 2)
      match ← Work.dictGet address (given.headD .nothing) with
      | some value => return value
      | none => return given.getD 1 .nothing
  | "items" =>
      Work.ofExcept (arguments.nothing shown)
      return .view .pairs address
  | "keys" =>
      Work.ofExcept (arguments.nothing shown)
      return .view .keys address
  | "values" =>
      Work.ofExcept (arguments.nothing shown)
      return .view .values address
  | "pop" =>
      let given ← Work.ofExcept (arguments.between name shown 1 2)
      let key := given.headD .nothing
      let isEmpty ← Work.look fun heap => (heap.dict address).entries.isEmpty
      match ← if isEmpty then pure none else Work.dictRemove address key with
      | some value => return value
      | none =>
          match (given[1]? : Option Value) with
          | some value => return value
          | none => Work.raise (.missingKey key)
  | "popitem" =>
      Work.ofExcept (arguments.nothing shown)
      match ← Work.look fun heap =>
          (heap.dict address).lastBefore (heap.dict address).slots.size with
      | none => Work.raise (.missingKey (.text "popitem(): dictionary is empty"))
      | some (index, entry) =>
          Work.updateDict address fun table => table.eraseLast index
          return .tuple [entry.key, entry.value]
  | "setdefault" =>
      let given ← Work.ofExcept (arguments.between name shown 1 2)
      let key := given.headD .nothing
      match ← Work.dictGet address key with
      | some value => return value
      | none =>
          let value := given.getD 1 .nothing
          Work.dictSet address key value
          return value
  | _ =>
      putGiven "update" address arguments
      if !arguments.named.isEmpty then
        Work.dictMerge address (← Work.dictOf (namedPairs arguments))
      return .nothing

/-- The names of the operations of views that are like sets. -/
def viewNames : List String := ["isdisjoint"]

/-- Some item of a value is in a container, as a test for one item says. -/
def meets (isIn : Value → Work Bool) (value : Value) : Work Bool := do
  let source ← Work.iterator value
  Work.fold source false fun _ item => do
    let found ← isIn item
    return (!found, found)

/-- Call an operation of a view.  The items of the shorter one of two set-like values are looked for
in the other. -/
def callView (view : Value) (arguments : Arguments) : Work Value := do
  let other ← Work.ofExcept (arguments.single (view.label ++ ".isdisjoint"))
  let own ← Work.look fun heap => ((heap.elements? view).getD []).length
  let others ← Work.look fun heap => (heap.elements? other).map List.length
  let (container, items) := if others.any (own < ·) then (other, view) else (view, other)
  return .bool (!(← meets (Work.holdsKey container) items))

end DictMethod
end Predicate
end Wordbook
