import Wordbook.Predicate.Display
import Wordbook.Predicate.Sorting

/-!
# Operations of lists, tuples and ranges
-/

namespace Wordbook
namespace Predicate

/-- The first place of a value in some items, places being counted from an index on. -/
def EqualityTest.findFrom (equal : EqualityTest) (sought : Value) (index : Nat) :
    List Value → Except Fault (Option Nat)
  | [] => .ok none
  | item :: items => do
      if ← equal.orSame item sought then return some index
      else equal.findFrom sought (index + 1) items

/-- How many of some items are equal to a value. -/
def EqualityTest.countIn (equal : EqualityTest) (sought : Value) :
    List Value → Except Fault Nat
  | [] => .ok 0
  | item :: items => do
      let first ← equal.orSame item sought
      return (if first then 1 else 0) + (← equal.countIn sought items)

namespace ListMethod

/-- A bound of a search, counted from the end if it is negative. -/
def searchBound (length : Nat) (value : Option Value) (default : Nat) : Except Fault Nat :=
  match value with
  | none => .ok default
  | some given =>
      match given.int? with
      | some index =>
          .ok (if index < 0 then (index + length).toNat else min index.toNat length)
      | none => .error (.typing "slice indices must be integers or have an __index__ method")

/-- The place of a value between two optional bounds. -/
def indexOf (kind : String) (items : List Value) (arguments : Arguments) : Work Value := do
  let given ← Work.ofExcept (arguments.between "index" (kind ++ ".index") 1 3)
  let sought := given.headD .nothing
  let start ← Work.ofExcept (searchBound items.length given[1]? 0)
  let stop ← Work.ofExcept (searchBound items.length given[2]? items.length)
  match ← Work.inspect fun heap =>
      heap.equal.findFrom sought start ((items.take stop).drop start) with
  | some index => return .int index
  | none =>
      if kind == "list" then
        let shown ← Work.inspect fun heap => heap.shown sought
        Work.raise (.value (String.ofList shown ++ " is not in list"))
      else Work.raise (.value "tuple.index(x): x not in tuple")

/-- How often a value is among some items. -/
def countOf (kind : String) (items : List Value) (arguments : Arguments) : Work Value := do
  let sought ← Work.ofExcept (arguments.single (kind ++ ".count"))
  return .int (← Work.inspect fun heap => heap.equal.countIn sought items)

/-- How many items an iterator has left is not known before they are taken. -/
def isOpenEnded (value : Value) : Bool :=
  match value.typeOf with
  | .generator | .zip | .map | .filter | .enumeration => true
  | _ => false

/-- Put all items of a value at the end of a list.  Room is made for items whose number is not
known, so that a list is not emptied any more even if there are none. -/
def extend (address : Nat) (value : Value) : Work Unit := do
  match ← Work.itemsAtHand? value with
  | some items => Work.updateList address fun found => found ++ items
  | none =>
      let source ← Work.iterator value
      if isOpenEnded value && (← Work.look fun heap => heap.isEmptied address) then
        Work.store address (.list #[])
      Work.forEach source fun item => Work.updateList address fun found => found.push item

/-- Sort a list, which is empty meanwhile and must not get items. -/
def sort (address : Nat) (arguments : Arguments) : Work Unit := do
  let given ← Work.ofExcept (arguments.bind "sort" 0 ["key", "reverse"] 0 0)
  let reverse ← match given[1]?.join with
    | some value => Work.ofExcept ((smallInteger value).map fun found => found != 0)
    | none => pure false
  let items ← Work.look fun heap => heap.list address
  let wasEmptied ← Work.look fun heap => heap.isEmptied address
  Work.store address .emptied
  let found ← Work.sorted items ((given[0]?.join).getD .nothing) reverse
  if ← Work.look fun heap => heap.isEmptied address then
    unless wasEmptied do Work.store address (.list found)
  else Work.raise (.value "list modified during sort")

/-- The names of the operations of lists. -/
def names : List String :=
  ["append", "clear", "copy", "count", "extend", "index", "insert", "pop", "remove", "reverse",
    "sort"]

/-- Call an operation of a list. -/
def call (name : String) (address : Nat) (arguments : Arguments) : Work Value := do
  let items ← Work.look fun heap => heap.list address
  match name with
  | "append" =>
      let value ← Work.ofExcept (arguments.single "list.append")
      Work.updateList address fun found => found.push value
      return .nothing
  | "clear" =>
      Work.ofExcept (arguments.nothing "list.clear")
      Work.updateList address fun _ => #[]
      return .nothing
  | "copy" =>
      Work.ofExcept (arguments.nothing "list.copy")
      Work.newList items
  | "count" => countOf "list" items.toList arguments
  | "extend" =>
      extend address (← Work.ofExcept (arguments.single "list.extend"))
      return .nothing
  | "index" => indexOf "list" items.toList arguments
  | "insert" =>
      let given ← Work.ofExcept (arguments.between "insert" "list.insert" 2 2)
      let index ← Work.ofExcept (wordInteger (given.headD .nothing))
      let place := if index < 0 then (index + items.size).toNat else min index.toNat items.size
      Work.updateList address fun found =>
        found.insertIdxIfInBounds place (given.getD 1 .nothing)
      return .nothing
  | "pop" =>
      let given ← Work.ofExcept (arguments.between "pop" "list.pop" 0 1)
      let index ← match given with
        | value :: _ => Work.ofExcept (wordInteger value)
        | [] => pure (-1)
      if items.isEmpty then Work.raise (.index "pop from empty list")
      else
        match place? items.size index with
        | none => Work.raise (.index "pop index out of range")
        | some place =>
            Work.updateList address fun found => found.eraseIdxIfInBounds place
            return items.getD place .nothing
  | "remove" =>
      let sought ← Work.ofExcept (arguments.single "list.remove")
      match ← Work.inspect fun heap => heap.equal.findFrom sought 0 items.toList with
      | none => Work.raise (.value "list.remove(x): x not in list")
      | some place =>
          Work.updateList address fun found => found.eraseIdxIfInBounds place
          return .nothing
  | "reverse" =>
      Work.ofExcept (arguments.nothing "list.reverse")
      Work.updateList address fun found => found.reverse
      return .nothing
  | _ =>
      sort address arguments
      return .nothing

end ListMethod

namespace TupleMethod

/-- The names of the operations of tuples. -/
def names : List String := ["count", "index"]

/-- Call an operation of a tuple. -/
def call (name : String) (items : List Value) (arguments : Arguments) : Work Value :=
  if name == "count" then ListMethod.countOf "tuple" items arguments
  else ListMethod.indexOf "tuple" items arguments

end TupleMethod

namespace RangeMethod

/-- The names of the operations of ranges. -/
def names : List String := ["count", "index"]

/-- Call an operation of a range. -/
def call (name : String) (start stop step : Int) (arguments : Arguments) :
    Work Value := do
  let sought ← Work.ofExcept (arguments.single ("range." ++ name))
  let range : Value := .range start stop step
  match sought.int? with
  | some number =>
      let found ← Work.contains range sought
      if name == "count" then return .int (if found then 1 else 0)
      else if found then return .int ((number - start) / step)
      else
        let shown ← Work.inspect fun heap => heap.shown sought
        Work.raise (.value (String.ofList shown ++ " is not in range"))
  | none =>
      let items ← Work.gather range
      if name == "count" then
        return .int (← Work.inspect fun heap => heap.equal.countIn sought items.toList)
      else
        match ← Work.inspect fun heap => heap.equal.findFrom sought 0 items.toList with
        | some index => return .int index
        | none => Work.raise (.value "sequence.index(x): x not in sequence")

end RangeMethod
end Predicate
end Wordbook
