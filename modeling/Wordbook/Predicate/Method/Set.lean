import Wordbook.Predicate.Method.Dict

/-!
# Operations of sets

A set may change or be frozen; what an operation gives is of the kind of its receiver.  Of two equal
elements a set keeps the one that came first.
-/

namespace Wordbook
namespace Predicate
namespace SetMethod

/-- A set-like value with the elements of a set, of the kind of a receiver. -/
def ofKind (receiver : Value) (address : Nat) : Work Value := do
  match receiver with
  | .frozen _ _ => return .frozen (← Work.setKeys address)
  | _ => return .set address

/-- The elements of a set. -/
def elements (value : Value) : Work (List Value) :=
  Work.look fun heap => (heap.elements? value).getD []

/-- A value is a set of either kind. -/
def isSet : Value → Bool
  | .set _ | .frozen _ _ => true
  | _ => false

/-- A new set with the elements of a value. -/
def copyOf (value : Value) : Work Nat := do
  match ← Work.itemsAtHand? value with
  | some items => Work.setOf items.toList
  | none =>
      let address ← Work.newSet
      let source ← Work.iterator value
      Work.forEach source fun item => Work.setAdd address item
      return address

/-- Put all items of a value into a set. -/
def putAll (address : Nat) (value : Value) : Work Unit := do
  match ← Work.itemsAtHand? value with
  | some items => Work.setAddAll address items.toList
  | none =>
      let source ← Work.iterator value
      Work.forEach source fun item => Work.setAdd address item

/-- Take all items of a value out of a set. -/
def dropAll (address : Nat) (value : Value) : Work Unit := do
  let drop (item : Value) : Work Unit := do
    let hash ← Work.ofExcept item.hashOf
    match ← Work.inspect fun heap => heap.findMember? address hash item with
    | none => return ()
    | some index => Work.updateSet address fun table => table.erase index
  match ← Work.itemsAtHand? value with
  | some items => items.forM drop
  | none =>
      let source ← Work.iterator value
      Work.forEach source drop

/-- The common elements of a set and a value; of two sets the elements of the smaller one are kept,
else those of the value. -/
def meet (left right : Value) : Work Nat := do
  let address ← Work.newSet
  let keep (container item : Value) : Work Unit := do
    let hash ← Work.ofExcept item.hashOf
    let found ← Work.inspect fun heap => heap.holds heap.equal container item
    if found then
      match ← Work.inspect fun heap => heap.findMember? address hash item with
      | some _ => return ()
      | none => Work.updateSet address fun table => table.pushKey hash item
  if isSet right then
    let lefts ← elements left
    let rights ← elements right
    if rights.length > lefts.length then
      for item in lefts do keep right item
    else
      for item in rights do keep left item
  else
    let source ← Work.iterator right
    Work.forEach source (keep left)
  return address

/-- The elements that are in one of a set and a value but not in both, put into the set. -/
def toggleAll (address : Nat) (value : Value) : Work Unit := do
  let other ← copyOf value
  for item in ← Work.setKeys other do
    let hash ← Work.ofExcept item.hashOf
    match ← Work.inspect fun heap => heap.findMember? address hash item with
    | some index => Work.updateSet address fun table => table.erase index
    | none => Work.setAdd address item

/-- A value as a set-like one: what is none is copied into a new set. -/
def asSet (value : Value) : Work Value := do
  if isSet value then return value else return .set (← copyOf value)

/-- A set has all elements of another. -/
def includes (container other : Value) : Work Bool := do
  let items ← elements other
  Work.inspect fun heap => heap.holdsAll heap.equal container items

/-- The operations of both kinds of sets. -/
def names : List String :=
  ["copy", "difference", "intersection", "isdisjoint", "issubset", "issuperset",
    "symmetric_difference", "union"]

/-- The operations of sets that can change. -/
def changingNames : List String :=
  ["add", "clear", "difference_update", "discard", "intersection_update", "pop", "remove",
    "symmetric_difference_update", "update"]

/-- Call an operation that both kinds of sets have. -/
def call (name : String) (receiver : Value) (arguments : Arguments) :
    Work Value := do
  let shown := receiver.label ++ "." ++ name
  match name with
  | "copy" =>
      Work.ofExcept (arguments.nothing shown)
      ofKind receiver (← copyOf receiver)
  | "union" =>
      let given ← Work.ofExcept (arguments.unnamed shown)
      let address ← copyOf receiver
      for value in given do putAll address value
      ofKind receiver address
  | "difference" =>
      let given ← Work.ofExcept (arguments.unnamed shown)
      let address ← copyOf receiver
      for value in given do dropAll address value
      ofKind receiver address
  | "intersection" =>
      let given ← Work.ofExcept (arguments.unnamed shown)
      let start ← copyOf receiver
      let address ← given.foldlM (fun found value => meet (.set found) value) start
      ofKind receiver address
  | "symmetric_difference" =>
      let other ← Work.ofExcept (arguments.single shown)
      let address ← copyOf other
      toggleAll address receiver
      ofKind receiver address
  | "isdisjoint" =>
      let other ← Work.ofExcept (arguments.single shown)
      let isIn (container item : Value) : Work Bool :=
        Work.inspect fun heap => heap.holds heap.equal container item
      let (container, items) ←
        if isSet other && (← elements receiver).length < (← elements other).length then
          pure (other, receiver)
        else pure (receiver, other)
      return .bool (!(← DictMethod.meets (isIn container) items))
  | "issubset" =>
      let other ← asSet (← Work.ofExcept (arguments.single shown))
      return .bool (← includes other receiver)
  | _ =>
      let other ← Work.ofExcept (arguments.single shown)
      if isSet other then return .bool (← includes receiver other)
      else
        let source ← Work.iterator other
        return .bool (← Work.fold source true fun _ item => do
          let found ← Work.inspect fun heap => heap.holds heap.equal receiver item
          return (found, found))

/-- Call an operation that changes a set. -/
def change (name : String) (address : Nat) (arguments : Arguments) :
    Work Value := do
  let shown := "set." ++ name
  match name with
  | "add" =>
      Work.setAdd address (← Work.ofExcept (arguments.single shown))
      return .nothing
  | "clear" =>
      Work.ofExcept (arguments.nothing shown)
      Work.updateSet address fun _ => .empty
      return .nothing
  | "discard" =>
      let _ ← Work.setRemove address (← Work.ofExcept (arguments.single shown))
      return .nothing
  | "remove" =>
      let key ← Work.ofExcept (arguments.single shown)
      if ← Work.setRemove address key then return .nothing else Work.raise (.missingKey key)
  | "pop" =>
      Work.ofExcept (arguments.nothing shown)
      match ← Work.look fun heap => (heap.set address).nextFrom (heap.set address).slots.size 0 with
      | none => Work.raise (.missingKey (.text "pop from an empty set"))
      | some (index, entry) =>
          Work.updateSet address fun table => table.erase index
          return entry.key
  | "update" =>
      for value in ← Work.ofExcept (arguments.unnamed shown) do putAll address value
      return .nothing
  | "difference_update" =>
      for value in ← Work.ofExcept (arguments.unnamed shown) do dropAll address value
      return .nothing
  | "intersection_update" =>
      let given ← Work.ofExcept (arguments.unnamed shown)
      let start ← copyOf (.set address)
      let found ← given.foldlM (fun kept value => meet (.set kept) value) start
      let table ← Work.look fun heap => heap.set found
      Work.updateSet address fun _ => table
      return .nothing
  | _ =>
      toggleAll address (← Work.ofExcept (arguments.single shown))
      return .nothing

end SetMethod
end Predicate
end Wordbook
