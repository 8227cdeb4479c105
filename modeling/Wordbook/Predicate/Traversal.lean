import Wordbook.Predicate.Container
import Wordbook.Text.Search

/-!
# Traversal

What a value that holds others tells about itself, and walking over the values that an iterator
gives.
-/

namespace Wordbook
namespace Predicate

namespace Heap

/-- A value counts as true: it is not nothing, false, zero or empty. -/
def truth (heap : Heap) : Value → Bool
  | .nothing => false
  | .bool value => value
  | .int value _ => value != 0
  | .float value _ => !(value == 0.0)
  | .complex real imaginary _ => !(real == 0.0 && imaginary == 0.0)
  | .text text _ => !text.isEmpty
  | .bytes bytes _ => !bytes.isEmpty
  | .tuple items _ => !items.isEmpty
  | .frozen items _ => !items.isEmpty
  | .range start stop step _ => rangeLength start stop step != 0
  | .list address => !(heap.list address).isEmpty
  | .dict address => (heap.dict address).size != 0
  | .set address => (heap.set address).size != 0
  | .view _ address _ => (heap.dict address).size != 0
  | _ => true

end Heap

namespace Work

/-- A value counts as true. -/
def truth (value : Value) : Work Bool := look fun heap => heap.truth value

/-- An integer that fits a machine word. -/
def fitsWord (value : Int) : Bool := -(Int.pow 2 63) ≤ value && value < Int.pow 2 63

end Work

namespace Heap

/-- How many items a value has. -/
def lengthOf (heap : Heap) (value : Value) : Except Fault Nat := do
  let length : Nat ← match value with
    | .text text _ => pure text.length
    | .bytes bytes _ => pure bytes.length
    | .tuple items _ => pure items.length
    | .frozen items _ => pure items.length
    | .range start stop step _ => pure (rangeLength start stop step)
    | .list address => pure (heap.list address).size
    | .dict address => pure (heap.dict address).size
    | .set address => pure (heap.set address).size
    | .view _ address _ => pure (heap.dict address).size
    | _ => throw (.typing ("object of type '" ++ value.label ++ "' has no len()"))
  if Work.fitsWord length then return length else throw .tooLargeForWord

end Heap

namespace Work

/-- A walk over a range. -/
def rangeWalk (start stop step : Int) : Work Value :=
  let kind : ValueType :=
    if fitsWord start && fitsWord stop && fitsWord step then .rangeIterator else .longRangeIterator
  newWalk kind (.range start step (rangeLength start stop step))

/-- The type of a walk over what a view shows. -/
def aspectWalk : Aspect → ValueType
  | .keys => .keyIterator
  | .values => .valueIterator
  | .pairs => .pairIterator

/-- The address of an iterator over a value, if it can be walked over. -/
def iterator? (value : Value) : Work (Option Nat) := do
  let started (walk : Work Value) : Work (Option Nat) := do
    match ← walk with
    | .iterator _ address => return some address
    | _ => return none
  match value with
  | .iterator .asyncGenerator _ => return none
  | .iterator _ address => return some address
  | .list address => started (newWalk .listIterator (.list address 0))
  | .tuple items _ => started (newWalk .plainIterator (.values items))
  | .text text _ => started (newWalk .plainIterator (.chars text.toList))
  | .bytes bytes _ => started (newWalk .plainIterator (.values (bytes.map Value.ofByte)))
  | .frozen items _ => started (newWalk .setIterator (.values items))
  | .range start stop step _ => started (rangeWalk start stop step)
  | .applied _ origin arguments _ =>
      started (newWalk .plainIterator (.values [.applied true origin arguments]))
  | .set address => do
      let size ← look fun heap => (heap.set address).size
      started (newWalk .setIterator (.set address 0 size))
  | .dict address => do
      let size ← look fun heap => (heap.dict address).size
      started (newWalk .keyIterator (.dict address .keys 0 size size))
  | .view aspect address _ => do
      let size ← look fun heap => (heap.dict address).size
      started (newWalk (aspectWalk aspect) (.dict address aspect 0 size size))
  | _ => return none

/-- The address of an iterator over a value. -/
def iterator (value : Value) : Work Nat := do
  match ← iterator? value with
  | some address => return address
  | none => raise (.notIterable value)

/-- The items of a value that are at hand without walking over it. -/
def itemsAtHand? (value : Value) : Work (Option (Array Value)) := do
  match value with
  | .list address => return some (← look fun heap => heap.list address)
  | .tuple items _ => return some items.toArray
  | .text text _ => return some (← markedAll (text.toList.map Value.ofChar).toArray)
  | .bytes bytes _ => return some (bytes.map Value.ofByte).toArray
  | .frozen items _ => return some items.toArray
  | .set address => return some (← setKeys address).toArray
  | .dict address => return some ((← dictPairs address).map Prod.fst).toArray
  | .view aspect address _ =>
      let shown ← look fun heap => (heap.dict address).entries.map fun entry => entry.aspect aspect
      return some (← markedAll shown.toArray)
  | _ => return none

/-- Do something with each value of an iterator. -/
def forEach (source : Nat) (action : Value → Work Unit) : Work Unit :=
  fold source () fun _ value => do
    action value
    return (true, ())

/-- All values of an iterator. -/
def drain (source : Nat) : Work (Array Value) :=
  fold source #[] fun found value => return (true, found.push value)

/-- All items of a value that can be walked over. -/
def gather (value : Value) : Work (Array Value) := do
  match ← itemsAtHand? value with
  | some items => return items
  | none => drain (← iterator value)

/-- The key that a value is sorted or compared by. -/
def keyOf (key value : Value) : Work Value :=
  match key with
  | .nothing => return value
  | _ => call key ⟨[value], []⟩

/-- A value is in a container. -/
def contains (container value : Value) : Work Bool := do
  match container with
  | .text text _ =>
      match value with
      | .text part _ => return (Text.find? part.toList text.toList).isSome
      | _ =>
          raise (.typing ("'in <string>' requires string as left operand, not " ++ value.label))
  | .bytes bytes _ =>
      match value with
      | .bytes part _ => return (Text.find? part bytes).isSome
      | _ =>
          match value.int? with
          | some code =>
              if 0 ≤ code && code < 256 then return bytes.contains (UInt8.ofNat code.toNat)
              else raise (.value "byte must be in range(0, 256)")
          | none =>
              raise (.typing ("a bytes-like object is required, not '" ++ value.label ++ "'"))
  | .list _ | .tuple _ _ | .view .values _ _ =>
      let items ← gather container
      inspect fun heap => heap.equal.contains value items.toList
  | .range start stop step _ =>
      match value.int? with
      | some number =>
          let length := rangeLength start stop step
          return length != 0 && (number - start) % step == 0 && 0 ≤ (number - start) / step &&
            (number - start) / step < length
      | none =>
          let items ← gather container
          inspect fun heap => heap.equal.contains value items.toList
  | .set _ | .frozen _ _ | .view _ _ _ => holdsKey container value
  | .dict address => holdsKey (.view .keys address) value
  | _ =>
      match ← iterator? container with
      | none => raise (.typing ("argument of type '" ++ container.label ++ "' is not iterable"))
      | some source =>
          fold source false fun _ item => do
            let found ← inspect fun heap => heap.equal.orSame item value
            return (!found, found)

end Work
end Predicate
end Wordbook
