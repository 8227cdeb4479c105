import Wordbook.Predicate.Display

/-!
# Sections and places

A section of a sequence is given by two bounds and a step, each of which may be left out; bounds
count from the end if they are negative and are cut to the sequence.  A place is one index, counted
in the same way, that must be inside.
-/

namespace Wordbook
namespace Predicate

/-- A section of a sequence: where it starts and stops, its step and how many items it has. -/
structure Section where
  start : Int
  stop : Int
  step : Int
  count : Nat

namespace Section

/-- A bound of a section, if it is given. -/
def bound : Value → Except Fault (Option Int)
  | .nothing => .ok none
  | value =>
      match value.int? with
      | some index => .ok (some index)
      | none =>
          .error (.typing "slice indices must be integers or None or have an __index__ method")

/-- A bound cut to a sequence, for a step. -/
def clamp (length : Nat) (step index : Int) : Int :=
  if index < 0 then
    let shifted := index + length
    if shifted < 0 then (if step < 0 then -1 else 0) else shifted
  else if (length : Int) ≤ index then (if step < 0 then (length : Int) - 1 else length)
  else index

/-- The section of a sequence of a length. -/
def make (lower upper step : Value) (length : Nat) : Except Fault Section := do
  let stride := (← bound step).getD 1
  if stride = 0 then throw (.value "slice step cannot be zero")
  let first := (← bound lower).map (clamp length stride)
  let last := (← bound upper).map (clamp length stride)
  let start := first.getD (if stride < 0 then (length : Int) - 1 else 0)
  let stop := last.getD (if stride < 0 then -1 else length)
  return ⟨start, stop, stride, rangeLength start stop stride⟩

/-- The indices of a section. -/
def indices (part : Section) : List Nat :=
  (List.range part.count).map fun (number : Nat) => (part.start + number * part.step).toNat

/-- The items of a section of an array. -/
def ofArray {Item : Type} [Inhabited Item] (part : Section) (items : Array Item) : Array Item :=
  if part.step = 1 then items.extract part.start.toNat (part.start.toNat + part.count)
  else (part.indices.map fun index => items.getD index default).toArray

/-- The items of a section of a list. -/
def ofList {Item : Type} [Inhabited Item] (part : Section) (items : List Item) : List Item :=
  if part.step = 1 then (items.drop part.start.toNat).take part.count
  else (part.ofArray items.toArray).toList

/-- A section is the whole of a sequence of a length. -/
def isWhole (part : Section) (length : Nat) : Bool :=
  part.start == 0 && part.step == 1 && part.count == length

/-- The section of a range. -/
def ofRange (part : Section) (start step : Int) : Value :=
  .range (start + part.start * step) (start + part.stop * step) (part.step * step)

end Section

/-- The largest index of a sequence. -/
def indexLimit : Int := Int.pow 2 63

/-- An integer as an index of a sequence. -/
def machineIndex (index : Int) : Except Fault Int :=
  if index < -indexLimit || indexLimit ≤ index then
    .error (.index "cannot fit 'int' into an index-sized integer")
  else .ok index

/-- The place that an index names in a sequence of a length. -/
def place? (length : Nat) (index : Int) : Option Nat :=
  let shifted := if index < 0 then index + length else index
  if 0 ≤ shifted && shifted < length then some shifted.toNat else none

/-- The sequences that have places, with the words for an index that is none and for one outside. -/
inductive Sequence where
  | list
  | tuple
  | text
  | bytes
  | range

/-- The fault of an index that is no integer. -/
def Sequence.notIndex (kind : Sequence) (key : Value) : Fault :=
  .typing
    (match kind with
      | .list => "list indices must be integers or slices, not " ++ key.label
      | .tuple => "tuple indices must be integers or slices, not " ++ key.label
      | .text => "string indices must be integers, not '" ++ key.label ++ "'"
      | .bytes => "byte indices must be integers or slices, not " ++ key.label
      | .range => "range indices must be integers or slices, not " ++ key.label)

/-- The fault of an index outside of a sequence. -/
def Sequence.outside : Sequence → Fault
  | .list => .index "list index out of range"
  | .tuple => .index "tuple index out of range"
  | .text => .index "string index out of range"
  | .bytes => .index "index out of range"
  | .range => .index "range object index out of range"

/-- The place that a key names in a sequence. -/
def Sequence.place (kind : Sequence) (length : Nat) (key : Value) : Except Fault Nat := do
  match key.int? with
  | none => throw (kind.notIndex key)
  | some index =>
      let found ← match kind with
        | .range => pure index
        | _ => machineIndex index
      match place? length found with
      | some index => return index
      | none => throw kind.outside

/-- The fault of a value whose items cannot be taken. -/
def notSubscriptable : Value → Fault
  | .type denoted => .typing ("type '" ++ denoted.label ++ "' is not subscriptable")
  | value => .typing ("'" ++ value.label ++ "' object is not subscriptable")

/-- The types that can be given arguments in brackets. -/
def isGeneric : ValueType → Bool
  | .list | .dict | .tuple | .set | .frozenset | .enumeration => true
  | _ => false

/-- The item that a key, which is no slice, names in a value. -/
def Heap.item (heap : Heap) (container key : Value) : Except Fault Value := do
  match container with
  | .list address =>
      let items := heap.list address
      return items.getD (← Sequence.list.place items.size key) .nothing
  | .tuple items _ => return items.getD (← Sequence.tuple.place items.length key) .nothing
  | .text text _ =>
      let chars := text.toList
      return .ofChar (chars.getD (← Sequence.text.place chars.length key) ' ')
  | .bytes bytes _ =>
      return .ofByte (bytes.getD (← Sequence.bytes.place bytes.length key) 0)
  | .range start stop step _ =>
      let index ← Sequence.range.place (rangeLength start stop step) key
      return .int (start + index * step)
  | .dict address =>
      match ← heap.find? address (← key.hashOf) key with
      | none => throw (.missingKey key)
      | some index =>
          match (heap.dict address).at? index with
          | some entry => return entry.value
          | none => throw (.missingKey key)
  | .type denoted =>
      if isGeneric denoted then
        return .applied false denoted
          (match key with
            | .tuple items _ => items
            | _ => [key])
      else throw (notSubscriptable container)
  | .applied _ _ _ _ | .union _ _ =>
      throw (.typing (String.ofList (← heap.shown container) ++ " is not a generic class"))
  | _ => throw (notSubscriptable container)

end Predicate
end Wordbook
