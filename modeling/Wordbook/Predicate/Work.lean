import Wordbook.Predicate.Table

/-!
# Work

An operation on values is work in a memory, whose heap holds what can change.  It ends with a result
or with a fault.  On its way it may ask for what only the interpreter around it can do: to call a
value, to start an iterator, to go on with one, and to go through one to its end.  The names of a
program are out of its reach, and so are its iterators.
-/

namespace Wordbook
namespace Predicate

/-- The arguments of a call. -/
structure Arguments where
  positional : List Value
  named : List (String × Value)

/-- What an iterator has still to go through. -/
inductive Walk where
  | finished
  | values (rest : List Value)
  | chars (rest : List Char)
  | list (address index : Nat)
  | listBack (address count : Nat)
  | range (next step : Int) (count : Nat)
  | dict (address : Nat) (aspect : Aspect) (position size left : Nat)
  | dictBack (address : Nat) (aspect : Aspect) (position size : Nat)
  | set (address position size : Nat)
  | enumeration (source : Nat) (next : Int)
  | zip (sources : List Nat) (strict : Bool)
  | map (function : Value) (first : Nat) (others : List Nat)
  | filter (function : Value) (source : Nat)

/-- What a cell of the heap holds.  A list whose items are being sorted is emptied, as long as
nothing was put into it. -/
inductive Cell where
  | list (items : Array Value)
  | emptied
  | dict (table : Table)
  | set (table : Table)
deriving Inhabited

/-- The cells of a run. -/
abbrev Heap := Array Cell

namespace Heap

/-- The items of a list. -/
def list (heap : Heap) (address : Nat) : Array Value :=
  match heap[address]? with
  | some (.list items) => items
  | _ => #[]

/-- The items of a list are being sorted, and nothing was put into it. -/
def isEmptied (heap : Heap) (address : Nat) : Bool :=
  match heap[address]? with
  | some .emptied => true
  | _ => false

/-- The table of a dictionary. -/
def dict (heap : Heap) (address : Nat) : Table :=
  match heap[address]? with
  | some (.dict table) => table
  | _ => .empty

/-- The table of a set, whose keys have no values. -/
def set (heap : Heap) (address : Nat) : Table :=
  match heap[address]? with
  | some (.set table) => table
  | _ => .empty

end Heap

/-- A memory: a heap, and the last number that was given to a value as its mark. -/
structure Memory where
  heap : Heap
  marks : Nat
deriving Inhabited

/-- A memory that holds nothing. -/
def Memory.empty : Memory := ⟨#[], 0⟩

/-- Change a cell of a memory. -/
@[inline] def Memory.store (address : Nat) (cell : Cell) : Memory → Memory
  | ⟨heap, marks⟩ => ⟨heap.setIfInBounds address cell, marks⟩

/-- Work that gives a result.  Going through an iterator takes a state along; each step tells whether
to go on. -/
inductive Work : Type → Type 1 where
  | done {Result : Type} (result : Result) : Work Result
  | failed {Result : Type} (fault : Fault) : Work Result
  | reading {Result : Type} (next : Memory → Work Result) : Work Result
  | writing {Result : Type} (update : Memory → Memory) (next : Work Result) : Work Result
  | calling {Result : Type} (callee : Value) (arguments : Arguments) (next : Value → Work Result) :
      Work Result
  | starting {Result : Type} (walk : Walk) (next : (iterator : Nat) → Work Result) : Work Result
  | asking {Result : Type} (iterator : Nat) (next : Option Value → Work Result) : Work Result
  | folding {Result State : Type} (iterator : Nat) (start : State)
      (step : State → Value → Work (Bool × State)) (next : State → Work Result) : Work Result

namespace Work

/-- Do one thing after another. -/
def andThen {First Second : Type} (first : Work First) (second : First → Work Second) :
    Work Second :=
  match first with
  | .done result => second result
  | .failed fault => .failed fault
  | .reading next => .reading fun memory => (next memory).andThen second
  | .writing update next => .writing update (next.andThen second)
  | .calling callee arguments next =>
      .calling callee arguments fun result => (next result).andThen second
  | .starting walk next => .starting walk fun iterator => (next iterator).andThen second
  | .asking iterator next => .asking iterator fun value => (next value).andThen second
  | .folding iterator start step next =>
      .folding iterator start step fun state => (next state).andThen second

/-- The result of work that asks for nothing, and the memory after it. -/
def alone? {Result : Type} (work : Work Result) (memory : Memory) : Option (Result × Memory) :=
  match work with
  | .done result => some (result, memory)
  | .reading next => (next memory).alone? memory
  | .writing update next => next.alone? (update memory)
  | .failed _ | .calling _ _ _ | .starting _ _ | .asking _ _ | .folding _ _ _ _ => none

instance : Monad Work where
  pure := done
  bind first second := first.andThen second

/-- End with a fault. -/
def raise {Result : Type} (fault : Fault) : Work Result := .failed fault

/-- The result of a pure operation that may fail. -/
def ofExcept {Result : Type} : Except Fault Result → Work Result
  | .ok found => .done found
  | .error fault => .failed fault

/-- The value that a call gives. -/
def call (callee : Value) (arguments : Arguments) : Work Value := .calling callee arguments .done

/-- The next value of an iterator, or its end. -/
def next (iterator : Nat) : Work (Option Value) := .asking iterator .done

/-- Go through an iterator with a state; the step tells whether to go on. -/
def fold {State : Type} (iterator : Nat) (start : State)
    (step : State → Value → Work (Bool × State)) : Work State :=
  .folding iterator start step .done

/-- The result of looking at the heap. -/
@[inline] def look {Result : Type} (read : Heap → Result) : Work Result :=
  .reading fun memory => .done (read memory.heap)

/-- The result of looking at the heap, which may fail. -/
@[inline] def inspect {Result : Type} (read : Heap → Except Fault Result) : Work Result :=
  .reading fun memory => ofExcept (read memory.heap)

/-- Change the heap. -/
@[inline] def change (update : Heap → Heap) : Work Unit :=
  .writing (fun ⟨heap, marks⟩ => ⟨update heap, marks⟩) (.done ())

/-- Put a new cell into the heap, and give its address. -/
def allocate (cell : Cell) : Work Nat := do
  let address ← look Array.size
  change fun heap => heap.push cell
  return address

/-- Change a cell. -/
@[inline] def store (address : Nat) (cell : Cell) : Work Unit :=
  .writing (Memory.store address cell) (.done ())

/-- Change the items of a list; one that is emptied stays so until items are put into it. -/
@[inline] def updateList (address : Nat) (update : Array Value → Array Value) : Work Unit :=
  change fun heap =>
    let isEmptied := heap.isEmptied address
    let items := heap.list address
    let cleared := heap.setIfInBounds address (.list #[])
    let changed := update items
    let cell := if isEmptied && changed.isEmpty then .emptied else .list changed
    cleared.setIfInBounds address cell

/-- A value with a number of its own. -/
def numbered (value : Value) : Work Value :=
  .reading fun memory =>
    let number := memory.marks + 1
    .writing (fun ⟨heap, _⟩ => ⟨heap, number⟩) (.done (value.withMark (.own number)))

/-- A value with a mark: a number of its own, or the common mark if all values equal to it are
one. -/
def markedAlone (value : Value) : Work Value :=
  match value.mark? with
  | some .unset =>
      if value.isCommon then return value.withMark .common else numbered value
  | some .apart => numbered value
  | _ => return value

/-- Some values with marks. -/
def markedEach : List Value → Work (List Value)
  | [] => return []
  | value :: values => do
      let first ← markedAlone value
      return first :: (← markedEach values)

/-- A result of an operation with its mark; a tuple that was just made may hold items that were,
too. -/
def marked (value : Value) : Work Value :=
  match value with
  | .tuple items .unset =>
      if items.any Value.isUnmarked then do
        markedAlone (.tuple (← markedEach items))
      else markedAlone value
  | _ => markedAlone value

/-- The values of an array with their marks. -/
def markedAll (values : Array Value) : Work (Array Value) :=
  if values.any Value.isUnmarked then values.mapM marked else return values

/-- A new list. -/
def newList (items : Array Value) : Work Value := do
  return .list (← allocate (.list (← markedAll items)))

/-- A new iterator. -/
def newWalk (kind : ValueType) (walk : Walk) : Work Value :=
  .starting walk fun iterator => .done (.iterator kind iterator)

end Work
end Predicate
end Wordbook
