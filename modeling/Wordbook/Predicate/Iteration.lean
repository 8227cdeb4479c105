import Wordbook.Predicate.Comprehension

/-!
# Iteration

The next value of an iterator.  An iterator over a list, a dictionary or a set looks at its
container anew each time, and notices when a dictionary or a set has changed its size.  In a bounded
memory it goes no further through a list or a set than the bound.
-/

namespace Wordbook
namespace Predicate
namespace Iteration

/-- No size of a container: an iterator that remembers it finds its container changed for ever. -/
def noSize : Nat := Nat.pow 2 64

/-- The next value of an iterator, and what is left of it. -/
def give (address : Nat) (value : Value) (rest : Iterator) : Run (Option Value) := do
  Run.setIterator address rest
  return some (← Work.marked value)

/-- An iterator at its end. -/
def stop (address : Nat) : Run (Option Value) := do
  Run.setIterator address (.walk .finished)
  return none

/-- The next value of an iterator, which stands at a place of its container. -/
def giveAt (place address : Nat) (value : Value) (rest : Walk) : Run (Option Value) := do
  if (← Run.limits).allow place then give address value (.walk rest)
  else (Work.raise .memory : Work (Option Value))

/-- The fault of a container that changed its size under an iterator. -/
def resized (kind : String) : Fault :=
  .other .running (kind ++ " changed size during iteration")

/-- The next pair of a dictionary from a place on. -/
def nextOfDict (address dictionary : Nat) (aspect : Aspect) (position size left : Nat) :
    Run (Option Value) := do
  let table ← Work.look fun heap => heap.dict dictionary
  if table.size != size then
    Run.setIterator address (.walk (.dict dictionary aspect position noSize left))
    Work.raise (resized "dictionary")
  else
    match table.nextFrom (table.slots.size - position) position with
    | none => stop address
    | some (index, entry) =>
        if left = 0 then
          Run.setIterator address (.walk .finished)
          Work.raise (.other .running "dictionary keys changed during iteration")
        else
          give address (entry.aspect aspect)
            (.walk (.dict dictionary aspect (index + 1) size (left - 1)))

/-- The pair of a dictionary before a place. -/
def lastOfDict (address dictionary : Nat) (aspect : Aspect) (position size : Nat) :
    Run (Option Value) := do
  let table ← Work.look fun heap => heap.dict dictionary
  if table.size != size then
    Run.setIterator address (.walk (.dictBack dictionary aspect position noSize))
    Work.raise (resized "dictionary")
  else
    match table.lastBefore (min position table.slots.size) with
    | none => stop address
    | some (index, entry) =>
        give address (entry.aspect aspect) (.walk (.dictBack dictionary aspect index size))

/-- The next key of a set from a place on. -/
def nextOfSet (address set position size : Nat) : Run (Option Value) := do
  let table ← Work.look fun heap => heap.set set
  if table.size != size then
    Run.setIterator address (.walk (.set set position noSize))
    Work.raise (resized "Set")
  else
    match table.nextFrom (table.slots.size - position) position with
    | none => stop address
    | some (index, entry) => giveAt index address entry.key (.set set (index + 1) size)

/-- How the arguments before a place are counted. -/
def argumentsBefore (place : Nat) : String :=
  (if place = 1 then "argument " else "arguments 1-") ++ toString place

/-- The fault of an iterator that ends too early or too late among others. -/
def unevenSources (place : Nat) (how : String) : Fault :=
  .value ("zip() argument " ++ toString (place + 1) ++ " is " ++ how ++ " than " ++
    argumentsBefore place)

/-- No iterator from a place on has a value left. -/
def allAtEnd (place : Nat) : List Nat → Work Unit
  | [] => pure ()
  | source :: sources => do
      match ← Work.next source with
      | some _ => Work.raise (unevenSources place "longer")
      | none => allAtEnd (place + 1) sources

/-- One value of each iterator from a place on, or none if one is at its end. -/
def oneOfEach (strict : Bool) (place : Nat) : List Nat → Work (Option (List Value))
  | [] => return some []
  | source :: sources => do
      match ← Work.next source with
      | some value =>
          match ← oneOfEach strict (place + 1) sources with
          | some values => return some (value :: values)
          | none => return none
      | none =>
          if strict then
            if place = 0 then allAtEnd 1 sources
            else Work.raise (unevenSources place "shorter")
          return none

/-- The next value of an iterator that a function accepts. -/
def nextAccepted (function : Value) (source : Nat) : Work (Option Value) :=
  Work.fold source none fun _ value => do
    let verdict ← match function with
      | .nothing | .type .bool => pure value
      | _ => Work.call function ⟨[value], []⟩
    if ← Work.truth verdict then return (false, some value) else return (true, none)

/-- The next value of a walk at an address. -/
def step (address : Nat) : Walk → Run (Option Value)
  | .finished => return none
  | .values [] => stop address
  | .values (value :: rest) => give address value (.walk (.values rest))
  | .chars [] => stop address
  | .chars (char :: rest) => give address (.ofChar char) (.walk (.chars rest))
  | .list list index => do
      match ← Work.look fun heap => (heap.list list)[index]? with
      | some value => giveAt index address value (.list list (index + 1))
      | none => stop address
  | .listBack _ 0 => stop address
  | .listBack list (index + 1) => do
      match ← Work.look fun heap => (heap.list list)[index]? with
      | some value => give address value (.walk (.listBack list index))
      | none => stop address
  | .range _ _ 0 => stop address
  | .range number step (count + 1) =>
      give address (.int number) (.walk (.range (number + step) step count))
  | .dict dictionary aspect position size left =>
      nextOfDict address dictionary aspect position size left
  | .dictBack dictionary aspect position size => lastOfDict address dictionary aspect position size
  | .set set position size => nextOfSet address set position size
  | .enumeration source number => do
      match ← Run.next source with
      | some value =>
          give address (.tuple [.int number, value]) (.walk (.enumeration source (number + 1)))
      | none => return none
  | .zip [] _ => return none
  | .zip sources strict => do
      match ← oneOfEach strict 0 sources with
      | some values => return some (← Work.marked (.tuple values))
      | none => return none
  | .map function first others => do
      match ← oneOfEach false 0 (first :: others) with
      | some values => return some (← Work.call function ⟨values, []⟩)
      | none => return none
  | .filter function source => nextAccepted function source

/-- What the values of a part of a generator are assigned to, and the tests that follow. -/
def part (code : Comprehension) : (depth : Nat) → Target × List Expr
  | 0 => (code.target, code.tests)
  | depth + 1 =>
      match code.more[depth]? with
      | some (.mk _ target tests) => (target, tests)
      | none => (code.target, code.tests)

/-- Go on with a generator until it has an element, or all its walks are at their end; `fuel` bounds
the values that are gone through. -/
def advance (code : Comprehension) :
    (fuel : Nat) → (walks : List Nat) → Run (Option (Value × List Nat))
  | _, [] => return none
  | 0, _ => Run.giveUp
  | fuel + 1, walk :: outer => do
      match ← Run.next walk with
      | none => advance code fuel outer
      | some value =>
          let (target, tests) := part code outer.length
          Assignment.assign code.environment target value
          if ← Comprehension.passes code.environment tests then
            match code.more[outer.length]? with
            | none => return some (← code.made, walk :: outer)
            | some (.mk source _ _) =>
                let inner ← Work.iterator (← Run.evaluate code.environment source)
                advance code fuel (inner :: walk :: outer)
          else advance code fuel (walk :: outer)

/-- A machine on which an iterator has come to its end. -/
def ended (address : Nat) : Machine → Machine
  | ⟨memory, scopes, iterators⟩ =>
      ⟨memory, scopes, iterators.setIfInBounds address (.walk .finished)⟩

/-- The next element of a generator.  While it is looked for the generator is busy, and what stops
the search ends it. -/
def nextElement (address : Nat) (code : Comprehension) (walks : List Nat) : Run (Option Value) := do
  Run.setIterator address (.generator code walks true)
  let fuel := (← Run.limits).steps
  match ← Run.onStop (advance code fuel walks) (ended address) with
  | some (value, left) => give address value (.generator code left false)
  | none => stop address

/-- The next value of the iterator at an address. -/
def next (address : Nat) : Run (Option Value) := do
  match ← Run.iterator? address with
  | none => return none
  | some (.walk walk) => step address walk
  | some (.generator _ _ true) => Work.raise (.value "generator already executing")
  | some (.generator code walks false) => nextElement address code walks

end Iteration
end Predicate
end Wordbook
