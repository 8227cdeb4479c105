import Wordbook.Predicate.Work

/-!
# Running

A program runs on a machine: the memory that its operations work in, the values of the names of each
scope, and the iterators that were started.  A run ends with a result or is stopped, or does not end
within the steps that each of its loops may take.

The parts of an interpreter call each other: an expression may call a function, the function may
walk over an iterator, and the iterator may evaluate an expression.  Each part runs with an engine,
which holds all of them for one level less of such calls.
-/

namespace Wordbook
namespace Predicate

/-- The names of a scope and the address of their values. -/
structure Scope where
  names : List String
  address : Nat
deriving Inhabited

/-- The scopes that a piece of program stands in, the innermost first. -/
abbrev Environment := List Scope

/-- The values that names have in a scope. -/
abbrev Bindings := List (String × Value)

/-- The code of a comprehension: the scopes that it stands in, and its parts. -/
structure Comprehension where
  environment : Environment
  element : Expr
  value : Option Expr
  target : Target
  tests : List Expr
  more : List Clause

/-- An iterator: a walk, or a generator with the walks over the sources of its parts that are under
way, the innermost first.  A generator that is looking for its next element is busy. -/
inductive Iterator where
  | walk (walk : Walk)
  | generator (code : Comprehension) (walks : List Nat) (busy : Bool)

/-- A machine.  Scopes and iterators are known by their places. -/
structure Machine where
  memory : Memory
  scopes : Array Bindings
  iterators : Array Iterator
deriving Inhabited

/-- A machine that has not run yet. -/
def Machine.start : Machine := ⟨.empty, #[], #[]⟩

/-- How a run ends. -/
inductive Outcome (Result : Type) where
  | returned (result : Result) (machine : Machine)
  | stopped (stop : Stop) (machine : Machine)
  | exhausted

namespace Outcome

/-- What follows a run that ended so. -/
@[inline] def andThen {First Second : Type} (second : First → Machine → Outcome Second) :
    Outcome First → Outcome Second
  | .returned result machine => second result machine
  | .stopped stop machine => .stopped stop machine
  | .exhausted => .exhausted

end Outcome

/-- What a run may take: how many steps each of its loops, and, if the memory has bounds, how many
places of a list or a set a walk goes through. -/
structure Limits where
  steps : Nat
  places : Option Nat

/-- A walk may go on to a place of a list or a set. -/
def Limits.allow (limits : Limits) (place : Nat) : Bool := limits.places.all fun bound => place < bound

/-- More steps than any loop takes. -/
def stepLimit : Nat := Nat.pow 10 9

/-- The limits of a run in a memory without bounds. -/
def Limits.usual : Limits := ⟨stepLimit, none⟩

/-- The parts of an interpreter, and its limits. -/
structure Engine where
  evaluate : Environment → Expr → Machine → Outcome Value
  call : Value → Arguments → Machine → Outcome Value
  next : (iterator : Nat) → Machine → Outcome (Option Value)
  limits : Limits

namespace Engine

/-- The engine without steps. -/
def idle : Engine :=
  ⟨fun _ _ _ => .exhausted, fun _ _ _ => .exhausted, fun _ _ => .exhausted, ⟨0, none⟩⟩

/-- The fault of calls that are nested too deep. -/
def tooDeep : Fault := .other .recursion "maximum recursion depth exceeded"

/-- The engine that allows no further call. -/
def shallow (limits : Limits) : Engine :=
  ⟨fun _ _ => .stopped (.failed tooDeep), fun _ _ => .stopped (.failed tooDeep),
    fun _ => .stopped (.failed tooDeep), limits⟩

/-- Go through an iterator with a state; the step tells whether to go on, and `fuel` bounds the
values that are gone through. -/
def foldFrom {State : Type} (engine : Engine) (iterator : Nat)
    (step : State → Value → Machine → Outcome (Bool × State)) :
    (fuel : Nat) → State → Machine → Outcome State
  | 0, _, _ => .exhausted
  | fuel + 1, state, machine =>
      (engine.next iterator machine).andThen fun value after =>
        match value with
        | none => .returned state after
        | some value =>
            (step state value after).andThen fun (goesOn, found) last =>
              if goesOn then engine.foldFrom iterator step fuel found last
              else .returned found last

/-- Go through an iterator with a state. -/
def fold {State : Type} (engine : Engine) (iterator : Nat) (start : State)
    (step : State → Value → Machine → Outcome (Bool × State)) (machine : Machine) :
    Outcome State :=
  engine.foldFrom iterator step engine.limits.steps start machine

/-- Do work in the memory of a machine. -/
def perform {Result : Type} (engine : Engine) (work : Work Result) (machine : Machine) :
    Outcome Result :=
  match work, machine with
  | .done result, machine => .returned result machine
  | .failed fault, machine => .stopped (.failed fault) machine
  | .reading next, machine => engine.perform (next machine.memory) machine
  | .writing update next, ⟨memory, scopes, iterators⟩ =>
      engine.perform next ⟨update memory, scopes, iterators⟩
  | .calling callee arguments next, machine =>
      (engine.call callee arguments machine).andThen fun result after =>
        engine.perform (next result) after
  | .starting walk next, ⟨memory, scopes, iterators⟩ =>
      engine.perform (next iterators.size) ⟨memory, scopes, iterators.push (.walk walk)⟩
  | .asking iterator next, machine =>
      (engine.next iterator machine).andThen fun value after => engine.perform (next value) after
  | .folding iterator start step next, machine =>
      (engine.fold iterator start (fun state value after => engine.perform (step state value) after)
        machine).andThen fun state after => engine.perform (next state) after

end Engine

/-- A run that gives a result. -/
def Run (Result : Type) := Engine → Machine → Outcome Result

namespace Run

/-- Run one thing after another. -/
@[inline] def andThen {First Second : Type} (first : Run First) (second : First → Run Second) :
    Run Second := fun engine machine =>
  (first engine machine).andThen fun result after => second result engine after

instance : Monad Run where
  pure result := fun _ machine => .returned result machine
  bind := andThen

instance : MonadLift Work Run where
  monadLift work := fun engine machine => engine.perform work machine

instance {Result : Type} : Inhabited (Run Result) := ⟨fun _ _ => .exhausted⟩

/-- Be stopped. -/
def stop {Result : Type} (why : Stop) : Run Result := fun _ machine => .stopped why machine

/-- Run something, and do something with the machine if it is stopped. -/
@[inline] def onStop {Result : Type} (first : Run Result) (update : Machine → Machine) :
    Run Result := fun engine machine =>
  match first engine machine with
  | .stopped why after => .stopped why (update after)
  | other => other

/-- Out of steps. -/
def giveUp {Result : Type} : Run Result := fun _ _ => .exhausted

/-- What the run may take. -/
def limits : Run Limits := fun engine machine => .returned engine.limits machine

/-- The value of an expression. -/
@[inline] def evaluate (environment : Environment) (value : Expr) : Run Value :=
  fun engine machine => engine.evaluate environment value machine

/-- The next value of an iterator, or its end. -/
@[inline] def next (iterator : Nat) : Run (Option Value) :=
  fun engine machine => engine.next iterator machine

/-- Go through an iterator with a state; the step tells whether to go on. -/
@[inline] def fold {State : Type} (iterator : Nat) (start : State)
    (step : State → Value → Run (Bool × State)) : Run State := fun engine machine =>
  engine.fold iterator start (fun state value after => step state value engine after) machine

/-- The values of a scope. -/
def bindings (address : Nat) : Run Bindings := fun _ machine =>
  .returned (machine.scopes.getD address []) machine

/-- A new scope, by its address. -/
def newScope (start : Bindings) : Run Nat := fun _ ⟨memory, scopes, iterators⟩ =>
  .returned scopes.size ⟨memory, scopes.push start, iterators⟩

/-- Change the values of a scope. -/
def updateScope (address : Nat) (update : Bindings → Bindings) : Run Unit :=
  fun _ ⟨memory, scopes, iterators⟩ =>
    .returned () ⟨memory, scopes.modify address update, iterators⟩

/-- An iterator, by its address. -/
def iterator? (address : Nat) : Run (Option Iterator) := fun _ machine =>
  .returned machine.iterators[address]? machine

/-- The address of a new iterator. -/
def newIterator (iterator : Iterator) : Run Nat := fun _ ⟨memory, scopes, iterators⟩ =>
  .returned iterators.size ⟨memory, scopes, iterators.push iterator⟩

/-- Change an iterator. -/
def setIterator (address : Nat) (iterator : Iterator) : Run Unit :=
  fun _ ⟨memory, scopes, iterators⟩ =>
    .returned () ⟨memory, scopes, iterators.setIfInBounds address iterator⟩

end Run
end Predicate
end Wordbook
