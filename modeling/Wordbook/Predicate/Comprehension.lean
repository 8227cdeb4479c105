import Wordbook.Predicate.Assignment

/-!
# Comprehensions

A comprehension goes through its first source, and for each value of it that passes the tests
through the next one, until it makes an element of the values that its names have.  Lists, sets and
dictionaries are gathered at once; a generator is an iterator that waits for being asked.
-/

namespace Wordbook
namespace Predicate
namespace Comprehension

/-- The tests of a comprehension are passed. -/
def passes (environment : Environment) : List Expr → Run Bool
  | [] => return true
  | test :: tests => do
      if ← Work.truth (← Run.evaluate environment test) then passes environment tests
      else return false

/-- What a comprehension makes of the values that its names have. -/
def made (code : Comprehension) : Run Value := do
  let first ← Run.evaluate code.environment code.element
  match code.value with
  | none => return first
  | some value => return .tuple [first, ← Run.evaluate code.environment value]

variable {State : Type}

/-- Assign each value of an iterator to a target, and do something if the tests are passed. -/
def through (environment : Environment) (target : Target) (tests : List Expr)
    (action : State → Run State) (iterator : Nat) (start : State) : Run State :=
  Run.fold iterator start fun state value => do
    Assignment.assign environment target value
    if ← passes environment tests then return (true, ← action state)
    else return (true, state)

/-- Go through an iterator, and for each value through the sources of further parts; each element
that is made is added to a state. -/
def gatherFrom (code : Comprehension) (add : State → Value → Work State) :
    List Clause → Target → List Expr → (iterator : Nat) → State → Run State
  | [], target, tests =>
      through code.environment target tests fun state => do
        add state (← Work.marked (← code.made))
  | .mk source inner further :: more, target, tests =>
      through code.environment target tests fun state => do
        let iterator ← Work.iterator (← Run.evaluate code.environment source)
        gatherFrom code add more inner further iterator state

/-- Add all elements of a comprehension to a state, its first source being walked over. -/
def gather (code : Comprehension) (iterator : Nat) (start : State)
    (add : State → Value → Work State) : Run State :=
  gatherFrom code add code.more code.target code.tests iterator start

/-- What a comprehension collects. -/
def collect (code : Comprehension) (collector : Collector) (iterator : Nat) : Run Value := do
  match collector with
  | .generator => return .iterator .generator (← Run.newIterator (.generator code [iterator] false))
  | .list =>
      let items ← code.gather iterator #[] fun found value => return found.push value
      Work.newList items
  | .set =>
      let address ← Work.newSet
      code.gather iterator () fun _ value => Work.setAdd address value
      return .set address
  | .dict =>
      let address ← Work.newDict
      code.gather iterator () fun _ pair =>
        match pair with
        | .tuple [key, value] _ => Work.dictSet address key value
        | _ => pure ()
      return .dict address

end Comprehension
end Predicate
end Wordbook
