import Wordbook.Predicate.Assignment
import Wordbook.Predicate.Evaluation
import Wordbook.Predicate.Iteration

/-!
# Execution

Statements run one after another until one of them gives a value back, or leaves or repeats the loop
around it.  The engine puts all parts of the interpreter together: each of its parts works with an
engine that allows one level less of calls.
-/

namespace Wordbook
namespace Predicate

/-- How a statement ends. -/
inductive Flow where
  | onward
  | given (value : Value)
  | left
  | again

namespace Execution

/-- Run the body of a loop for each value of an iterator, until it is left. -/
def repeatFor (body : Value → Run Flow) (source : Nat) : Run Flow :=
  Run.fold source .onward fun _ value => do
    match ← body value with
    | .onward | .again => return (true, .onward)
    | flow => return (false, flow)

mutual

/-- Run a statement. -/
def run (environment : Environment) : Statement → Run Flow
  | .expression value => do
      let _ ← Run.evaluate environment value
      return .onward
  | .give value => do return .given (← Evaluation.optional environment value)
  | .branch test accepted refused => do
      if ← Work.truth (← Run.evaluate environment test) then runAll environment accepted
      else runAll environment refused
  | .loop target source body after => do
      let walk ← Work.iterator (← Run.evaluate environment source)
      let pass (value : Value) : Run Flow := do
        Assignment.assign environment target value
        runAll environment body
      match ← repeatFor pass walk with
      | .left => return .onward
      | .given value => return .given value
      | _ => runAll environment after
  | .leave => return .left
  | .again => return .again
  | .pass => return .onward
  | .assign targets value => do
      let found ← Run.evaluate environment value
      for target in targets do Assignment.assign environment target found
      return .onward
  | .augment target op value => do
      Assignment.augment environment target op value
      return .onward

/-- Run statements one after another. -/
def runAll (environment : Environment) : List Statement → Run Flow
  | [] => return .onward
  | statement :: statements => do
      match ← run environment statement with
      | .onward => runAll environment statements
      | flow => return flow

end

end Execution

namespace Engine

/-- The engine with so many levels of calls, within some limits. -/
def within (limits : Limits) : (depth : Nat) → Engine
  | 0 => shallow limits
  | depth + 1 =>
      { evaluate := fun environment value machine =>
          Evaluation.evaluate environment value (within limits depth) machine
        call := fun callee arguments machine =>
          (within limits depth).perform (Calling.call callee arguments) machine
        next := fun iterator machine => Iteration.next iterator (within limits depth) machine
        limits := limits }

/-- The engine with so many levels of calls, in a memory without bounds. -/
def ofFuel (fuel : Nat) : Engine := within .usual fuel

end Engine

namespace Definition

/-- Run the statements of a predicate on two values. -/
def run (program : List Statement) (first second : Value) : Run Value := do
  let address ← Run.newScope (parameterNames.zip [first, second])
  let scope : Scope := ⟨parameterNames ++ namesOfStatements program, address⟩
  match ← Execution.runAll [scope] program with
  | .given value => return value
  | _ => return .nothing

end Definition
end Predicate
end Wordbook
