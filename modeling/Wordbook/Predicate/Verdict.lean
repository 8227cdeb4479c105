import Wordbook.Json.Basic
import Wordbook.Predicate.Definition
import Wordbook.Predicate.Execution

/-!
# Verdicts

What a predicate says about two tokens: it is compiled, the tokens become values of a fresh machine,
and the predicate is run on them.  A body that is refused and a fault of the run are both issues of
the evaluation.
-/

namespace Wordbook
namespace Predicate

/-- A value and the heap that it lives in. -/
structure Held where
  value : Value
  heap : Heap
deriving Inhabited

/-- What a predicate gave back, and the two tokens as it left them. -/
structure Verdict where
  result : Held
  tokenA : Held
  tokenB : Held
deriving Inhabited

namespace Work

mutual

/-- A value for one that came from outside. -/
def ofJson : Json → Work Value
  | .null => return .nothing
  | .bool value => return .bool value
  | .int value => marked (.int value)
  | .float value => marked (.ofFloat value)
  | .str text => marked (.text text)
  | .arr items => do newList (← ofItems items).toArray
  | .obj members => do
      let address ← newDict
      dictSetAll address (← ofMembers members)
      return .dict address

/-- Values for some that came from outside. -/
def ofItems : List Json → Work (List Value)
  | [] => return []
  | item :: items => do
      let first ← ofJson item
      return first :: (← ofItems items)

/-- Pairs for members that came from outside. -/
def ofMembers : List (String × Json) → Work (List (Value × Value))
  | [] => return []
  | (name, item) :: members => do
      let first ← ofJson item
      let key ← marked (.text name)
      return (key, first) :: (← ofMembers members)

end

end Work

namespace Held

/-- A value that came from outside. -/
def ofJson (value : Json) : Held :=
  match (Work.ofJson value).alone? .empty with
  | some (found, memory) => ⟨found, memory.heap⟩
  | none => ⟨.nothing, #[]⟩

/-- A value as text, which may fail for a number of too many digits and for values nested too
deep. -/
def text (held : Held) : Except Breach String :=
  match held.heap.plain held.value with
  | .ok chars => .ok (String.ofList chars)
  | .error (.other .recursion _) => .error .tooDeep
  | .error _ => .error (.tooManyDigits none)

end Held

namespace Verdict

/-- The failure of a compilation. -/
def ofCompileFault : CompileFault → Failure
  | .refused refusal => .issue (.invalidDefinition refusal.message)
  | .tooDeep => .breach .outOfMemory

/-- The failure of a compilation that an evaluation asked for. -/
def ofRefusal : CompileFault → Failure
  | .refused refusal =>
      .issue (.evaluation (Issue.message (.invalidDefinition refusal.message)))
  | .tooDeep => .breach .outOfMemory

/-- The failure of a run that was stopped.  The words for it may fail themselves, if they have to
show a key. -/
def ofStop (heap : Heap) (why : Stop) : Failure :=
  match heap.words why with
  | .ok words => .issue (.evaluation (why.label ++ ": " ++ words))
  | .error (.other .recursion _) => .breach .tooDeep
  | .error _ => .breach (.tooManyDigits none)

/-- The tokens as values. -/
def tokens (first second : Json) : Work (Value × Value) := do
  let left ← Work.ofJson first
  return (left, ← Work.ofJson second)

/-- How a program ends on two tokens, which are kept beside what it gives back. -/
def outcomeWith (engine : Engine) (program : List Statement) (first second : Json) :
    Outcome (Value × Value × Value) :=
  (Engine.idle.perform (tokens first second) .start).andThen fun (left, right) machine =>
    (Definition.run program left right engine machine).andThen fun value after =>
      .returned (value, left, right) after

/-- How a program ends on two tokens in a memory without bounds. -/
def outcome (program : List Statement) (first second : Json) : Outcome (Value × Value × Value) :=
  outcomeWith (Engine.ofFuel stepLimit) program first second

/-- The verdict of a program on two tokens. -/
def ofProgram (program : List Statement) (first second : Json) : Except Failure Verdict :=
  match outcome program first second with
  | .returned (value, left, right) machine =>
      let heap := machine.memory.heap
      .ok ⟨⟨value, heap⟩, ⟨left, heap⟩, ⟨right, heap⟩⟩
  | .stopped why machine => .error (ofStop machine.memory.heap why)
  | .exhausted => .error (.breach .endless)

/-- What the predicate of a body says about two tokens. -/
def ofBody (body : String) (first second : Json) : Except Failure Verdict :=
  match Definition.compile body.toList with
  | .ok program => ofProgram program first second
  | .error fault => .error (ofRefusal fault)

end Verdict

/-- A body must be the body of a predicate. -/
def Definition.check (body : String) : Except Failure Unit :=
  match compile body.toList with
  | .ok _ => .ok ()
  | .error fault => .error (Verdict.ofCompileFault fault)

end Predicate
end Wordbook
