import Wordbook.Predicate.Execution
import Wordbook.Proofs.Outcome
import Wordbook.Proofs.Predicate.Running
import Wordbook.Proofs.Text.Search

/-!
# Evaluating comparisons and calls

What the interpreter does with a program that gives one value back, when the value is a comparison
or the result of an operation of a text.  Each construct of the language has one equation, which
tells in which order its parts are evaluated; work that asks for nothing ends in the same way with
every engine.
-/

namespace Wordbook
namespace Predicate

variable {First Second Result : Type}

/-! ## Work that asks for nothing -/

namespace Work

theorem alone?_bind (work : Work First) (next : First → Work Second) (memory : Memory) :
    (work >>= next).alone? memory =
      (work.alone? memory).bind fun (result, after) => (next result).alone? after := by
  change (work.andThen next).alone? memory = _
  induction work generalizing memory with
  | done result => rfl
  | failed fault => rfl
  | reading read inductionHypothesis => exact inductionHypothesis memory _ memory
  | writing update rest inductionHypothesis => exact inductionHypothesis _ (update memory)
  | calling callee arguments rest inductionHypothesis => rfl
  | starting walk rest inductionHypothesis => rfl
  | asking iterator rest inductionHypothesis => rfl
  | folding iterator start step rest stepHypothesis inductionHypothesis => rfl

/-- A value gets a mark, and nothing but the count of marks changes. -/
theorem exists_alone?_markedAlone
    (value : Value)
    (unset : value.mark? = some .unset)
    (memory : Memory) :
    ∃ mark marks, (markedAlone value).alone? memory =
      some (value.withMark mark, ⟨memory.heap, marks⟩) := by
  rw [markedAlone]
  simp only [unset]
  by_cases common : value.isCommon = true
  · rw [if_pos common]
    exact ⟨.common, memory.marks, rfl⟩
  · rw [if_neg common]
    exact ⟨.own (memory.marks + 1), memory.marks + 1, rfl⟩

end Work

theorem Engine.perform_of_alone
    (engine : Engine)
    {work : Work Result}
    {machine : Machine}
    {result : Result}
    {memory : Memory}
    (alone : work.alone? machine.memory = some (result, memory)) :
    engine.perform work machine = .returned result { machine with memory := memory } := by
  induction work generalizing machine with
  | done found =>
      cases alone
      rfl
  | failed fault => contradiction
  | reading next inductionHypothesis => exact inductionHypothesis machine.memory alone
  | writing update next inductionHypothesis =>
      exact @inductionHypothesis { machine with memory := update machine.memory } _ alone
  | calling callee arguments next inductionHypothesis => contradiction
  | starting walk next inductionHypothesis => contradiction
  | asking iterator next inductionHypothesis => contradiction
  | folding iterator start step next stepHypothesis inductionHypothesis => contradiction

/-! ## Searching a whole text -/

namespace Span

theorem make_whole (length : Nat) : make none none length = .ok ⟨0, length⟩ := by
  have given : ¬ (length : Int) < 0 := by omega
  have stop : min (length : Int) length = length := by omega
  simp only [make, bound, ok_bind, Option.getD_none, if_neg given, stop]
  rfl

section

variable {Symbol : Type}

theorem part?_whole (sought symbols : List Symbol) :
    part? ⟨0, symbols.length⟩ sought symbols =
      if symbols.length < sought.length then none else some symbols := by
  simp [part?]

variable [BEq Symbol] [LawfulBEq Symbol]

theorem startsWith_whole_iff {sought symbols : List Symbol} :
    startsWith ⟨0, symbols.length⟩ sought symbols = true ↔ sought <+: symbols := by
  rw [startsWith, part?_whole]
  split
  case isTrue longer => exact iff_of_false nofun fun start => absurd start.length_le (by omega)
  case isFalse => rw [Option.any_some, List.isPrefixOf_iff_prefix]

theorem endsWith_whole_iff {sought symbols : List Symbol} :
    endsWith ⟨0, symbols.length⟩ sought symbols = true ↔ sought <:+ symbols := by
  rw [endsWith, part?_whole]
  split
  case isTrue longer => exact iff_of_false nofun fun ending => absurd ending.length_le (by omega)
  case isFalse => rw [Option.any_some, List.isPrefixOf_iff_prefix, List.reverse_prefix]

end

end Span

/-- A text stands at the edge that the name of an operation tells. -/
def TextMethod.standsAt (name : String) (part chars : List Char) : Bool :=
  if name == "startswith" then Span.startsWith ⟨0, chars.length⟩ part chars
  else Span.endsWith ⟨0, chars.length⟩ part chars

/-- The names of the operations that look at an edge of a text. -/
def TextMethod.edgeNames : List String := ["startswith", "endswith"]

namespace TextMethod

theorem sought_text (name : String) (value : Value) (length : Nat) :
    sought name ⟨[value], []⟩ length = .ok (value, ⟨0, length⟩) := by
  have taken : Arguments.takes ⟨[value], []⟩ name ("str." ++ name) 1 3 = .ok [value] := rfl
  have whole : Span.make [value][1]? [value][2]? length = .ok ⟨0, length⟩ := Span.make_whole length
  rw [sought, taken, ok_bind, whole]
  rfl

theorem search_edge
    {name : String}
    (edge : name ∈ edgeNames)
    (chars : List Char)
    (part : String)
    (mark : Mark) :
    search name chars ⟨[.text part mark], []⟩ = .ok (.bool (standsAt name part.toList chars)) := by
  have isEdge : (name == "startswith" || name == "endswith") = true := by
    simpa [edgeNames] using edge
  rw [search, sought_text, ok_bind]
  simp only [isEdge, if_true, anyEdge, ok_bind]
  rfl

theorem call_edge
    {name : String}
    (edge : name ∈ edgeNames)
    (whole : Value)
    (chars : List Char)
    (part : String)
    (mark : Mark) :
    call name whole chars ⟨[.text part mark], []⟩ =
      pure (.bool (standsAt name part.toList chars)) := by
  have searched : call name whole chars ⟨[.text part mark], []⟩ =
      Work.ofExcept (search name chars ⟨[.text part mark], []⟩) := by
    rw [edgeNames, List.mem_cons, List.mem_singleton] at edge
    rcases edge with rfl | rfl <;> rfl
  rw [searched, search_edge edge]
  rfl

end TextMethod

/-- An operation that looks at an edge of a text is bound to it. -/
theorem Attribute.find_edge
    {name : String}
    (edge : name ∈ TextMethod.edgeNames)
    (text : String)
    (mark : Mark) :
    find (.text text mark) name = .ok (.method (.text text mark) name) := by
  rw [TextMethod.edgeNames, List.mem_cons, List.mem_singleton] at edge
  rcases edge with rfl | rfl <;> rfl

/-! ## One equation for each construct -/

theorem Run.liftM_pure (result : Result) :
    (liftM (pure result : Work Result) : Run Result) = pure result := rfl

theorem Engine.evaluate_ofFuel
    (fuel : Nat)
    (environment : Environment)
    (value : Expr)
    (machine : Machine) :
    (ofFuel (fuel + 1)).evaluate environment value machine =
      Evaluation.evaluate environment value (ofFuel fuel) machine := rfl

theorem Engine.call_ofFuel
    (fuel : Nat)
    (callee : Value)
    (arguments : Arguments)
    (machine : Machine) :
    (ofFuel (fuel + 1)).call callee arguments machine =
      (ofFuel fuel).perform (Calling.call callee arguments) machine := rfl

theorem Execution.runAll_give (environment : Environment) (value : Expr) :
    runAll environment [.give (some value)] = Flow.given <$> Run.evaluate environment value := by
  simp [runAll, run, Evaluation.optional]

theorem Definition.run_give (value : Expr) (left right : Value) :
    run [.give (some value)] left right =
      Run.newScope (parameterNames.zip [left, right]) >>= fun address =>
        Run.evaluate [⟨parameterNames, address⟩] value := by
  simp [run, Execution.runAll_give, namesOfStatements, Statement.names]

namespace Evaluation

variable (environment : Environment)

theorem evaluate_comparison (left right : Expr) (op : CompareOp) :
    evaluate environment (.compare left [.mk op right]) =
      Run.evaluate environment left >>= fun first =>
        Run.evaluate environment right >>= fun second =>
          (liftM (Operators.compare op first second) : Run Bool) >>= fun found =>
            pure (.bool found) := by
  have last (found : Bool) : (if found then pure true else pure false : Run Bool) = pure found := by
    cases found <;> rfl
  simp [evaluate, chain, last]

theorem evaluate_attribute (receiver : Expr) (name : String) :
    evaluate environment (.attribute receiver name) =
      Run.evaluate environment receiver >>= fun value =>
        (liftM (Work.ofExcept (Attribute.find value name)) : Run Value) >>= fun found =>
          (liftM (Work.marked found) : Run Value) := by
  rw [evaluate]

/-- The operation is taken from its receiver before the argument is evaluated. -/
theorem evaluate_operation (receiver argument : Expr) (name : String) :
    evaluate environment (.call (.attribute receiver name) [.one argument] []) =
      Run.evaluate environment (.attribute receiver name) >>= fun callee =>
        Run.evaluate environment argument >>= fun given =>
          (liftM (callWith true callee [given] []) : Run Value) := by
  simp [evaluate, call, argumentsOf, itemsOf, itemsFrom, namedFrom, mergeNamed, isDirect,
    Item.isOne, batchLength, Run.liftM_pure]

end Evaluation
end Predicate
end Wordbook
