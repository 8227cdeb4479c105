import Wordbook.Predicate.Verdict
import Wordbook.Proofs.Predicate.Evaluating
import Wordbook.State

/-!
# The built-in relations

A fresh engine has four relations: two texts are equal, or the first is a start, an end or a part of
the second.  The body of each is compiled to one expression over the tokens, and its verdict on any
two texts is whether the relation holds of them.
-/

namespace Wordbook

/-- The relations of a fresh engine. -/
inductive BuiltIn where
  | equals
  | isPrefixOf
  | isSuffixOf
  | contains
deriving DecidableEq

namespace BuiltIn

/-- All built-in relations, in the order of their identifiers. -/
def all : List BuiltIn := [equals, isPrefixOf, isSuffixOf, contains]

/-- A built-in relation as the engine keeps it. -/
def relation : BuiltIn → Relation
  | equals => ⟨1678886400000, "EQUALS", "return tokenA == tokenB"⟩
  | isPrefixOf => ⟨1678886400001, "IS_PREFIX_OF", "return tokenB.startswith(tokenA)"⟩
  | isSuffixOf => ⟨1678886400002, "IS_SUFFIX_OF", "return tokenB.endswith(tokenA)"⟩
  | contains => ⟨1678886400003, "CONTAINS", "return tokenA in tokenB"⟩

theorem relations_default : State.default.relations = all.map relation := rfl

/-- What a built-in relation says of two texts. -/
def Holds : BuiltIn → String → String → Prop
  | equals, first, second => first = second
  | isPrefixOf, first, second => ∃ rest, second = first ++ rest
  | isSuffixOf, first, second => ∃ rest, second = rest ++ first
  | contains, first, second => ∃ before behind, second = before ++ first ++ behind

end BuiltIn

namespace Predicate

/-! ## Expressions over two tokens -/

/-- The tokens compared with each other. -/
def comparisonOf (op : CompareOp) : Expr :=
  .compare (.variable "tokenA") [.mk op (.variable "tokenB")]

/-- An operation of the second token, applied to the first. -/
def operationOf (name : String) : Expr :=
  .call (.attribute (.variable "tokenB") name) [.one (.variable "tokenA")] []

/-- The machine on which a predicate was just started: its tokens are the values of its scope. -/
def Machine.started (left right : Value) (memory : Memory) : Machine :=
  ⟨memory, #[parameterNames.zip [left, right]], #[]⟩

/-- The scopes of a predicate that binds no name but the tokens. -/
def Environment.ofTokens : Environment := [⟨parameterNames, 0⟩]

section

variable {left right : Value} {memory : Memory}

theorem evaluate_tokenA (fuel : Nat) :
    Run.evaluate .ofTokens (.variable "tokenA") (.ofFuel (fuel + 1)) (.started left right memory) =
      .returned left (.started left right memory) := rfl

theorem evaluate_tokenB (fuel : Nat) :
    Run.evaluate .ofTokens (.variable "tokenB") (.ofFuel (fuel + 1)) (.started left right memory) =
      .returned right (.started left right memory) := rfl

theorem evaluate_comparisonOf
    {op : CompareOp}
    {found : Bool}
    (decided : (Operators.compare op left right).alone? memory = some (found, memory))
    (fuel : Nat) :
    (Engine.ofFuel (fuel + 2)).evaluate .ofTokens (comparisonOf op)
        (.started left right memory) =
      .returned (.bool found) (.started left right memory) := by
  have performed : (Engine.ofFuel (fuel + 1)).perform (Operators.compare op left right)
      (.started left right memory) = .returned found (.started left right memory) :=
    Engine.perform_of_alone _ decided
  simp only [comparisonOf, Engine.evaluate_ofFuel, Evaluation.evaluate_comparison, Run.bind_apply,
    evaluate_tokenA, evaluate_tokenB, Run.liftM_apply, Outcome.andThen, performed, Run.pure_apply]

/-- The operation of the second token gets a mark before it is applied to the first. -/
theorem evaluate_operationOf
    {name : String}
    (edge : name ∈ TextMethod.edgeNames)
    (fuel : Nat)
    (first second : String)
    (leftMark rightMark : Mark) :
    ∃ marks,
      (Engine.ofFuel (fuel + 3)).evaluate .ofTokens (operationOf name)
          (.started (.text first leftMark) (.text second rightMark) memory) =
        .returned (.bool (TextMethod.standsAt name first.toList second.toList))
          (.started (.text first leftMark) (.text second rightMark) ⟨memory.heap, marks⟩) := by
  obtain ⟨mark, marks, marked⟩ :=
    Work.exists_alone?_markedAlone (.method (.text second rightMark) name) rfl memory
  refine ⟨marks, ?_⟩
  have taken : Run.evaluate .ofTokens (.attribute (.variable "tokenB") name)
      (.ofFuel (fuel + 2)) (.started (.text first leftMark) (.text second rightMark) memory) =
        .returned (.method (.text second rightMark) name mark)
          (.started (.text first leftMark) (.text second rightMark) ⟨memory.heap, marks⟩) := by
    rw [Run.evaluate, Engine.evaluate_ofFuel, Evaluation.evaluate_attribute, Run.bind_apply,
      evaluate_tokenB, Outcome.andThen, Attribute.find_edge edge]
    exact Engine.perform_of_alone _ marked
  have called : Calling.call (.method (.text second rightMark) name mark)
      ⟨[.text first leftMark], []⟩ =
        pure (.bool (TextMethod.standsAt name first.toList second.toList)) := by
    change (TextMethod.call name _ second.toList _ >>= Work.marked) = _
    rw [TextMethod.call_edge edge]
    rfl
  rw [operationOf, Engine.evaluate_ofFuel, Evaluation.evaluate_operation, Run.bind_apply, taken,
    Outcome.andThen, Run.bind_apply, evaluate_tokenA, Outcome.andThen]
  change ((Engine.ofFuel (fuel + 2)).call (.method (.text second rightMark) name mark)
    ⟨[.text first leftMark], []⟩ _).andThen _ = _
  rw [Engine.call_ofFuel, called]
  rfl

end

/-! ## Programs that give one value back -/

/-- Programs hold floats and cannot be told apart as such; what a body is compiled to is told from
all other programs by a test for it. -/
theorem Definition.compile_eq_of_any
    {body : List Char}
    {program : List Statement}
    {test : List Statement → Bool}
    (compiles : (compile body).toOption.any test = true)
    (only : ∀ {found : List Statement}, test found = true → found = program) :
    compile body = .ok program := by
  cases compiled : compile body with
  | error fault =>
      rw [compiled] at compiles
      contradiction
  | ok found =>
      rw [compiled] at compiles
      exact congrArg _ (only compiles)

/-- A program gives back what a comparison of the tokens comes to. -/
def givesComparison (op : CompareOp) : List Statement → Bool
  | [.give (some (.compare (.variable left) [.mk other (.variable right)]))] =>
      left == "tokenA" && other == op && right == "tokenB"
  | _ => false

/-- A program gives back what an operation of the second token comes to. -/
def givesOperation (name : String) : List Statement → Bool
  | [.give (some (.call (.attribute (.variable receiver) other) [.one (.variable argument)] []))] =>
      receiver == "tokenB" && other == name && argument == "tokenA"
  | _ => false

theorem eq_of_givesComparison
    {op : CompareOp}
    {program : List Statement}
    (gives : givesComparison op program = true) :
    program = [.give (some (comparisonOf op))] := by
  unfold givesComparison at gives
  split at gives
  · simp only [Bool.and_eq_true, beq_iff_eq] at gives
    obtain ⟨⟨rfl, rfl⟩, rfl⟩ := gives
    rfl
  · contradiction

theorem eq_of_givesOperation
    {name : String}
    {program : List Statement}
    (gives : givesOperation name program = true) :
    program = [.give (some (operationOf name))] := by
  unfold givesOperation at gives
  split at gives
  · simp only [Bool.and_eq_true, beq_iff_eq] at gives
    obtain ⟨⟨rfl, rfl⟩, rfl⟩ := gives
    rfl
  · contradiction

end Predicate

namespace BuiltIn

open Predicate

variable {builtIn : BuiltIn}

/-! ## The bodies and what they come to -/

/-- What the body of a built-in relation gives back. -/
def expression : BuiltIn → Expr
  | equals => comparisonOf .equal
  | isPrefixOf => operationOf "startswith"
  | isSuffixOf => operationOf "endswith"
  | contains => comparisonOf .within

/-- A program gives back what the body of a built-in relation does. -/
def isProgram : BuiltIn → List Statement → Bool
  | equals => givesComparison .equal
  | isPrefixOf => givesOperation "startswith"
  | isSuffixOf => givesOperation "endswith"
  | contains => givesComparison .within

theorem eq_of_isProgram
    {program : List Statement}
    (found : builtIn.isProgram program = true) :
    program = [.give (some builtIn.expression)] := by
  cases builtIn with
  | equals => exact eq_of_givesComparison found
  | isPrefixOf => exact eq_of_givesOperation found
  | isSuffixOf => exact eq_of_givesOperation found
  | contains => exact eq_of_givesComparison found

theorem compile_definition (builtIn : BuiltIn) :
    Definition.compile builtIn.relation.definition.toList =
      .ok [.give (some builtIn.expression)] := by
  have compiles : (Definition.compile builtIn.relation.definition.toList).toOption.any
      builtIn.isProgram = true := by
    cases builtIn <;> decide +kernel
  exact Definition.compile_eq_of_any compiles eq_of_isProgram

/-- What the operations of the language decide about two texts. -/
def decides : BuiltIn → String → String → Bool
  | equals, first, second => first == second
  | isPrefixOf, first, second => TextMethod.standsAt "startswith" first.toList second.toList
  | isSuffixOf, first, second => TextMethod.standsAt "endswith" first.toList second.toList
  | contains, first, second => (Text.find? first.toList second.toList).isSome

theorem decides_iff {first second : String} :
    builtIn.decides first second = true ↔ builtIn.Holds first second := by
  cases builtIn with
  | equals => exact beq_iff_eq
  | isPrefixOf => exact Span.startsWith_whole_iff.trans Text.isPrefix_toList_iff
  | isSuffixOf => exact Span.endsWith_whole_iff.trans Text.isSuffix_toList_iff
  | contains => exact Text.isSome_find?_iff.trans Text.isInfix_toList_iff

instance {first second : String} : Decidable (builtIn.Holds first second) :=
  decidable_of_iff _ decides_iff

/-- The expression comes to whether the relation holds, within three steps. -/
theorem evaluate_expression
    (builtIn : BuiltIn)
    (fuel : Nat)
    (first second : String)
    (leftMark rightMark : Mark)
    (memory : Memory) :
    ∃ marks,
      (Engine.ofFuel (fuel + 3)).evaluate .ofTokens builtIn.expression
          (.started (.text first leftMark) (.text second rightMark) memory) =
        .returned (.bool (decide (builtIn.Holds first second)))
          (.started (.text first leftMark) (.text second rightMark) ⟨memory.heap, marks⟩) := by
  have decided : decide (builtIn.Holds first second) = builtIn.decides first second := by
    rw [Bool.eq_iff_iff, decide_eq_true_iff, decides_iff]
  rw [decided]
  cases builtIn with
  | equals => exact ⟨memory.marks, evaluate_comparisonOf rfl (fuel + 1)⟩
  | isPrefixOf => exact evaluate_operationOf (by decide) fuel first second leftMark rightMark
  | isSuffixOf => exact evaluate_operationOf (by decide) fuel first second leftMark rightMark
  | contains => exact ⟨memory.marks, evaluate_comparisonOf rfl (fuel + 1)⟩

/-! ## Verdicts -/

/-- Two texts become values that are told apart by their marks. -/
theorem exists_alone?_tokens (first second : String) :
    ∃ leftMark rightMark marks,
      (Verdict.tokens (.str first) (.str second)).alone? .empty =
        some ((.text first leftMark, .text second rightMark), ⟨#[], marks⟩) := by
  obtain ⟨leftMark, marks, markedFirst⟩ :=
    Work.exists_alone?_markedAlone (.text first) rfl .empty
  obtain ⟨rightMark, total, markedSecond⟩ :=
    Work.exists_alone?_markedAlone (.text second) rfl ⟨Memory.empty.heap, marks⟩
  have made (text : String) : Work.ofJson (.str text) = Work.markedAlone (.text text) := by
    rw [Work.ofJson]
    rfl
  refine ⟨leftMark, rightMark, total, ?_⟩
  simp only [Verdict.tokens, Work.alone?_bind, made, markedFirst, Option.bind_some, markedSecond]
  rfl

/-- How a run of a built-in relation on two texts ends. -/
theorem exists_outcome (builtIn : BuiltIn) (first second : String) :
    ∃ leftMark rightMark marks,
      let left := .text first leftMark
      let right := .text second rightMark
      Verdict.outcome [.give (some builtIn.expression)] (.str first) (.str second) =
        .returned (.bool (decide (builtIn.Holds first second)), left, right)
          (.started left right ⟨#[], marks⟩) := by
  obtain ⟨leftMark, rightMark, marks, given⟩ := exists_alone?_tokens first second
  have enough : stepLimit = stepLimit - 3 + 3 := (Nat.sub_add_cancel (by decide)).symm
  obtain ⟨total, evaluated⟩ :=
    builtIn.evaluate_expression (stepLimit - 3) first second leftMark rightMark ⟨#[], marks⟩
  rw [← enough] at evaluated
  have started : Definition.run [.give (some builtIn.expression)] (.text first leftMark)
      (.text second rightMark) (.ofFuel stepLimit) ⟨⟨#[], marks⟩, #[], #[]⟩ =
        (Engine.ofFuel stepLimit).evaluate .ofTokens builtIn.expression
          (.started (.text first leftMark) (.text second rightMark) ⟨#[], marks⟩) := by
    rw [Definition.run_give]
    rfl
  refine ⟨leftMark, rightMark, total, ?_⟩
  rw [Verdict.outcome, Verdict.outcomeWith, Engine.perform_of_alone _ given, Outcome.andThen]
  change (Definition.run _ _ _ _ ⟨⟨#[], marks⟩, #[], #[]⟩).andThen _ = _
  rw [started, evaluated, Outcome.andThen]

/-- The verdict on two texts is whether the relation holds of them. -/
theorem exists_ofBody (builtIn : BuiltIn) (first second : String) :
    ∃ leftMark rightMark,
      Verdict.ofBody builtIn.relation.definition (.str first) (.str second) =
        .ok ⟨⟨.bool (decide (builtIn.Holds first second)), #[]⟩,
          ⟨.text first leftMark, #[]⟩, ⟨.text second rightMark, #[]⟩⟩ := by
  obtain ⟨leftMark, rightMark, marks, ended⟩ := builtIn.exists_outcome first second
  refine ⟨leftMark, rightMark, ?_⟩
  rw [Verdict.ofBody, compile_definition]
  simp only [Verdict.ofProgram, ended]
  rfl

end BuiltIn
end Wordbook
