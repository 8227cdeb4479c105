import Wordbook.Predicate.Verdict
import Wordbook.Relation

/-!
# Answers

Every instruction is answered in one shape: whether it succeeded, a message, the kind of an issue,
and what the instruction has to say beyond that.
-/

namespace Wordbook

/-- What an answer tells about a relation: all of it, or its name. -/
inductive Subject where
  | relation (relation : Relation)
  | name (name : String)

/-- The answer to an instruction; what is not set has nothing to say. -/
structure Answer where
  success : Bool
  message : Option String
  issue : Option IssueKind
  warning : Option Bool
  requireConfirmation : Option Bool
  tokenCount : Option Int
  subject : Option Subject
  result : Option Predicate.Held
  tokenA : Option Predicate.Held
  tokenB : Option Predicate.Held
  filePath : Option Json
  confirmed : Option Bool
  value : Option Json
  cancelled : Option Bool

/-- One entry of an answer. -/
inductive AnswerPart where
  | flag (value : Bool)
  | text (value : String)
  | number (value : Int)
  | kind (value : IssueKind)
  | relation (value : Relation)
  | held (value : Predicate.Held)
  | given (value : Json)

namespace Answer

/-- An answer that tells nothing but success or failure. -/
def bare (success : Bool) : Answer :=
  ⟨success, none, none, none, none, none, none, none, none, none, none, none, none, none⟩

/-- Success with a message. -/
def done (message : String) : Answer := { bare true with message := some message }

/-- The failure for an issue, with what the issue carries. -/
def ofIssue (issue : Issue) : Answer :=
  let failure : Answer :=
    { bare false with message := some issue.message, issue := some issue.kind }
  match issue with
  | .tooManyTokens count _ => { failure with warning := some true, tokenCount := some count }
  | .fileExists path =>
      { failure with requireConfirmation := some true, filePath := some (.str path) }
  | _ => failure

/-- The failure for a number that no instruction has. -/
def unknownInstruction (shown : String) : Answer :=
  { bare false with
    message := some ("Unknown instruction: " ++ shown), issue := some .unknownOpcode }

/-- An entry for a value that is set. -/
def entry {Found : Type} (key : String) (value : Option Found) (part : Found → AnswerPart) :
    List (String × AnswerPart) :=
  match value with
  | some found => [(key, part found)]
  | none => []

/-- The entry for the result of a comparison.  A result of nothing is only told in an answer about a
first token. -/
def resultEntry (answer : Answer) : List (String × AnswerPart) :=
  match answer.result, answer.tokenA with
  | none, none => []
  | none, some _ => [("result", .given .null)]
  | some ⟨.nothing, _⟩, none => []
  | some held, _ => [("result", .held held)]

/-- The entries of an answer under their keys; what is not set has none. -/
def entries (answer : Answer) : List (String × AnswerPart) :=
  [("success", .flag answer.success)] ++
    entry "message" answer.message .text ++
    entry "error" answer.issue .kind ++
    entry "warning" answer.warning .flag ++
    entry "requireConfirmation" answer.requireConfirmation .flag ++
    entry "tokenCount" answer.tokenCount .number ++
    entry "relation" answer.subject (fun subject =>
      match subject with
      | .relation relation => .relation relation
      | .name name => .text name) ++
    answer.resultEntry ++
    entry "tokenA" answer.tokenA .held ++
    entry "tokenB" answer.tokenB .held ++
    entry "filePath" answer.filePath .given ++
    entry "confirmed" answer.confirmed .flag ++
    entry "value" answer.value .given ++
    entry "cancelled" answer.cancelled .flag

end Answer
end Wordbook
