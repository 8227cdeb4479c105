import Wordbook.Instruction
import Wordbook.Session.Lifecycle
import Wordbook.Session.Relations
import Wordbook.Session.Vocabulary

/-!
# Dispatching instructions

A request is an instruction with its parameters.  Parameters come as the members of an object; what
is not there is null.  An instruction is named by any value that reads as its number, and its
parameters may be any value that counts as false or is an object.
-/

namespace Wordbook

/-- An instruction with its parameters. -/
inductive Request where
  | initState (path : Json) (restore : Bool)
  | saveState (path : Json)
  | generateTokens (alphabet maxLength : Json) (force : Bool)
  | upsertRelation (name definition id : Json)
  | deleteRelation (id : Json)
  | compareTokens (tokenA tokenB relationId : Json)
  | importState (path : Json)
  | exportState (fileName : Json) (force : Bool)
  | notify (title message : Json)
  | confirm (title message : Json)
  | prompt (title default : Json)

namespace Request

/-- A value, or a text if it counts as false. -/
def orText (value : Json) (fallback : String) : Json :=
  if value.isTruthy then value else .str fallback

/-- The request for an instruction with some parameters. -/
def ofParameters (instruction : Instruction) (parameters : List (String × Json)) : Request :=
  let given (name : String) : Json := Json.memberOrNull name parameters
  match instruction with
  | .initState => .initState (given "path") (given "restore").isTruthy
  | .saveState => .saveState (given "path")
  | .generateTokens =>
      .generateTokens (given "alphabet") (given "maxLength") (given "force").isTruthy
  | .upsertRelation => .upsertRelation (given "name") (given "definition") (given "id")
  | .deleteRelation => .deleteRelation (given "id")
  | .compareTokens => .compareTokens (given "tokenA") (given "tokenB") (given "relationId")
  | .importState => .importState (given "path")
  | .exportState => .exportState (given "fileName") (given "force").isTruthy
  | .notify => .notify (given "title") (given "message")
  | .confirm => .confirm (given "title") (given "message")
  | .prompt => .prompt (given "title") (given "default")

/-- Carry out a request. -/
def perform : Request → Act Answer
  | .initState path restore => Session.start path restore
  | .saveState path => Session.save path
  | .generateTokens alphabet maxLength force => Session.generate alphabet maxLength force
  | .upsertRelation name definition id => Session.upsert name definition id
  | .deleteRelation id => Session.delete id
  | .compareTokens tokenA tokenB relationId => Session.compare tokenA tokenB relationId
  | .importState path => Session.importFrom path
  | .exportState fileName force => Session.exportTo fileName force
  | .notify title message => do
      Session.notify ((orText title "Notification").plain ++ ": " ++ (orText message "").plain)
      return .bare true
  | .confirm title message => do
      let answer ← Session.confirm
        ((orText title "Confirm").plain ++ "\n\n" ++ (orText message "Are you sure?").plain)
      return { Answer.bare true with confirmed := some answer }
  | .prompt title default => do
      let answer ← Session.prompt (orText title "Input") (orText default "")
      return { Answer.bare true with
        value := if answer.isNull then none else some answer
        cancelled := some answer.isNull }

/-- Carry out a request, and answer an issue with a failure. -/
def settle (request : Request) : Act Answer :=
  tryCatch request.perform fun failure =>
    match failure with
    | .issue issue => return .ofIssue issue
    | .breach breach => throw (.breach breach)

end Request
/-- The integer that a value reads as, if it does; an infinite float is refused. -/
def Json.asInteger : Json → Except Breach (Option Int)
  | .bool value => .ok (some (if value then 1 else 0))
  | .int value => .ok (some value)
  | .float value =>
      match Number.shape value with
      | .finite parts => .ok (some parts.truncate)
      | .infinite _ => .error .infiniteInteger
      | .notANumber => .ok none
  | .str text =>
      match Number.readDecimal (Text.trim text) with
      | .value value => .ok (some value)
      | _ => .ok none
  | _ => .ok none

/-- The instruction that a value names, if it names one. -/
def Instruction.ofCode (code : Json) : Except Breach (Option Instruction) :=
  return (← code.asInteger).bind Instruction.ofNumber?

/-- A list could be a list of pairs up to an element: none of them is at fault. -/
def checkPairs (place : Nat) : List Json → Except Breach Unit
  | [] => .ok ()
  | .str text :: items =>
      if text.length = 2 then checkPairs (place + 1) items
      else .error (.pairLength place text.length)
  | .arr [key, _] :: items =>
      match key with
      | .arr _ => .error (.unhashable "list")
      | .obj _ => .error (.unhashable "dict")
      | _ => checkPairs (place + 1) items
  | .arr found :: _ => .error (.pairLength place found.length)
  | .obj members :: items =>
      if members.length = 2 then checkPairs (place + 1) items
      else .error (.pairLength place members.length)
  | _ :: _ => .error (.notPair place)

/-- The parameters that a value stands for: those of an object, and none for what counts as
false. -/
def Request.parameters (value : Json) : Except Breach (List (String × Json)) :=
  if value.isTruthy then
    match value with
    | .obj members => .ok members
    | .arr items => do
        checkPairs 0 items
        throw (.noMethod "list" "get")
    | .str _ => .error (.pairLength 0 1)
    | other => .error (.notIterable other.typeName)
  else .ok []

namespace Session

/-- Carry out the instruction that a code names. -/
def dispatch (code parameters : Json) : Act Answer := do
  match ← permit ((Instruction.ofCode code).mapError .breach) with
  | none => return .unknownInstruction (← permit (code.written.mapError .breach))
  | some instruction =>
      let members ← permit ((Request.parameters parameters).mapError .breach)
      (Request.ofParameters instruction members).settle

end Session
end Wordbook
