import Wordbook.Session.Dispatch

/-!
# Workflows

A workflow is a sequence of requests, some of which wait for the answer to a dialog.  A step that is
cancelled ends it: nothing after that step is done, and the workflow has no answer.
-/

namespace Wordbook
namespace Workflow

/-- The body that a new relation has by default. -/
def defaultBody : String := "return tokenA == tokenB"

/-- Show a message under a title. -/
def notify (title : String) (message : Option String) : Act Unit := do
  let _ ← (Request.notify (.str title) (.str (message.getD ""))).settle
  return ()

/-- Show what an answer says, and give it back. -/
def report (answer : Answer) (title : String) : Act (Option Answer) := do
  notify (if answer.success then title else "Error") answer.message
  return some answer

/-- Ask for a confirmation. -/
def confirm (title message : String) : Act Bool := do
  let answer ← (Request.confirm (.str title) (.str message)).settle
  return answer.confirmed.getD false

/-- Ask for a text with a default; none means that the dialog was cancelled. -/
def prompt (title default : String) : Act (Option Json) := do
  let answer ← (Request.prompt (.str title) (.str default)).settle
  if answer.cancelled.getD false then return none else return answer.value

/-- A value that was given, or the answer to a dialog. -/
def orPrompt (value : Json) (title default : String) : Act (Option Json) :=
  if value.isNull then prompt title default else return some value

/-- Generate the vocabulary; a large one only after it was confirmed. -/
def generate (alphabet maxLength : Json) : Act (Option Answer) := do
  let first ← (Request.generateTokens alphabet maxLength false).settle
  if !first.success && first.warning.getD false then
    if ← confirm "Warning" (first.message.getD "" ++ " Continue?") then
      report (← (Request.generateTokens alphabet maxLength true).settle) "Success"
    else return none
  else report first "Success"

/-- Add a relation; what is missing is asked for. -/
def addRelation (name definition : Json) : Act (Option Answer) := do
  match ← orPrompt name "Enter relation name (e.g. IS_PREFIX_OF)" "" with
  | none => return none
  | some givenName =>
      match ← orPrompt definition "Enter relation definition using tokenA and tokenB"
          defaultBody with
      | none => return none
      | some body =>
          report (← (Request.upsertRelation givenName body .null).settle) "Success"

/-- The relation whose name and body are the defaults for changing the one with an identifier. -/
def current (state : Option State) (id : Json) : Except Breach (Option Relation) :=
  match state with
  | none => .ok none
  | some found => return (← id.asInteger).bind found.find?

/-- Change a relation; what is missing is asked for, with what it is by default. -/
def editRelation (id name definition : Json) : Act (Option Answer) := do
  let relation ← Session.permit ((current (← get).state id).mapError .breach)
  match ← orPrompt name "Edit relation name" ((relation.map Relation.name).getD "") with
  | none => return none
  | some givenName =>
      match ← orPrompt definition "Edit relation definition"
          ((relation.map Relation.definition).getD defaultBody) with
      | none => return none
      | some body => report (← (Request.upsertRelation givenName body id).settle) "Success"

/-- Delete a relation after it was confirmed. -/
def deleteRelation (id : Json) : Act (Option Answer) := do
  if ← confirm "Delete Relation" "Are you sure you want to delete this relation?" then
    report (← (Request.deleteRelation id).settle) "Success"
  else return none

/-- The name of the relation that an answer is about. -/
def subjectName (answer : Answer) : String :=
  match answer.subject with
  | some (.name name) => name
  | some (.relation relation) => relation.name
  | none => "None"

/-- A part of an answer as text. -/
def partText (part : Option Predicate.Held) : Act String :=
  match part with
  | none => return "None"
  | some held => Session.permit (held.text.mapError .breach)

/-- Compare two tokens, and show the result. -/
def compare (tokenA tokenB relationId : Json) : Act (Option Answer) := do
  let answer ← (Request.compareTokens tokenA tokenB relationId).settle
  if answer.success then
    let left ← partText answer.tokenA
    let right ← partText answer.tokenB
    let result ← partText answer.result
    notify "Result"
      (some (subjectName answer ++ "(" ++ left ++ ", " ++ right ++ ") = " ++ result))
    return some answer
  else report answer "Result"

/-- Save the state, in a file too if a path is given. -/
def save (path : Json) : Act (Option Answer) := do
  report (← (Request.saveState path).settle) "Saved"

/-- Go back to the default state after it was confirmed, and save it. -/
def reset : Act (Option Answer) := do
  if ← confirm "Reset System"
      "This will reset all tokens and relations to defaults. Continue?" then
    let answer ← (Request.initState .null false).settle
    let saved ← (Request.saveState .null).settle
    if saved.success then report answer "Reset" else report saved "Reset"
  else return none

/-- The text of a path that an answer is about. -/
def pathText (answer : Answer) : String := (answer.filePath.getD .null).plain

/-- Export the state; a file that is there is written over only after it was confirmed. -/
def exportState (fileName : Json) : Act (Option Answer) := do
  match ← orPrompt fileName "Export file name" (Path.defaultExportName (← get).clock) with
  | none => return none
  | some name =>
      let first ← (Request.exportState name false).settle
      if !first.success && first.requireConfirmation.getD false then
        if ← confirm "File Exists" (pathText first ++ " already exists. Overwrite?") then
          report (← (Request.exportState name true).settle) "Exported"
        else return none
      else report first "Exported"

/-- The paths of the exported snapshots. -/
def candidates : Act (List String) := do
  let found ← Session.listFiles (.str Path.documents)
  return (found.filter fun entry => entry.isFile && entry.name.endsWith ".json").map Listed.path

/-- Import a state; without a path the exported ones are shown and a path is asked for. -/
def importState (path : Json) : Act (Option Answer) := do
  let chosen : Option Json ←
    if path.isNull then do
      let found ← candidates
      if !found.isEmpty then notify "Available files" (some (", ".intercalate found))
      prompt "Path of the file to import" (found.getLast?.getD "")
    else pure (some path)
  match chosen with
  | none => return none
  | some given => report (← (Request.importState given).settle) "Imported"

end Workflow
end Wordbook
