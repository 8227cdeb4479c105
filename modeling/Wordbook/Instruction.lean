import Wordbook.Issue

/-!
# The instruction set

Every instruction has a number, a name and a description.  Numbers from 100 on concern the state as
a whole, from 300 on its contents and from 400 on dialogs.
-/

namespace Wordbook

/-- The instructions. -/
inductive Instruction where
  | initState
  | saveState
  | generateTokens
  | upsertRelation
  | deleteRelation
  | compareTokens
  | importState
  | exportState
  | notify
  | confirm
  | prompt
deriving DecidableEq

namespace Instruction

/-- Every instruction in the order of the numbers. -/
def all : List Instruction :=
  [.initState, .saveState, .generateTokens, .upsertRelation, .deleteRelation, .compareTokens,
    .importState, .exportState, .notify, .confirm, .prompt]

/-- The number of an instruction. -/
def number : Instruction → Int
  | .initState => 100
  | .saveState => 101
  | .generateTokens => 300
  | .upsertRelation => 301
  | .deleteRelation => 302
  | .compareTokens => 303
  | .importState => 304
  | .exportState => 305
  | .notify => 400
  | .confirm => 401
  | .prompt => 402

/-- The name of an instruction. -/
def name : Instruction → String
  | .initState => "INIT_STATE"
  | .saveState => "SAVE_STATE"
  | .generateTokens => "GENERATE_TOKENS"
  | .upsertRelation => "UPSERT_RELATION"
  | .deleteRelation => "DELETE_RELATION"
  | .compareTokens => "COMPARE_TOKENS"
  | .importState => "IMPORT_STATE"
  | .exportState => "EXPORT_STATE"
  | .notify => "NOTIFY"
  | .confirm => "CONFIRM"
  | .prompt => "PROMPT"

/-- What an instruction does, in a few words. -/
def description : Instruction → String
  | .initState => "Initialize or restore the token system state"
  | .saveState => "Save the current token system state"
  | .generateTokens => "Generate tokens from alphabet and max length"
  | .upsertRelation => "Add or edit a relation"
  | .deleteRelation => "Delete a relation"
  | .compareTokens => "Compare two tokens using a relation"
  | .importState => "Import state from file"
  | .exportState => "Export state to file"
  | .notify => "Show a notification"
  | .confirm => "Show a confirmation dialog"
  | .prompt => "Show a prompt dialog"

/-- The instruction with a number. -/
def ofNumber? (code : Int) : Option Instruction := all.find? fun entry => entry.number == code

/-- Check that a list of served instructions leaves none out, and count them. -/
def checkServed (served : List Instruction) : Except Breach Nat :=
  let missing := all.filter fun entry => !served.contains entry
  if missing.isEmpty then .ok served.length
  else .error (.noHandlers (missing.map name))

end Instruction
end Wordbook
