import Wordbook.CommandLine.Help
import Wordbook.Listing
import Wordbook.Session.Workflow

/-!
# Commands

Every command takes up the saved state, does its work and ends with an exit code.  Commands that
change the state save it afterwards.
-/

namespace Wordbook
namespace CommandLine

/-- The commands with their arguments. -/
inductive Command where
  | summary
  | tokens
  | relations
  | generate (alphabet maxLength : String)
  | addRelation (name : String) (definition : Option String)
  | editRelation (id : String) (name definition : Option String)
  | deleteRelation (id : String)
  | compare (tokenA relation tokenB : String)
  | save (path : Option String)
  | reset
  | exportState (fileName : Option String)
  | importState (path : Option String)
  | files
deriving DecidableEq

/-- A command line that was understood. -/
structure Invocation where
  home : Option String
  assumeYes : Bool
  command : Option Command
deriving DecidableEq

/-- What a command line asks for. -/
inductive Asked where
  | run (invocation : Invocation)
  | help (text : String)
  | misused

/-- A command as it is called, what it does, and its options and places. -/
structure CommandForm where
  name : String
  help : String
  flags : List Flag
  slots : List Slot

/-- The grammar of what stands behind a command. -/
def CommandForm.grammar (form : CommandForm) : Grammar :=
  ⟨Grammar.helpFlag :: form.flags, form.slots⟩

/-- The name of the program. -/
def programName : String := "tokenrel"

/-- The commands in the order in which they are shown. -/
def forms : List CommandForm :=
  [⟨"show", "Show lexicon and relations", [], []⟩,
    ⟨"tokens", "List generated tokens", [], []⟩,
    ⟨"relations", "List relations", [], []⟩,
    ⟨"generate", "Regenerate the token vocabulary", [],
      [.one "alphabet" "Characters tokens are built from",
        .one "max_length" "Maximum token length"]⟩,
    ⟨"add-relation", "Add a relation", [],
      [.one "name" "Relation name",
        .maybe "definition" "Predicate over tokenA and tokenB (prompted when omitted)"]⟩,
    ⟨"edit-relation", "Edit a relation",
      [⟨["--name"], "name", some "NAME", "New name (prompted when omitted)"⟩,
        ⟨["--definition"], "definition", some "DEFINITION",
          "New predicate (prompted when omitted)"⟩],
      [.one "relation_id" "Relation ID"]⟩,
    ⟨"delete-relation", "Delete a relation", [], [.one "relation_id" "Relation ID"]⟩,
    ⟨"compare", "Apply a relation to two tokens", [],
      [.one "token_a" "Left token (tokenA)", .one "relation" "Relation ID or name",
        .one "token_b" "Right token (tokenB)"]⟩,
    ⟨"save", "Persist the state",
      [⟨["--path"], "path", some "PATH", "Also write a pretty snapshot to this path"⟩], []⟩,
    ⟨"reset", "Restore the default state", [], []⟩,
    ⟨"export", "Write a snapshot into " ++ Path.documents, [],
      [.maybe "file_name" "File name (prompted when omitted)"]⟩,
    ⟨"import", "Replace the state from a snapshot", [],
      [.maybe "path" "Snapshot path (prompted when omitted)"]⟩,
    ⟨"files", "List " ++ Path.documents, [], []⟩]

/-- The grammar of the whole command line, for a home directory that is used by default. -/
def grammar (defaultHome : String) : Grammar :=
  ⟨[Grammar.helpFlag,
      ⟨["--home"], "home", some "HOME",
        "Directory holding the saved state and /Documents (default: " ++ defaultHome ++ ")"⟩,
      ⟨["-y", "--yes"], "yes", none, "Answer yes to every confirmation"⟩,
      ⟨["-v", "--verbose"], "verbose", none, "Log dispatched instructions"⟩],
    [.command]⟩

/-- The help text of the program. -/
def helpText (defaultHome : String) : String :=
  Help.ofProgram programName "Token Relation Engine — token vocabularies and relations"
    (grammar defaultHome) (forms.map fun form => (form.name, form.help)) Listing.instructions

/-- The command of a name with what was read behind it. -/
def commandOf (name : String) (reading : Reading) : Command :=
  let argument (place : String) : String := (reading.argument? place).getD ""
  match name with
  | "show" => .summary
  | "tokens" => .tokens
  | "relations" => .relations
  | "generate" => .generate (argument "alphabet") (argument "max_length")
  | "add-relation" => .addRelation (argument "name") (reading.argument? "definition")
  | "edit-relation" =>
      .editRelation (argument "relation_id") (reading.option? "name") (reading.option? "definition")
  | "delete-relation" => .deleteRelation (argument "relation_id")
  | "compare" => .compare (argument "token_a") (argument "relation") (argument "token_b")
  | "save" => .save (reading.option? "path")
  | "reset" => .reset
  | "export" => .exportState (reading.argument? "file_name")
  | "import" => .importState (reading.argument? "path")
  | _ => .files

/-- What a command line asks for. -/
def ask (defaultHome : String) (arguments : List String) : Asked :=
  match (grammar defaultHome).read arguments with
  | .misused => .misused
  | .help => .help (helpText defaultHome)
  | .read reading =>
      let home := reading.option? "home"
      let assumeYes := reading.has "yes"
      match reading.command with
      | none =>
          if reading.leftover.isEmpty then .run ⟨home, assumeYes, none⟩ else .misused
      | some (name, behind) =>
          match forms.find? fun form => form.name == name with
          | none => .misused
          | some form =>
              match form.grammar.read behind with
              | .misused => .misused
              | .help => .help (Help.ofCommand (programName ++ " " ++ name) form.grammar)
              | .read found =>
                  if reading.leftover.isEmpty && found.leftover.isEmpty then
                    .run ⟨home, assumeYes, some (commandOf name found)⟩
                  else .misused

/-- Print a line. -/
def printLine (text : String) : Act Unit := Session.emit (.printed (text ++ "\n"))

/-- Save the state after a change, and give the exit code. -/
def persist : Act Nat := do
  let answer ← (Request.saveState .null).settle
  if answer.success then return 0
  else
    printLine ("ERROR: " ++ answer.message.getD "None")
    return 1

/-- The exit code of a workflow; the state is saved if the workflow changed it. -/
def finish (answer : Option Answer) (changes : Bool) : Act Nat := do
  match answer with
  | none =>
      printLine "Cancelled."
      return 1
  | some found =>
      if !found.success then return 1
      else if changes then persist
      else return 0

/-- A text as a value, null if it is not there. -/
def optionalText : Option String → Json
  | some text => .str text
  | none => .null

/-- One entry of a listing as a line. -/
def listedLine (entry : Listed) : String := Text.padEnd 9 entry.kind ++ " " ++ entry.path

/-- Carry out a command. -/
def Command.carryOut : Command → Act Nat
  | .summary => do
      printLine (Listing.state (← Session.requireState))
      return 0
  | .tokens => do
      printLine (Listing.tokens (← Session.requireState).tokens)
      return 0
  | .relations => do
      match (← Session.requireState).relations with
      | [] => printLine "No relations defined."
      | found => found.forM fun relation => printLine (Listing.relationRow relation)
      return 0
  | .generate alphabet maxLength => do
      finish (← Workflow.generate (.str alphabet) (.str maxLength)) true
  | .addRelation name definition => do
      finish (← Workflow.addRelation (.str name) (optionalText definition)) true
  | .editRelation id name definition => do
      finish (← Workflow.editRelation (.str id) (optionalText name) (optionalText definition)) true
  | .deleteRelation id => do finish (← Workflow.deleteRelation (.str id)) true
  | .compare tokenA relation tokenB => do
      let id ← Session.permit ((Listing.resolved (← get).state relation).mapError .breach)
      finish (← Workflow.compare (.str tokenA) (.str tokenB) (.str id)) false
  | .save path => do finish (← Workflow.save (optionalText path)) false
  | .reset => do finish (← Workflow.reset) false
  | .exportState fileName => do finish (← Workflow.exportState (optionalText fileName)) false
  | .importState path => do finish (← Workflow.importState (optionalText path)) false
  | .files => do
      match ← Session.listFiles (.str Path.documents) with
      | [] => printLine ("No files in " ++ Path.documents ++ ".")
      | entries => entries.forM fun entry => printLine (listedLine entry)
      return 0

/-- Take up the saved state and carry out a command. -/
def Command.run (command : Command) : Act Nat := do
  let _ ← (Request.initState .null true).settle
  command.carryOut

/-- The text that was printed. -/
def printed (events : List Event) : String :=
  String.join (events.map fun event =>
    match event with
    | .printed text => text
    | _ => "")

end CommandLine
end Wordbook
