import Wordbook.Session.Basic
import Wordbook.Snapshot

/-!
# The life of a state

A state is loaded, saved, imported and exported.  Loading never fails for want of a good snapshot:
it ends with the default state.  Everything else fails and says why.
-/

namespace Wordbook
namespace Session

/-- Failures that loading makes up for: issues, and devices that do not work. -/
def isSurvivable : Failure → Bool
  | .issue _ => true
  | .breach (.device _) => true
  | .breach _ => false

/-- The bytes of a snapshot, unless there are none. -/
def contentOf (bytes : Option (List UInt8)) : Option (List UInt8) :=
  match bytes with
  | some (byte :: rest) => some (byte :: rest)
  | _ => none

/-- The bytes of the stored state, if there are any, and the message for a state found there: they
are in a file if a path is given, else under the key of the state if that is asked for. -/
def findStored (path : Json) (restore : Bool) : Act (Option (List UInt8) × String) := do
  if path.isTruthy then return (contentOf (← loadFile path), "State loaded from file")
  else if restore then return (contentOf (← getKey stateKey), "State restored from local store")
  else return (none, "")

/-- The stored state and the message that tells where it was found. -/
def load (path : Json) (restore : Bool) : Act (Option (State × String)) := do
  match ← findStored path restore with
  | (some content, message) => return some (← permit (Snapshot.decode content), message)
  | (none, _) => return none

/-- Take up the stored state, or the default one. -/
def start (path : Json) (restore : Bool) : Act Answer := do
  let found ← tryCatch (some <$> load path restore) fun failure =>
    if isSurvivable failure then return none else throw failure
  match found with
  | some (some (state, message)) =>
      replaceState state
      return .done message
  | some none =>
      replaceState .default
      return .done "New state initialized with defaults"
  | none =>
      replaceState .default
      return .done "Error occurred, initialized with defaults"

/-- Keep a state under the key of the state. -/
def keepState (state : State) : Act Unit := do
  setKey stateKey (← permit ((Snapshot.encode .compact state).mapError .breach))

/-- Write a state into a file, for people to read. -/
def writeState (path : Json) (state : State) : Act Unit := do
  storeFile path (← permit ((Snapshot.encode .spread state).mapError .breach))

/-- Keep the state under its key, and in a file if a path is given. -/
def save (path : Json) : Act Answer := do
  match (← get).state with
  | none => refuse (.noState .save)
  | some state =>
      keepState state
      if path.isTruthy then
        writeState path state
        return { Answer.done ("State saved to " ++ path.plain) with filePath := some path }
      else return .done "State saved to local store"

/-- The state in a file that is to be imported. -/
def readImport (path : Json) : Act State := do
  if Relation.isMissing path then refuse .missingPath
  else if ← fileExists path then
    match contentOf (← loadFile path) with
    | none => refuse (.storage .emptyFile)
    | some content => permit (Snapshot.decode content)
  else refuse .fileNotFound

/-- Replace the state by the snapshot in a file, and keep it. -/
def importFrom (path : Json) : Act Answer := do
  let state ← readImport path
  replaceState state
  keepState state
  return { Answer.done "State imported successfully" with filePath := some path }

/-- Where an export of a name goes: into the directory of documents, under a name of the clock's if
none is given. -/
def exportPath (clock : Int) (name : Json) : Except Breach String :=
  if Relation.isMissing name then
    .ok (Path.join Path.documents (Path.defaultExportName clock))
  else
    match name with
    | .str text => .ok (Path.join Path.documents (Text.trim text))
    | _ => .error (.noMethod name.typeName "strip")

/-- Write the state into a file for others; one that is there is written over only if it is asked
for. -/
def exportTo (name : Json) (force : Bool) : Act Answer := do
  match (← get).state with
  | none => refuse (.noState .exporting)
  | some state =>
      let path ← permit ((exportPath (← get).clock name).mapError .breach)
      let taken ← fileExists (.str path)
      if taken && !force then refuse (.fileExists path)
      else
        writeState (.str path) state
        return { Answer.done ("Exported to " ++ path) with filePath := some (.str path) }

end Session
end Wordbook
