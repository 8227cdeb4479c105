import Wordbook.Answer
import Wordbook.Dialog
import Wordbook.State
import Wordbook.Store.Collection

/-!
# Sessions

A session holds the state, if there is one, the stores, the presenter and what it showed, and a
clock. Any call of a store or of the presenter can be made to fail, so that it can be said what
failures do.
-/

namespace Wordbook

/-- The calls that may fail. -/
inductive Call where
  | getKey
  | setKey
  | loadFile
  | storeFile
  | fileExists
  | listFiles
  | confirm
  | prompt
deriving DecidableEq

/-- A session.  A call fails as `failing` says for the number of calls before it. -/
structure Session where
  state : Option State
  stores : Stores
  presenter : Presenter
  events : List Event
  clock : Int
  lastIssued : Int
  calls : Nat
  failing : Call → Nat → Option Failure

/-- An action on a session: it may fail, and what it changed before stays. -/
abbrev Act := ExceptT Failure (StateM Session)

namespace Session

/-- A session without a state. -/
def fresh (stores : Stores) (presenter : Presenter) (clock : Int) : Session where
  state := none
  stores := stores
  presenter := presenter
  events := []
  clock := clock
  lastIssued := 0
  calls := 0
  failing := fun _ _ => none

/-- A session with the same stores and presenter and without a state. -/
def restarted (session : Session) : Session := { session with state := none }

/-- The key that the state is kept under. -/
def stateKey : String := "token_system_state"

/-- Fail with an issue. -/
def refuse {Result : Type} (issue : Issue) : Act Result := throw (.issue issue)

/-- The result of a check that may find an issue. -/
def require {Result : Type} (checked : Except Issue Result) : Act Result :=
  match checked with
  | .ok result => return result
  | .error issue => throw (.issue issue)

/-- The result of a check that may fail in any way. -/
def permit {Result : Type} (checked : Except Failure Result) : Act Result :=
  match checked with
  | .ok result => return result
  | .error failure => throw failure

/-- The state, which must be there. -/
def requireState : Act State := do
  match (← get).state with
  | some state => return state
  | none => refuse (.noState .work)

/-- Replace the state. -/
def replaceState (state : State) : Act Unit := modify fun session =>
  { session with state := some state }

/-- Count a call, which fails if it is made to. -/
def announce (call : Call) : Act Unit := do
  let session ← get
  set { session with calls := session.calls + 1 }
  match session.failing call session.calls with
  | some failure => throw failure
  | none => return ()

/-- Read from the stores. -/
def consult {Result : Type} (call : Call) (read : Stores → Except Failure Result) :
    Act Result := do
  announce call
  permit (read (← get).stores)

/-- Write to the stores. -/
def record (call : Call) (write : Stores → Stores × Except Failure Unit) : Act Unit := do
  announce call
  let session ← get
  match write session.stores with
  | (stores, outcome) => do
      set { session with stores := stores }
      permit outcome

/-- The bytes of a key. -/
def getKey (key : String) : Act (Option (List UInt8)) :=
  consult .getKey fun stores => stores.getKey key

/-- Keep bytes under a key. -/
def setKey (key : String) (bytes : List UInt8) : Act Unit :=
  record .setKey fun stores => stores.setKey key bytes

/-- Something stands at a path. -/
def fileExists (path : Json) : Act Bool :=
  consult .fileExists fun stores => stores.fileExists path

/-- The bytes of the file at a path. -/
def loadFile (path : Json) : Act (Option (List UInt8)) :=
  consult .loadFile fun stores => stores.loadFile path

/-- Put bytes at a path. -/
def storeFile (path : Json) (bytes : List UInt8) : Act Unit :=
  record .storeFile fun stores => stores.storeFile path bytes

/-- What stands in a directory. -/
def listFiles (directory : Json) : Act (List Listed) :=
  consult .listFiles fun stores => stores.listFiles directory

/-- Show an event. -/
def emit (event : Event) : Act Unit := modify fun session =>
  { session with events := session.events ++ [event] }

/-- Show a notification. -/
def notify (text : String) : Act Unit := do
  emit ((← get).presenter.notify text)

/-- Ask for a confirmation.  A call that fails has asked its question and used up its answer. -/
def confirm (text : String) : Act Bool := do
  let session ← get
  match session.presenter.confirm text with
  | (presenter, events, answer) => do
      set { session with presenter := presenter, events := session.events ++ events }
      announce .confirm
      return answer

/-- Ask for a text with a default; null means that nothing was given. -/
def prompt (text default : Json) : Act Json := do
  let session ← get
  match session.presenter.prompt text default with
  | (presenter, events, answer) => do
      set { session with presenter := presenter, events := session.events ++ events }
      announce .prompt
      return answer

end Session
end Wordbook
