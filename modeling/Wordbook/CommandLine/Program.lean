import Wordbook.CommandLine.Command

/-!
# Runs of the program

A run starts from what it finds: the disk of its home directory, the lines that can be read, the
clock and the identifier that was issued last.  It ends with an exit code or with a failure, and
leaves what it printed and what it changed.
-/

namespace Wordbook
namespace CommandLine

/-- What a run starts from. -/
structure Surroundings where
  disk : Disk
  lines : List String
  clock : Int
  lastIssued : Int

/-- How a run ends, and what it leaves; `calls` counts what it called. -/
structure Ending where
  outcome : Except Failure Nat
  printed : String
  disk : Disk
  lastIssued : Int
  calls : Nat

namespace Invocation

/-- The home directory of an invocation, for one that is used when none is named. -/
def homeOr (invocation : Invocation) (defaultHome : String) : String :=
  match invocation.home with
  | some home => if home.isEmpty then defaultHome else home
  | none => defaultHome

/-- The session that a run works in. -/
def session (invocation : Invocation) (found : Surroundings) : Session :=
  let presenter := Presenter.console found.lines invocation.assumeYes ""
  { Session.fresh (.onDisk found.disk) presenter found.clock with lastIssued := found.lastIssued }

/-- The disk of some stores, for one that stands in for stores in memory. -/
def diskOf (stores : Stores) (instead : Disk) : Disk :=
  match stores with
  | .onDisk disk => disk
  | .memory _ _ => instead

/-- Run a command in a session. -/
def runIn (command : Command) (session : Session) (disk : Disk) : Ending :=
  match command.run.run.run session with
  | (outcome, after) =>
      ⟨outcome, printed after.events, diskOf after.stores disk, after.lastIssued, after.calls⟩

/-- Carry out an invocation; without a command the help text is shown. -/
def run (invocation : Invocation) (defaultHome : String) (found : Surroundings) : Ending :=
  match invocation.command with
  | none => ⟨.ok 0, helpText defaultHome, found.disk, found.lastIssued, 0⟩
  | some command => runIn command (invocation.session found) found.disk

/-- Questions stop a run from a number of calls on. -/
def stopFrom (calls : Nat) (call : Call) (count : Nat) : Option Failure :=
  match call with
  | .confirm | .prompt => if calls ≤ count then some (.breach (.device "")) else none
  | _ => none

/-- Carry out an invocation up to the first question from a number of calls on.  What was printed
ends with that question, and the calls that were counted are where to go on once it is answered. -/
def runUntil (calls : Nat) (invocation : Invocation) (defaultHome : String) (found : Surroundings) :
    Ending :=
  match invocation.command with
  | none => invocation.run defaultHome found
  | some command =>
      runIn command { invocation.session found with failing := stopFrom calls } found.disk

end Invocation
end CommandLine
end Wordbook
