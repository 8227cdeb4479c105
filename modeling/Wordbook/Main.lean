import Std.Time.DateTime.Timestamp
import Wordbook.CommandLine.Program

/-!
# The program

The folders of the home directory are read, the command is carried out on what was read, and what it
changed is written back.  A question that needs an answer ends a run; once the line is there, the
command is carried out again with one more line to read, and only what is new is printed.
-/

namespace Wordbook
namespace Main

/-- The time in nanoseconds. -/
def currentTime : IO Int := do
  return (← Std.Time.Timestamp.now).toNanosecondsSinceUnixEpoch.val

/-- What stands at an entry of a folder and below it. -/
partial def load (location : Location) (entry : IO.FS.DirEntry) :
    IO (List (Location × DiskEntry)) := do
  if ← entry.path.isDir then
    let children ← entry.path.readDir
    let below ← children.toList.mapM fun child => load (location ++ [child.fileName]) child
    return (location, .folder) :: below.flatten
  else if ← entry.path.pathExists then
    return [(location, .file (← IO.FS.readBinFile entry.path).toList)]
  else
    return []

/-- The disk of a home directory, with the folders that a session works in. -/
def loadDisk (home : String) : IO Disk := do
  let keys ← load ["store"] ⟨home, "store"⟩
  let files ← load ["files"] ⟨home, "files"⟩
  return ⟨home, keys ++ files⟩

/-- Write the entries of a disk that are not those of another one. -/
def saveDisk (before after : Disk) : IO Unit := do
  for (location, entry) in after.entries do
    if before.entryAt? location != some entry then
      match entry with
      | .folder => IO.FS.createDirAll (after.pathOf location)
      | .file bytes => IO.FS.writeBinFile (after.pathOf location) ⟨bytes.toArray⟩

/-- Print what stands behind a number of characters. -/
def printFrom (shown : Nat) (text : String) : IO Unit := do
  let output ← IO.getStdout
  output.putStr (String.ofList (text.toList.drop shown))
  output.flush

/-- A line of the input without its end, or nothing where the input ends. -/
def readLine? : IO (Option String) := do
  let line ← (← IO.getStdin).getLine
  if line.isEmpty then return none
  else if line.endsWith "\n" then return some (String.ofList line.toList.dropLast)
  else return some line

/-- Carry out an invocation, with a line from the input for every question that needs one.  `calls`
and `shown` tell how far the run before came and how much it printed. -/
partial def converse (invocation : CommandLine.Invocation) (defaultHome : String)
    (found : CommandLine.Surroundings) (calls shown : Nat) : IO CommandLine.Ending := do
  if invocation.assumeYes then
    let ending := invocation.run defaultHome found
    printFrom shown ending.printed
    return ending
  let ending := invocation.runUntil calls defaultHome found
  printFrom shown ending.printed
  match ending.outcome with
  | .error (.breach (.device "")) =>
      match ← readLine? with
      | some line =>
          converse invocation defaultHome { found with lines := found.lines ++ [line] } ending.calls
            ending.printed.length
      | none =>
          let last := invocation.run defaultHome found
          printFrom ending.printed.length last.printed
          return last
  | _ => return ending

/-- Carry out an invocation in its home directory, and give the exit code. -/
def carryOut (invocation : CommandLine.Invocation) (defaultHome : String) : IO UInt32 := do
  let disk ← loadDisk (invocation.homeOr defaultHome)
  let ending ← converse invocation defaultHome ⟨disk, [], ← currentTime, 0⟩ 0 0
  saveDisk disk ending.disk
  match ending.outcome with
  | .ok code => return UInt32.ofNat code
  | .error (.issue issue) =>
      IO.eprintln issue.message
      return 1
  | .error (.breach breach) =>
      IO.eprintln breach.message
      return 1

end Main
end Wordbook

/-- Run the program with its arguments. -/
def main (arguments : List String) : IO UInt32 := do
  let userHome := (← IO.getEnv "HOME").getD ""
  let usualHome := userHome ++ "/.tokenrel"
  match Wordbook.CommandLine.ask usualHome arguments with
  | .misused =>
      IO.eprintln ("usage: " ++ Wordbook.CommandLine.programName ++ " [-h] COMMAND ...")
      return 2
  | .help text =>
      IO.print text
      return 0
  | .run invocation =>
      let chosen ← IO.getEnv "TOKENREL_HOME"
      Wordbook.Main.carryOut { invocation with home := invocation.home.orElse fun _ => chosen }
        usualHome
