import Wordbook.Path
import Wordbook.Store.Disk

/-!
# File stores

A file store keeps bytes under paths and lists what stands in a directory.  In memory only files are
kept, and a directory is what leads to one; on a disk directories stand for themselves.
-/

namespace Wordbook

/-- What a listing shows: a name, its path, and whether a file stands there. -/
structure Listed where
  name : String
  path : String
  isFile : Bool
deriving DecidableEq

/-- What an entry of a listing is, in a word. -/
def Listed.kind (entry : Listed) : String := if entry.isFile then "file" else "directory"

/-- Bytes under normalized paths in memory. -/
abbrev MemoryFiles := List (String × List UInt8)

namespace MemoryFiles

/-- The bytes at a path. -/
def read (files : MemoryFiles) (path : Json) : Except Issue (Option (List UInt8)) := do
  let place ← Path.normalize path
  return (files.find? fun entry => entry.1 == place).map Prod.snd

/-- There is a file at a path. -/
def exists? (files : MemoryFiles) (path : Json) : Except Issue Bool := do
  let place ← Path.normalize path
  return files.any fun entry => entry.1 == place

/-- Put bytes at a path. -/
def write (files : MemoryFiles) (path : Json) (bytes : List UInt8) : Except Issue MemoryFiles := do
  let place ← Path.normalize path
  return (place, bytes) :: files.filter fun entry => entry.1 != place

/-- The entry of a directory that a path below it belongs to; `rest` is the part below. -/
def entryOf (base : String) (rest : List Char) : Listed :=
  let name := String.ofList (rest.takeWhile fun char => char != '/')
  ⟨name, Path.join base name, (rest.dropWhile fun char => char != '/').isEmpty⟩

/-- The first of the entries that have one name. -/
def distinct (found : List Listed) : List Listed :=
  found.foldl (fun kept entry =>
    if kept.any fun held => held.name == entry.name then kept else kept ++ [entry]) []

/-- What stands in a directory, in the order of the whole paths. -/
def list (files : MemoryFiles) (directory : Json) : Except Issue (List Listed) := do
  let base ← Path.normalize directory
  let lead := if base == "/" then ['/'] else base.toList ++ ['/']
  let paths := (files.map Prod.fst).mergeSort fun left right => left ≤ right
  let below := paths.filterMap fun path =>
    if lead.isPrefixOf path.toList then some (entryOf base (path.toList.drop lead.length)) else none
  return distinct below

end MemoryFiles

namespace DiskFiles

/-- The folder of the store. -/
def folder : Location := ["files"]

/-- The location of a path. -/
def locationOf (path : Json) : Except Failure Location :=
  match Path.segments path with
  | .ok names => .ok (folder ++ names)
  | .error issue => .error (.issue issue)

/-- What stands at a path. -/
def look (disk : Disk) (location : Location) : Except Failure (Option DiskEntry) :=
  (disk.look location).mapError fun cause => .breach (.device (disk.message cause location))

/-- Something stands at a path. -/
def exists? (disk : Disk) (path : Json) : Except Failure Bool := do
  return (← look disk (← locationOf path)).isSome

/-- The bytes of the file at a path. -/
def read (disk : Disk) (path : Json) : Except Failure (Option (List UInt8)) := do
  match ← look disk (← locationOf path) with
  | some (.file bytes) => return some bytes
  | _ => return none

/-- Put bytes at a path. -/
def write (disk : Disk) (path : Json) (bytes : List UInt8) : Disk × Except Failure Unit :=
  match locationOf path with
  | .error failure => (disk, .error failure)
  | .ok location =>
      match disk.write location bytes with
      | (changed, .ok ()) => (changed, .ok ())
      | (changed, .error .nullByte) => (changed, .error (.breach .nullByte))
      | (changed, .error (.refused why)) =>
          (changed, .error (.issue (.storage (.cannotWrite path.plain why))))

/-- What stands in a directory, in the order of the names. -/
def list (disk : Disk) (directory : Json) : Except Failure (List Listed) := do
  let base ← (Path.normalize directory).mapError .issue
  let location ← locationOf directory
  match ← look disk location with
  | some .folder =>
      return (disk.names location).map fun name =>
        ⟨name, Path.join base name, !disk.isFolder (location ++ [name])⟩
  | _ => return []

end DiskFiles
end Wordbook
