import Wordbook.Encoding
import Wordbook.Number.Decimal
import Wordbook.Text.Quoted

/-!
# Disks

A disk holds files and folders below a root folder.  What stands at a path is found segment by
segment, so a path that leads through a file or through nothing is told apart from one that ends at
nothing.
-/

namespace Wordbook

/-- Where something stands on a disk: the names of the folders on the way and its own. -/
abbrev Location := List String

/-- What stands at a place of a disk. -/
inductive DiskEntry where
  | file (bytes : List UInt8)
  | folder
deriving DecidableEq

/-- Why an operation on a disk fails. -/
inductive DiskCause where
  | missing
  | alreadyThere
  | notFolder
  | isFolder
  | nameTooLong
deriving DecidableEq

/-- The number of a cause. -/
def DiskCause.number : DiskCause → Nat
  | .missing => 2
  | .alreadyThere => 17
  | .notFolder => 20
  | .isFolder => 21
  | .nameTooLong => 36

/-- A cause in words. -/
def DiskCause.words : DiskCause → String
  | .missing => "No such file or directory"
  | .alreadyThere => "File exists"
  | .notFolder => "Not a directory"
  | .isFolder => "Is a directory"
  | .nameTooLong => "File name too long"

/-- A disk: how its root is called, and the entries below the root. -/
structure Disk where
  root : String
  entries : List (Location × DiskEntry)

namespace Disk

/-- A disk with nothing on it. -/
def blank (root : String) : Disk := ⟨root, []⟩

/-- The path of a location as text. -/
def pathOf (disk : Disk) (location : Location) : String :=
  "/".intercalate (disk.root :: location)

/-- A cause and the path that it concerns. -/
def message (disk : Disk) (cause : DiskCause) (location : Location) : String :=
  "[Errno " ++ toString cause.number ++ "] " ++ cause.words ++ ": " ++
    Text.quoted (disk.pathOf location)

/-- The most bytes that a name may have. -/
def nameLimit : Nat := 255

/-- The most bytes that a path may have. -/
def pathLimit : Nat := 4096

/-- How many bytes the path of the root counts for. -/
def rootLength : Nat := 16

/-- How many bytes a name has. -/
def nameLength (name : String) : Nat := (Encoding.encodeUtf8 name.toList).length

/-- A path has more bytes than are allowed. -/
def isTooLong (location : Location) : Bool :=
  pathLimit ≤ location.foldl (fun total name => total + 1 + nameLength name) rootLength

/-- A name on the way has a null byte in it. -/
def hasNullByte (location : Location) : Bool :=
  location.any fun name => name.toList.contains (Char.ofNat 0)

/-- The entry at a location, the way there not looked at. -/
def entryAt? (disk : Disk) (location : Location) : Option DiskEntry :=
  if location.isEmpty then some .folder
  else (disk.entries.find? fun entry => entry.1 == location).map Prod.snd

/-- The entry that names lead to from a location that is a folder. -/
def findFrom (disk : Disk) (base : Location) : Location → Except DiskCause DiskEntry
  | [] => .ok .folder
  | name :: names =>
      if nameLimit < nameLength name then .error .nameTooLong
      else
        match disk.entryAt? (base ++ [name]), names with
        | none, _ => .error .missing
        | some .folder, _ => disk.findFrom (base ++ [name]) names
        | some (.file bytes), [] => .ok (.file bytes)
        | some (.file _), _ :: _ => .error .notFolder

/-- The entry at a location. -/
def find (disk : Disk) (location : Location) : Except DiskCause DiskEntry :=
  if isTooLong location then .error .nameTooLong else disk.findFrom [] location

/-- The entry at a location, if there is one.  Only a name that is too long is a failure. -/
def look (disk : Disk) (location : Location) : Except DiskCause (Option DiskEntry) :=
  if hasNullByte location then .ok none
  else
    match disk.find location with
    | .ok entry => .ok (some entry)
    | .error .nameTooLong => .error .nameTooLong
    | .error _ => .ok none

/-- There is a folder at a location. -/
def isFolder (disk : Disk) (location : Location) : Bool :=
  match disk.find location with
  | .ok .folder => true
  | _ => false

/-- A disk with an entry at a location. -/
def put (disk : Disk) (location : Location) (entry : DiskEntry) : Disk :=
  { disk with
    entries :=
      if disk.entries.any fun held => held.1 == location then
        disk.entries.map fun held => if held.1 == location then (location, entry) else held
      else disk.entries ++ [(location, entry)] }

/-- Make a folder in a folder that is there. -/
def makeFolder (disk : Disk) (location : Location) : Except DiskCause Disk := do
  match disk.find location with
  | .ok _ => throw .alreadyThere
  | .error .missing =>
      if disk.isFolder location.dropLast then return disk.put location .folder
      else throw .missing
  | .error cause => throw cause

/-- Make a folder, and the folders on the way to it that are missing; `count` bounds how many.  What
was made before a failure stays. -/
def makeFolders : (count : Nat) → Disk → Location → Disk × Except (DiskCause × Location) Unit
  | 0, disk, _ => (disk, .ok ())
  | count + 1, disk, location =>
      match disk.makeFolder location with
      | .ok changed => (changed, .ok ())
      | .error .missing =>
          match makeFolders count disk location.dropLast with
          | (changed, .error fault) => (changed, .error fault)
          | (changed, .ok ()) =>
              match changed.makeFolder location with
              | .ok made => (made, .ok ())
              | .error cause =>
                  if changed.isFolder location then (changed, .ok ())
                  else (changed, .error (cause, location))
      | .error cause =>
          if disk.isFolder location then (disk, .ok ()) else (disk, .error (cause, location))

/-- Write a file into a folder that is there. -/
def storeFile (disk : Disk) (location : Location) (bytes : List UInt8) : Except DiskCause Disk := do
  match disk.find location with
  | .ok .folder => throw .isFolder
  | .ok (.file _) => return disk.put location (.file bytes)
  | .error .missing =>
      if disk.isFolder location.dropLast then return disk.put location (.file bytes)
      else throw .missing
  | .error cause => throw cause

/-- Why a file was not written. -/
inductive WriteFault where
  | refused (message : String)
  | nullByte
deriving DecidableEq

/-- Write a file, making the folders on the way to it. -/
def write (disk : Disk) (location : Location) (bytes : List UInt8) :
    Disk × Except WriteFault Unit :=
  let parent := location.dropLast
  if hasNullByte parent then (disk, .error .nullByte)
  else
    match makeFolders (parent.length + 1) disk parent with
    | (changed, .error (cause, place)) => (changed, .error (.refused (changed.message cause place)))
    | (changed, .ok ()) =>
        if hasNullByte location then (changed, .error .nullByte)
        else
          match changed.storeFile location bytes with
          | .ok written => (written, .ok ())
          | .error cause => (changed, .error (.refused (changed.message cause location)))

/-- The names in a folder, in ascending order. -/
def names (disk : Disk) (location : Location) : List String :=
  let found := disk.entries.filterMap fun entry =>
    if entry.1.dropLast == location && !entry.1.isEmpty then entry.1.getLast? else none
  found.mergeSort fun left right => left ≤ right

end Disk
end Wordbook
