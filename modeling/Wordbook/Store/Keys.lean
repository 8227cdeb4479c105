import Wordbook.Issue
import Wordbook.Store.Disk

/-!
# Key stores

A key store keeps bytes under keys: in memory under any key, or on a disk in one file for each key.
A key that names a file is made of letters, digits and a few signs.
-/

namespace Wordbook

/-- Bytes under keys in memory; the first entry of a key holds its bytes. -/
abbrev MemoryKeys := List (String × List UInt8)

namespace MemoryKeys

/-- The bytes of a key. -/
def get? (keys : MemoryKeys) (key : String) : Option (List UInt8) :=
  (keys.find? fun entry => entry.1 == key).map Prod.snd

/-- Keep bytes under a key. -/
def set (keys : MemoryKeys) (key : String) (bytes : List UInt8) : MemoryKeys :=
  (key, bytes) :: keys.filter fun entry => entry.1 != key

end MemoryKeys

namespace DiskKeys

/-- A character may stand in a key that names a file. -/
def isSafe (char : Char) : Bool :=
  char.isAlphanum || char == '_' || char == '.' || char == '-'

/-- The characters of a key without a line break at the end. -/
def withoutBreak (chars : List Char) : List Char :=
  if chars.getLast? == some '\n' then chars.dropLast else chars

/-- A key names a file: its characters are safe ones, up to a line break at the end. -/
def isKey (key : String) : Bool :=
  let chars := withoutBreak key.toList
  !chars.isEmpty && chars.all isSafe

/-- The folder of the store. -/
def folder : Location := ["store"]

/-- The file of a key. -/
def locationOf (key : String) : Except Issue Location :=
  if isKey key then .ok (folder ++ [key ++ ".json"])
  else .error (.storage (.invalidKey (Text.quoted key)))

/-- The bytes of a key. -/
def get (disk : Disk) (key : String) : Except Failure (Option (List UInt8)) := do
  let location ← (locationOf key).mapError .issue
  match disk.look location with
  | .ok (some (.file bytes)) => return some bytes
  | .ok _ => return none
  | .error cause => throw (.breach (.device (disk.message cause location)))

/-- Keep bytes under a key. -/
def set (disk : Disk) (key : String) (bytes : List UInt8) : Disk × Except Failure Unit :=
  match locationOf key with
  | .error issue => (disk, .error (.issue issue))
  | .ok location =>
      match disk.write location bytes with
      | (changed, .ok ()) => (changed, .ok ())
      | (changed, .error .nullByte) => (changed, .error (.breach .nullByte))
      | (changed, .error (.refused why)) =>
          (changed, .error (.issue (.storage (.cannotWrite key why))))

end DiskKeys
end Wordbook
