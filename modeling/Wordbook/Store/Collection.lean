import Wordbook.Store.Files
import Wordbook.Store.Keys

/-!
# The stores of an engine

An engine works over one key store and one file store: both in memory, or both on a disk.
-/

namespace Wordbook

/-- A key store and a file store. -/
inductive Stores where
  | memory (keys : MemoryKeys) (files : MemoryFiles)
  | onDisk (disk : Disk)

namespace Stores

/-- Empty stores in memory. -/
def empty : Stores := .memory [] []

/-- The bytes of a key. -/
def getKey (stores : Stores) (key : String) : Except Failure (Option (List UInt8)) :=
  match stores with
  | .memory keys _ => .ok (keys.get? key)
  | .onDisk disk => DiskKeys.get disk key

/-- Keep bytes under a key. -/
def setKey (stores : Stores) (key : String) (bytes : List UInt8) : Stores × Except Failure Unit :=
  match stores with
  | .memory keys files => (.memory (keys.set key bytes) files, .ok ())
  | .onDisk disk =>
      match DiskKeys.set disk key bytes with
      | (changed, outcome) => (.onDisk changed, outcome)

/-- Something stands at a path. -/
def fileExists (stores : Stores) (path : Json) : Except Failure Bool :=
  match stores with
  | .memory _ files => (files.exists? path).mapError .issue
  | .onDisk disk => DiskFiles.exists? disk path

/-- The bytes of the file at a path. -/
def loadFile (stores : Stores) (path : Json) : Except Failure (Option (List UInt8)) :=
  match stores with
  | .memory _ files => (files.read path).mapError .issue
  | .onDisk disk => DiskFiles.read disk path

/-- Put bytes at a path. -/
def storeFile (stores : Stores) (path : Json) (bytes : List UInt8) :
    Stores × Except Failure Unit :=
  match stores with
  | .memory keys files =>
      match files.write path bytes with
      | .ok changed => (.memory keys changed, .ok ())
      | .error issue => (stores, .error (.issue issue))
  | .onDisk disk =>
      match DiskFiles.write disk path bytes with
      | (changed, outcome) => (.onDisk changed, outcome)

/-- What stands in a directory. -/
def listFiles (stores : Stores) (directory : Json) : Except Failure (List Listed) :=
  match stores with
  | .memory _ files => (files.list directory).mapError .issue
  | .onDisk disk => DiskFiles.list disk directory

end Stores
end Wordbook
