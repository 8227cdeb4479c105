import Wordbook.Predicate.Section

/-!
# Lists, dictionaries and sets

The changes that containers take, made in the heap.  A dictionary keeps the order in which its keys
came; a set keeps the first of equal keys.
-/

namespace Wordbook
namespace Predicate

namespace Work

/-- Change a dictionary. -/
@[inline] def updateDict (address : Nat) (update : Table → Table) : Work Unit :=
  change fun heap =>
    let table := heap.dict address
    let cleared := heap.setIfInBounds address (.dict .empty)
    cleared.setIfInBounds address (.dict (update table))

/-- Change a set. -/
@[inline] def updateSet (address : Nat) (update : Table → Table) : Work Unit :=
  change fun heap =>
    let table := heap.set address
    let cleared := heap.setIfInBounds address (.set .empty)
    cleared.setIfInBounds address (.set (update table))

/-- A new dictionary without pairs. -/
def newDict : Work Nat := allocate (.dict .empty)

/-- A new set without keys. -/
def newSet : Work Nat := allocate (.set .empty)

/-- The value of a key in a dictionary. -/
def dictGet (address : Nat) (key : Value) : Work (Option Value) := do
  let hash ← ofExcept key.hashOf
  match ← inspect fun heap => heap.find? address hash key with
  | none => return none
  | some index => look fun heap => ((heap.dict address).at? index).map Entry.value

/-- Give a key a value in a dictionary. -/
def dictSet (address : Nat) (key value : Value) : Work Unit := do
  let hash ← ofExcept key.hashOf
  match ← inspect fun heap => heap.find? address hash key with
  | none => updateDict address fun table => table.push ⟨hash, key, value⟩
  | some index => updateDict address fun table => table.replace index value

/-- Take a key out of a dictionary, and give its value. -/
def dictRemove (address : Nat) (key : Value) : Work (Option Value) := do
  let hash ← ofExcept key.hashOf
  match ← inspect fun heap => heap.find? address hash key with
  | none => return none
  | some index =>
      let found ← look fun heap => ((heap.dict address).at? index).map Entry.value
      updateDict address fun table => table.erase index
      return found

/-- Give some keys their values in a dictionary. -/
def dictSetAll (address : Nat) : List (Value × Value) → Work Unit
  | [] => pure ()
  | (key, value) :: pairs => do
      dictSet address key value
      dictSetAll address pairs

/-- The pairs of a dictionary. -/
def dictPairs (address : Nat) : Work (List (Value × Value)) :=
  look fun heap => (heap.dict address).entries.map fun entry => (entry.key, entry.value)

/-- Put pairs into a dictionary, the hashes of whose keys are known. -/
def dictSetEntries (address : Nat) : List Entry → Work Unit
  | [] => pure ()
  | entry :: entries => do
      match ← inspect fun heap => heap.find? address entry.hash entry.key with
      | none => updateDict address fun table => table.push entry
      | some index => updateDict address fun table => table.replace index entry.value
      dictSetEntries address entries

/-- Put all pairs of a dictionary into another.  A dictionary without pairs becomes a copy of a
tight one. -/
def dictMerge (address other : Nat) : Work Unit := do
  let source ← look fun heap => heap.dict other
  let size ← look fun heap => (heap.dict address).size
  if address = other || source.size = 0 then return ()
  else if size = 0 && source.isTight then updateDict address fun _ => source
  else
    updateDict address fun table => table.readiedFor source
    dictSetEntries address source.entries

/-- A copy of a dictionary. -/
def dictCopy (address : Nat) : Work Nat := do
  let source ← look fun heap => heap.dict address
  if source.size = 0 then newDict
  else if source.isDense then allocate (.dict source)
  else
    let made ← newDict
    dictMerge made address
    return made

/-- A new dictionary of some pairs, with room for all of them from the start. -/
def dictOf (pairs : List (Value × Value)) : Work Nat := do
  let address ← allocate (.dict (.presized pairs.length (pairs.all fun pair => pair.1.isText)))
  dictSetAll address pairs
  return address

/-- Put a key into a set. -/
def setAdd (address : Nat) (key : Value) : Work Unit := do
  let hash ← ofExcept key.hashOf
  match ← inspect fun heap => heap.findMember? address hash key with
  | some _ => pure ()
  | none => updateSet address fun table => table.pushKey hash key

/-- Put some keys into a set. -/
def setAddAll (address : Nat) : List Value → Work Unit
  | [] => pure ()
  | key :: keys => do
      setAdd address key
      setAddAll address keys

/-- Take a key out of a set; the result tells whether it was there.  A set that can change stands
for the frozen one with its elements. -/
def setRemove (address : Nat) (key : Value) : Work Bool := do
  let sought ← look fun heap => heap.asKey key
  let hash ← ofExcept sought.hashOf
  match ← inspect fun heap => heap.findMember? address hash sought with
  | none => return false
  | some index =>
      updateSet address fun table => table.erase index
      return true

/-- The keys of a set. -/
def setKeys (address : Nat) : Work (List Value) :=
  look fun heap => (heap.set address).keys

/-- A new set of some keys. -/
def setOf (keys : List Value) : Work Nat := do
  let address ← newSet
  setAddAll address keys
  return address

/-- A value is in a container that finds its keys by their hashes. -/
def holdsKey (container key : Value) : Work Bool := do
  let sought ← match container with
    | .set _ | .frozen _ _ => look fun heap => heap.asKey key
    | _ => pure key
  inspect fun heap => heap.holds heap.equal container sought

/-- The section of a sequence that three bounds give; the whole of it is the sequence itself. -/
def sectionOf (whole : Value) (length : Nat) (lower upper step : Value) (make : Section → Value) :
    Work Value := do
  let part ← ofExcept (Section.make lower upper step length)
  if part.isWhole length then return whole else marked (make part)

/-- The item or section of a value that a key names. -/
def subscript (container key : Value) : Work Value := do
  match key with
  | .slice lower upper step =>
      match container with
      | .list address =>
          let items ← look fun heap => heap.list address
          let part ← ofExcept (Section.make lower upper step items.size)
          newList (part.ofArray items)
      | .tuple items _ =>
          sectionOf container items.length lower upper step fun part => .tuple (part.ofList items)
      | .text text _ =>
          let chars := text.toList
          sectionOf container chars.length lower upper step fun part =>
            if part.step = 1 then .ofChars (part.ofList chars)
            else .ofCharsApart (part.ofList chars)
      | .bytes bytes _ =>
          sectionOf container bytes.length lower upper step fun part =>
            if part.step = 1 then .bytes (part.ofList bytes)
            else .ofBytesApart (part.ofList bytes)
      | .range start stop stride _ =>
          let part ← ofExcept (Section.make lower upper step (rangeLength start stop stride))
          marked (part.ofRange start stride)
      | _ => marked (← inspect fun heap => heap.item container key)
  | _ => marked (← inspect fun heap => heap.item container key)

end Work
end Predicate
end Wordbook
