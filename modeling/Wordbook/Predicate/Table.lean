import Wordbook.Predicate.Fault

/-!
# Tables

The pairs of a dictionary, and the keys of a set, stand in the order in which the keys came.  A pair
that is taken out leaves a gap.  A table has room for a number of pairs and gaps; when it is full,
it is made anew without its gaps, and with room for about twice as many pairs as it holds.  Walks
over a dictionary go by places, so these rules tell what a walk finds in a dictionary that is
changed under way.
-/

namespace Wordbook
namespace Predicate

/-- A pair of a dictionary, with the hash of its key. -/
structure Entry where
  hash : UInt64
  key : Value
  value : Value
deriving Inhabited

/-- The pairs of a dictionary and the gaps between them; how many pairs there are, how large the
table is, and how many pairs may still be put at its end; whether all keys that came were texts.
The buckets tell the places of the pairs by their hashes. -/
structure Table where
  slots : Array (Option Entry)
  size : Nat
  capacity : Nat
  room : Nat
  textual : Bool
  buckets : Array (List Nat)
deriving Inhabited

/-- A value is a text. -/
def Value.isText : Value → Bool
  | .text _ _ => true
  | _ => false

/-- What a view shows of an entry. -/
def Entry.aspect (entry : Entry) : Aspect → Value
  | .keys => entry.key
  | .values => entry.value
  | .pairs => .tuple [entry.key, entry.value]

namespace Table

/-- The capacity of a table that never held a pair. -/
def unused : Nat := 1

/-- A table that never held a pair. -/
def empty : Table := ⟨#[], 0, unused, 0, true, #[]⟩

/-- The least capacity of a table that held a pair. -/
def leastCapacity : Nat := 8

/-- How many pairs and gaps a table of a capacity has room for. -/
def roomOf (capacity : Nat) : Nat := capacity * 2 / 3

/-- The least power of two from a number on that is not below a bound; `fuel` bounds the
doublings. -/
def doubledTo (bound : Nat) : (fuel : Nat) → Nat → Nat
  | 0, capacity => capacity
  | fuel + 1, capacity => if bound ≤ capacity then capacity else doubledTo bound fuel (2 * capacity)

/-- The capacity for a bound, which counts the least capacity in. -/
def capacityFor (bound : Nat) : Nat :=
  let reached := bound ||| leastCapacity
  doubledTo reached (reached.log2 + 1) leastCapacity

/-- The capacity of a table that is going to hold a number of pairs. -/
def capacityToHold (count : Nat) : Nat := capacityFor ((count * 3 + 1) / 2)

/-- The bucket of a hash. -/
def bucketOf (capacity : Nat) (hash : UInt64) : Nat := hash.toNat % capacity

/-- A table of a capacity without pairs. -/
def ofCapacity (capacity : Nat) (textual : Bool) : Table :=
  ⟨#[], 0, capacity, roomOf capacity, textual, Array.replicate capacity []⟩

/-- A table with a pair at its end, which it has room for. -/
def append (table : Table) (entry : Entry) : Table :=
  let ⟨slots, size, capacity, room, textual, buckets⟩ := table
  let place := slots.size
  ⟨slots.push (some entry), size + 1, capacity, room - 1, textual,
    buckets.modify (bucketOf capacity entry.hash) fun places => places ++ [place]⟩

/-- A table made anew with a capacity, without gaps. -/
def rebuilt (table : Table) (capacity : Nat) (textual : Bool) : Table :=
  table.slots.foldl
    (fun made slot =>
      match slot with
      | some entry => made.append entry
      | none => made)
    (ofCapacity capacity (textual && table.textual))

/-- The capacity that a full table grows to. -/
def grown (table : Table) : Nat := capacityFor (table.size * 3)

/-- A table with room for a key: the first key that is no text, and a key that comes when the table
is full, make it anew. -/
def readied (table : Table) (key : Value) : Table :=
  if table.capacity = unused then ofCapacity leastCapacity key.isText
  else
    let suited :=
      if table.textual && !key.isText then table.rebuilt table.grown false else table
    if suited.room = 0 then suited.rebuilt suited.grown true else suited

/-- A new pair at the end. -/
def push (table : Table) (entry : Entry) : Table := (table.readied entry.key).append entry

/-- A new value for the key at a place. -/
def replace (table : Table) (index : Nat) (value : Value) : Table :=
  let ⟨slots, size, capacity, room, textual, buckets⟩ := table
  ⟨slots.modify index fun slot => slot.map fun entry => { entry with value := value },
    size, capacity, room, textual, buckets⟩

/-- The pair at a place. -/
def at? (table : Table) (index : Nat) : Option Entry := (table.slots[index]?).join

/-- A table without the pair at a place, which leaves a gap. -/
def erase (table : Table) (index : Nat) : Table :=
  match table.at? index with
  | none => table
  | some entry =>
      let ⟨slots, size, capacity, room, textual, buckets⟩ := table
      ⟨slots.setIfInBounds index none, size - 1, capacity, room, textual,
        buckets.modify (bucketOf capacity entry.hash) fun places => places.erase index⟩

/-- A table without the last pair, which is at a place, and the gaps behind it. -/
def eraseLast (table : Table) (index : Nat) : Table :=
  let ⟨slots, size, capacity, room, textual, buckets⟩ := table.erase index
  ⟨slots.extract 0 index, size, capacity, room, textual, buckets⟩

/-- The pairs. -/
def entries (table : Table) : List Entry := table.slots.toList.filterMap id

/-- The keys. -/
def keys (table : Table) : List Value := table.entries.map Entry.key

/-- A new key without a value at the end. -/
def pushKey (table : Table) (hash : UInt64) (key : Value) : Table :=
  table.push ⟨hash, key, .nothing⟩

/-- The first place from an index on that holds a pair; `count` bounds the search. -/
def nextFrom (table : Table) : (count index : Nat) → Option (Nat × Entry)
  | 0, _ => none
  | count + 1, index =>
      match table.at? index with
      | some entry => some (index, entry)
      | none => table.nextFrom count (index + 1)

/-- The last place before an index that holds a pair. -/
def lastBefore (table : Table) : (index : Nat) → Option (Nat × Entry)
  | 0 => none
  | index + 1 =>
      match table.at? index with
      | some entry => some (index, entry)
      | none => table.lastBefore index

/-- Few enough gaps are in a table to keep them in a copy of it. -/
def isDense (table : Table) : Bool := table.slots.size * 2 / 3 ≤ table.size

/-- A table has no gaps and is no larger than its pairs ask for. -/
def isTight (table : Table) : Bool :=
  table.size == table.slots.size &&
    (table.capacity == leastCapacity || roomOf (table.capacity / 2) < table.size)

/-- A table with room for all pairs of another one. -/
def readiedFor (table other : Table) : Table :=
  if roomOf table.capacity < other.size then
    table.rebuilt (capacityToHold (table.size + other.size)) other.textual
  else table

/-- A table that is going to hold a number of pairs. -/
def presized (count : Nat) (textual : Bool) : Table :=
  if count ≤ roomOf leastCapacity then empty
  else ofCapacity (capacityToHold (min count (roomOf (Nat.pow 2 17)))) textual

/-- The places that a key of a hash may stand at. -/
def placesOf (table : Table) (hash : UInt64) : List Nat :=
  match table.buckets[bucketOf table.capacity hash]? with
  | some places => places
  | none => []

end Table
end Predicate
end Wordbook
