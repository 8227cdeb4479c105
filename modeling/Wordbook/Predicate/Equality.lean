import Wordbook.Number.Binary64
import Wordbook.Predicate.Work

/-!
# Equality, hashes and order

Numbers are equal across their types, sequences item by item, dictionaries and sets whatever the
order of their keys.  Equal values have equal hashes; values that can change have none.  Numbers,
text, bytes and sequences are ordered, and sets by inclusion.
-/

namespace Wordbook
namespace Predicate

/-- How deep values may be nested in each other when they are compared or shown. -/
def nestingLimit : Nat := 985

namespace Value

/-- The hash of what is no number: that of its mark. -/
def hashOfMark : Mark → UInt64
  | .own number => mixHash 7 (hash number)
  | .written number => mixHash 5 (hash number)
  | _ => 7

/-- The hash of a float: that of the integer it is, if it is one. -/
def hashOfFloat (number : Float) (mark : Mark) : UInt64 :=
  match Number.shape number with
  | .finite parts => if parts.isIntegral then hash parts.truncate else hash number.toBits
  | .infinite _ => hash number.toBits
  | .notANumber => hashOfMark mark

mutual

/-- The hash of a value, if it has one. -/
def hashOf : Value → Except Fault UInt64
  | nothing => .ok 11
  | bool value => .ok (hash (if value then (1 : Int) else 0))
  | int value _ => .ok (hash value)
  | float value mark => .ok (hashOfFloat value mark)
  | complex real imaginary mark =>
      .ok (if Number.isZero imaginary then hashOfFloat real mark
        else mixHash (hashOfFloat real mark) (hash imaginary.toBits))
  | text chars _ => .ok (hash chars)
  | bytes content _ => .ok (content.foldl (fun found byte => mixHash found (hash byte)) 13)
  | tuple items _ => return (← hashesOf items).foldl mixHash 17
  | frozen items _ => return (← hashesOf items).foldl (· + ·) 19
  | range start stop step _ =>
      let length := rangeLength start stop step
      .ok (mixHash (hash length)
        (if length = 0 then 0
        else if length = 1 then hash start
        else mixHash (hash start) (hash step)))
  | ellipsis => .ok 23
  | type denoted => .ok (hash denoted.label)
  | union members _ => return (← hashesOf members).foldl (· + ·) 29
  | applied _ origin arguments _ => return (← hashesOf arguments).foldl mixHash (hash origin.label)
  | function named => .ok (hash named.label)
  | method _ name _ => .ok (mixHash 31 (hash name))
  | descriptor owner name => .ok (mixHash (hash owner.label) (hash name))
  | property owner name => .ok (mixHash (hash owner.label) (hash name))
  | iterator _ address => .ok (mixHash 37 (hash address))
  | view .values address _ => .ok (mixHash 41 (hash address))
  | view .keys _ _ => .error (.unhashable .keyView)
  | view .pairs _ _ => .error (.unhashable .pairView)
  | slice _ _ _ => .error (.unhashable .slice)
  | list _ => .error (.unhashable .list)
  | dict _ => .error (.unhashable .dict)
  | set _ => .error (.unhashable .set)

/-- The hashes of some values. -/
def hashesOf : List Value → Except Fault (List UInt64)
  | [] => .ok []
  | value :: values => do
      let first ← hashOf value
      return first :: (← hashesOf values)

end

end Value

/-- A test whether two values are equal. -/
abbrev EqualityTest := Value → Value → Except Fault Bool

namespace EqualityTest

/-- Two values are the same or equal. -/
def orSame (equal : EqualityTest) (left right : Value) : Except Fault Bool :=
  if left.same right then .ok true else equal left right

/-- Some value of a list is the given one or equal to it. -/
def contains (equal : EqualityTest) (key : Value) : List Value → Except Fault Bool
  | [] => .ok false
  | item :: items => do
      if ← equal.orSame item key then return true else contains equal key items

/-- Each value of a list is the same as or equal to the one at its place in another. -/
def pairwise (equal : EqualityTest) : List Value → List Value → Except Fault Bool
  | left :: lefts, right :: rights => do
      if ← equal.orSame left right then pairwise equal lefts rights else return false
  | [], [] => .ok true
  | _, _ => .ok false

/-- Every value of a list is in another. -/
def within (equal : EqualityTest) (others : List Value) : List Value → Except Fault Bool
  | [] => .ok true
  | value :: values => do
      if ← equal.contains value others then within equal others values else return false

/-- Two lists hold equal values in any order and number; the values must have hashes. -/
def unordered (equal : EqualityTest) (left right : List Value) : Except Fault Bool := do
  let _ ← Value.hashesOf left
  let _ ← Value.hashesOf right
  if ← within equal right left then within equal left right else return false

end EqualityTest

/-- The place of a key in a dictionary among some places. -/
def Table.findAmong (equal : EqualityTest) (table : Table) (hash : UInt64) (key : Value) :
    List Nat → Except Fault (Option Nat)
  | [] => .ok none
  | index :: places =>
      match table.at? index with
      | some entry =>
          if entry.hash == hash then
            match equal.orSame entry.key key with
            | .ok true => .ok (some index)
            | .ok false => table.findAmong equal hash key places
            | .error fault => .error fault
          else table.findAmong equal hash key places
      | none => table.findAmong equal hash key places

/-- The place of a key in a dictionary. -/
def Table.find? (table : Table) (equal : EqualityTest) (hash : UInt64) (key : Value) :
    Except Fault (Option Nat) :=
  table.findAmong equal hash key (table.placesOf hash)

namespace Heap

/-- The elements of a set, or of a view that is like one. -/
def elements? (heap : Heap) : Value → Option (List Value)
  | .set address => some (heap.set address).keys
  | .frozen items _ => some items
  | .view .keys address _ => some (heap.dict address).keys
  | .view .pairs address _ =>
      some ((heap.dict address).entries.map fun entry => entry.aspect .pairs)
  | _ => none

/-- A value can be a member of a set-like value: it has a hash. -/
def holds (heap : Heap) (equal : EqualityTest) (container key : Value) : Except Fault Bool := do
  match container, key with
  | .view .pairs address _, .tuple [first, second] _ =>
      let table := heap.dict address
      match ← table.find? equal (← first.hashOf) first with
      | some index =>
          match table.at? index with
          | some entry => equal.orSame entry.value second
          | none => return false
      | none => return false
  | .view .pairs _ _, _ => return false
  | .set address, _ =>
      return (← (heap.set address).find? equal (← key.hashOf) key).isSome
  | .view .keys address _, _ =>
      return (← (heap.dict address).find? equal (← key.hashOf) key).isSome
  | .frozen items _, _ =>
      let _ ← key.hashOf
      equal.contains key items
  | _, _ => return false

/-- Every one of some keys is in a set-like value. -/
def holdsAll (heap : Heap) (equal : EqualityTest) (container : Value) :
    List Value → Except Fault Bool
  | [] => .ok true
  | key :: keys => do
      if ← heap.holds equal container key then heap.holdsAll equal container keys
      else return false

/-- Every entry of a dictionary is in another with an equal value. -/
def entriesAgree (equal : EqualityTest) (other : Table) : List Entry → Except Fault Bool
  | [] => .ok true
  | entry :: entries => do
      match ← other.find? equal entry.hash entry.key with
      | none => return false
      | some index =>
          match other.at? index with
          | some found =>
              if ← equal.orSame entry.value found.value then entriesAgree equal other entries
              else return false
          | none => return false

end Heap

/-- The comparison of two floats; none holds for what is no number. -/
def compareFloats? (left right : Float) : Option Ordering :=
  if left == right then some .eq
  else if left < right then some .lt
  else if right < left then some .gt
  else none

/-- The comparison of two real numbers, if both are, or nothing if one of them is no number. -/
def compareNumbers? (left right : Value) : Option (Option Ordering) :=
  match left.int?, right.int? with
  | some first, some second => some (some (compare first second))
  | some first, none =>
      match right with
      | .float second _ => some ((Number.compareInt? second first).map Ordering.swap)
      | _ => none
  | none, some second =>
      match left with
      | .float first _ => some (Number.compareInt? first second)
      | _ => none
  | none, none =>
      match left, right with
      | .float first _, .float second _ => some (compareFloats? first second)
      | _, _ => none

namespace Heap

/-- Two values are equal, with a test for the values within them. -/
def equalWith (heap : Heap) (equal : EqualityTest) (left right : Value) : Except Fault Bool :=
  match left, right with
  | .text first _, .text second _ => .ok (first == second)
  | .bytes first _, .bytes second _ => .ok (first == second)
  | .tuple first _, .tuple second _ => equal.pairwise first second
  | .list first, .list second =>
      let lefts := heap.list first
      let rights := heap.list second
      if lefts.size != rights.size then .ok false
      else equal.pairwise lefts.toList rights.toList
  | .dict first, .dict second =>
      let lefts := heap.dict first
      let rights := heap.dict second
      if lefts.size != rights.size then .ok false
      else entriesAgree equal rights lefts.entries
  | .range start stop step _, .range otherStart otherStop otherStep _ =>
      let length := rangeLength start stop step
      .ok (length == rangeLength otherStart otherStop otherStep &&
        (length == 0 || (start == otherStart && (length == 1 || step == otherStep))))
  | .complex real imaginary _, .complex otherReal otherImaginary _ =>
      .ok (real == otherReal && imaginary == otherImaginary)
  | .slice lower upper step, .slice otherLower otherUpper otherStep =>
      equal.pairwise [lower, upper, step] [otherLower, otherUpper, otherStep]
  | .union first _, .union second _ => equal.unordered first second
  | .applied starred origin arguments _, .applied otherStarred otherOrigin otherArguments _ =>
      if starred == otherStarred && origin == otherOrigin then
        equal.pairwise arguments otherArguments
      else .ok false
  | .method receiver name _, .method other otherName _ =>
      .ok (receiver.same other && name == otherName)
  | .complex real imaginary _, other =>
      .ok (Number.isZero imaginary && compareNumbers? (.ofFloat real) other == some (some .eq))
  | other, .complex real imaginary _ =>
      .ok (Number.isZero imaginary && compareNumbers? (.ofFloat real) other == some (some .eq))
  | _, _ =>
      match compareNumbers? left right with
      | some found => .ok (found == some .eq)
      | none =>
          match heap.elements? left, heap.elements? right with
          | some lefts, some rights =>
              if lefts.length != rights.length then .ok false
              else heap.holdsAll equal right lefts
          | _, _ => .ok (left.same right)

/-- Two values nested at most so deep are equal. -/
def equalAt (heap : Heap) : Nat → EqualityTest
  | 0, _, _ => .error (.tooDeep "in comparison")
  | depth + 1, left, right => heap.equalWith (heap.equalAt depth) left right

/-- Two values are equal. -/
def equal (heap : Heap) : EqualityTest := heap.equalAt nestingLimit

/-- The place of a key in the dictionary at an address. -/
def find? (heap : Heap) (address : Nat) (hash : UInt64) (key : Value) :
    Except Fault (Option Nat) :=
  (heap.dict address).find? heap.equal hash key

/-- The place of a key in the set at an address. -/
def findMember? (heap : Heap) (address : Nat) (hash : UInt64) (key : Value) :
    Except Fault (Option Nat) :=
  (heap.set address).find? heap.equal hash key

end Heap

/-- The comparisons of order. -/
inductive OrderOp where
  | less
  | lessEqual
  | greater
  | greaterEqual
deriving DecidableEq

namespace OrderOp

/-- The sign of a comparison. -/
def label : OrderOp → String
  | .less => "<"
  | .lessEqual => "<="
  | .greater => ">"
  | .greaterEqual => ">="

/-- A comparison accepts an ordering. -/
def accepts : OrderOp → Ordering → Bool
  | .less, found => found == .lt
  | .lessEqual, found => found != .gt
  | .greater, found => found == .gt
  | .greaterEqual, found => found != .lt

end OrderOp

/-- The order of two texts by code points. -/
def compareChars : List Char → List Char → Ordering
  | [], [] => .eq
  | [], _ :: _ => .lt
  | _ :: _, [] => .gt
  | left :: lefts, right :: rights =>
      if left == right then compareChars lefts rights else compare left.toNat right.toNat

/-- The order of two strings of bytes. -/
def compareBytes : List UInt8 → List UInt8 → Ordering
  | [], [] => .eq
  | [], _ :: _ => .lt
  | _ :: _, [] => .gt
  | left :: lefts, right :: rights =>
      if left == right then compareBytes lefts rights else compare left.toNat right.toNat

namespace Heap

/-- The first place at which two sequences differ: the values there, or how their lengths
compare. -/
def difference (heap : Heap) : List Value → List Value → Except Fault (Ordering ⊕ (Value × Value))
  | [], [] => .ok (.inl .eq)
  | [], _ :: _ => .ok (.inl .lt)
  | _ :: _, [] => .ok (.inl .gt)
  | left :: lefts, right :: rights => do
      if ← heap.equal.orSame left right then heap.difference lefts rights
      else return .inr (left, right)

/-- The inclusion of one set-like value in another, as a comparison asks for it. -/
def includes (heap : Heap) (op : OrderOp) (left right : Value) (lefts rights : List Value) :
    Except Fault Bool :=
  match op with
  | .less => do return lefts.length < rights.length && (← heap.holdsAll heap.equal right lefts)
  | .lessEqual => do return lefts.length ≤ rights.length && (← heap.holdsAll heap.equal right lefts)
  | .greater => do return rights.length < lefts.length && (← heap.holdsAll heap.equal left rights)
  | .greaterEqual => do
      return rights.length ≤ lefts.length && (← heap.holdsAll heap.equal left rights)

/-- Compare two values nested at most so deep. -/
def orderAt (heap : Heap) (op : OrderOp) : Nat → Value → Value → Except Fault Bool
  | 0, _, _ => .error (.tooDeep "in comparison")
  | depth + 1, left, right =>
      let sequences (lefts rights : List Value) : Except Fault Bool := do
        match ← heap.difference lefts rights with
        | .inl found => return op.accepts found
        | .inr (first, second) => heap.orderAt op depth first second
      match left, right with
      | .text first _, .text second _ => .ok (op.accepts (compareChars first.toList second.toList))
      | .bytes first _, .bytes second _ => .ok (op.accepts (compareBytes first second))
      | .tuple first _, .tuple second _ => sequences first second
      | .list first, .list second =>
          sequences (heap.list first).toList (heap.list second).toList
      | _, _ =>
          match compareNumbers? left right with
          | some (some found) => .ok (op.accepts found)
          | some none => .ok false
          | none =>
              match heap.elements? left, heap.elements? right with
              | some lefts, some rights => heap.includes op left right lefts rights
              | _, _ => .error (.unordered op.label left right)

/-- Compare two values. -/
def order (heap : Heap) (op : OrderOp) (left right : Value) : Except Fault Bool :=
  heap.orderAt op nestingLimit left right

/-- A value as a key of a set: a set that can change stands for the frozen one with its elements. -/
def asKey (heap : Heap) : Value → Value
  | .set address => .frozen (heap.set address).keys
  | value => value

end Heap
end Predicate
end Wordbook
