import Wordbook.Predicate.Signature

/-!
# Sorting

Equal items keep their order.  The items are cut into runs that are sorted already, turned around if
they go down, and filled up to a least length by putting further items to their places.  Runs are
merged two by two, those that divide the items most evenly last.  A merge takes single items as long
as both runs win in turn, and goes ahead by doubled steps when one of them wins again and again.
Items that have no order among each other end up where these steps leave them.
-/

namespace Wordbook
namespace Predicate
namespace Sorting

variable {Item : Type} [Inhabited Item]

/-- A test whether an item stands before another. -/
abbrev Before (Item : Type) := Item → Item → Except Fault Bool

/-- How many items from an index on keep going down, or do not go down; `count` bounds the
search. -/
def runFrom (before : Before Item) (items : Array Item) (down : Bool) :
    (count index : Nat) → Except Fault Nat
  | 0, index => .ok index
  | count + 1, index => do
      if index < items.size then
        if (← before (items.getD index default) (items.getD (index - 1) default)) == down then
          runFrom before items down count (index + 1)
        else return index
      else return index

/-- The place of an item among the first sorted ones, after those that are equal to it, between two
bounds; `fuel` bounds the halvings. -/
def placeFrom (before : Before Item) (items : Array Item) (item : Item) :
    (fuel low high : Nat) → Except Fault Nat
  | 0, low, _ => .ok low
  | fuel + 1, low, high => do
      if low < high then
        let middle := low + (high - low) / 2
        if ← before item (items.getD middle default) then
          placeFrom before items item fuel low middle
        else
          placeFrom before items item fuel (middle + 1) high
      else return low

/-- Put the items from an index on to their places among the sorted ones before. -/
def insertFrom (before : Before Item) : (count index : Nat) → Array Item → Except Fault (Array Item)
  | 0, _, items => .ok items
  | count + 1, index, items => do
      let item := items.getD index default
      let place ← placeFrom before items item (index + 1) 0 index
      insertFrom before count (index + 1)
        ((items.eraseIdxIfInBounds index).insertIdxIfInBounds place item)

/-- Some sorted items before a key, in steps that double, from a hint on; `isBefore` tells it of the
item at a place.  The result bounds the places where the key may stand.  Of `count` items those up
to `limit` steps away are looked at. -/
def strideFrom (isBefore : Nat → Except Fault Bool) (limit : Nat) :
    (fuel last step : Nat) → Except Fault (Nat × Nat)
  | 0, last, step => .ok (last, min step limit)
  | fuel + 1, last, step => do
      if step < limit then
        if ← isBefore step then strideFrom isBefore limit fuel step (2 * step + 1)
        else return (last, step)
      else return (last, limit)

/-- The first place between two bounds from which on a test fails; `fuel` bounds the halvings. -/
def boundary (isBefore : Nat → Except Fault Bool) : (fuel low high : Nat) → Except Fault Nat
  | 0, _, high => .ok high
  | fuel + 1, low, high => do
      if low < high then
        let middle := low + (high - low) / 2
        if ← isBefore middle then boundary isBefore fuel (middle + 1) high
        else boundary isBefore fuel low middle
      else return high

/-- The number of items of a sorted section that stand before a key, as a test of their places
tells, looked for from a hint on. -/
def gallop (isBefore : Nat → Except Fault Bool) (count hint : Nat) : Except Fault Nat := do
  if ← isBefore hint then
    let (last, stride) ← strideFrom (fun step => isBefore (hint + step)) (count - hint) count 0 1
    boundary isBefore count (hint + last + 1) (hint + stride)
  else
    let (last, stride) ←
      strideFrom (fun step => do return !(← isBefore (hint - step))) (hint + 1) count 0 1
    boundary isBefore count (hint + 1 - stride) (hint - last)

/-- How often one run must win in a row at first before a merge goes ahead by doubled steps, and how
far such steps must lead to go on with them. -/
def patienceAtFirst : Nat := 7

/-- Two runs under way to be merged from their starts: how many items were taken from each, the
merged items, and how often one run must win in a row. -/
structure Ascent (Item : Type) where
  left : Nat
  right : Nat
  merged : Array Item
  patience : Nat

namespace Ascent

/-- The end of a merge: what is left of the runs follows. -/
def close (state : Ascent Item) (left right : Array Item) : Array Item × Nat :=
  (state.merged ++ left.extract state.left left.size ++ right.extract state.right right.size,
    state.patience)

/-- The end of a merge when the last item of the left run belongs to its end. -/
def closeLast (state : Ascent Item) (left right : Array Item) : Array Item × Nat :=
  (state.merged ++ right.extract state.right right.size ++ left.extract state.left left.size,
    state.patience)

/-- The next items of the left run are taken. -/
def takeLeft (state : Ascent Item) (left : Array Item) (count : Nat) : Ascent Item :=
  { state with
    merged := state.merged ++ left.extract state.left (state.left + count)
    left := state.left + count }

/-- The next items of the right run are taken. -/
def takeRight (state : Ascent Item) (right : Array Item) (count : Nat) : Ascent Item :=
  { state with
    merged := state.merged ++ right.extract state.right (state.right + count)
    right := state.right + count }

mutual

/-- Merge item by item; the last two counts tell how often each run has won in a row.  The `fuel`
bounds the steps. -/
def single (before : Before Item) (left right : Array Item) :
    (fuel : Nat) → Ascent Item → (leftWins rightWins : Nat) → Except Fault (Array Item × Nat)
  | 0, state, _, _ => .ok (state.close left right)
  | fuel + 1, state, leftWins, rightWins => do
      if ← before (right.getD state.right default) (left.getD state.left default) then
        let after := state.takeRight right 1
        if after.right = right.size then return after.close left right
        else if rightWins + 1 ≥ state.patience then
          galloping before left right fuel { after with patience := after.patience + 1 }
        else single before left right fuel after 0 (rightWins + 1)
      else
        let after := state.takeLeft left 1
        if after.left + 1 = left.size then return after.closeLast left right
        else if leftWins + 1 ≥ state.patience then
          galloping before left right fuel { after with patience := after.patience + 1 }
        else single before left right fuel after (leftWins + 1) 0

/-- Merge by doubled steps. -/
def galloping (before : Before Item) (left right : Array Item) :
    (fuel : Nat) → Ascent Item → Except Fault (Array Item × Nat)
  | 0, state => .ok (state.close left right)
  | fuel + 1, given => do
      let state := { given with patience := max 1 (given.patience - 1) }
      let rightItem := right.getD state.right default
      let lefts ← gallop
        (fun place => do return !(← before rightItem (left.getD (state.left + place) default)))
        (left.size - state.left) 0
      let second := state.takeLeft left lefts
      if lefts ≠ 0 && second.left + 1 = left.size then return second.closeLast left right
      else if lefts ≠ 0 && second.left = left.size then return second.close left right
      else
        let third := second.takeRight right 1
        if third.right = right.size then return third.close left right
        else
          let leftItem := left.getD third.left default
          let rights ← gallop
            (fun place => before (right.getD (third.right + place) default) leftItem)
            (right.size - third.right) 0
          let fourth := third.takeRight right rights
          if rights ≠ 0 && fourth.right = right.size then return fourth.close left right
          else
            let last := fourth.takeLeft left 1
            if last.left + 1 = left.size then return last.closeLast left right
            else if lefts ≥ patienceAtFirst || rights ≥ patienceAtFirst then
              galloping before left right fuel last
            else single before left right fuel { last with patience := last.patience + 1 } 0 0

end

/-- Merge two runs from their starts, the first item of the right one standing before all others. -/
def merge (before : Before Item) (left right : Array Item) (patience : Nat) :
    Except Fault (Array Item × Nat) :=
  let start := (⟨0, 0, #[], patience⟩ : Ascent Item).takeRight right 1
  if start.right = right.size then .ok (start.close left right)
  else if left.size = 1 then .ok (start.closeLast left right)
  else single before left right (2 * (left.size + right.size) + 2) start 0 0

end Ascent

/-- Two runs under way to be merged from their ends: how many items are left of each, the merged
items, the last one first, and how often one run must win in a row. -/
structure Descent (Item : Type) where
  left : Nat
  right : Nat
  merged : Array Item
  patience : Nat

namespace Descent

/-- The end of a merge: what is left of the runs stands before. -/
def close (state : Descent Item) (left right : Array Item) : Array Item × Nat :=
  (left.extract 0 state.left ++ right.extract 0 state.right ++ state.merged.reverse, state.patience)

/-- The end of a merge when the first item of the right run belongs to its start. -/
def closeFirst (state : Descent Item) (left right : Array Item) : Array Item × Nat :=
  (right.extract 0 state.right ++ left.extract 0 state.left ++ state.merged.reverse, state.patience)

/-- The last items of the left run are taken. -/
def takeLeft (state : Descent Item) (left : Array Item) (count : Nat) : Descent Item :=
  { state with
    merged := state.merged ++ (left.extract (state.left - count) state.left).reverse
    left := state.left - count }

/-- The last items of the right run are taken. -/
def takeRight (state : Descent Item) (right : Array Item) (count : Nat) : Descent Item :=
  { state with
    merged := state.merged ++ (right.extract (state.right - count) state.right).reverse
    right := state.right - count }

mutual

/-- Merge item by item; the last two counts tell how often each run has won in a row.  The `fuel`
bounds the steps. -/
def single (before : Before Item) (left right : Array Item) :
    (fuel : Nat) → Descent Item → (leftWins rightWins : Nat) → Except Fault (Array Item × Nat)
  | 0, state, _, _ => .ok (state.close left right)
  | fuel + 1, state, leftWins, rightWins => do
      if ← before (right.getD (state.right - 1) default) (left.getD (state.left - 1) default) then
        let after := state.takeLeft left 1
        if after.left = 0 then return after.close left right
        else if leftWins + 1 ≥ state.patience then
          galloping before left right fuel { after with patience := after.patience + 1 }
        else single before left right fuel after (leftWins + 1) 0
      else
        let after := state.takeRight right 1
        if after.right = 1 then return after.closeFirst left right
        else if rightWins + 1 ≥ state.patience then
          galloping before left right fuel { after with patience := after.patience + 1 }
        else single before left right fuel after 0 (rightWins + 1)

/-- Merge by doubled steps. -/
def galloping (before : Before Item) (left right : Array Item) :
    (fuel : Nat) → Descent Item → Except Fault (Array Item × Nat)
  | 0, state => .ok (state.close left right)
  | fuel + 1, given => do
      let state := { given with patience := max 1 (given.patience - 1) }
      let rightItem := right.getD (state.right - 1) default
      let kept ← gallop
        (fun place => do return !(← before rightItem (left.getD place default)))
        state.left (state.left - 1)
      let lefts := state.left - kept
      let second := state.takeLeft left lefts
      if lefts ≠ 0 && second.left = 0 then return second.close left right
      else
        let third := second.takeRight right 1
        if third.right = 1 then return third.closeFirst left right
        else
          let leftItem := left.getD (third.left - 1) default
          let others ← gallop (fun place => before (right.getD place default) leftItem)
            third.right (third.right - 1)
          let rights := third.right - others
          let fourth := third.takeRight right rights
          if rights ≠ 0 && fourth.right = 1 then return fourth.closeFirst left right
          else if rights ≠ 0 && fourth.right = 0 then return fourth.close left right
          else
            let last := fourth.takeLeft left 1
            if last.left = 0 then return last.close left right
            else if lefts ≥ patienceAtFirst || rights ≥ patienceAtFirst then
              galloping before left right fuel last
            else single before left right fuel { last with patience := last.patience + 1 } 0 0

end

/-- Merge two runs from their ends, the last item of the left one standing after all others. -/
def merge (before : Before Item) (left right : Array Item) (patience : Nat) :
    Except Fault (Array Item × Nat) :=
  let start := (⟨left.size, right.size, #[], patience⟩ : Descent Item).takeLeft left 1
  if start.left = 0 then .ok (start.close left right)
  else if right.size = 1 then .ok (start.closeFirst left right)
  else single before left right (2 * (left.size + right.size) + 2) start 0 0

end Descent

/-- Merge two runs.  Items of the left run that no item of the right one stands before, and items of
the right run that stand before no item of the left one, are in their places already. -/
def merge (before : Before Item) (left right : Array Item) (patience : Nat) :
    Except Fault (Array Item × Nat) := do
  let first := right.getD 0 default
  let start ←
    gallop (fun place => do return !(← before first (left.getD place default))) left.size 0
  if start = left.size then return (left ++ right, patience)
  else
    let last := left.getD (left.size - 1) default
    let stop ← gallop (fun place => before (right.getD place default) last)
      right.size (right.size - 1)
    if stop = 0 then return (left ++ right, patience)
    else
      let lefts := left.extract start left.size
      let rights := right.extract 0 stop
      let (merged, settled) ←
        if lefts.size ≤ rights.size then Ascent.merge before lefts rights patience
        else Descent.merge before lefts rights patience
      return (left.extract 0 start ++ merged ++ right.extract stop right.size, settled)

/-- A sorted run: its items, where it starts, and how deep the border to the next run divides all
items. -/
structure Stretch (Item : Type) where
  items : Array Item
  start : Nat
  depth : Nat

/-- How many halvings of all items tell the middles of two neighbouring runs apart; the middles are
given as parts of twice the number of items, and `fuel` bounds the halvings. -/
def depthFrom (count : Nat) : (fuel depth first second : Nat) → Nat
  | 0, depth, _, _ => depth
  | fuel + 1, depth, first, second =>
      if count ≤ first then
        depthFrom count fuel (depth + 1) (2 * (first - count)) (2 * (second - count))
      else if count ≤ second then depth + 1
      else depthFrom count fuel (depth + 1) (2 * first) (2 * second)

/-- How deep the border between a run and the next one, of a length, divides all items. -/
def depthOf (count : Nat) (run : Stretch Item) (length : Nat) : Nat :=
  let middle := 2 * run.start + run.items.size
  depthFrom count (count.log2 + 2) 0 middle (middle + run.items.size + length)

/-- Merge the last two runs as long as the border between them is deeper than a new one; the last
run comes first. -/
def collapse (before : Before Item) (depth : Nat) :
    (fuel : Nat) → List (Stretch Item) → (patience : Nat) →
    Except Fault (List (Stretch Item) × Nat)
  | 0, runs, patience => .ok (runs, patience)
  | fuel + 1, last :: previous :: runs, patience => do
      if depth < previous.depth then
        let (items, settled) ← merge before previous.items last.items patience
        collapse before depth fuel (⟨items, previous.start, last.depth⟩ :: runs) settled
      else return (last :: previous :: runs, patience)
  | _ + 1, runs, patience => .ok (runs, patience)

/-- Merge all runs, the last one first; of three runs the shorter neighbour of the middle one is
merged with it. -/
def collapseAll (before : Before Item) :
    (fuel : Nat) → List (Stretch Item) → (patience : Nat) → Except Fault (Array Item)
  | 0, runs, _ => .ok (runs.reverse.foldl (fun found run => found ++ run.items) #[])
  | fuel + 1, last :: previous :: earlier :: runs, patience => do
      if earlier.items.size < last.items.size then
        let (items, settled) ← merge before earlier.items previous.items patience
        collapseAll before fuel (last :: ⟨items, earlier.start, previous.depth⟩ :: runs) settled
      else
        let (items, settled) ← merge before previous.items last.items patience
        collapseAll before fuel (⟨items, previous.start, last.depth⟩ :: earlier :: runs) settled
  | _ + 1, [last, previous], patience => do
      return (← merge before previous.items last.items patience).1
  | _ + 1, [last], _ => .ok last.items
  | _ + 1, [], _ => .ok #[]

/-- Runs need not be longer than this. -/
def longestShortRun : Nat := 64

/-- The least length of a run of so many items: a number below the bound, so that the number of runs
is a power of two or slightly less; `fuel` bounds the halvings. -/
def leastRun : (fuel extra : Nat) → Nat → Nat
  | 0, extra, count => count + extra
  | fuel + 1, extra, count =>
      if longestShortRun ≤ count then leastRun fuel (max extra (count % 2)) (count / 2)
      else count + extra

/-- Cut the items from a place on into runs, and merge those that can be; `fuel` bounds the runs. -/
def runsFrom (before : Before Item) (items : Array Item) (least : Nat) :
    (fuel place : Nat) → List (Stretch Item) → (patience : Nat) → Except Fault (Array Item)
  | 0, place, runs, patience =>
      collapseAll before (runs.length + 1)
        (⟨items.extract place items.size, place, 0⟩ :: runs) patience
  | fuel + 1, place, runs, patience => do
      if items.size ≤ place then collapseAll before (runs.length + 1) runs patience
      else
        let rest := items.extract place items.size
        let down ← if rest.size < 2 then pure false
          else before (rest.getD 1 default) (rest.getD 0 default)
        let stop ← if rest.size < 2 then pure 1 else runFrom before rest down rest.size 2
        let natural := rest.extract 0 stop
        let turned := if down then natural.reverse else natural
        let length := if stop < least then min least rest.size else stop
        let filled ← insertFrom before (length - stop) stop (turned ++ rest.extract stop length)
        let (settled, calmed) ←
          match runs with
          | [] => pure ([], patience)
          | last :: earlier => do
              let depth := depthOf items.size last length
              let (found, left) ← collapse before depth runs.length (last :: earlier) patience
              pure (match found with
                | [] => []
                | top :: others => { top with depth := depth } :: others, left)
        runsFrom before items least fuel (place + length) (⟨filled, place, 0⟩ :: settled) calmed

/-- Sort an array. -/
def sort (before : Before Item) (items : Array Item) : Except Fault (Array Item) :=
  if items.size < 2 then .ok items
  else
    runsFrom before items (leastRun (items.size.log2 + 1) 0 items.size) items.size 0 []
      patienceAtFirst

end Sorting

/-- Sort values by their keys, which a function gives if there is one. -/
def Work.sorted (items : Array Value) (key : Value) (reverse : Bool) :
    Work (Array Value) := do
  let pairs ← match key with
    | .nothing => pure (items.map fun item => (item, item))
    | _ => items.mapM fun item => do return (← Work.call key ⟨[item], []⟩, item)
  let ordered := if reverse then pairs.reverse else pairs
  let found ← Work.inspect fun heap =>
    Sorting.sort (fun left right => heap.order .less left.1 right.1) ordered
  let values := found.map Prod.snd
  return if reverse then values.reverse else values

end Predicate
end Wordbook
