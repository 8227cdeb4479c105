import Wordbook.Predicate.Attribute
import Wordbook.Predicate.Naming

/-!
# Assignment

A value is assigned to a name, to an item of a list or a dictionary, to a section of a list, or to
several targets, which get its items.
-/

namespace Wordbook
namespace Predicate
namespace Assignment

/-- Some items in the place of a section of consecutive ones. -/
def replaceRun (items : Array Value) (start stop : Nat) (values : Array Value) : Array Value :=
  items.extract 0 start ++ values ++ items.extract (max start stop) items.size

/-- Items with new ones at some places. -/
def replaceAt (items : Array Value) : List (Nat × Value) → Array Value
  | [] => items
  | (index, value) :: changes => replaceAt (items.setIfInBounds index value) changes

/-- The items of a value that is assigned to a section. -/
def itemsFor (value : Value) (why : String) : Work (Array Value) := do
  match ← Work.iterator? value with
  | some _ => Work.gather value
  | none => Work.raise (.typing why)

/-- Assign the items of a value to a section of a list. -/
def toSection (address : Nat) (lower upper step value : Value) : Work Unit := do
  let length ← Work.look fun heap => (heap.list address).size
  let part ← Work.ofExcept (Section.make lower upper step length)
  if part.step = 1 then
    let values ← itemsFor value "can only assign an iterable"
    Work.updateList address fun items =>
      replaceRun items part.start.toNat part.stop.toNat values
  else
    let values ← itemsFor value "must assign iterable to extended slice"
    if values.size != part.count then
      Work.raise (.value ("attempt to assign sequence of size " ++ toString values.size ++
        " to extended slice of size " ++ toString part.count))
    else
      Work.updateList address fun items => replaceAt items (part.indices.zip values.toList)

/-- Assign a value to an item of a container. -/
def toItem (container key value : Value) : Work Unit := do
  match container, key with
  | .list address, .slice lower upper step => toSection address lower upper step value
  | .list address, _ =>
      match key.int? with
      | none => Work.raise (Sequence.list.notIndex key)
      | some number =>
          let index ← Work.ofExcept (machineIndex number)
          let length ← Work.look fun heap => (heap.list address).size
          match place? length index with
          | some place => Work.updateList address fun items => items.setIfInBounds place value
          | none => Work.raise (.index "list assignment index out of range")
  | .dict address, _ => Work.dictSet address key value
  | _, _ =>
      Work.raise (.typing ("'" ++ container.label ++ "' object does not support item assignment"))

/-- Take values from an iterator until there are so many or no more. -/
def takeFrom (source : Nat) : (count : Nat) → Work (List Value)
  | 0 => return []
  | count + 1 => do
      match ← Work.next source with
      | none => return []
      | some value => return value :: (← takeFrom source count)

/-- The iterator over a value that is assigned to several targets. -/
def unpacked (value : Value) : Work Nat := do
  match ← Work.iterator? value with
  | some source => return source
  | none => Work.raise (.typing ("cannot unpack non-iterable " ++ value.label ++ " object"))

/-- The fault of too few values for some targets. -/
def tooFew (bound : String) (expected found : Nat) : Fault :=
  .value ("not enough values to unpack (expected " ++ bound ++ toString expected ++ ", got " ++
    toString found ++ ")")

/-- The values for so many targets. -/
def unpackExactly (count : Nat) (value : Value) : Work (List Value) := do
  let source ← unpacked value
  let values ← takeFrom source count
  if values.length < count then Work.raise (tooFew "" count values.length)
  else
    match ← Work.next source with
    | none => return values
    | some _ =>
        Work.raise (.value ("too many values to unpack (expected " ++ toString count ++ ")"))

/-- The values for so many first and last targets, and those in between. -/
def unpackAtLeast (first last : Nat) (value : Value) :
    Work (List Value × List Value × List Value) := do
  let source ← unpacked value
  let values ← takeFrom source first
  if values.length < first then Work.raise (tooFew "at least " (first + last) values.length)
  else
    let rest := (← Work.drain source).toList
    if rest.length < last then
      Work.raise (tooFew "at least " (first + last) (first + rest.length))
    else return (values, rest.take (rest.length - last), rest.drop (rest.length - last))

mutual

/-- Assign a value to a target. -/
def assign (environment : Environment) : Target → Value → Run Unit
  | .name name, value => environment.bind name value
  | .attribute owner name, _ => do
      Work.raise (Attribute.unassignable (← Run.evaluate environment owner) name)
  | .subscript container index, value => do
      let holder ← Run.evaluate environment container
      toItem holder (← Run.evaluate environment index) value
  | .exactly targets, value => do
      assignEach environment targets (← unpackExactly targets.length value)
  | .atLeast first rest last, value => do
      let (before, between, after) ← unpackAtLeast first.length last.length value
      assignEach environment first before
      assign environment rest (← Work.newList between.toArray)
      assignEach environment last after

/-- Assign values to targets, one to each. -/
def assignEach (environment : Environment) : List Target → List Value → Run Unit
  | target :: targets, value :: values => do
      assign environment target value
      assignEach environment targets values
  | _, _ => pure ()

end

/-- Change what a target holds by an operation. -/
def augment (environment : Environment) (target : Target) (op : BinaryOp) (operand : Expr) :
    Run Unit := do
  match target with
  | .name name =>
      let held ← environment.value name
      let value ← Run.evaluate environment operand
      environment.bind name (← Operators.binary op .update held value)
  | .attribute owner name =>
      let holder ← Run.evaluate environment owner
      let held ← Work.ofExcept (Attribute.find holder name)
      let value ← Run.evaluate environment operand
      let _ ← Operators.binary op .update held value
      Work.raise (Attribute.unassignable holder name)
  | .subscript container index =>
      let holder ← Run.evaluate environment container
      let key ← Run.evaluate environment index
      let held ← Work.subscript holder key
      let value ← Run.evaluate environment operand
      toItem holder key (← Operators.binary op .update held value)
  | _ => pure ()

end Assignment
end Predicate
end Wordbook
