import Wordbook.Predicate.Calling
import Wordbook.Predicate.Comprehension
import Wordbook.Predicate.FieldLayout
import Wordbook.Predicate.Naming

/-!
# Evaluation

The value of an expression.  Operands are evaluated from left to right; of a choice, a conjunction
and a chain of comparisons only as much as is needed.
-/

namespace Wordbook
namespace Predicate
/-- An item stands for one value. -/
def Item.isOne : Item → Bool
  | .one _ => true
  | .spread _ => false

/-- A named argument stands for one value. -/
def Keyword.isOne : Keyword → Bool
  | .one _ _ => true
  | .spread _ => false

namespace Evaluation

/-- The most values that are evaluated before the first of them is put into a container. -/
def batchLength : Nat := 30

/-- The fault of a value that should give its items to a call or a display. -/
def notSpreadable (value : Value) : Fault :=
  .typing ("Value after * must be an iterable, not " ++ value.label)

/-- The fault of a value that should give its pairs. -/
def notMapping (value : Value) : Fault :=
  .typing ("'" ++ value.label ++ "' object is not a mapping")

/-- The items of a value that is spread out. -/
def spread (value : Value) (fault : Value → Fault) : Work (Array Value) := do
  match ← Work.itemsAtHand? value with
  | some items => return items
  | none =>
      match ← Work.iterator? value with
      | some source => Work.drain source
      | none => Work.raise (fault value)

/-- The values of some items, after those that were found before. -/
def itemsFrom (environment : Environment) (found : Array Value) :
    List Item → Run (Array Value)
  | [] => return found
  | .one value :: items => do
      itemsFrom environment (found.push (← Run.evaluate environment value)) items
  | .spread value :: items => do
      let parts ← spread (← Run.evaluate environment value) notSpreadable
      itemsFrom environment (found ++ parts) items

/-- The values of some items. -/
def itemsOf (environment : Environment) (items : List Item) :
    Run (Array Value) := itemsFrom environment #[] items

/-- Put the values of some items into a set, each as soon as it is there. -/
def addItems (environment : Environment) (address : Nat) :
    List Item → Run Unit
  | [] => pure ()
  | .one value :: items => do
      Work.setAdd address (← Run.evaluate environment value)
      addItems environment address items
  | .spread value :: items => do
      SetMethod.putAll address (← Run.evaluate environment value)
      addItems environment address items

/-- A new set of some items: the first ones are all evaluated before they are put into it. -/
def setOf (environment : Environment) (items : List Item) : Run Value := do
  let first := if items.length > batchLength then [] else items.takeWhile Item.isOne
  let values ← itemsOf environment first
  let address ← Work.setOf values.toList
  addItems environment address (items.drop first.length)
  return .set address

/-- The pairs before the first one that is spread out. -/
def leadingPairs : List Pair → List (Expr × Expr)
  | .one key value :: pairs => (key, value) :: leadingPairs pairs
  | _ => []

/-- A new dictionary of some pairs, which are all evaluated before they are put into it. -/
def dictTogether (environment : Environment) (pairs : List (Expr × Expr)) :
    Run Nat := do
  let values ← pairs.mapM fun (key, value) => do
    let first ← Run.evaluate environment key
    return (first, ← Run.evaluate environment value)
  Work.dictOf values

/-- A new dictionary of some pairs, each put into it as soon as it is there. -/
def dictSingly (environment : Environment) (pairs : List (Expr × Expr)) :
    Run Nat := do
  let address ← Work.newDict
  for (key, value) in pairs do
    let first ← Run.evaluate environment key
    Work.dictSet address first (← Run.evaluate environment value)
  return address

/-- A new dictionary of some pairs, all evaluated before they are put into it unless they are too
many. -/
def dictOf (environment : Environment) (pairs : List (Expr × Expr)) : Run Nat :=
  if pairs.length * 2 > batchLength then dictSingly environment pairs
  else dictTogether environment pairs

/-- The dictionary that was made before, or a new one. -/
def startedDict : Option Nat → Work Nat
  | some address => return address
  | none => Work.newDict

/-- A dictionary with a further one put into it, or that one if there was none before. -/
def joinedDict (found : Option Nat) (more : Nat) : Work Nat := do
  match found with
  | none => return more
  | some address =>
      Work.dictMerge address more
      return address

/-- Put the pairs of a value that is spread out into a dictionary. -/
def mergeSpread (address : Nat) : Value → Work Unit
  | .dict other => Work.dictMerge address other
  | other =>
      Work.raise (if DictMethod.isDictType other then DictMethod.needsReceiver else notMapping other)

/-- The dictionary of a display, after what was found before.  Pairs are taken in batches; what is
spread out is put in alone.  The `fuel` bounds the batches. -/
def dictFrom (environment : Environment) :
    (fuel : Nat) → (found : Option Nat) → List Pair → Run Nat
  | 0, _, _ => Run.giveUp
  | _ + 1, found, [] => startedDict found
  | fuel + 1, found, .spread value :: pairs => do
      let address ← startedDict found
      mergeSpread address (← Run.evaluate environment value)
      dictFrom environment fuel (some address) pairs
  | fuel + 1, found, pairs => do
      let batch := (leadingPairs pairs).take (batchLength / 2 + 2)
      let made ← dictOf environment batch
      dictFrom environment fuel (some (← joinedDict found made)) (pairs.drop batch.length)

/-- A function is given a value for one name twice. -/
def repeatedName (heap : Heap) (callee key : Value) : Except Fault Fault := do
  let name ← heap.plain key
  return .typing ((← Calling.shownCallee heap callee) ++
    " got multiple values for keyword argument '" ++ String.ofList name ++ "'")

/-- Named arguments together with further ones, none of which may be given before. -/
def mergeNamed (callee : Value) (found : List (Value × Value)) :
    List (Value × Value) → Work (List (Value × Value))
  | [] => return found
  | (key, value) :: pairs => do
      let known ← Work.inspect fun heap => heap.equal.contains key (found.map Prod.fst)
      if known then Work.raise (← Work.inspect fun heap => repeatedName heap callee key)
      else mergeNamed callee (found ++ [(key, value)]) pairs

/-- The named arguments of a call, after those that were found before; `waiting` holds evaluated
ones that are joined to them together. -/
def namedFrom (environment : Environment) (callee : Value)
    (found waiting : List (Value × Value)) : List Keyword → Run (List (Value × Value))
  | [] => mergeNamed callee found waiting
  | .one name value :: keywords => do
      let given ← Run.evaluate environment value
      namedFrom environment callee found (waiting ++ [(.text name .common, given)]) keywords
  | .spread value :: keywords => do
      let joined ← mergeNamed callee found waiting
      match ← Run.evaluate environment value with
      | .dict address =>
          let more ← mergeNamed callee joined (← Work.dictPairs address)
          namedFrom environment callee more [] keywords
      | other =>
          let shown ← Work.inspect fun heap => Calling.shownCallee heap callee
          Work.raise (if DictMethod.isDictType other then DictMethod.needsReceiver
            else .typing (shown ++ " argument after ** must be a mapping, not " ++ other.label))

/-- The name of a named argument. -/
def nameOf : Value × Value → Except Fault (String × Value)
  | (.text name _, value) => .ok (name, value)
  | _ => .error (.typing "keywords must be strings")

/-- A call takes an operation straight from its receiver: nothing is spread out, and the arguments
are not too many. -/
def isDirect (function : Expr) (items : List Item) (keywords : List Keyword) : Bool :=
  match function with
  | .attribute _ _ =>
      items.all Item.isOne && keywords.all Keyword.isOne &&
        items.length + keywords.length + 1 < batchLength
  | _ => false

/-- The items of the only argument of a call, which is spread out. -/
def spreadOnly (callee value : Value) : Work (List Value) := do
  let shown ← Work.inspect fun heap => Calling.shownCallee heap callee
  let values ← spread value fun other =>
    .typing (shown ++ " argument after * must be an iterable, not " ++ other.label)
  return values.toList

/-- The arguments of a call.  A single spread argument gives its items after the named ones were
evaluated. -/
def argumentsOf (environment : Environment) (callee : Value) (items : List Item)
    (keywords : List Keyword) : Run (List Value × List (Value × Value)) := do
  match items with
  | [.spread only] =>
      let value ← Run.evaluate environment only
      let pairs ← namedFrom environment callee [] [] keywords
      return (← spreadOnly callee value, pairs)
  | _ =>
      let values ← itemsOf environment items
      return (values.toList, ← namedFrom environment callee [] [] keywords)

/-- Call a value with some arguments; `direct` tells that it is taken straight from its receiver. -/
def callWith (direct : Bool) (callee : Value) (positional : List Value)
    (pairs : List (Value × Value)) : Work Value := do
  if Calling.isCallable callee then
    let given ← Work.ofExcept (pairs.mapM nameOf)
    match if direct || given.isEmpty then none else Calling.refusedNames? callee with
    | some fault => Work.raise fault
    | none => Work.call callee ⟨positional, given⟩
  else Work.raise (Calling.notCallable callee)

/-- The value of a call. -/
def call (environment : Environment) (direct : Bool) (callee : Value) (items : List Item)
    (keywords : List Keyword) : Run Value := do
  let (positional, pairs) ← argumentsOf environment callee items keywords
  callWith direct callee positional pairs

/-- Some expression of a list decides: its value counts as the wanted one.  Else the last value is
the result. -/
def untilDecided (environment : Environment) (wanted : Bool) :
    List Expr → Run Value
  | [] => return .nothing
  | [last] => Run.evaluate environment last
  | value :: values => do
      let found ← Run.evaluate environment value
      if (← Work.truth found) == wanted then return found
      else untilDecided environment wanted values

/-- A chain of comparisons after a value: the first that fails decides. -/
def chain (environment : Environment) (left : Value) : List Link → Run Bool
  | [] => return true
  | .mk op right :: links => do
      let second ← Run.evaluate environment right
      if ← Operators.compare op left second then chain environment second links
      else return false

/-- The value of an expression, nothing if it is left out. -/
def optional (environment : Environment) : Option Expr → Run Value
  | none => return .nothing
  | some value => Run.evaluate environment value

/-- The text of some pieces. -/
def joinPieces (environment : Environment) (found : String) :
    List Expr → Run String
  | [] => return found
  | piece :: pieces => do
      match ← Run.evaluate environment piece with
      | .text text _ => joinPieces environment (found ++ text) pieces
      | _ => joinPieces environment found pieces

/-- A value turned into text before it is laid out. -/
def converted (heap : Heap) (conversion : Conversion) (value : Value) : Except Fault Value := do
  match conversion with
  | .none => return value
  | .plain => heap.plainText value
  | .quoted => return .ofCharsApart (← heap.shown value)
  | .ascii => return .ofCharsApart (← heap.shownAscii value)

/-- A value laid out as text; a text that the layout leaves as it is stays the same. -/
def laidOut (heap : Heap) (conversion : Conversion) (layout : List Char) (value : Value) :
    Except Fault Value := do
  let given ← converted heap conversion value
  let chars ← heap.formatted given layout
  match given with
  | .text text _ => return if text.toList == chars then given else .ofChars chars
  | _ => if layout.isEmpty then heap.plainText given else return .ofChars chars

/-- A value laid out by what the layout of a field came to. -/
def fieldOf (conversion : Conversion) (given layout : Value) : Work Value := do
  let chars : List Char :=
    match layout with
    | .text text _ => text.toList
    | _ => []
  Work.marked (← Work.inspect fun heap => laidOut heap conversion chars given)

/-- A generator that has to wait: its values are never asked for. -/
def asyncWalk (async : Bool) (source : Value) : Work Value := do
  if async then
    Work.raise (.typing ("'async for' requires an object with __aiter__ method, got " ++
      source.label))
  else
    let _ ← Work.iterator source
    Work.newWalk .asyncGenerator .finished

/-- The value of an expression. -/
def evaluate (environment : Environment) : Expr → Run Value
  | .constant value => return value
  | .variable name => environment.value name
  | .allOf values => untilDecided environment false values
  | .anyOf values => untilDecided environment true values
  | .unary op operand => do Operators.unary op (← Run.evaluate environment operand)
  | .binary op left right => do
      let first ← Run.evaluate environment left
      Operators.binary op .plain first (← Run.evaluate environment right)
  | .compare left links => do
      return .bool (← chain environment (← Run.evaluate environment left) links)
  | .choice test accepted refused => do
      if ← Work.truth (← Run.evaluate environment test) then Run.evaluate environment accepted
      else Run.evaluate environment refused
  | .call function arguments keywords => do
      let callee ← Run.evaluate environment function
      call environment (isDirect function arguments keywords) callee arguments keywords
  | .attribute value name => do
      Work.marked (← Work.ofExcept (Attribute.find (← Run.evaluate environment value) name))
  | .subscript value index => do
      let container ← Run.evaluate environment value
      Work.subscript container (← Run.evaluate environment index)
  | .slice lower upper step => do
      let first ← optional environment lower
      let second ← optional environment upper
      return .slice first second (← optional environment step)
  | .list items => do Work.newList (← itemsOf environment items)
  | .tuple items => do Work.marked (.tuple (← itemsOf environment items).toList)
  | .set items => setOf environment items
  | .dict pairs => do
      return .dict (← dictFrom environment (pairs.length + 1) none pairs)
  | .joined [piece] => Run.evaluate environment piece
  | .joined pieces => do
      let text ← joinPieces environment "" pieces
      Work.marked (.text text (if text.isEmpty then .unset else .apart))
  | .field value conversion spec => do
      let given ← Run.evaluate environment value
      fieldOf conversion given (← optional environment spec)
  | .comprehension collector element value source target tests more => do
      let walk ← Work.iterator (← Run.evaluate environment source)
      let address ← Run.newScope []
      let scope : Scope := ⟨target.names ++ more.flatMap Clause.names, address⟩
      Comprehension.collect ⟨scope :: environment, element, value, target, tests, more⟩ collector walk
  | .asyncGenerator first async => do asyncWalk async (← Run.evaluate environment first)

end Evaluation
end Predicate
end Wordbook
