import Wordbook.Predicate.Arithmetic
import Wordbook.Predicate.Method.List
import Wordbook.Predicate.Method.Set
import Wordbook.Predicate.Template

/-!
# Operators

Operations on numbers come first; then text, bytes and sequences are joined and repeated, sets and
dictionaries combined, templates filled and types united.  An operation that is written together
with an assignment may change its left operand.
-/

namespace Wordbook
namespace Predicate

/-- The sign of an operation of two operands. -/
def BinaryOp.sign : BinaryOp → String
  | .add => "+"
  | .subtract => "-"
  | .multiply => "*"
  | .divide => "/"
  | .floorDivide => "//"
  | .modulo => "%"
  | .power => "** or pow()"
  | .lShift => "<<"
  | .rShift => ">>"
  | .bitOr => "|"
  | .bitXor => "^"
  | .bitAnd => "&"

/-- The sign of an operation that is written together with an assignment. -/
def BinaryOp.updateSign : BinaryOp → String
  | .power => "**="
  | op => op.sign ++ "="

/-- Whether an operation is written together with an assignment. -/
inductive Form where
  | plain
  | update
deriving DecidableEq

/-- The fault of operands that an operation does not take. -/
def BinaryOp.refused (op : BinaryOp) (form : Form) (left right : Value) : Fault :=
  .operands
    (match form with
      | .plain => op.sign
      | .update => op.updateSign) left right

namespace Operators

/-- A value that can be joined and repeated. -/
def isSequence : Value → Bool
  | .text _ _ | .bytes _ _ | .list _ | .tuple _ _ => true
  | _ => false

/-- A value that holds items and is not repeated; when it is updated, the right operand is not
repeated either. -/
def isContainer : Value → Bool
  | .range _ _ _ _ | .dict _ | .set _ | .frozen _ _ | .view _ _ _ => true
  | _ => false

/-- Two sequences joined by a function; one that is empty gives the other back. -/
def joined (left right : Value) (leftEmpty rightEmpty : Bool) (both : Value) : Value :=
  if leftEmpty then right else if rightEmpty then left else both

/-- A sequence joined with another of its kind; a list that is updated takes any items. -/
def joinSequence (form : Form) (left right : Value) : Work Value := do
  match left, right with
  | .text first _, .text second _ =>
      return joined left right first.isEmpty second.isEmpty (.text (first ++ second))
  | .text _ _, _ =>
      Work.raise (.typing ("can only concatenate str (not \"" ++ right.label ++ "\") to str"))
  | .bytes first _, .bytes second _ =>
      return joined left right first.isEmpty second.isEmpty (.bytes (first ++ second))
  | .bytes _ _, _ =>
      Work.raise (.typing ("can't concat " ++ right.label ++ " to " ++ left.label))
  | .tuple first _, .tuple second _ =>
      return joined left right first.isEmpty second.isEmpty (.tuple (first ++ second))
  | .tuple _ _, _ =>
      Work.raise (.typing ("can only concatenate tuple (not \"" ++ right.label ++ "\") to tuple"))
  | .list first, _ =>
      match form, right with
      | .update, _ => do
          ListMethod.extend first right
          return left
      | .plain, .list second => do
          let items ← Work.look fun heap => heap.list first ++ heap.list second
          Work.newList items
      | .plain, _ =>
          Work.raise (.typing ("can only concatenate list (not \"" ++ right.label ++ "\") to list"))
  | _, _ => Work.raise (BinaryOp.add.refused form left right)

/-- A list of items so many times over. -/
def repeatItems {Item : Type} (count : Int) (items : List Item) : Except Fault (List Item) :=
  if count ≤ 0 || items.isEmpty then .ok []
  else if FieldLayout.longestText < items.length * count.toNat then .error .memory
  else .ok (List.replicate count.toNat items).flatten

/-- A sequence so many times over; once over it is the sequence itself. -/
def repeatSequence (form : Form) (sequence count : Value) : Work Value := do
  match count.int? with
  | none =>
      Work.raise (.typing ("can't multiply sequence by non-int of type '" ++ count.label ++ "'"))
  | some number =>
      if !Work.fitsWord number then Work.raise .tooLargeForIndex
      else
        match sequence with
        | .list address =>
            let items ← Work.look fun heap => heap.list address
            let found ← Work.ofExcept (repeatItems number items.toList)
            match form with
            | .plain => Work.newList found.toArray
            | .update =>
                Work.updateList address fun _ => found.toArray
                return sequence
        | .bytes [] _ => return sequence
        | _ =>
            if number = 1 then return sequence
            else
              match sequence with
              | .text text _ => return .ofChars (← Work.ofExcept (repeatItems number text.toList))
              | .bytes bytes _ =>
                  return .bytes (← Work.ofExcept (repeatItems number bytes)) .apart
              | .tuple items _ => return .tuple (← Work.ofExcept (repeatItems number items))
              | _ => return sequence

/-- A view that is like a set. -/
def isSetView : Value → Bool
  | .view .keys _ _ | .view .pairs _ _ => true
  | _ => false

/-- The members of a union of types that a value stands for. -/
def unionMembers? (value : Value) : Option (List Value) :=
  match value with
  | .union members _ => some members
  | .type _ | .applied _ _ _ _ | .nothing => some [value]
  | _ => none

/-- A member of a union says the same as another: aliases that are equal do. -/
def isSameMember (equal : EqualityTest) (left right : Value) : Except Fault Bool :=
  match left, right with
  | .applied _ _ _ _, .applied _ _ _ _ => equal.orSame left right
  | _, _ => .ok (left.same right)

/-- The members of a union without repeated ones, after those that were found before. -/
def distinctMembers (equal : EqualityTest) (found : List Value) :
    List Value → Except Fault (List Value)
  | [] => .ok found
  | member :: members => do
      let known ← found.anyM fun other => isSameMember equal other member
      distinctMembers equal (if known then found else found ++ [member]) members

/-- A union without repeated members; one member stands for itself. -/
def unite (equal : EqualityTest) (members : List Value) : Except Fault Value := do
  match ← distinctMembers equal [] members with
  | [member] => return member
  | distinct => return .union distinct

/-- A value is a set that can change. -/
def isChangingSet : Value → Bool
  | .set _ => true
  | _ => false

/-- The common elements of a view and another value. -/
def meetView (left right : Value) : Work Value := do
  let (view, other) := if isSetView left then (left, right) else (right, left)
  let items ← SetMethod.elements view
  let others ← SetMethod.elements other
  if isChangingSet other && items.length ≤ others.length then
    return .set (← SetMethod.meet other view)
  else
    let (container, source) :=
      if isSetView other && items.length < others.length then (other, view) else (view, other)
    let address ← Work.newSet
    let walk ← Work.iterator source
    Work.forEach walk fun item => do
      if ← Work.holdsKey container item then Work.setAdd address item
    return .set address

/-- The pairs that are in one of two dictionaries but not in both: those of the longer one that
differ, then what is left of the other. -/
def differingPairs (first second : Nat) : Work Value := do
  let size ← Work.look fun heap => (heap.dict first).size
  let other ← Work.look fun heap => (heap.dict second).size
  let (few, many) := if size ≤ other then (first, second) else (second, first)
  let left ← Work.dictCopy few
  let address ← Work.newSet
  for (key, value) in ← Work.dictPairs many do
    let agrees ← match ← Work.dictGet few key with
      | some other => Work.inspect fun heap => heap.equal.orSame other value
      | none => pure false
    if agrees then let _ ← Work.dictRemove left key
    else Work.setAdd address (← Work.marked (.tuple [key, value]))
  SetMethod.putAll address (.view .pairs left)
  return .set address

/-- An operation on sets, one of which may be a view; none if the operands do not have it. -/
def onSets? (op : BinaryOp) (left right : Value) : Work (Option Value) := do
  if SetMethod.isSet left && SetMethod.isSet right then
    match op with
    | .bitOr =>
        let address ← SetMethod.copyOf left
        SetMethod.putAll address right
        return some (← SetMethod.ofKind left address)
    | .bitAnd => return some (← SetMethod.ofKind left (← SetMethod.meet left right))
    | .subtract =>
        let address ← SetMethod.copyOf left
        SetMethod.dropAll address right
        return some (← SetMethod.ofKind left address)
    | .bitXor =>
        let address ← SetMethod.copyOf right
        SetMethod.toggleAll address left
        return some (← SetMethod.ofKind left address)
    | _ => return none
  else if isSetView left || isSetView right then
    match op, left, right with
    | .bitXor, .view .pairs first _, .view .pairs second _ =>
        return some (← differingPairs first second)
    | .bitAnd, _, _ => return some (← meetView left right)
    | .bitOr, _, _ =>
        let address ← SetMethod.copyOf left
        SetMethod.putAll address right
        return some (.set address)
    | .subtract, _, _ =>
        let address ← SetMethod.copyOf left
        SetMethod.dropAll address right
        return some (.set address)
    | .bitXor, _, _ =>
        let address ← SetMethod.copyOf left
        SetMethod.toggleAll address right
        return some (.set address)
    | _, _, _ => return none
  else return none

/-- An operation that changes the set on its left; none if the operands do not have it. -/
def onSet? (op : BinaryOp) (left right : Value) : Work (Option Value) := do
  match left with
  | .set address =>
      if SetMethod.isSet right then
        match op with
        | .bitOr =>
            SetMethod.putAll address right
            return some left
        | .bitAnd =>
            let found ← SetMethod.meet left right
            let table ← Work.look fun heap => heap.set found
            Work.updateSet address fun _ => table
            return some left
        | .subtract =>
            SetMethod.dropAll address right
            return some left
        | .bitXor =>
            SetMethod.toggleAll address right
            return some left
        | _ => return none
      else return none
  | _ => return none

/-- An operation on dictionaries or types; none if the operands do not have it. -/
def onOthers? (op : BinaryOp) (form : Form) (left right : Value) :
    Work (Option Value) := do
  match op, left, right with
  | .bitOr, .dict first, .dict second =>
      match form with
      | .update =>
          Work.dictMerge first second
          return some left
      | .plain =>
          let address ← Work.dictCopy first
          Work.dictMerge address second
          return some (.dict address)
  | .bitOr, .dict first, _ =>
      match form with
      | .update =>
          DictMethod.putAll first right
          return some left
      | .plain => return none
  | .bitOr, _, _ =>
      match left, right with
      | .nothing, .nothing => return none
      | _, _ =>
          match unionMembers? left, unionMembers? right with
          | some first, some second =>
              return some (← Work.inspect fun heap => unite heap.equal (first ++ second))
          | _, _ => return none
  | .modulo, .text template _, _ =>
      let (chars, sole) ← Work.inspect fun heap => Template.fill heap false template.toList right
      return some
        (if template.contains '%' then sole.getD (.ofChars chars) else left)
  | .modulo, .bytes template _, _ =>
      let (chars, _) ← Work.inspect fun heap =>
        Template.fill heap true (template.map fun byte => Char.ofNat byte.toNat) right
      return some (.bytes (chars.map fun char => UInt8.ofNat char.toNat))
  | _, _, _ => return none

/-- An operation of two operands, the result of which may not have its mark yet. -/
def binaryUnmarked (op : BinaryOp) (form : Form) (left right : Value) :
    Work Value := do
  match Arithmetic.binary? op left right with
  | some result => Work.ofExcept result
  | none =>
      let changed ← match form with
        | .update => onSet? op left right
        | .plain => pure none
      match changed with
      | some value => return value
      | none =>
          match ← onSets? op left right with
          | some value => return value
          | none =>
              match ← onOthers? op form left right with
              | some value => return value
              | none =>
                  match op with
                  | .add =>
                      if isSequence left then joinSequence form left right
                      else Work.raise (op.refused form left right)
                  | .multiply =>
                      if isSequence left then repeatSequence form left right
                      else if isSequence right && !(form == .update && isContainer left) then
                        repeatSequence .plain right left
                      else Work.raise (op.refused form left right)
                  | _ => Work.raise (op.refused form left right)

/-- An operation of two operands. -/
def binary (op : BinaryOp) (form : Form) (left right : Value) : Work Value := do
  Work.marked (← binaryUnmarked op form left right)

/-- An operation of one operand, the result of which may not have its mark yet. -/
def unaryUnmarked (op : UnaryOp) (operand : Value) : Work Value := do
  match op with
  | .negate => return .bool (!(← Work.truth operand))
  | _ => Work.ofExcept (Arithmetic.unary op operand)

/-- An operation of one operand. -/
def unary (op : UnaryOp) (operand : Value) : Work Value := do
  Work.marked (← unaryUnmarked op operand)

/-- A comparison. -/
def compare (op : CompareOp) (left right : Value) : Work Bool := do
  match op with
  | .equal => Work.inspect fun heap => heap.equal left right
  | .notEqual => return !(← Work.inspect fun heap => heap.equal left right)
  | .less => Work.inspect fun heap => heap.order .less left right
  | .lessEqual => Work.inspect fun heap => heap.order .lessEqual left right
  | .greater => Work.inspect fun heap => heap.order .greater left right
  | .greaterEqual => Work.inspect fun heap => heap.order .greaterEqual left right
  | .same => return left.same right
  | .notSame => return !left.same right
  | .within => Work.contains right left
  | .notWithin => return !(← Work.contains right left)

end Operators
end Predicate
end Wordbook
