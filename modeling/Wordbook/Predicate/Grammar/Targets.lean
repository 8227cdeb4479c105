import Wordbook.Predicate.Grammar.Expressions

/-!
# Targets

What can be assigned to, looped over with or deleted: names, attributes, subscripts and, where
several are allowed, displays of them.
-/

namespace Wordbook
namespace Predicate
namespace Grammar

open Predicate.Parser

/-- What follows an operand that is not yet the whole target. -/
def goesOn : Parser Unit := do
  let _ ← oneOf [op "(", op "[", op "."]
  return ()

/-- An operand inside a target. -/
def targetPrimary (rules : Rules) : Parser Node :=
  oneOf (trailers rules .targetPrimary (ahead goesOn) ++
    [do
        let base ← atom rules
        ahead goesOn
        return base])

/-- An attribute or a subscript as a target. -/
def memberTarget (rules : Rules) (context : Kind) : List (Parser Node) :=
  [do
      let base ← one rules .targetPrimary
      let _ ← op "."
      let member ← name
      notAhead goesOn
      return .mk .attribute base.line member.payload [base, .leaf context base.line],
    do
      let base ← one rules .targetPrimary
      let _ ← op "["
      let index ← one rules .slices
      let _ ← op "]"
      notAhead goesOn
      return .plain .subscript base.line [base, index, .leaf context base.line]]

/-- A name as a target. -/
def nameTarget (context : Kind) : Parser Node := do
  let found ← name
  return found.setContext context

/-- A target in parentheses. -/
def enclosed (inner : Parser Node) (context : Kind) : Parser Node := do
  let _ ← op "("
  let found ← inner
  let _ ← op ")"
  return found.setContext context

/-- A display of targets between brackets. -/
def targetDisplay (kind context : Kind) (left right : String) (items : Parser (List Node)) :
    Parser Node := do
  let mark ← op left
  let found ← optional items
  let _ ← op right
  return .plain kind mark.line (found.getD [] ++ [.leaf context mark.line])

/-- At least two targets, or one with a comma behind it. -/
def targetTuple (rules : Rules) : Parser (List Node) :=
  oneOf
    [do
        let first ← one rules .starTarget
        let others ← many1 (do let _ ← op ","; one rules .starTarget)
        let _ ← optional (op ",")
        return first :: others,
      do
        let only ← one rules .starTarget
        let _ ← op ","
        return [only]]

/-- Targets with commas between and perhaps one behind. -/
def targetList (rules : Rules) (item : Rule) : Parser (List Node) := do
  let found ← sepBy1 (op ",") (one rules item)
  let _ ← optional (op ",")
  return found

/-- A target that is no star. -/
def targetWithStar (rules : Rules) : Parser Node :=
  oneOf (memberTarget rules .store ++
    [nameTarget .store, enclosed (one rules .targetWithStar) .store,
      targetDisplay .tupleDisplay .store "(" ")" (targetTuple rules),
      targetDisplay .listDisplay .store "[" "]" (targetList rules .starTarget)])

/-- A target, which may be starred. -/
def starTarget (rules : Rules) : Parser Node :=
  oneOf
    [do
        let mark ← op "*"
        notAhead (op "*")
        let inner ← one rules .starTarget
        return .plain .starred mark.line [inner.setContext .store, .leaf .store mark.line],
      one rules .targetWithStar]

/-- One target, or several that are unpacked. -/
def starTargets (rules : Rules) : Parser Node :=
  oneOf
    [do
        let only ← one rules .starTarget
        notAhead (op ",")
        return only,
      do
        let first ← one rules .starTarget
        let others ← many (do let _ ← op ","; one rules .starTarget)
        let _ ← optional (op ",")
        return .plain .tupleDisplay first.line (first :: others ++ [.leaf .store first.line])]

/-- A target that is not unpacked. -/
def singleTarget (rules : Rules) : Parser Node :=
  oneOf (memberTarget rules .store ++
    [nameTarget .store,
      do
        let _ ← op "("
        let found ← one rules .singleTarget
        let _ ← op ")"
        return found])

/-- A target that is deleted. -/
def deleteTarget (rules : Rules) : Parser Node :=
  oneOf (memberTarget rules .delete ++
    [nameTarget .delete, enclosed (one rules .deleteTarget) .delete,
      targetDisplay .tupleDisplay .delete "(" ")" (targetList rules .deleteTarget),
      targetDisplay .listDisplay .delete "[" "]" (targetList rules .deleteTarget)])

end Grammar
end Predicate
end Wordbook
