import Wordbook.Predicate.Parsing

/-!
# Pieces of the grammar

What several groups of rules need: single trees, invalid targets, and names of older statements.
-/

namespace Wordbook
namespace Predicate
namespace Grammar

open Predicate.Parser

/-- The tree of a rule that gives exactly one. -/
def one (rules : Rules) (rule : Rule) : Parser Node := do
  let trees ← rules rule
  match trees with
  | [node] => return node
  | _ => miss

/-- A parser of one tree as a parser of trees. -/
def single (parser : Parser Node) : Parser (List Node) := do
  let node ← parser
  return [node]

/-- What a tree is to be the target of. -/
inductive Purpose where
  | storing
  | looping
  | deleting
deriving DecidableEq

mutual

/-- The first part of a tree that cannot be a target. -/
def badTarget? (purpose : Purpose) : Node → Option Node
  | .mk .listDisplay _ _ parts => badTargets? purpose parts
  | .mk .tupleDisplay _ _ parts => badTargets? purpose parts
  | .mk .starred line payload parts =>
      if purpose == .deleting then some (.mk .starred line payload parts)
      else badTargets? purpose parts
  | .mk .compare line payload parts =>
      if purpose == .looping then
        match parts with
        | left :: (.mk operator _ _ _) :: _ =>
            if operator == .inOp then badTarget? purpose left else none
        | _ => none
      else some (.mk .compare line payload parts)
  | .mk .name _ _ _ => none
  | .mk .subscript _ _ _ => none
  | .mk .attribute _ _ _ => none
  | .mk .load _ _ _ => none
  | .mk .store _ _ _ => none
  | .mk .delete _ _ _ => none
  | node => some node

/-- The first part of some trees that cannot be a target. -/
def badTargets? (purpose : Purpose) : List Node → Option Node
  | [] => none
  | node :: nodes => (badTarget? purpose node).or (badTargets? purpose nodes)

end

/-- Refuse the text at the first part of a tree that cannot be a target, if there is one. -/
def refuseTarget (purpose : Purpose) (node : Node) : Parser (List Node) :=
  match badTarget? purpose node with
  | some bad => raiseAt bad.line
  | none => miss

/-- A tree is one of the names that older statements were called by. -/
def isOldStatement (node : Node) : Bool :=
  node.kind == .name && (node.name? == some "print" || node.name? == some "exec")

/-- Match the mark of a clause that runs aside, and tell whether it is there. -/
def asideMark : Parser Bool := do
  let found ← optional (kw "async")
  return found.isSome

/-- Match what follows a mark, if both are there. -/
def after {Mark Result : Type} (mark : Parser Mark) (parser : Parser Result) :
    Parser (Option Result) :=
  optional (do let _ ← mark; parser)

end Grammar
end Predicate
end Wordbook
