import Wordbook.Predicate.Value

/-!
# Programs

The language of bodies after their syntax was checked: expressions, the targets that values are
assigned to, and statements.
-/

namespace Wordbook
namespace Predicate

/-- Operations of one operand. -/
inductive UnaryOp where
  | plus
  | minus
  | invert
  | negate
deriving DecidableEq

/-- Operations of two operands. -/
inductive BinaryOp where
  | add
  | subtract
  | multiply
  | divide
  | floorDivide
  | modulo
  | power
  | lShift
  | rShift
  | bitOr
  | bitXor
  | bitAnd
deriving DecidableEq

/-- Comparisons. -/
inductive CompareOp where
  | equal
  | notEqual
  | less
  | lessEqual
  | greater
  | greaterEqual
  | same
  | notSame
  | within
  | notWithin
deriving DecidableEq

/-- What a comprehension collects. -/
inductive Collector where
  | list
  | set
  | dict
  | generator
deriving DecidableEq

/-- How the value of a field in a text is turned into text before it is laid out. -/
inductive Conversion where
  | none
  | plain
  | quoted
  | ascii
deriving DecidableEq

mutual

/-- Expressions. -/
inductive Expr where
  | constant (value : Value)
  | variable (name : String)
  | allOf (values : List Expr)
  | anyOf (values : List Expr)
  | unary (op : UnaryOp) (operand : Expr)
  | binary (op : BinaryOp) (left right : Expr)
  | compare (left : Expr) (links : List Link)
  | choice (test accepted refused : Expr)
  | call (function : Expr) (arguments : List Item) (keywords : List Keyword)
  | attribute (value : Expr) (name : String)
  | subscript (value index : Expr)
  | slice (lower upper step : Option Expr)
  | list (items : List Item)
  | tuple (items : List Item)
  | set (items : List Item)
  | dict (pairs : List Pair)
  | joined (pieces : List Expr)
  | field (value : Expr) (conversion : Conversion) (spec : Option Expr)
  | comprehension (collector : Collector) (element : Expr) (value : Option Expr) (source : Expr)
      (target : Target) (tests : List Expr) (more : List Clause)
  | asyncGenerator (first : Expr) (async : Bool)

/-- A comparison with the value before it. -/
inductive Link where
  | mk (op : CompareOp) (right : Expr)

/-- A value, or all values of one. -/
inductive Item where
  | one (value : Expr)
  | spread (value : Expr)

/-- A named argument, or all pairs of a value. -/
inductive Keyword where
  | one (name : String) (value : Expr)
  | spread (value : Expr)

/-- A pair of a dictionary display, or all pairs of a value. -/
inductive Pair where
  | one (key value : Expr)
  | spread (value : Expr)

/-- A later part of a comprehension: its source, what each value of it is assigned to, and the tests
that must be passed. -/
inductive Clause where
  | mk (source : Expr) (target : Target) (tests : List Expr)

/-- What a value can be assigned to. -/
inductive Target where
  | name (name : String)
  | attribute (value : Expr) (name : String)
  | subscript (value index : Expr)
  | exactly (targets : List Target)
  | atLeast (first : List Target) (rest : Target) (last : List Target)

end

/-- Statements. -/
inductive Statement where
  | expression (value : Expr)
  | give (value : Option Expr)
  | branch (test : Expr) (accepted refused : List Statement)
  | loop (target : Target) (source : Expr) (body after : List Statement)
  | leave
  | again
  | pass
  | assign (targets : List Target) (value : Expr)
  | augment (target : Target) (op : BinaryOp) (value : Expr)

mutual

/-- The names that an assignment to a target binds. -/
def Target.names : Target → List String
  | .name name => [name]
  | .attribute _ _ => []
  | .subscript _ _ => []
  | .exactly targets => namesOfTargets targets
  | .atLeast first rest last => namesOfTargets first ++ rest.names ++ namesOfTargets last

/-- The names that assignments to some targets bind. -/
def namesOfTargets : List Target → List String
  | [] => []
  | target :: targets => target.names ++ namesOfTargets targets

end

/-- The names that a part of a comprehension binds. -/
def Clause.names : Clause → List String
  | .mk _ target _ => target.names

mutual

/-- The names that a statement binds. -/
def Statement.names : Statement → List String
  | .branch _ accepted refused => namesOfStatements accepted ++ namesOfStatements refused
  | .loop target _ body after =>
      target.names ++ namesOfStatements body ++ namesOfStatements after
  | .assign targets _ => namesOfTargets targets
  | .augment target _ _ => target.names
  | _ => []

/-- The names that some statements bind. -/
def namesOfStatements : List Statement → List String
  | [] => []
  | statement :: statements => statement.names ++ namesOfStatements statements

end

end Predicate
end Wordbook
