import Wordbook.Number.Decimal

/-!
# Syntax trees of the predicate language

A tree has a kind, the line it starts on, what it holds besides its parts, and its parts in the
order of the fields of its kind.  Operators and the contexts of names are parts like any other.
-/

namespace Wordbook
namespace Predicate

/-- The kinds of syntax. -/
inductive Kind where
  | functionDef
  | asyncFunctionDef
  | classDef
  | returning
  | deleting
  | assign
  | augAssign
  | annAssign
  | forLoop
  | asyncFor
  | whileLoop
  | ifStatement
  | withBlock
  | asyncWith
  | matchBlock
  | raising
  | tryBlock
  | tryStar
  | asserting
  | importing
  | importFrom
  | globalNames
  | nonlocalNames
  | expression
  | passing
  | breaking
  | continuing
  | boolOp
  | namedExpr
  | binOp
  | unaryOp
  | lambdaExpr
  | ifExp
  | dictDisplay
  | setDisplay
  | listComp
  | setComp
  | dictComp
  | generatorExp
  | awaiting
  | yielding
  | yieldFrom
  | compare
  | call
  | formattedValue
  | joinedStr
  | literal
  | attribute
  | subscript
  | starred
  | name
  | listDisplay
  | tupleDisplay
  | slice
  | load
  | store
  | delete
  | andOp
  | orOp
  | add
  | subtract
  | multiply
  | matMult
  | divide
  | modulo
  | power
  | lShift
  | rShift
  | bitOr
  | bitXor
  | bitAnd
  | floorDivide
  | invert
  | notOp
  | uAdd
  | uSub
  | equal
  | notEqual
  | less
  | lessEqual
  | greater
  | greaterEqual
  | isOp
  | isNot
  | inOp
  | notIn
  | comprehension
  | handler
  | parameters
  | parameter
  | keyword
  | importAlias
  | withItem
  | matchCase
  | matchValue
  | matchSingleton
  | matchSequence
  | matchMapping
  | matchClass
  | matchStar
  | matchAs
  | matchOr
deriving DecidableEq

/-- The name of a kind in messages. -/
def Kind.label : Kind → String
  | .functionDef => "FunctionDef"
  | .asyncFunctionDef => "AsyncFunctionDef"
  | .classDef => "ClassDef"
  | .returning => "Return"
  | .deleting => "Delete"
  | .assign => "Assign"
  | .augAssign => "AugAssign"
  | .annAssign => "AnnAssign"
  | .forLoop => "For"
  | .asyncFor => "AsyncFor"
  | .whileLoop => "While"
  | .ifStatement => "If"
  | .withBlock => "With"
  | .asyncWith => "AsyncWith"
  | .matchBlock => "Match"
  | .raising => "Raise"
  | .tryBlock => "Try"
  | .tryStar => "TryStar"
  | .asserting => "Assert"
  | .importing => "Import"
  | .importFrom => "ImportFrom"
  | .globalNames => "Global"
  | .nonlocalNames => "Nonlocal"
  | .expression => "Expr"
  | .passing => "Pass"
  | .breaking => "Break"
  | .continuing => "Continue"
  | .boolOp => "BoolOp"
  | .namedExpr => "NamedExpr"
  | .binOp => "BinOp"
  | .unaryOp => "UnaryOp"
  | .lambdaExpr => "Lambda"
  | .ifExp => "IfExp"
  | .dictDisplay => "Dict"
  | .setDisplay => "Set"
  | .listComp => "ListComp"
  | .setComp => "SetComp"
  | .dictComp => "DictComp"
  | .generatorExp => "GeneratorExp"
  | .awaiting => "Await"
  | .yielding => "Yield"
  | .yieldFrom => "YieldFrom"
  | .compare => "Compare"
  | .call => "Call"
  | .formattedValue => "FormattedValue"
  | .joinedStr => "JoinedStr"
  | .literal => "Constant"
  | .attribute => "Attribute"
  | .subscript => "Subscript"
  | .starred => "Starred"
  | .name => "Name"
  | .listDisplay => "List"
  | .tupleDisplay => "Tuple"
  | .slice => "Slice"
  | .load => "Load"
  | .store => "Store"
  | .delete => "Del"
  | .andOp => "And"
  | .orOp => "Or"
  | .add => "Add"
  | .subtract => "Sub"
  | .multiply => "Mult"
  | .matMult => "MatMult"
  | .divide => "Div"
  | .modulo => "Mod"
  | .power => "Pow"
  | .lShift => "LShift"
  | .rShift => "RShift"
  | .bitOr => "BitOr"
  | .bitXor => "BitXor"
  | .bitAnd => "BitAnd"
  | .floorDivide => "FloorDiv"
  | .invert => "Invert"
  | .notOp => "Not"
  | .uAdd => "UAdd"
  | .uSub => "USub"
  | .equal => "Eq"
  | .notEqual => "NotEq"
  | .less => "Lt"
  | .lessEqual => "LtE"
  | .greater => "Gt"
  | .greaterEqual => "GtE"
  | .isOp => "Is"
  | .isNot => "IsNot"
  | .inOp => "In"
  | .notIn => "NotIn"
  | .comprehension => "comprehension"
  | .handler => "ExceptHandler"
  | .parameters => "arguments"
  | .parameter => "arg"
  | .keyword => "keyword"
  | .importAlias => "alias"
  | .withItem => "withitem"
  | .matchCase => "match_case"
  | .matchValue => "MatchValue"
  | .matchSingleton => "MatchSingleton"
  | .matchSequence => "MatchSequence"
  | .matchMapping => "MatchMapping"
  | .matchClass => "MatchClass"
  | .matchStar => "MatchStar"
  | .matchAs => "MatchAs"
  | .matchOr => "MatchOr"

/-- The value that a literal denotes. -/
inductive Literal where
  | nothing
  | bool (value : Bool)
  | int (value : Int)
  | float (value : Float)
  | imaginary (value : Float)
  | text (value : String)
  | bytes (value : List UInt8)
  | ellipsis

/-- What a tree holds besides its parts: a name, a value, or how many parts its fields have. -/
inductive Payload where
  | none
  | name (name : String)
  | literal (value : Literal)
  | counts (counts : List Nat)

/-- A syntax tree. -/
inductive Node where
  | mk (kind : Kind) (line : Nat) (payload : Payload) (parts : List Node)

namespace Node

/-- The kind of a tree. -/
def kind : Node → Kind
  | mk kind _ _ _ => kind

/-- The line a tree starts on. -/
def line : Node → Nat
  | mk _ line _ _ => line

/-- What a tree holds besides its parts. -/
def payload : Node → Payload
  | mk _ _ payload _ => payload

/-- The parts of a tree. -/
def parts : Node → List Node
  | mk _ _ _ parts => parts

/-- The name that a tree holds. -/
def name? (node : Node) : Option String :=
  match node.payload with
  | .name name => some name
  | _ => none

/-- A tree with parts and nothing else. -/
def plain (kind : Kind) (line : Nat) (parts : List Node) : Node := mk kind line .none parts

/-- A tree without parts. -/
def leaf (kind : Kind) (line : Nat) : Node := mk kind line .none []

/-- A name in a context. -/
def named (line : Nat) (name : String) (context : Kind) : Node :=
  mk .name line (.name name) [leaf context line]

/-- A literal. -/
def constant (line : Nat) (value : Literal) : Node := mk .literal line (.literal value) []

/-- An operation of two operands. -/
def binary (line : Nat) (left : Node) (operator : Kind) (right : Node) : Node :=
  plain .binOp line [left, leaf operator line, right]

/-- An operation of one operand. -/
def unary (line : Nat) (operator : Kind) (operand : Node) : Node :=
  plain .unaryOp line [leaf operator line, operand]

/-- The parts before the context of a tree that has one. -/
def items (node : Node) : List Node := node.parts.dropLast

/-- A context put in place of the last part. -/
def withContext (context : Kind) (node : Node) : Node :=
  mk node.kind node.line node.payload (node.items ++ [leaf context node.line])

mutual

/-- A tree that is assigned to, or read from, with the context put into all names it unpacks. -/
def setContext (context : Kind) : Node → Node
  | mk .tupleDisplay line payload parts =>
      mk .tupleDisplay line payload (setContexts context parts)
  | mk .listDisplay line payload parts => mk .listDisplay line payload (setContexts context parts)
  | mk .starred line payload parts => mk .starred line payload (setContexts context parts)
  | mk .name line payload _ => mk .name line payload [leaf context line]
  | mk .attribute line payload parts => (mk .attribute line payload parts).withContext context
  | mk .subscript line payload parts => (mk .subscript line payload parts).withContext context
  | mk .load line payload parts => mk context line payload parts
  | mk .store line payload parts => mk context line payload parts
  | node => node

/-- The context put into each of some trees. -/
def setContexts (context : Kind) : List Node → List Node
  | [] => []
  | node :: nodes => setContext context node :: setContexts context nodes

end

mutual

/-- How many levels a tree has. -/
def height : Node → Nat
  | mk _ _ _ parts => heights parts + 1

/-- How many levels the highest of some trees has. -/
def heights : List Node → Nat
  | [] => 0
  | node :: nodes => max node.height (heights nodes)

end

/-- A tree has more than a number of levels. -/
def isHigherThan : Nat → Node → Bool
  | 0, _ => true
  | limit + 1, mk _ _ _ parts => parts.any (isHigherThan limit)

end Node
end Predicate
end Wordbook
