import Wordbook.Predicate.Folding

/-!
# Programs from trees

The program of a body is read off its trees.  A construct that the grammar lets pass may still stand
where it must not: leaving a loop outside of one, a name given to two arguments of a call, an item
spread where only one value can be, or waiting outside of a function that can wait.  Then the line
of the first such construct is given.
-/

namespace Wordbook
namespace Predicate

/-- A result, or the line of a construct that is out of place; the constants that are not equal to
themselves are counted. -/
abbrev Placed := StateT Nat (Except Nat)

/-- How deep loops may stand in each other. -/
def loopLimit : Nat := 20

namespace Node

/-- A part of a comprehension waits for its values. -/
def waits : Node → Bool
  | mk .comprehension _ (.counts (count :: _)) _ => count != 0
  | _ => false

mutual

/-- A tree has to wait in the scope that it stands in. -/
def suspends : Node → Bool
  | mk .generatorExp _ _ (_ :: mk .comprehension _ _ (_ :: source :: _) :: _) => source.suspends
  | mk .comprehension _ (.counts (count :: _)) parts => count != 0 || anySuspends parts
  | mk _ _ _ parts => anySuspends parts

/-- One of some trees has to wait in the scope that it stands in. -/
def anySuspends : List Node → Bool
  | [] => false
  | node :: nodes => node.suspends || anySuspends nodes

end

/-- A comprehension has to wait for its own parts, the source of the first left out. -/
def suspendsWithin : List Node → List Node → Bool
  | elements, mk .comprehension _ (.counts (count :: _)) (target :: _ :: tests) :: clauses =>
      count != 0 || anySuspends (elements ++ target :: tests ++ clauses)
  | _, _ => false

end Node

/-- The operation of two operands that a kind stands for. -/
def BinaryOp.ofKind : Kind → BinaryOp
  | .add => .add
  | .subtract => .subtract
  | .multiply => .multiply
  | .divide => .divide
  | .floorDivide => .floorDivide
  | .modulo => .modulo
  | .power => .power
  | .lShift => .lShift
  | .rShift => .rShift
  | .bitOr => .bitOr
  | .bitXor => .bitXor
  | _ => .bitAnd

/-- The operation of one operand that a kind stands for. -/
def UnaryOp.ofKind : Kind → UnaryOp
  | .uAdd => .plus
  | .uSub => .minus
  | .invert => .invert
  | _ => .negate

/-- The comparison that a kind stands for. -/
def CompareOp.ofKind : Kind → CompareOp
  | .equal => .equal
  | .notEqual => .notEqual
  | .less => .less
  | .lessEqual => .lessEqual
  | .greater => .greater
  | .greaterEqual => .greaterEqual
  | .isOp => .same
  | .isNot => .notSame
  | .inOp => .within
  | _ => .notWithin

/-- The conversion that a code stands for. -/
def Conversion.ofCode (code : Nat) : Conversion :=
  if code = 's'.toNat then .plain
  else if code = 'r'.toNat then .quoted
  else if code = 'a'.toNat then .ascii
  else .none

/-- The collector of a kind of comprehension. -/
def Collector.ofKind : Kind → Collector
  | .listComp => .list
  | .setComp => .set
  | .dictComp => .dict
  | _ => .generator

namespace Elaboration

/-- The line of the second of two arguments with one name, or of one with a reserved name. -/
def misnamed? : List Node → Option Nat
  | [] => none
  | node :: nodes =>
      match node.name? with
      | none => misnamed? nodes
      | some name =>
          if name == "__debug__" then some node.line
          else
            match nodes.find? fun other => other.name? == some name with
            | some other => some other.line
            | none => misnamed? nodes

/-- The parts of a sequence of targets cannot be told apart: two of them take what the others leave,
or too many stand before the one that does. -/
def isRefusedSequence (parts : List Node) : Bool :=
  let first := parts.takeWhile fun part => part.kind != .starred
  match parts.drop first.length with
  | [] => false
  | _ :: last => last.any (fun part => part.kind == .starred) || 256 ≤ first.length

/-- A sequence of targets, each with whether it takes what the others leave. -/
def sequence (targets : List (Bool × Target)) : Target :=
  let first := targets.takeWhile fun target => !target.1
  match targets.drop first.length with
  | [] => .exactly (targets.map Prod.snd)
  | rest :: last => .atLeast (first.map Prod.snd) rest.2 (last.map Prod.snd)

/-- The bounds of a slice, from whether each is there and those that are. -/
def bounds (present : List Nat) (values : List Expr) : List (Option Expr) :=
  match present with
  | [] => []
  | 0 :: later => none :: bounds later values
  | _ :: later => values.head? :: bounds later values.tail

/-- The pairs of a dictionary display, from whether each has a key. -/
def pairs : List Nat → List Node → List Node → List (Option Node × Node)
  | 0 :: present, keys, value :: values => (none, value) :: pairs present keys values
  | _ :: present, key :: keys, value :: values => (some key, value) :: pairs present keys values
  | _, _, _ => []

/-- What stands for a tree that has lost its parts. -/
def lost : Expr := .constant .nothing

/-- The readers of expressions and targets at one depth; `inside` says that a tree stands in a
comprehension. -/
structure Readers where
  expression : (inside : Bool) → Node → Placed Expr
  target : (inside : Bool) → Node → Placed Target

namespace Readers

/-- A constant: equal ones are one and the same, but one that is not equal to itself has a
number. -/
def constant (value : Value) : Placed Expr := do
  if value.isNumberless then
    let number ← get
    set (number + 1)
    return .constant (value.withMark (.written number))
  else return .constant (value.withMark .common)

/-- An operation of one operand, worked out if it can be. -/
def unary (op : UnaryOp) (operand : Expr) : Placed Expr :=
  let made : Expr := .unary op operand
  match operand with
  | .constant value => ((Folding.unary? op value).map constant).getD (return made)
  | _ => return made

/-- An operation of two operands, worked out if it can be. -/
def binary (op : BinaryOp) (left right : Expr) : Placed Expr :=
  let made : Expr := .binary op left right
  match op, left, right with
  | .modulo, .constant template, .tuple items =>
      return (Folding.template? template items).getD made
  | _, .constant first, .constant second =>
      ((Folding.binary? op first second).map constant).getD (return made)
  | _, _, _ => return made

/-- A tuple of items, which is a constant if they are. -/
def tuple (items : List Item) : Placed Expr :=
  match Folding.constants? items with
  | some values => constant (.tuple values)
  | none => return .tuple items

/-- The item that a key names, worked out if it can be. -/
def subscript (container key : Expr) : Placed Expr :=
  let made : Expr := .subscript container key
  match container, key with
  | .constant first, .constant second =>
      ((Folding.item? first second).map constant).getD (return made)
  | _, _ => return made

/-- An item of a display or of the arguments of a call. -/
def item (readers : Readers) (inside : Bool) : Node → Placed Item
  | .mk .starred _ _ (value :: _) => return .spread (← readers.expression inside value)
  | node => return .one (← readers.expression inside node)

/-- A named argument of a call. -/
def keyword (readers : Readers) (inside : Bool) : Node → Placed Keyword
  | .mk _ _ (.name name) (value :: _) => return .one name (← readers.expression inside value)
  | .mk _ _ _ (value :: _) => return .spread (← readers.expression inside value)
  | _ => return .spread lost

/-- A pair of a dictionary display. -/
def pair (readers : Readers) (inside : Bool) : Option Node × Node → Placed Pair
  | (none, value) => return .spread (← readers.expression inside value)
  | (some key, value) => do
      let first ← readers.expression inside key
      return .one first (← readers.expression inside value)

/-- A later part of a comprehension. -/
def clause (readers : Readers) : Node → Placed Clause
  | .mk _ _ _ (assigned :: source :: tests) => do
      let first ← readers.expression true source
      let second ← readers.target true assigned
      return .mk first second (← tests.mapM (readers.expression true))
  | _ => return .mk lost (.exactly []) []

/-- A comprehension: the source of its first part belongs to the scope around it. -/
def comprehension (readers : Readers) (inside : Bool) (kind : Kind) (line : Nat)
    (elements clauses : List Node) : Placed Expr :=
  match clauses with
  | .mk _ _ counts (assigned :: source :: tests) :: more => do
      let waiting := Node.suspendsWithin elements clauses
      if waiting && kind != .generatorExp && !inside then throw line
      else
        let target ← readers.target true assigned
        let accepted ← tests.mapM (readers.expression true)
        let later ← more.mapM readers.clause
        let found ← elements.mapM (readers.expression true)
        let first ← readers.expression inside source
        if waiting then
          return .asyncGenerator first (Node.waits (.mk .comprehension line counts []))
        else
          return .comprehension (.ofKind kind) (found.headD lost) found.tail.head? first target
            accepted later
  | _ => return lost

/-- The expression of a tree. -/
def expressionOf (readers : Readers) (inside : Bool) : Node → Placed Expr
  | .mk .literal _ (.literal value) _ => return .constant (.ofLiteral value)
  | .mk .name _ (.name name) _ => return .variable name
  | .mk .boolOp _ _ (operator :: values) => do
      let found ← values.mapM (readers.expression inside)
      return if operator.kind == .andOp then .allOf found else .anyOf found
  | .mk .unaryOp _ _ [operator, operand] => do
      unary (.ofKind operator.kind) (← readers.expression inside operand)
  | .mk .binOp _ _ [left, operator, right] => do
      let first ← readers.expression inside left
      binary (.ofKind operator.kind) first (← readers.expression inside right)
  | .mk .compare _ _ (left :: rest) => do
      let first ← readers.expression inside left
      let operators := rest.take (rest.length / 2)
      let found ← (rest.drop operators.length).mapM (readers.expression inside)
      return .compare first
        (operators.zipWith (fun operator right => .mk (.ofKind operator.kind) right) found)
  | .mk .ifExp _ _ [test, accepted, refused] => do
      let first ← readers.expression inside test
      let second ← readers.expression inside accepted
      return .choice first second (← readers.expression inside refused)
  | .mk .call _ _ (function :: rest) => do
      let (named, plain) := rest.partition fun part => part.kind == .keyword
      match misnamed? named with
      | some line => throw line
      | none =>
          let callee ← readers.expression inside function
          let arguments ← plain.mapM (readers.item inside)
          return .call callee arguments (← named.mapM (readers.keyword inside))
  | .mk .attribute _ (.name name) (value :: _) =>
      return .attribute (← readers.expression inside value) name
  | .mk .subscript _ _ (value :: index :: _) => do
      let first ← readers.expression inside value
      subscript first (← readers.expression inside index)
  | .mk .slice _ (.counts present) parts => do
      match bounds present (← parts.mapM (readers.expression inside)) with
      | [lower, upper, step] => return .slice lower upper step
      | _ => return lost
  | .mk .listDisplay _ _ parts => return .list (← parts.dropLast.mapM (readers.item inside))
  | .mk .tupleDisplay _ _ parts => do tuple (← parts.dropLast.mapM (readers.item inside))
  | .mk .setDisplay _ _ parts => return .set (← parts.mapM (readers.item inside))
  | .mk .dictDisplay _ (.counts present) parts => do
      let count := (present.filter fun flag => flag != 0).length
      return .dict
        (← (pairs present (parts.take count) (parts.drop count)).mapM (readers.pair inside))
  | .mk .joinedStr _ _ parts => return .joined (← parts.mapM (readers.expression inside))
  | .mk .formattedValue _ (.counts [code]) (value :: spec) => do
      let found ← readers.expression inside value
      let layout ← spec.mapM (readers.expression inside)
      return .field found (.ofCode code) layout.head?
  | .mk .listComp line _ (element :: clauses) =>
      readers.comprehension inside .listComp line [element] clauses
  | .mk .setComp line _ (element :: clauses) =>
      readers.comprehension inside .setComp line [element] clauses
  | .mk .generatorExp line _ (element :: clauses) =>
      readers.comprehension inside .generatorExp line [element] clauses
  | .mk .dictComp line _ (key :: value :: clauses) =>
      readers.comprehension inside .dictComp line [key, value] clauses
  | .mk _ line _ _ => throw line

/-- A target in a sequence, with whether it takes what the others leave. -/
def element (readers : Readers) (inside : Bool) : Node → Placed (Bool × Target)
  | .mk .starred _ _ (value :: _) => return (true, ← readers.target inside value)
  | node => return (false, ← readers.target inside node)

/-- The target of a tree; a name must be one that is assigned to. -/
def targetOf (readers : Readers) (inside : Bool) : Node → Placed Target
  | .mk .name _ (.name name) [.mk .store _ _ _] => return .name name
  | .mk .attribute _ (.name name) (value :: _) =>
      return .attribute (← readers.expression inside value) name
  | .mk .subscript _ _ (value :: index :: _) => do
      let first ← readers.expression inside value
      return .subscript first (← readers.expression inside index)
  | .mk .tupleDisplay line _ parts => do
      if isRefusedSequence parts then throw line
      else return sequence (← parts.dropLast.mapM (readers.element inside))
  | .mk .listDisplay line _ parts => do
      if isRefusedSequence parts then throw line
      else return sequence (← parts.dropLast.mapM (readers.element inside))
  | .mk _ line _ _ => throw line

end Readers

/-- The readers of trees of a height at most. -/
def readers : Nat → Readers
  | 0 => ⟨fun _ _ => return lost, fun _ _ => return .exactly []⟩
  | height + 1 =>
      ⟨fun inside node => (readers height).expressionOf inside node,
        fun inside node => (readers height).targetOf inside node⟩

/-- The expression of a tree outside of comprehensions. -/
def expression (node : Node) : Placed Expr := (readers node.height).expression false node

/-- The target of a tree outside of comprehensions. -/
def target (node : Node) : Placed Target := (readers node.height).target false node

/-- The statement of a tree within a number of loops, with a reader for the statements in it. -/
def statementOf (read : (loops : Nat) → Node → Placed Statement) (loops : Nat) :
    Node → Placed Statement
  | .mk .expression _ _ [value] => return .expression (← expression value)
  | .mk .returning _ _ [] => return .give none
  | .mk .returning _ _ [value] => return .give (some (← expression value))
  | .mk .ifStatement _ (.counts [count]) (test :: rest) => do
      let first ← expression test
      let accepted ← (rest.take count).mapM (read loops)
      return .branch first accepted (← (rest.drop count).mapM (read loops))
  | .mk .forLoop line (.counts [count]) (assigned :: source :: rest) => do
      if loops ≥ loopLimit then throw line
      else
        let first ← expression source
        let second ← target assigned
        let body ← (rest.take count).mapM (read (loops + 1))
        return .loop second first body (← (rest.drop count).mapM (read loops))
  | .mk .breaking line _ _ => if loops = 0 then throw line else return .leave
  | .mk .continuing line _ _ => if loops = 0 then throw line else return .again
  | .mk .passing _ _ _ => return .pass
  | .mk .assign _ _ parts => do
      match parts.getLast? with
      | none => return .pass
      | some value =>
          let found ← expression value
          return .assign (← parts.dropLast.mapM target) found
  | .mk .augAssign _ _ [assigned, operator, value] => do
      let first ← target assigned
      return .augment first (.ofKind operator.kind) (← expression value)
  | .mk _ line _ _ => throw line

/-- The statement of a tree of a height at most. -/
def statement : (height loops : Nat) → Node → Placed Statement
  | 0, _, _ => return .pass
  | height + 1, loops, node => statementOf (statement height) loops node

end Elaboration

/-- The program of some trees, or the line of the first construct that is out of place. -/
def Program.ofNodes (nodes : List Node) : Except Nat (List Statement) :=
  (nodes.mapM fun node => Elaboration.statement node.height 0 node).run' 0

end Predicate
end Wordbook
