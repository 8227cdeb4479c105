import Wordbook.Predicate.Grammar.Parameters

/-!
# Expressions

The rules for expressions from the loosest to the tightest, for displays and comprehensions, and for
the arguments of calls.  Rules whose name starts with `invalid` only refuse.
-/

namespace Wordbook
namespace Predicate
namespace Grammar

open Predicate.Parser

/-- An expression, or one that hands a value out. -/
def yieldExpression (rules : Rules) : Parser Node :=
  oneOf
    [do
        let mark ← kw "yield"
        let _ ← kw "from"
        let value ← one rules .expression
        return .plain .yieldFrom mark.line [value],
      do
        let mark ← kw "yield"
        let value ← optional (one rules .starExpressions)
        return .plain .yielding mark.line value.toList]

/-- What hands a value out, or a list of expressions. -/
def yieldOrStar (rules : Rules) : Parser Node :=
  oneOf [yieldExpression rules, one rules .starExpressions]

/-- A function without a name. -/
def lambda (rules : Rules) : Parser Node := do
  let mark ← kw "lambda"
  let found ← parameters rules .nameless
  let _ ← op ":"
  let body ← one rules .expression
  return .plain .lambdaExpr mark.line [found, body]

/-- A choice between two expressions. -/
def conditional (rules : Rules) : Parser Node := do
  let chosen ← one rules .disjunction
  let _ ← kw "if"
  let test ← one rules .disjunction
  let _ ← kw "else"
  let other ← one rules .expression
  return .plain .ifExp chosen.line [test, chosen, other]

/-- An expression of any form. -/
def plainExpression (rules : Rules) : Parser Node :=
  oneOf [conditional rules, one rules .disjunction, lambda rules]

/-- A name that is the start of a word that is a keyword only in places. -/
def startsSoftWord (found : Lexeme) : Bool :=
  found.kind == .name && ["match", "case", "_"].any fun word => found.text.isPrefixOf word

/-- Refuse two expressions in a row inside brackets, and a choice without its other side. -/
def invalidExpression (rules : Rules) : Parser Node :=
  oneOf
    [do
        notAhead (oneOf
          [do let _ ← name; let _ ← ofKind .string; return (),
            do let _ ← lexeme startsSoftWord; return ()])
        let first ← one rules .disjunction
        let _ ← leniently (plainExpression rules)
        let depth ← depthBefore
        if isOldStatement first || depth == 0 then miss else raiseAt first.line,
      do
        let chosen ← one rules .disjunction
        let _ ← kw "if"
        let _ ← one rules .disjunction
        notAhead (oneOf [kw "else", op ":"])
        raiseAt chosen.line]

/-- Refuse a statement of older days. -/
def invalidOldStatement (rules : Rules) : Parser Node := do
  let word ← name
  notAhead (op "(")
  let _ ← one rules .starExpressions
  if isOldStatement word then raiseAt word.line else miss

/-- An expression. -/
def expression (rules : Rules) : Parser Node :=
  oneOf
    [strictly (invalidExpression rules), strictly (invalidOldStatement rules),
      conditional rules, one rules .disjunction, lambda rules]

/-- Items with commas between and perhaps one behind: one item alone stands for itself. -/
def tupleOf (item : Parser Node) : Parser Node := do
  let first ← item
  let others ← many (do let _ ← op ","; item)
  let comma ← optional (op ",")
  if others.isEmpty && comma.isNone then return first
  else return .plain .tupleDisplay first.line (first :: others ++ [.leaf .load first.line])

/-- A starred operand. -/
def starred (operand : Parser Node) : Parser Node := do
  let mark ← op "*"
  let value ← operand
  return .plain .starred mark.line [value, .leaf .load mark.line]

/-- A name that an expression is assigned to. -/
def assignmentExpression (rules : Rules) : Parser Node := do
  let target ← name
  let _ ← op ":="
  let value ← one rules .expression
  return .plain .namedExpr target.line [target.setContext .store, value]

/-- Refuse assignments that are meant as comparisons or have a wrong target. -/
def invalidNamedExpression (rules : Rules) (display : Parser Unit) : Parser Node :=
  let otherEqual : Parser Unit := notAhead (oneOf [op "=", op ":="])
  oneOf
    [do
        let target ← one rules .expression
        let _ ← op ":="
        let _ ← one rules .expression
        raiseAt target.line,
      do
        let target ← name
        let _ ← op "="
        let _ ← one rules .bitOr
        otherEqual
        raiseAt target.line,
      do
        notAhead display
        let target ← one rules .bitOr
        let _ ← op "="
        let _ ← one rules .bitOr
        otherEqual
        raiseAt target.line]

/-- An expression that does not get assigned to. -/
def unassigned (rules : Rules) : Parser Node := do
  let found ← one rules .expression
  notAhead (op ":=")
  return found

/-- An expression that may be given a name. -/
def namedExpression (rules : Rules) : Parser Node :=
  oneOf [assignmentExpression rules, strictly (one rules .invalidNamed), unassigned rules]

/-- Operands of one logical operator. -/
def logical (rules : Rules) (word : String) (operator : Kind) (operand : Rule) : Parser Node := do
  let first ← one rules operand
  let others ← many (do let _ ← kw word; one rules operand)
  if others.isEmpty then return first
  else return .plain .boolOp first.line (.leaf operator first.line :: first :: others)

/-- The comparison operators that are symbols. -/
def comparisonSymbols : List (String × Kind) :=
  [("==", .equal), ("!=", .notEqual), ("<=", .lessEqual), ("<", .less), (">=", .greaterEqual),
    (">", .greater)]

/-- A comparison operator with its right operand. -/
def comparisonTail (rules : Rules) : Parser (Kind × Node) :=
  let tail (operator : Parser Kind) : Parser (Kind × Node) := do
    let kind ← operator
    let operand ← one rules .bitOr
    return (kind, operand)
  oneOf
    [tail (do
        let found ← lexeme fun found =>
          found.kind == .operator && comparisonSymbols.any fun entry => entry.1 == found.text
        let found? := comparisonSymbols.find? fun entry => entry.1 == found.text
        return (found?.map (·.2)).getD .equal),
      tail (do let _ ← kw "not"; let _ ← kw "in"; return .notIn),
      tail (do let _ ← kw "in"; return .inOp),
      tail (do let _ ← kw "is"; let _ ← kw "not"; return .isNot),
      tail (do let _ ← kw "is"; return .isOp)]

/-- A chain of comparisons. -/
def comparison (rules : Rules) : Parser Node := do
  let left ← one rules .bitOr
  let tails ← many (comparisonTail rules)
  if tails.isEmpty then return left
  else
    return .plain .compare left.line
      (left :: tails.map (fun tail => .leaf tail.1 left.line) ++ tails.map (fun tail => tail.2))

/-- A negation, or a chain of comparisons. -/
def inversion (rules : Rules) : Parser Node :=
  oneOf
    [do
        let mark ← kw "not"
        let operand ← one rules .inversion
        return .unary mark.line .notOp operand,
      comparison rules]

/-- Operations of one level of precedence, grouped to the left. -/
def leftGrouped (rules : Rules) (level operand : Rule) (operators : List (String × Kind)) :
    Parser Node :=
  oneOf (operators.map (fun entry => do
    let left ← one rules level
    let _ ← op entry.1
    let right ← one rules operand
    return .binary left.line left entry.2 right) ++ [one rules operand])

/-- The signs and what they mean. -/
def signs : List (String × Kind) := [("+", .uAdd), ("-", .uSub), ("~", .invert)]

/-- A power, which groups to the right. -/
def power (rules : Rules) : Parser Node := do
  let base ← one rules .awaitPrimary
  let exponent ← after (op "**") (one rules .factor)
  match exponent with
  | some right => return .binary base.line base .power right
  | none => return base

/-- A signed operand. -/
def factor (rules : Rules) : Parser Node :=
  oneOf (signs.map (fun entry => do
    let mark ← op entry.1
    let operand ← one rules .factor
    return .unary mark.line entry.2 operand) ++ [one rules .power])

/-- An operand that may be waited for. -/
def awaitPrimary (rules : Rules) : Parser Node :=
  oneOf
    [do
        let mark ← kw "await"
        let operand ← one rules .primary
        return .plain .awaiting mark.line [operand],
      one rules .primary]

/-- Refuse the target of a loop that cannot be one. -/
def invalidLoopTarget (rules : Rules) : Parser (List Node) := do
  let _ ← asideMark
  let _ ← kw "for"
  let target ← one rules .starExpressions
  refuseTarget .looping target

/-- One clause of a comprehension. -/
def comprehensionClause (rules : Rules) : Parser Node :=
  let clause (aside : Bool) : Parser Node := do
    let line ← here
    if aside then
      let _ ← kw "async"
    let _ ← kw "for"
    let target ← one rules .starTargets
    let _ ← kw "in"
    settle
    let iterated ← one rules .disjunction
    let tests ← many (do let _ ← kw "if"; one rules .disjunction)
    return .mk .comprehension line (.counts [if aside then 1 else 0])
      (target :: iterated :: tests)
  oneOf
    [clause true, clause false,
      strictly do
        let _ ← invalidLoopTarget rules
        miss]

/-- The clauses of a comprehension. -/
def comprehensionClauses (rules : Rules) : Parser (List Node) := many1 (comprehensionClause rules)

/-- An item of a display, which may be starred. -/
def starNamed (rules : Rules) : Parser Node :=
  oneOf [starred (one rules .bitOr), one rules .namedExpression]

/-- Items of a display. -/
def starNamedList (rules : Rules) : Parser (List Node) := do
  let items ← sepBy1 (op ",") (one rules .starNamed)
  let _ ← optional (op ",")
  return items

/-- A starred argument. -/
def starredArgument (rules : Rules) : Parser Node :=
  oneOf
    [strictly do
        let mark ← op "*"
        let _ ← one rules .expression
        let _ ← op "="
        let _ ← one rules .expression
        raiseAt mark.line,
      starred (one rules .expression)]

/-- An opening bracket of some kinds. -/
def opening (symbols : List String) : Parser Lexeme :=
  lexeme fun found => found.kind == .operator && symbols.contains found.text

/-- Refuse comprehensions whose element is starred or not in brackets. -/
def invalidComprehension (rules : Rules) : Parser Node :=
  oneOf
    [do
        let _ ← opening ["[", "(", "\x7b"]
        let item ← starredArgument rules
        let _ ← comprehensionClauses rules
        raiseAt item.line,
      do
        let _ ← opening ["[", "\x7b"]
        let item ← one rules .starNamed
        let _ ← op ","
        let _ ← starNamedList rules
        let _ ← comprehensionClauses rules
        raiseAt item.line,
      do
        let _ ← opening ["[", "\x7b"]
        let item ← one rules .starNamed
        let _ ← op ","
        let _ ← comprehensionClauses rules
        raiseAt item.line]

/-- An expression in parentheses. -/
def group (rules : Rules) : Parser Node :=
  oneOf
    [do
        let _ ← op "("
        let inner ← oneOf [yieldExpression rules, one rules .namedExpression]
        let _ ← op ")"
        return inner,
      strictly (oneOf
        [do
            let _ ← op "("
            let item ← starredArgument rules
            let _ ← op ")"
            raiseAt item.line,
          do
            let _ ← op "("
            let mark ← op "**"
            let _ ← one rules .expression
            let _ ← op ")"
            raiseAt mark.line])]

/-- A tuple in parentheses. -/
def tuple (rules : Rules) : Parser Node := do
  let mark ← op "("
  let items ← optional do
    let first ← one rules .starNamed
    let _ ← op ","
    let others ← optional (starNamedList rules)
    return first :: others.getD []
  let _ ← op ")"
  return .plain .tupleDisplay mark.line (items.getD [] ++ [.leaf .load mark.line])

/-- A list display. -/
def list (rules : Rules) : Parser Node := do
  let mark ← op "["
  let items ← optional (starNamedList rules)
  let _ ← op "]"
  return .plain .listDisplay mark.line (items.getD [] ++ [.leaf .load mark.line])

/-- A comprehension of one element between brackets. -/
def comprehension (rules : Rules) (kind : Kind) (left right : String) (element : Parser Node) :
    Parser Node :=
  oneOf
    [do
        let mark ← op left
        let value ← element
        let clauses ← comprehensionClauses rules
        let _ ← op right
        return .plain kind mark.line (value :: clauses),
      strictly (invalidComprehension rules)]

/-- A generator in parentheses. -/
def generator (rules : Rules) : Parser Node :=
  comprehension rules .generatorExp "(" ")" (oneOf [assignmentExpression rules, unassigned rules])

/-- A set display. -/
def setDisplay (rules : Rules) : Parser Node := do
  let mark ← op "\x7b"
  let items ← starNamedList rules
  let _ ← op "\x7d"
  return .plain .setDisplay mark.line items

/-- A key and its value. -/
def keyValue (rules : Rules) : Parser (Node × Node) := do
  let key ← one rules .expression
  let _ ← op ":"
  let value ← one rules .expression
  return (key, value)

/-- An entry of a dictionary display: a key and its value, or a dictionary that is unpacked. -/
def dictEntry (rules : Rules) : Parser (Option Node × Node) :=
  oneOf
    [do
        let _ ← op "**"
        let value ← one rules .bitOr
        return (none, value),
      do
        let (key, value) ← keyValue rules
        return (some key, value)]

/-- Refuse a starred value and a missing one. -/
def invalidValue (rules : Rules) : List (Parser Node) :=
  [do
      let _ ← one rules .expression
      let _ ← op ":"
      let mark ← op "*"
      let _ ← one rules .bitOr
      raiseAt mark.line,
    do
      let _ ← one rules .expression
      let mark ← op ":"
      ahead (oneOf [op "\x7d", op ","])
      raiseAt mark.line]

/-- Refuse entries that lack a part. -/
def invalidDictEntries (rules : Rules) : Parser Node :=
  oneOf
    ((do
        let _ ← sepBy1 (op ",") (dictEntry rules)
        let _ ← op ","
        oneOf
          ((do
              let key ← one rules .expression
              notAhead (op ":")
              raiseAt key.line) :: invalidValue rules)) :: invalidValue rules)

/-- A dictionary display. -/
def dict (rules : Rules) : Parser Node :=
  oneOf
    [do
        let mark ← op "\x7b"
        let entries ← optional do
          let found ← sepBy1 (op ",") (dictEntry rules)
          let _ ← optional (op ",")
          return found
        let _ ← op "\x7d"
        let pairs := entries.getD []
        return .mk .dictDisplay mark.line
          (.counts (pairs.map fun pair => if pair.1.isSome then 1 else 0))
          (pairs.filterMap (fun pair => pair.1) ++ pairs.map (fun pair => pair.2)),
      do
        let _ ← op "\x7b"
        let refused ← invalidDictEntries rules
        let _ ← op "\x7d"
        return refused]

/-- A comprehension of keys and values. -/
def dictComprehension (rules : Rules) : Parser Node :=
  oneOf
    [do
        let mark ← op "\x7b"
        let (key, value) ← keyValue rules
        let clauses ← comprehensionClauses rules
        let _ ← op "\x7d"
        return .plain .dictComp mark.line (key :: value :: clauses),
      strictly do
        let _ ← op "\x7b"
        let mark ← op "**"
        let _ ← one rules .bitOr
        let _ ← comprehensionClauses rules
        let _ ← op "\x7d"
        raiseAt mark.line]

/-- A word that is a value. -/
def wordValue (word : String) (value : Literal) : Parser Node := do
  let mark ← kw word
  return .constant mark.line value

/-- What an expression is built from. -/
def atom (rules : Rules) : Parser Node :=
  oneOf
    [name, wordValue "True" (.bool true), wordValue "False" (.bool false),
      wordValue "None" .nothing, strings, number,
      do
        ahead (op "(")
        oneOf [tuple rules, group rules, generator rules],
      do
        ahead (op "[")
        oneOf [list rules, comprehension rules .listComp "[" "]" (one rules .namedExpression)],
      do
        ahead (op "\x7b")
        oneOf
          [dict rules, setDisplay rules, dictComprehension rules,
            comprehension rules .setComp "\x7b" "\x7d" (one rules .namedExpression)],
      do
        let mark ← op "..."
        return .constant mark.line .ellipsis]

/-- One index or slice. -/
def slice (rules : Rules) : Parser Node :=
  let bound := optional (one rules .expression)
  let presence (found : Option Node) : Nat := if found.isSome then 1 else 0
  oneOf
    [do
        let line ← here
        let lower ← bound
        let _ ← op ":"
        let upper ← bound
        let step ← after (op ":") bound
        let stride := step.join
        return .mk .slice line (.counts [presence lower, presence upper, presence stride])
          (lower.toList ++ upper.toList ++ stride.toList),
      one rules .namedExpression]

/-- What stands between the brackets of a subscript. -/
def slices (rules : Rules) : Parser Node :=
  oneOf
    [do
        let found ← slice rules
        notAhead (op ",")
        return found,
      do
        let line ← here
        let items ← sepBy1 (op ",") (oneOf [slice rules, starredArgument rules])
        let _ ← optional (op ",")
        return .plain .tupleDisplay line (items ++ [.leaf .load line])]

/-- A call of a tree with arguments. -/
def callOf (callee : Node) (given : List Node) : Node := .plain .call callee.line (callee :: given)

/-- Arguments in parentheses. -/
def argumentList (rules : Rules) : Parser (List Node) := do
  let _ ← op "("
  let given ← optional (rules .arguments)
  let _ ← op ")"
  return given.getD []

/-- An operand with the attributes, calls and subscripts behind it; `follow` must hold after
each. -/
def trailers (rules : Rules) (level : Rule) (follow : Parser Unit) : List (Parser Node) :=
  [do
      let base ← one rules level
      let _ ← op "."
      let member ← name
      follow
      return .mk .attribute base.line member.payload [base, .leaf .load base.line],
    do
      let base ← one rules level
      let given ← generator rules
      follow
      return callOf base [given],
    do
      let base ← one rules level
      let given ← argumentList rules
      follow
      return callOf base given,
    do
      let base ← one rules level
      let _ ← op "["
      let index ← one rules .slices
      let _ ← op "]"
      follow
      return .plain .subscript base.line [base, index, .leaf .load base.line]]

/-- An operand with what stands behind it. -/
def primary (rules : Rules) : Parser Node :=
  oneOf (trailers rules .primary (return ()) ++ [atom rules])

/-- A tree is a keyword argument. -/
def isKeywordArgument (node : Node) : Bool := node.kind == .keyword

/-- Arguments by place before arguments by keyword. -/
def orderArguments (given : List Node) : List Node :=
  given.filter (fun node => !isKeywordArgument node) ++ given.filter isKeywordArgument

/-- Refuse keyword arguments that are no names or lack parentheses. -/
def invalidKeyword (rules : Rules) : Parser Node :=
  oneOf
    [do
        let word ← oneOf [kw "True", kw "False", kw "None"]
        let _ ← op "="
        raiseAt word.line,
      do
        let word ← name
        let _ ← op "="
        let _ ← one rules .expression
        let _ ← comprehensionClauses rules
        raiseAt word.line,
      do
        notAhead (do let _ ← name; op "=")
        let target ← one rules .expression
        let _ ← op "="
        raiseAt target.line,
      do
        let mark ← op "**"
        let _ ← one rules .expression
        let _ ← op "="
        let _ ← one rules .expression
        raiseAt mark.line]

/-- An argument by keyword. -/
def keywordArgument (rules : Rules) : Parser Node := do
  let word ← name
  let _ ← op "="
  let value ← one rules .expression
  return .mk .keyword word.line word.payload [value]

/-- An argument by keyword, or a starred one. -/
def keywordOrStarred (rules : Rules) : Parser Node :=
  oneOf [strictly (invalidKeyword rules), keywordArgument rules, starredArgument rules]

/-- An argument by keyword, or a dictionary of them. -/
def keywordOrDouble (rules : Rules) : Parser Node :=
  oneOf
    [strictly (invalidKeyword rules), keywordArgument rules,
      do
        let mark ← op "**"
        let value ← one rules .expression
        return .plain .keyword mark.line [value]]

/-- The arguments from the first keyword on. -/
def keywordArguments (rules : Rules) : Parser (List Node) :=
  oneOf
    [do
        let first ← sepBy1 (op ",") (keywordOrStarred rules)
        let _ ← op ","
        let second ← sepBy1 (op ",") (keywordOrDouble rules)
        return first ++ second,
      sepBy1 (op ",") (keywordOrStarred rules),
      sepBy1 (op ",") (keywordOrDouble rules)]

/-- An argument by place. -/
def placeArgument (rules : Rules) : Parser Node :=
  oneOf
    [starredArgument rules,
      do
        let value ← oneOf [assignmentExpression rules, unassigned rules]
        notAhead (op "=")
        return value]

/-- Arguments, those by place first. -/
def args (rules : Rules) : Parser (List Node) :=
  oneOf
    [do
        let placed ← sepBy1 (op ",") (placeArgument rules)
        let keywords ← after (op ",") (keywordArguments rules)
        return orderArguments (placed ++ keywords.getD []),
      do
        let found ← keywordArguments rules
        return orderArguments found]

/-- The line of the first of some trees. -/
def firstLine (nodes : List Node) : Nat := (nodes.head?.map Node.line).getD 1

/-- Refuse arguments in an order they cannot have. -/
def invalidArguments (rules : Rules) : Parser (List Node) :=
  oneOf
    [do
        let line ← here
        let _ ← rules .args
        let _ ← op ","
        let _ ← op "*"
        raiseAt line,
      do
        let item ← one rules .expression
        let _ ← comprehensionClauses rules
        let _ ← op ","
        let _ ← optional (oneOf
          [rules .args,
            do
              let _ ← one rules .expression
              comprehensionClauses rules])
        raiseAt item.line,
      do
        let word ← name
        let _ ← op "="
        let _ ← one rules .expression
        let _ ← comprehensionClauses rules
        raiseAt word.line,
      do
        let found ← rules .args
        let _ ← comprehensionClauses rules
        let placed := found.filter fun node => !isKeywordArgument node
        if placed.length ≤ 1 then miss
        else raiseAt ((placed.getLast?.map Node.line).getD 1),
      do
        let _ ← rules .args
        let _ ← op ","
        let item ← one rules .expression
        let _ ← comprehensionClauses rules
        raiseAt item.line,
      do
        let _ ← rules .args
        let _ ← op ","
        let _ ← rules .args
        raiseHere]

/-- Arguments up to the closing parenthesis. -/
def arguments (rules : Rules) : Parser (List Node) :=
  oneOf
    [do
        let found ← rules .args
        let _ ← optional (op ",")
        ahead (op ")")
        return found,
      strictly (invalidArguments rules)]

/-- Several expressions with commas, for the whole of a text. -/
def expressions (rules : Rules) : Parser Node := tupleOf (one rules .expression)

end Grammar
end Predicate
end Wordbook
