import Wordbook.Predicate.Grammar.Patterns

/-!
# Statements

The rules for statements on one line and for those that hold blocks.  A block is a line of
statements or an indented group of lines; where one is missing, the text is refused at what stands
there.
-/

namespace Wordbook
namespace Predicate
namespace Grammar

open Predicate.Parser

/-- The augmented assignments and the operators they apply. -/
def augmented : List (String × Kind) :=
  [("+=", .add), ("-=", .subtract), ("*=", .multiply), ("@=", .matMult), ("/=", .divide),
    ("%=", .modulo), ("&=", .bitAnd), ("|=", .bitOr), ("^=", .bitXor), ("<<=", .lShift),
    (">>=", .rShift), ("**=", .power), ("//=", .floorDivide)]

/-- An augmented assignment operator. -/
def augmentedOperator : Parser Kind := do
  let found ← lexeme fun found =>
    found.kind == .operator && augmented.any fun entry => entry.1 == found.text
  return ((augmented.find? fun entry => entry.1 == found.text).map (·.2)).getD .add

/-- Targets with the equals signs behind them. -/
def assignedTargets (rules : Rules) : Parser Node := do
  let target ← one rules .starTargets
  let _ ← op "="
  return target

/-- What is refused as a target of an annotation: a display. -/
def annotatedTarget (rules : Rules) : Parser Node :=
  oneOf
    [list rules, tuple rules,
      do
        let _ ← op "("
        let found ← one rules .annotatedTarget
        let _ ← op ")"
        return found]

/-- Refuse assignments to what is no target. -/
def invalidAssignment (rules : Rules) : Parser (List Node) :=
  oneOf
    [do
        let target ← one rules .annotatedTarget
        let _ ← op ":"
        let _ ← one rules .expression
        raiseAt target.line,
      do
        let target ← one rules .starNamed
        let _ ← op ","
        let _ ← many (starNamedList rules)
        let _ ← op ":"
        let _ ← one rules .expression
        raiseAt target.line,
      do
        let target ← one rules .expression
        let _ ← op ":"
        let _ ← one rules .expression
        raiseAt target.line,
      do
        let _ ← many (assignedTargets rules)
        let target ← one rules .starExpressions
        let _ ← op "="
        refuseTarget .storing target,
      do
        let _ ← many (assignedTargets rules)
        let target ← yieldExpression rules
        let _ ← op "="
        raiseAt target.line,
      do
        let target ← one rules .starExpressions
        let _ ← augmentedOperator
        let _ ← yieldOrStar rules
        raiseAt target.line]

/-- An assignment. -/
def assignment (rules : Rules) : Parser (List Node) :=
  let annotated (target : Parser Node) : Parser (List Node) := do
    let found ← target
    let _ ← op ":"
    let bound ← one rules .expression
    let value ← after (op "=") (yieldOrStar rules)
    return [.plain .annAssign found.line (found :: bound :: value.toList)]
  oneOf
    [annotated (nameTarget .store),
      annotated (oneOf
        ((do
            let _ ← op "("
            let found ← one rules .singleTarget
            let _ ← op ")"
            return found) :: memberTarget rules .store)),
      do
        let targets ← many1 (assignedTargets rules)
        let value ← yieldOrStar rules
        notAhead (op "=")
        return [.plain .assign (firstLine targets) (targets ++ [value])],
      do
        let target ← one rules .singleTarget
        let operator ← augmentedOperator
        settle
        let value ← yieldOrStar rules
        return [.plain .augAssign target.line [target, .leaf operator target.line, value]],
      strictly (invalidAssignment rules)]

/-- A name with dots. -/
def dottedName (rules : Rules) : Parser Node :=
  oneOf
    [do
        let base ← one rules .dottedName
        let _ ← op "."
        let _ ← name
        return base,
      name]

/-- A name under which something is imported. -/
def importName : Parser Unit := do
  let _ ← kw "as"
  let _ ← name
  return ()

/-- The names that a module lends. -/
def importTargets : Parser (List Node) :=
  let item : Parser Node := do
    let found ← name
    let _ ← optional importName
    return .leaf .importAlias found.line
  let items := sepBy1 (op ",") item
  oneOf
    [do
        let _ ← op "("
        let found ← items
        let _ ← optional (op ",")
        let _ ← op ")"
        return found,
      do
        let found ← items
        notAhead (op ",")
        return found,
      do
        let mark ← op "*"
        return [.leaf .importAlias mark.line],
      strictly do
        let _ ← items
        let _ ← op ","
        let _ ← lineEnd
        raiseHere]

/-- An import. -/
def importStatement (rules : Rules) : Parser Node :=
  let dots := oneOf [op ".", op "..."]
  oneOf
    [do
        let mark ← kw "import"
        let items ← sepBy1 (op ",") do
          let found ← one rules .dottedName
          let _ ← optional importName
          return Node.leaf .importAlias found.line
        return .plain .importing mark.line items,
      do
        let mark ← kw "from"
        let _ ← many dots
        let _ ← one rules .dottedName
        let _ ← kw "import"
        let items ← importTargets
        return .plain .importFrom mark.line items,
      do
        let mark ← kw "from"
        let _ ← many1 dots
        let _ ← kw "import"
        let items ← importTargets
        return .plain .importFrom mark.line items]

/-- A deletion. -/
def deletion (rules : Rules) : Parser (List Node) :=
  oneOf
    [do
        let mark ← kw "del"
        let targets ← targetList rules .deleteTarget
        ahead (oneOf [op ";", lineEnd])
        return [.plain .deleting mark.line targets],
      strictly do
        let _ ← kw "del"
        let target ← one rules .starExpressions
        refuseTarget .deleting target]

/-- A statement that is one word. -/
def wordStatement (word : String) (kind : Kind) : Parser (List Node) := do
  let mark ← kw word
  return [.leaf kind mark.line]

/-- A statement that lists names. -/
def nameStatement (word : String) (kind : Kind) : Parser (List Node) := do
  let mark ← kw word
  let _ ← sepBy1 (op ",") name
  return [.leaf kind mark.line]

/-- A statement that holds no block. -/
def simpleStatement (rules : Rules) : Parser (List Node) :=
  oneOf
    [assignment rules,
      do
        let value ← one rules .starExpressions
        return [.plain .expression value.line [value]],
      do
        let mark ← kw "return"
        let value ← optional (one rules .starExpressions)
        return [.plain .returning mark.line value.toList],
      do
        ahead (oneOf [kw "import", kw "from"])
        single (importStatement rules),
      oneOf
        [do
            let mark ← kw "raise"
            let value ← one rules .expression
            let cause ← after (kw "from") (one rules .expression)
            return [.plain .raising mark.line (value :: cause.toList)],
          wordStatement "raise" .raising],
      wordStatement "pass" .passing,
      do
        ahead (kw "del")
        deletion rules,
      do
        ahead (kw "yield")
        let value ← yieldExpression rules
        return [.plain .expression value.line [value]],
      do
        let mark ← kw "assert"
        let test ← one rules .expression
        let message ← after (op ",") (one rules .expression)
        return [.plain .asserting mark.line (test :: message.toList)],
      wordStatement "break" .breaking,
      wordStatement "continue" .continuing,
      nameStatement "global" .globalNames,
      nameStatement "nonlocal" .nonlocalNames]

/-- Statements on one line. -/
def simpleStatements (rules : Rules) : Parser (List Node) :=
  oneOf
    [do
        let only ← rules .simpleStatement
        notAhead (op ";")
        let _ ← lineEnd
        return only,
      do
        let found ← sepBy1 (op ";") (rules .simpleStatement)
        let _ ← optional (op ";")
        let _ ← lineEnd
        return found.flatten]

/-- The end of a line that no indented block follows. -/
def missingBlock : Parser Unit := do
  let _ ← lineEnd
  notAhead (ofKind .indent)

/-- A block. -/
def block (rules : Rules) : Parser (List Node) :=
  oneOf
    [do
        let _ ← lineEnd
        let _ ← ofKind .indent
        let found ← rules .statements
        let _ ← ofKind .dedent
        return found,
      rules .simpleStatements,
      strictly do
        missingBlock
        raiseHere]

/-- Refuse a header that no colon or no block follows. -/
def invalidHeader {Header : Type} (header : Parser Header) : List (Parser (List Node)) :=
  [do let _ ← header; let _ ← lineEnd; raiseHere,
    do let _ ← header; let _ ← op ":"; missingBlock; raiseHere]

/-- Refuse a header that no block follows. -/
def invalidIndent {Header : Type} (header : Parser Header) : Parser (List Node) := do
  let _ ← header
  let _ ← op ":"
  missingBlock
  raiseHere

/-- The block for when a condition fails. -/
def elseBlock (rules : Rules) : Parser (List Node) :=
  oneOf
    [strictly (invalidIndent (kw "else")),
      do
        let _ ← kw "else"
        let _ ← forcedOp ":"
        rules .block]

/-- A condition with its blocks, opened by a word. -/
def ifBranch (rules : Rules) (word : String) : Parser Node :=
  let header : Parser (Lexeme × Node) := do
    let mark ← kw word
    let test ← one rules .namedExpression
    return (mark, test)
  let build (mark : Lexeme) (test : Node) (body others : List Node) : Node :=
    .mk .ifStatement mark.line (.counts [body.length]) (test :: body ++ others)
  oneOf
    [strictly (do let _ ← oneOf (invalidHeader header); miss),
      do
        let (mark, test) ← header
        let _ ← op ":"
        let body ← rules .block
        let others ← rules .elifStatement
        return build mark test body others,
      do
        let (mark, test) ← header
        let _ ← op ":"
        let body ← rules .block
        let others ← optional (elseBlock rules)
        return build mark test body (others.getD [])]

/-- A loop while a condition holds. -/
def whileLoop (rules : Rules) : Parser Node :=
  let header : Parser (Lexeme × Node) := do
    let mark ← kw "while"
    let test ← one rules .namedExpression
    return (mark, test)
  oneOf
    [strictly (do let _ ← oneOf (invalidHeader header); miss),
      do
        let (mark, test) ← header
        let _ ← op ":"
        let body ← rules .block
        let others ← optional (elseBlock rules)
        return .plain .whileLoop mark.line (test :: body ++ others.getD [])]

/-- A loop over items. -/
def forLoop (rules : Rules) : Parser Node :=
  let header : Parser Unit := do
    let _ ← asideMark
    let _ ← kw "for"
    let _ ← one rules .starTargets
    let _ ← kw "in"
    let _ ← one rules .starExpressions
    return ()
  let loop (aside : Bool) : Parser Node := do
    let line ← here
    if aside then
      let _ ← kw "async"
    let _ ← kw "for"
    let target ← one rules .starTargets
    let _ ← kw "in"
    settle
    let iterated ← one rules .starExpressions
    let _ ← forcedOp ":"
    let body ← rules .block
    let others ← optional (elseBlock rules)
    return .mk (if aside then .asyncFor else .forLoop) line (.counts [body.length])
      (target :: iterated :: body ++ others.getD [])
  oneOf
    [strictly (do let _ ← oneOf (invalidHeader header); miss),
      loop false, loop true,
      strictly (do let _ ← invalidLoopTarget rules; miss)]

/-- One thing that a with statement holds, perhaps under a name. -/
def withItem (rules : Rules) : Parser Node :=
  let follows := ahead (oneOf [op ",", op ")", op ":"])
  oneOf
    [do
        let held ← one rules .expression
        let _ ← kw "as"
        let target ← one rules .starTarget
        follows
        return .plain .withItem held.line [held, target],
      strictly do
        let _ ← one rules .expression
        let _ ← kw "as"
        let target ← one rules .expression
        follows
        let _ ← refuseTarget .storing target
        miss,
      do
        let held ← one rules .expression
        return .plain .withItem held.line [held]]

/-- A with statement. -/
def withBlock (rules : Rules) : Parser Node :=
  let loose (held : Rule) : Parser Unit := do
    let _ ← one rules held
    let _ ← after (kw "as") (one rules .starTarget)
    return ()
  let looseTuple : Parser Unit := do
    let _ ← expressions rules
    let _ ← after (kw "as") (one rules .starTarget)
    return ()
  let openHeader : Parser Unit := do
    let _ ← asideMark
    let _ ← kw "with"
    let _ ← sepBy1 (op ",") (loose .expression)
    return ()
  let closedHeader : Parser Unit := do
    let _ ← asideMark
    let _ ← kw "with"
    let _ ← op "("
    let _ ← sepBy1 (op ",") looseTuple
    let _ ← optional (op ",")
    let _ ← op ")"
    return ()
  let items := sepBy1 (op ",") (withItem rules)
  let statement (aside closed : Bool) : Parser Node := do
    let line ← here
    if aside then
      let _ ← kw "async"
    let _ ← kw "with"
    if closed then
      let _ ← op "("
    let held ← items
    if closed then
      let _ ← optional (op ",")
      let _ ← op ")"
    let _ ← op ":"
    let body ← rules .block
    return .plain (if aside then .asyncWith else .withBlock) line (held ++ body)
  oneOf
    [strictly do
        let _ ← oneOf [invalidIndent openHeader, invalidIndent closedHeader]
        miss,
      statement false true, statement false false, statement true true, statement true false,
      strictly (oneOf
        [do openHeader; let _ ← lineEnd; raiseHere,
          do closedHeader; let _ ← lineEnd; raiseHere])]

/-- The error that a handler takes, perhaps under a name. -/
def handled (rules : Rules) : Parser Node := do
  let error ← one rules .expression
  let _ ← optional importName
  return error

/-- Refuse handlers without a colon or with several errors outside parentheses. -/
def invalidHandler (rules : Rules) : Parser (List Node) :=
  oneOf
    [do
        let _ ← kw "except"
        let _ ← optional (op "*")
        let error ← one rules .expression
        let _ ← op ","
        let _ ← expressions rules
        let _ ← optional importName
        let _ ← op ":"
        raiseAt error.line,
      do
        let _ ← kw "except"
        let _ ← optional (op "*")
        let _ ← handled rules
        let _ ← lineEnd
        raiseHere,
      do
        let _ ← kw "except"
        let _ ← lineEnd
        raiseHere,
      do
        let _ ← kw "except"
        let _ ← op "*"
        let _ ← oneOf [lineEnd, op ":"]
        raiseHere]

/-- A handler of errors. -/
def exceptBlock (rules : Rules) : Parser Node :=
  oneOf
    [strictly do
        let _ ← oneOf
          [invalidIndent (do let _ ← kw "except"; handled rules), invalidIndent (kw "except")]
        miss,
      do
        let mark ← kw "except"
        let error ← handled rules
        let _ ← op ":"
        let body ← rules .block
        return .plain .handler mark.line (error :: body),
      do
        let mark ← kw "except"
        let _ ← op ":"
        let body ← rules .block
        return .plain .handler mark.line body,
      strictly (do let _ ← invalidHandler rules; miss)]

/-- A handler of groups of errors. -/
def exceptStarBlock (rules : Rules) : Parser Node :=
  let header : Parser (Lexeme × Node) := do
    let mark ← kw "except"
    let _ ← op "*"
    let error ← handled rules
    return (mark, error)
  oneOf
    [strictly (do let _ ← invalidIndent header; miss),
      do
        let (mark, error) ← header
        let _ ← op ":"
        let body ← rules .block
        return .plain .handler mark.line (error :: body),
      strictly (do let _ ← invalidHandler rules; miss)]

/-- The block that runs in the end. -/
def finallyBlock (rules : Rules) : Parser (List Node) :=
  oneOf
    [strictly (invalidIndent (kw "finally")),
      do
        let _ ← kw "finally"
        let _ ← forcedOp ":"
        rules .block]

/-- A try statement. -/
def tryBlock (rules : Rules) : Parser Node :=
  let start : Parser (Lexeme × List Node) := do
    let mark ← kw "try"
    let _ ← forcedOp ":"
    let body ← rules .block
    return (mark, body)
  let handlers (rule : Rule) := many1 (one rules rule)
  let handling (kind : Kind) (rule : Rule) : Parser Node := do
    let (mark, body) ← start
    let found ← handlers rule
    let others ← optional (elseBlock rules)
    let final ← optional (finallyBlock rules)
    return .plain kind mark.line (body ++ found ++ others.getD [] ++ final.getD [])
  let plainTry : Parser Unit := do
    let _ ← kw "try"
    let _ ← op ":"
    let _ ← many (rules .block)
    return ()
  oneOf
    [strictly do
        let _ ← oneOf
          [invalidIndent (kw "try"),
            do
              let _ ← kw "try"
              let _ ← op ":"
              let _ ← rules .block
              notAhead (oneOf [kw "except", kw "finally"])
              raiseHere,
            do
              plainTry
              let _ ← oneOf
                [do let _ ← handlers .exceptBlock; one rules .exceptStarBlock,
                  do let _ ← handlers .exceptStarBlock; one rules .exceptBlock]
              let _ ← many (rules .block)
              raiseHere]
        miss,
      do
        let (mark, body) ← start
        let final ← finallyBlock rules
        return .plain .tryBlock mark.line (body ++ final),
      handling .tryBlock .exceptBlock, handling .tryStar .exceptStarBlock]

/-- What a match statement looks at. -/
def matchSubject (rules : Rules) : Parser Node :=
  oneOf
    [do
        let first ← one rules .starNamed
        let _ ← op ","
        let others ← optional (starNamedList rules)
        return .plain .tupleDisplay first.line
          (first :: others.getD [] ++ [.leaf .load first.line]),
      one rules .namedExpression]

/-- One case of a match statement. -/
def matchCase (rules : Rules) : Parser Node :=
  let guardPart := after (kw "if") (one rules .namedExpression)
  let header : Parser (Lexeme × Node × Option Node) := do
    let mark ← soft "case"
    let found ← casePattern rules
    let test ← guardPart
    return (mark, found, test)
  oneOf
    [strictly (do let _ ← oneOf (invalidHeader header); miss),
      do
        let (mark, found, test) ← header
        let _ ← op ":"
        let body ← rules .block
        return .plain .matchCase mark.line (found :: test.toList ++ body)]

/-- A match statement. -/
def matchBlock (rules : Rules) : Parser Node :=
  let header : Parser (Lexeme × Node) := do
    let mark ← soft "match"
    let subject ← matchSubject rules
    return (mark, subject)
  oneOf
    [do
        let (mark, subject) ← header
        let _ ← op ":"
        let _ ← lineEnd
        let _ ← ofKind .indent
        let cases ← many1 (matchCase rules)
        let _ ← ofKind .dedent
        return .plain .matchBlock mark.line (subject :: cases),
      strictly (do let _ ← oneOf (invalidHeader header); miss)]

/-- The decorators before a definition. -/
def decorators (rules : Rules) : Parser (List Node) := do
  let found ← many do
    let _ ← op "@"
    let value ← one rules .namedExpression
    let _ ← lineEnd
    return value
  return found

/-- A definition of a function. -/
def functionDefinition (rules : Rules) : Parser Node :=
  let result := after (op "->") (one rules .expression)
  let header : Parser Unit := do
    let _ ← asideMark
    let _ ← kw "def"
    let _ ← name
    let _ ← op "("
    let _ ← parameters rules .function
    let _ ← op ")"
    let _ ← result
    return ()
  let definition (marks : List Node) (aside : Bool) : Parser Node := do
    let line ← here
    if aside then
      let _ ← kw "async"
    let _ ← kw "def"
    let found ← name
    let _ ← forcedOp "("
    let given ← parameters rules .function
    let _ ← op ")"
    let returned ← result
    let _ ← forcedOp ":"
    let body ← rules .block
    return .mk (if aside then .asyncFunctionDef else .functionDef) line found.payload
      (given :: body ++ marks ++ returned.toList)
  do
    let marks ← decorators rules
    oneOf
      [strictly (do let _ ← invalidIndent header; miss), definition marks false,
        definition marks true]

/-- A definition of a class. -/
def classDefinition (rules : Rules) : Parser Node :=
  let header : Parser (Lexeme × Node × List Node) := do
    let mark ← kw "class"
    let found ← name
    let bases ← optional (argumentList rules)
    return (mark, found, bases.getD [])
  do
    let marks ← decorators rules
    oneOf
      [strictly (do let _ ← oneOf (invalidHeader header); miss),
        do
          let (mark, found, bases) ← header
          let _ ← op ":"
          let body ← rules .block
          return .mk .classDef mark.line found.payload (bases ++ body ++ marks)]

/-- A statement that holds blocks. -/
def compoundStatement (rules : Rules) : Parser (List Node) :=
  let opened (marks : List (Parser Lexeme)) (statement : Parser Node) : Parser (List Node) := do
    ahead (oneOf marks)
    single statement
  oneOf
    [opened [kw "def", op "@", kw "async"] (functionDefinition rules),
      opened [kw "if"] (ifBranch rules "if"),
      opened [kw "class", op "@"] (classDefinition rules),
      opened [kw "with", kw "async"] (withBlock rules),
      opened [kw "for", kw "async"] (forLoop rules),
      opened [kw "try"] (tryBlock rules),
      opened [kw "while"] (whileLoop rules),
      single (matchBlock rules)]

/-- A list of statements. -/
def statements (rules : Rules) : Parser (List Node) := do
  let found ← many1 (oneOf [compoundStatement rules, rules .simpleStatements])
  return found.flatten

end Grammar
end Predicate
end Wordbook
