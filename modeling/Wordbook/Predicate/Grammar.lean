import Wordbook.Predicate.Grammar.Statements

/-!
# The grammar of bodies

The body of every rule, and the three ways to start: a list of statements, an expression that is the
whole text, and the expression of a field in a string.
-/

namespace Wordbook
namespace Predicate
namespace Grammar

open Predicate.Parser

/-- Refused as an assignment without its value: what `invalidNamed` must not start with. -/
def displayAhead (rules : Rules) : Parser Unit := do
  let _ ← oneOf
    [list rules, tuple rules, generator rules, wordValue "True" (.bool true),
      wordValue "None" .nothing, wordValue "False" (.bool false)]
  return ()

/-- The body of each rule. -/
def body (rules : Rules) : Rule → Parser (List Node)
  | .statements => statements rules
  | .simpleStatements => simpleStatements rules
  | .simpleStatement => simpleStatement rules
  | .block => block rules
  | .elifStatement => single (ifBranch rules "elif")
  | .exceptBlock => single (exceptBlock rules)
  | .exceptStarBlock => single (exceptStarBlock rules)
  | .expression => single (expression rules)
  | .starExpressions => single (tupleOf (one rules .starExpression))
  | .starExpression => single (oneOf [starred (one rules .bitOr), one rules .expression])
  | .starNamed => single (starNamed rules)
  | .namedExpression => single (namedExpression rules)
  | .invalidNamed => single (invalidNamedExpression rules (displayAhead rules))
  | .disjunction => single (logical rules "or" .orOp .conjunction)
  | .conjunction => single (logical rules "and" .andOp .inversion)
  | .inversion => single (inversion rules)
  | .bitOr => single (leftGrouped rules .bitOr .bitXor [("|", .bitOr)])
  | .bitXor => single (leftGrouped rules .bitXor .bitAnd [("^", .bitXor)])
  | .bitAnd => single (leftGrouped rules .bitAnd .shift [("&", .bitAnd)])
  | .shift => single (leftGrouped rules .shift .sum [("<<", .lShift), (">>", .rShift)])
  | .sum => single (leftGrouped rules .sum .term [("+", .add), ("-", .subtract)])
  | .term =>
      single (leftGrouped rules .term .factor
        [("*", .multiply), ("/", .divide), ("//", .floorDivide), ("%", .modulo), ("@", .matMult)])
  | .factor => single (factor rules)
  | .power => single (power rules)
  | .awaitPrimary => single (awaitPrimary rules)
  | .primary => single (primary rules)
  | .slices => single (slices rules)
  | .arguments => arguments rules
  | .args => args rules
  | .starTargets => single (starTargets rules)
  | .starTarget => single (starTarget rules)
  | .targetWithStar => single (targetWithStar rules)
  | .singleTarget => single (singleTarget rules)
  | .targetPrimary => single (targetPrimary rules)
  | .deleteTarget => single (deleteTarget rules)
  | .annotatedTarget => single (annotatedTarget rules)
  | .dottedName => single (dottedName rules)
  | .attribute => single (attributeChain rules)
  | .nameOrAttribute => single (nameOrAttribute rules)
  | .pattern => single (pattern rules)
  | .closedPattern => single (closedPattern rules)
  | .starPattern => single starPattern

/-- How deep rules may be nested in each other. -/
def depthLimit : Nat := 6000

/-- The parsers of all rules. -/
def rules : Rules := Rule.parsers body depthLimit

/-- What a text is to be. -/
inductive Goal where
  | statements
  | expression
  | field
deriving DecidableEq

/-- The parser of a whole text. -/
def Goal.parser : Goal → Parser (List Node)
  | .statements => do
      let found ← optional (rules .statements)
      let _ ← ofKind .finish
      return found.getD []
  | .expression => do
      let found ← expressions rules
      let _ ← many lineEnd
      let _ ← ofKind .finish
      return [found]
  | .field => rules .starExpressions

end Grammar

/-- The strings that follow each other from a place on; `count` bounds them. -/
def stringsFrom (lexemes : Array Lexeme) : (count place : Nat) → List Lexeme
  | 0, _ => []
  | count + 1, place =>
      match lexemes[place]? with
      | some lexeme =>
          if lexeme.kind == .string then lexeme :: stringsFrom lexemes count (place + 1) else []
      | none => []

/-- A text as lexemes, with the trees of its strings; the fields in them are parsed by a
function. -/
def Source.ofText (parse : Literal.FieldParser) (line : Nat) (chars : List Char) : Source :=
  let (lexemes, fault) := Lexeme.cut line chars
  let found := lexemes.toArray
  let strings (mark : Nat) : Except LiteralFault Node × Nat :=
    let run := stringsFrom found found.size mark
    (Literal.ofStrings parse run, run.length)
  ⟨found, fault, strings⟩

namespace Source

/-- The cursor at the start of a run. -/
def start (source : Source) (strict : Bool) : Cursor :=
  ⟨0, 0, Array.replicate (source.lexemes.size + 1) [], strict, false⟩

/-- The line of the last of a number of lexemes. -/
def lineOf (source : Source) (seen : Nat) : Nat :=
  ((source.lexemes[seen - 1]?).map Lexeme.line).getD 1

/-- The line at which a text is refused, when the grammar objects at a line after a number of
lexemes were looked at: a fault in cutting the rest may take its place. -/
def refusal (source : Source) (line seen : Nat) : Nat :=
  match source.fault with
  | none => line
  | some fault =>
      if fault.reported then fault.line
      else
        match fault.openLine with
        | some openLine => if source.lineOf seen > openLine then openLine else line
        | none => line

/-- The refusal for a fault. -/
def refuse (source : Source) : ParseFault → ParseFault
  | .grammatical line seen => .grammatical (source.refusal line seen) seen
  | fault => fault

/-- Parse a whole text: a first run finds the trees, and if it misses, a strict one finds the line
to report, which else is that of the last lexeme looked at. -/
def parse (source : Source) (goal : Grammar.Goal) : Except ParseFault (List Node) :=
  match goal.parser source (source.start false) with
  | .matched trees _ => .ok trees
  | .failed fault => .error (source.refuse fault)
  | .missed first =>
      match goal.parser source (source.start true) with
      | .failed fault => .error (source.refuse fault)
      | .matched _ second => .error (general first.seen second.seen)
      | .missed second => .error (general first.seen second.seen)
where
  /-- The refusal when no reason was found. -/
  general (first second : Nat) : ParseFault :=
    let last := source.lexemes[first - 1]?
    if last.any fun lexeme => lexeme.kind == .indent || lexeme.kind == .dedent then
      .grammatical (source.lineOf second) second
    else .grammatical (source.refusal (source.lineOf first) second) second

end Source

/-- The line that a fault is reported at. -/
def ParseFault.line? : ParseFault → Option Nat
  | .lexical line => some line
  | .grammatical line _ => some line
  | .tooDeep => none

/-- Parse a text that starts on a line; `depth` bounds how deep strings with fields nest. -/
def parseText : Nat → Grammar.Goal → Nat → List Char → Except ParseFault (List Node)
  | 0, _, _, _ => .error .tooDeep
  | depth + 1, goal, line, chars =>
      let field : Literal.FieldParser := fun fieldLine fieldChars =>
        match parseText depth .field fieldLine fieldChars with
        | .ok [node] => .ok node
        | .ok _ => .error .here
        | .error fault =>
            match fault.line? with
            | some faultLine => .error (.onLine faultLine)
            | none => .error .tooDeep
      (Source.ofText field line chars).parse goal

/-- How deep strings with fields may nest. -/
def fieldDepth : Nat := 100

/-- Parse a text of statements or an expression. -/
def parse (goal : Grammar.Goal) (chars : List Char) : Except ParseFault (List Node) :=
  parseText fieldDepth goal 1 chars

end Predicate
end Wordbook
