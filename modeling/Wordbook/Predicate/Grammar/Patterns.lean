import Wordbook.Predicate.Grammar.Targets

/-!
# Patterns

The patterns of a match statement.  Bodies are not allowed to hold one, but where the text of one is
refused depends on how it is read.
-/

namespace Wordbook
namespace Predicate
namespace Grammar

open Predicate.Parser

/-- A number with an optional minus sign. -/
def signedNumber : Parser Node :=
  oneOf
    [number,
      do
        let mark ← op "-"
        let value ← number
        return .unary mark.line .uSub value]

/-- A literal is an imaginary number. -/
def isImaginary (node : Node) : Bool :=
  match node.payload with
  | .literal (.imaginary _) => true
  | _ => false

/-- A real number in a sum with an imaginary one; numbers of the other sort are refused. -/
def complexNumber : Parser Node := do
  let sign ← optional (op "-")
  let real ← number
  if isImaginary real then raiseAt real.line
  else
    let operator ← oneOf
      [do let _ ← op "+"; return Kind.add, do let _ ← op "-"; return Kind.subtract]
    let imaginary ← number
    if isImaginary imaginary then
      let left := if sign.isSome then Node.unary real.line .uSub real else real
      return .binary left.line left operator imaginary
    else raiseAt imaginary.line

/-- A number that no sign follows. -/
def wholeNumber : Parser Node := do
  let found ← signedNumber
  notAhead (oneOf [op "+", op "-"])
  return found

/-- A literal that can stand in a pattern. -/
def patternLiteral : Parser Node :=
  oneOf
    [wholeNumber, complexNumber, strings, wordValue "None" .nothing,
      wordValue "True" (.bool true), wordValue "False" (.bool false)]

/-- A name that a pattern binds. -/
def captureName : Parser Node := do
  notAhead (soft "_")
  let found ← name
  notAhead (oneOf [op ".", op "(", op "="])
  return found

/-- A name or a chain of attributes. -/
def nameOrAttribute (rules : Rules) : Parser Node := oneOf [one rules .attribute, name]

/-- A chain of attributes. -/
def attributeChain (rules : Rules) : Parser Node := do
  let base ← one rules .nameOrAttribute
  let _ ← op "."
  let member ← name
  return .mk .attribute base.line member.payload [base, .leaf .load base.line]

/-- A pattern with a star, or one without. -/
def maybeStarPattern (rules : Rules) : Parser Node :=
  oneOf [one rules .starPattern, one rules .pattern]

/-- Patterns with commas between and perhaps one behind. -/
def patternSequence (rules : Rules) : Parser (List Node) := do
  let found ← sepBy1 (op ",") (maybeStarPattern rules)
  let _ ← optional (op ",")
  return found

/-- A pattern with a comma behind it, and perhaps more. -/
def openSequence (rules : Rules) : Parser (List Node) := do
  let first ← maybeStarPattern rules
  let _ ← op ","
  let others ← optional (patternSequence rules)
  return first :: others.getD []

/-- The pattern that takes the rest of a mapping. -/
def restPattern : Parser Node := do
  let _ ← op "**"
  captureName

/-- A key and its pattern. -/
def keyPattern (rules : Rules) : Parser (List Node) := do
  let key ← oneOf [patternLiteral, one rules .attribute]
  let _ ← op ":"
  let value ← one rules .pattern
  return [key, value]

/-- A pattern of a mapping. -/
def mappingPattern (rules : Rules) : Parser Node :=
  let finish (mark : Lexeme) (parts : List Node) : Parser Node := do
    let _ ← optional (op ",")
    let _ ← op "\x7d"
    return .plain .matchMapping mark.line parts
  oneOf
    [do
        let mark ← op "\x7b"
        let _ ← op "\x7d"
        return .leaf .matchMapping mark.line,
      do
        let mark ← op "\x7b"
        let _ ← restPattern
        finish mark [],
      do
        let mark ← op "\x7b"
        let items ← sepBy1 (op ",") (keyPattern rules)
        let _ ← op ","
        let _ ← restPattern
        finish mark items.flatten,
      do
        let mark ← op "\x7b"
        let items ← sepBy1 (op ",") (keyPattern rules)
        finish mark items.flatten]

/-- A pattern for a keyword of a class. -/
def keywordPattern (rules : Rules) : Parser Node := do
  let _ ← name
  let _ ← op "="
  one rules .pattern

/-- A pattern of a class. -/
def classPattern (rules : Rules) : Parser Node :=
  let placed := sepBy1 (op ",") (one rules .pattern)
  let keyed := sepBy1 (op ",") (keywordPattern rules)
  let start : Parser Node := do
    let base ← one rules .nameOrAttribute
    let _ ← op "("
    return base
  let finish (base : Node) (parts : List Node) : Parser Node := do
    let _ ← optional (op ",")
    let _ ← op ")"
    return .plain .matchClass base.line (base :: parts)
  oneOf
    [do
        let base ← start
        let _ ← op ")"
        return .plain .matchClass base.line [base],
      do
        let base ← start
        let parts ← placed
        finish base parts,
      do
        let base ← start
        let parts ← keyed
        finish base parts,
      do
        let base ← start
        let first ← placed
        let _ ← op ","
        let second ← keyed
        finish base (first ++ second),
      strictly do
        let _ ← start
        let _ ← optional (do let found ← placed; let _ ← op ","; return found)
        let _ ← keyed
        let _ ← op ","
        let late ← placed
        raiseAt (firstLine late)]

/-- A pattern that is no choice. -/
def closedPattern (rules : Rules) : Parser Node :=
  oneOf
    [do
        let value ← patternLiteral
        let kind := if value.payload matches .literal (.bool _) | .literal .nothing then
          Kind.matchSingleton else Kind.matchValue
        return .plain kind value.line (if kind == .matchValue then [value] else []),
      do
        let found ← captureName
        return .mk .matchAs found.line found.payload [],
      do
        let mark ← soft "_"
        return .leaf .matchAs mark.line,
      do
        let found ← one rules .attribute
        notAhead (oneOf [op ".", op "(", op "="])
        return .plain .matchValue found.line [found],
      do
        let _ ← op "("
        let found ← one rules .pattern
        let _ ← op ")"
        return found,
      do
        let mark ← op "["
        let parts ← optional (patternSequence rules)
        let _ ← op "]"
        return .plain .matchSequence mark.line (parts.getD []),
      do
        let mark ← op "("
        let parts ← optional (openSequence rules)
        let _ ← op ")"
        return .plain .matchSequence mark.line (parts.getD []),
      mappingPattern rules, classPattern rules]

/-- A pattern with a star. -/
def starPattern : Parser Node :=
  oneOf
    [do
        let mark ← op "*"
        let found ← captureName
        return .mk .matchStar mark.line found.payload [],
      do
        let mark ← op "*"
        let _ ← soft "_"
        return .leaf .matchStar mark.line]

/-- A choice of patterns. -/
def choicePattern (rules : Rules) : Parser Node := do
  let found ← sepBy1 (op "|") (one rules .closedPattern)
  match found with
  | [only] => return only
  | _ => return .plain .matchOr (firstLine found) found

/-- A pattern, whose value may get a name. -/
def pattern (rules : Rules) : Parser Node :=
  oneOf
    [do
        let found ← choicePattern rules
        let _ ← kw "as"
        let target ← captureName
        return .mk .matchAs found.line target.payload [found],
      strictly (oneOf
        [do
            let _ ← choicePattern rules
            let _ ← kw "as"
            let mark ← soft "_"
            raiseAt mark.line,
          do
            let _ ← choicePattern rules
            let _ ← kw "as"
            notAhead name
            let target ← one rules .expression
            raiseAt target.line]),
      choicePattern rules]

/-- The pattern of a case, which may be a sequence without brackets. -/
def casePattern (rules : Rules) : Parser Node :=
  oneOf
    [do
        let found ← openSequence rules
        return .plain .matchSequence (firstLine found) found,
      one rules .pattern]

end Grammar
end Predicate
end Wordbook
