import Wordbook.Predicate.Grammar.Shared

/-!
# Parameters

The parameters of functions and of nameless functions.  The two differ in the lexeme that ends them
and in whether a parameter may be annotated.
-/

namespace Wordbook
namespace Predicate
namespace Grammar

open Predicate.Parser

/-- Whose parameters are read. -/
inductive ParameterStyle where
  | function
  | nameless
deriving DecidableEq

namespace ParameterStyle

/-- The operator after the parameters. -/
def ending : ParameterStyle → String
  | .function => ")"
  | .nameless => ":"

end ParameterStyle

/-- A parameter with its annotation. -/
def parameter (rules : Rules) (style : ParameterStyle) : Parser Node := do
  let found ← name
  let bound ←
    if style == .function then after (op ":") (one rules .expression) else pure none
  return .mk .parameter found.line found.payload bound.toList

/-- A parameter whose annotation may be starred. -/
def starAnnotated (rules : Rules) : Parser Node := do
  let found ← name
  let _ ← op ":"
  let bound ← one rules .starExpression
  return .mk .parameter found.line found.payload [bound]

/-- A default value. -/
def defaultValue (rules : Rules) (_style : ParameterStyle) : Parser Node :=
  oneOf
    [do let _ ← op "="; one rules .expression,
      strictly do
        let mark ← op "="
        ahead (oneOf [op ")", op ","])
        raiseAt mark.line]

/-- What stands after a parameter. -/
def parameterEnd (style : ParameterStyle) : Parser Unit :=
  oneOf [do let _ ← op ","; return (), ahead (op style.ending)]

/-- A parameter without a default. -/
def bareParameter (rules : Rules) (style : ParameterStyle) : Parser (List Node) := do
  let found ← parameter rules style
  parameterEnd style
  return [found]

/-- A parameter with a default. -/
def defaultedParameter (rules : Rules) (style : ParameterStyle) : Parser (List Node) := do
  let found ← parameter rules style
  let value ← defaultValue rules style
  parameterEnd style
  return [found, value]

/-- A parameter that may have a default. -/
def maybeParameter (rules : Rules) (style : ParameterStyle) : Parser (List Node) := do
  let found ← parameter rules style
  let value ← optional (defaultValue rules style)
  parameterEnd style
  return found :: value.toList

/-- The slash that ends the parameters given by place only. -/
def slashEnd (style : ParameterStyle) : Parser Unit := do
  let _ ← op "/"
  parameterEnd style

/-- Parameters without defaults before a slash. -/
def slashBare (rules : Rules) (style : ParameterStyle) : Parser (List Node) := do
  let found ← many1 (bareParameter rules style)
  slashEnd style
  return found.flatten

/-- Parameters before a slash, the last ones with defaults. -/
def slashDefaulted (rules : Rules) (style : ParameterStyle) : Parser (List Node) := do
  let bare ← many (bareParameter rules style)
  let defaulted ← many1 (defaultedParameter rules style)
  slashEnd style
  return bare.flatten ++ defaulted.flatten

/-- A comma as a parser of trees. -/
def commaAlone : Parser (List Node) := do
  let _ ← op ","
  return []

/-- Refuse what cannot stand at a starred parameter of keywords. -/
def invalidDoubleStar (rules : Rules) (style : ParameterStyle) : Parser (List Node) :=
  oneOf
    [do let _ ← op "**"; let _ ← parameter rules style; let mark ← op "="; raiseAt mark.line,
      do
        let _ ← op "**"
        let _ ← parameter rules style
        let _ ← op ","
        let next ← parameter rules style
        raiseAt next.line,
      do
        let _ ← op "**"
        let _ ← parameter rules style
        let _ ← op ","
        let mark ← oneOf [op "*", op "**", op "/"]
        raiseAt mark.line]

/-- The parameter that takes all other keywords. -/
def doubleStar (rules : Rules) (style : ParameterStyle) : Parser (List Node) :=
  oneOf
    [strictly (invalidDoubleStar rules style),
      do let _ ← op "**"; bareParameter rules style]

/-- Refuse what cannot stand at a starred parameter. -/
def invalidStarParameters (rules : Rules) (style : ParameterStyle) : Parser (List Node) :=
  let ending := op style.ending
  oneOf
    [do
        let mark ← op "*"
        let _ ← oneOf [ending, do let _ ← op ","; oneOf [ending, op "**"]]
        if style == .function then raiseAt mark.line else raiseHere,
      do let _ ← op "*"; let _ ← parameter rules style; let mark ← op "="; raiseAt mark.line,
      do
        let _ ← op "*"
        let _ ← oneOf [bareParameter rules style, commaAlone]
        let _ ← many (maybeParameter rules style)
        let mark ← op "*"
        let _ ← oneOf [bareParameter rules style, commaAlone]
        raiseAt mark.line]

/-- The starred parameter and those after it. -/
def starParameters (rules : Rules) (style : ParameterStyle) : Parser (List Node) :=
  let others : Parser (List Node) := do
    let keywordOnly ← many (maybeParameter rules style)
    let double ← optional (doubleStar rules style)
    return keywordOnly.flatten ++ double.getD []
  oneOf
    [strictly (invalidStarParameters rules style),
      do
        let _ ← op "*"
        let star ← bareParameter rules style
        let more ← others
        return star ++ more,
      do
        if style == .function then
          let _ ← op "*"
          let star ← starAnnotated rules
          parameterEnd style
          let more ← others
          return star :: more
        else miss,
      do
        let _ ← op "*"
        let _ ← op ","
        let keywordOnly ← many1 (maybeParameter rules style)
        let double ← optional (doubleStar rules style)
        return keywordOnly.flatten ++ double.getD [],
      doubleStar rules style]

/-- Parameters before a slash, in one of the two forms. -/
def slashAny (rules : Rules) (style : ParameterStyle) : Parser (List Node) :=
  oneOf [slashBare rules style, slashDefaulted rules style]

/-- Refuse parameters in an order they cannot have. -/
def invalidParameters (rules : Rules) (style : ParameterStyle) : Parser (List Node) :=
  oneOf
    [do
        let _ ← many (bareParameter rules style)
        let _ ← oneOf [slashDefaulted rules style, do
          let found ← many1 (defaultedParameter rules style)
          return found.flatten]
        let bare ← bareParameter rules style
        raiseAt ((bare.head?.map Node.line).getD 1),
      do
        let _ ← many (bareParameter rules style)
        let mark ← op "("
        if style == .function then
          let _ ← many1 (bareParameter rules style)
        else
          let _ ← sepBy1 (op ",") (parameter rules style)
        let _ ← optional (op ",")
        let _ ← op ")"
        raiseAt mark.line,
      do let mark ← op "/"; let _ ← op ","; raiseAt mark.line,
      do
        let _ ← slashAny rules style
        let _ ← many (maybeParameter rules style)
        let mark ← op "/"
        raiseAt mark.line,
      do
        let _ ← optional (slashAny rules style)
        let _ ← many (maybeParameter rules style)
        let _ ← op "*"
        let _ ← oneOf [commaAlone, bareParameter rules style]
        let _ ← many (maybeParameter rules style)
        let mark ← op "/"
        raiseAt mark.line,
      do
        let _ ← many1 (maybeParameter rules style)
        let _ ← op "/"
        let mark ← op "*"
        raiseAt mark.line]

/-- Parameters in an order they can have. -/
def orderedParameters (rules : Rules) (style : ParameterStyle) : Parser (List Node) :=
  let bare := many (bareParameter rules style)
  let defaulted := many (defaultedParameter rules style)
  let star := optional (starParameters rules style)
  oneOf
    [do
        let first ← slashBare rules style
        let second ← bare
        let third ← defaulted
        let fourth ← star
        return first ++ second.flatten ++ third.flatten ++ fourth.getD [],
      do
        let first ← slashDefaulted rules style
        let second ← defaulted
        let third ← star
        return first ++ second.flatten ++ third.getD [],
      do
        let first ← many1 (bareParameter rules style)
        let second ← defaulted
        let third ← star
        return first.flatten ++ second.flatten ++ third.getD [],
      do
        let first ← many1 (defaultedParameter rules style)
        let second ← star
        return first.flatten ++ second.getD [],
      starParameters rules style]

/-- The parameters of a function, which may be none. -/
def parameters (rules : Rules) (style : ParameterStyle) : Parser Node := do
  let line ← here
  let found ← optional
    (oneOf [strictly (invalidParameters rules style), orderedParameters rules style])
  return .plain .parameters line (found.getD [])

end Grammar
end Predicate
end Wordbook
