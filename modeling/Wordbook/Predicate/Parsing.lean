import Wordbook.Predicate.Literal
import Wordbook.Unicode.Composition

/-!
# Parsing expression grammars

A parser looks at lexemes from a mark on and gives a value and a later mark, or misses, or fails for
good.  Results of some rules are remembered by place; rules that refer to themselves on the left
grow their match until it gets no longer.  A second, strict run looks for the reason of a miss.
-/

namespace Wordbook
namespace Predicate

/-- The rules whose results are remembered or that refer to each other. -/
inductive Rule where
  | statements
  | simpleStatements
  | simpleStatement
  | block
  | elifStatement
  | exceptBlock
  | exceptStarBlock
  | expression
  | starExpressions
  | starExpression
  | starNamed
  | namedExpression
  | invalidNamed
  | disjunction
  | conjunction
  | inversion
  | bitOr
  | bitXor
  | bitAnd
  | shift
  | sum
  | term
  | factor
  | power
  | awaitPrimary
  | primary
  | slices
  | arguments
  | args
  | starTargets
  | starTarget
  | targetWithStar
  | singleTarget
  | targetPrimary
  | deleteTarget
  | annotatedTarget
  | dottedName
  | attribute
  | nameOrAttribute
  | pattern
  | closedPattern
  | starPattern
deriving DecidableEq

/-- How the result of a rule is kept: not at all, by place, or by place while its match grows. -/
inductive Keeping where
  | none
  | byPlace
  | growing

/-- How the result of each rule is kept. -/
def Rule.keeping : Rule → Keeping
  | .simpleStatement => .byPlace
  | .block => .byPlace
  | .expression => .byPlace
  | .starExpression => .byPlace
  | .invalidNamed => .byPlace
  | .disjunction => .byPlace
  | .conjunction => .byPlace
  | .inversion => .byPlace
  | .factor => .byPlace
  | .awaitPrimary => .byPlace
  | .arguments => .byPlace
  | .starTarget => .byPlace
  | .targetWithStar => .byPlace
  | .deleteTarget => .byPlace
  | .closedPattern => .byPlace
  | .starPattern => .byPlace
  | .bitOr => .growing
  | .bitXor => .growing
  | .bitAnd => .growing
  | .shift => .growing
  | .sum => .growing
  | .term => .growing
  | .primary => .growing
  | .targetPrimary => .growing
  | .dottedName => .growing
  | .attribute => .growing
  | .nameOrAttribute => .growing
  | _ => .none

/-- A remembered result: the trees, or nothing for a miss, and the mark after it. -/
structure Remembered where
  rule : Rule
  trees : Option (List Node)
  stop : Nat

/-- Why a text is refused: at a line where it cannot be cut, or at a line where the grammar objects
when a number of lexemes have been looked at, or because it is nested too deeply. -/
inductive ParseFault where
  | lexical (line : Nat)
  | grammatical (line seen : Nat)
  | tooDeep

/-- The lexemes of a text, where cutting it failed, and the tree or fault of the strings that start
at a mark together with their number. -/
structure Source where
  lexemes : Array Lexeme
  fault : Option LexFault
  strings : Nat → Except LiteralFault Node × Nat

/-- Where a parser stands: its mark, how many lexemes were looked at, what is remembered, whether
the run is strict, and whether the current choice is settled. -/
structure Cursor where
  mark : Nat
  seen : Nat
  memory : Array (List Remembered)
  strict : Bool
  settled : Bool

/-- What a parser gives. -/
inductive Attempt (Result : Type) where
  | matched (value : Result) (cursor : Cursor)
  | missed (cursor : Cursor)
  | failed (fault : ParseFault)

/-- A parser of results. -/
def Parser (Result : Type) : Type := Source → Cursor → Attempt Result

namespace Parser

variable {First Second : Type}

/-- Match nothing and give a value. -/
def give (value : First) : Parser First := fun _ cursor => .matched value cursor

/-- Match one thing after another. -/
def andThen (first : Parser First) (next : First → Parser Second) : Parser Second :=
  fun source cursor =>
    match first source cursor with
    | .matched value after => next value source after
    | .missed after => .missed after
    | .failed fault => .failed fault

instance : Monad Parser where
  pure := give
  bind := andThen

/-- Match never. -/
def miss : Parser First := fun _ cursor => .missed cursor

/-- The lexeme at the mark, which counts as looked at. -/
def peek : Parser Lexeme := fun source cursor =>
  match source.lexemes[cursor.mark]? with
  | some lexeme => .matched lexeme { cursor with seen := max cursor.seen (cursor.mark + 1) }
  | none =>
      match source.fault with
      | some fault => .failed (.lexical fault.line)
      | none => .missed cursor

/-- Step over the lexeme at the mark. -/
def advance : Parser Unit := fun _ cursor => .matched () { cursor with mark := cursor.mark + 1 }

/-- Match a lexeme that passes a test. -/
def lexeme (test : Lexeme → Bool) : Parser Lexeme := do
  let found ← peek
  if test found then
    advance
    return found
  else miss

/-- Match an operator. -/
def op (symbol : String) : Parser Lexeme :=
  lexeme fun found => found.kind == .operator && found.text == symbol

/-- Match a keyword. -/
def kw (word : String) : Parser Lexeme :=
  lexeme fun found => found.kind == .keyword && found.text == word

/-- Match a name that is spelled like a word that is a keyword only in places. -/
def soft (word : String) : Parser Lexeme :=
  lexeme fun found => found.kind == .name && found.text == word

/-- Match a lexeme of a kind. -/
def ofKind (kind : LexemeKind) : Parser Lexeme := lexeme fun found => found.kind == kind

/-- Match the end of a line. -/
def lineEnd : Parser Lexeme := ofKind .lineEnd

/-- Refuse the text at a line. -/
def raiseAt (line : Nat) : Parser First := fun _ cursor => .failed (.grammatical line cursor.seen)

/-- Refuse the text at the last lexeme that was looked at. -/
def raiseHere : Parser First := fun source cursor =>
  .failed (.grammatical ((source.lexemes[cursor.seen - 1]?.map Lexeme.line).getD 1) cursor.seen)

/-- Match an operator that must stand here. -/
def forcedOp (symbol : String) : Parser Lexeme := do
  let found ← peek
  if found.kind == .operator && found.text == symbol then
    advance
    return found
  else raiseAt found.line

/-- The line of the lexeme at the mark. -/
def here : Parser Nat := do
  let found ← peek
  return found.line

/-- Settle the current choice: if what follows misses, no other alternative is tried. -/
def settle : Parser Unit := fun _ cursor => .matched () { cursor with settled := true }

/-- Match only in a strict run. -/
def strictly (parser : Parser First) : Parser First := fun source cursor =>
  if cursor.strict then parser source cursor else .missed cursor

/-- Match without the alternatives of a strict run. -/
def leniently (parser : Parser First) : Parser First := fun source cursor =>
  let strict := cursor.strict
  match parser source { cursor with strict := false } with
  | .matched value after => .matched value { after with strict := strict }
  | .missed after => .missed { after with strict := strict }
  | .failed fault => .failed fault

/-- Match the first alternative that does, from a mark on. -/
def firstOf (mark : Nat) (settled : Bool) : List (Parser First) → Parser First
  | [] => fun _ cursor => .missed { cursor with mark := mark, settled := settled }
  | alternative :: others => fun source cursor =>
      match alternative source { cursor with mark := mark, settled := false } with
      | .matched value after => .matched value { after with settled := settled }
      | .missed after =>
          if after.settled then .missed { after with mark := mark, settled := settled }
          else firstOf mark settled others source after
      | .failed fault => .failed fault

/-- Match the first alternative that does. -/
def oneOf (alternatives : List (Parser First)) : Parser First := fun source cursor =>
  let mark := cursor.mark
  let settled := cursor.settled
  firstOf mark settled alternatives source cursor

/-- Match if possible. -/
def optional (parser : Parser First) : Parser (Option First) := fun source cursor =>
  let mark := cursor.mark
  let settled := cursor.settled
  match parser source cursor with
  | .matched value after => .matched (some value) after
  | .missed after => .matched none { after with mark := mark, settled := settled }
  | .failed fault => .failed fault

/-- Match as often as possible, `fuel` bounding the number. -/
def manyFrom (parser : Parser First) : Nat → List First → Parser (List First)
  | 0, found => give found.reverse
  | fuel + 1, found => fun source cursor =>
      let mark := cursor.mark
      let settled := cursor.settled
      match parser source cursor with
      | .matched value after => manyFrom parser fuel (value :: found) source after
      | .missed after =>
          .matched found.reverse { after with mark := mark, settled := settled }
      | .failed fault => .failed fault

/-- Match as often as possible. -/
def many (parser : Parser First) : Parser (List First) := fun source cursor =>
  manyFrom parser (source.lexemes.size + 1) [] source cursor

/-- Match at least once. -/
def many1 (parser : Parser First) : Parser (List First) := do
  let first ← parser
  let others ← many parser
  return first :: others

/-- Match at least once with separators between. -/
def sepBy1 (separator : Parser Second) (parser : Parser First) : Parser (List First) := do
  let first ← parser
  let others ← many (do let _ ← separator; parser)
  return first :: others

/-- Match without moving the mark. -/
def ahead (parser : Parser First) : Parser Unit := fun source cursor =>
  let mark := cursor.mark
  let settled := cursor.settled
  match parser source cursor with
  | .matched _ after =>
      .matched () { after with mark := mark, settled := settled }
  | .missed after => .missed { after with mark := mark, settled := settled }
  | .failed fault => .failed fault

/-- Match if something does not, without moving the mark. -/
def notAhead (parser : Parser First) : Parser Unit := fun source cursor =>
  let mark := cursor.mark
  let settled := cursor.settled
  match parser source cursor with
  | .matched _ after => .missed { after with mark := mark, settled := settled }
  | .missed after => .matched () { after with mark := mark, settled := settled }
  | .failed fault => .failed fault

/-- Match a name. -/
def name : Parser Node := do
  let found ← ofKind .name
  return Node.named found.line
    (String.ofList (Unicode.compose found.text.toList)) .load

/-- Match a number. -/
def number : Parser Node := do
  let found ← ofKind .number
  match Literal.ofNumber? found.text with
  | some value => return Node.constant found.line value
  | none => raiseAt found.line

/-- Match adjacent strings. -/
def strings : Parser Node := fun source cursor =>
  match peek source cursor with
  | .matched found after =>
      if found.kind == .string then
        let (tree, count) := source.strings after.mark
        let next : Cursor := { after with mark := after.mark + count }
        match (peek source next : Attempt Lexeme) with
        | .failed fault => .failed fault
        | .missed _ => .missed after
        | .matched _ seenNext =>
            match tree with
            | .ok node => .matched node seenNext
            | .error (.onLine line) => .failed (.grammatical line seenNext.seen)
            | .error .here => raiseHere source seenNext
            | .error .tooDeep => .failed .tooDeep
      else .missed after
  | .missed after => .missed after
  | .failed fault => .failed fault

/-- How deep the lexeme before the mark stands in brackets. -/
def depthBefore : Parser Nat := fun source cursor =>
  .matched ((source.lexemes[cursor.mark - 1]?.map Lexeme.depth).getD 0) cursor

end Parser

/-- What is remembered of a rule at a mark. -/
def Cursor.recall? (cursor : Cursor) (rule : Rule) (mark : Nat) : Option Remembered :=
  (cursor.memory[mark]?).bind fun entries => entries.find? fun entry => entry.rule == rule

/-- An entry put in the place of the one for its rule, or added. -/
def replaceEntry (entry : Remembered) : List Remembered → List Remembered
  | [] => [entry]
  | first :: others =>
      if first.rule == entry.rule then entry :: others else first :: replaceEntry entry others

/-- Remember a result of a rule at a mark. -/
def Cursor.remember (cursor : Cursor) (rule : Rule) (mark : Nat) (trees : Option (List Node))
    (stop : Nat) : Cursor :=
  { cursor with memory := cursor.memory.modify mark (replaceEntry ⟨rule, trees, stop⟩) }

/-- The parsers of the rules. -/
abbrev Rules := Rule → Parser (List Node)

namespace Rule

/-- Use what is remembered of a rule, or run it and remember the result. -/
def remembered (rule : Rule) (body : Parser (List Node)) : Parser (List Node) :=
  fun source cursor =>
    let mark := cursor.mark
    match cursor.recall? rule mark with
    | some entry =>
        match entry.trees with
        | some trees => .matched trees { cursor with mark := entry.stop }
        | none => .missed { cursor with mark := entry.stop }
    | none =>
        match body source cursor with
        | .matched trees after => .matched trees (after.remember rule mark (some trees) after.mark)
        | .missed after => .missed (after.remember rule mark none after.mark)
        | .failed fault => .failed fault

/-- Grow the match of a rule that refers to itself on the left: every round sees the match before as
its own result, and the first one that gets no further ends the growth. -/
def grow (rule : Rule) (body : Parser (List Node)) (mark : Nat) :
    Nat → Option (List Node) → Nat → Parser (List Node)
  | 0, _, _ => Parser.miss
  | fuel + 1, best, bestMark => fun source cursor =>
      let seeded := cursor.remember rule mark best cursor.mark
      match body source { seeded with mark := mark } with
      | .failed fault => .failed fault
      | .matched trees after =>
          if after.mark ≤ bestMark then finishGrowth best bestMark after
          else grow rule body mark fuel (some trees) after.mark source after
      | .missed after => finishGrowth best bestMark after
where
  /-- End the growth with the best match. -/
  finishGrowth (best : Option (List Node)) (bestMark : Nat) (after : Cursor) :
      Attempt (List Node) :=
    match best with
    | some trees => .matched trees { after with mark := bestMark }
    | none => .missed { after with mark := bestMark }

/-- Use what is remembered of a rule that refers to itself on the left, or grow its match. -/
def growing (rule : Rule) (body : Parser (List Node)) : Parser (List Node) :=
  fun source cursor =>
    let mark := cursor.mark
    match cursor.recall? rule mark with
    | some entry =>
        match entry.trees with
        | some trees => .matched trees { cursor with mark := entry.stop }
        | none => .missed { cursor with mark := entry.stop }
    | none => grow rule body mark (source.lexemes.size + 2) none mark source cursor

/-- The parsers of all rules of a grammar, each nested at most a number of times.  A rule whose
match grows counts twice: for what is remembered, and for its body. -/
def parsers (grammar : Rules → Rules) : Nat → Rules
  | 0 => fun _ _ _ => .failed .tooDeep
  | depth + 1 => fun rule =>
      match rule.keeping with
      | .none => grammar (parsers grammar depth) rule
      | .byPlace => rule.remembered (grammar (parsers grammar depth) rule)
      | .growing =>
          match depth with
          | 0 => fun _ _ => .failed .tooDeep
          | lower + 1 => rule.growing (grammar (parsers grammar lower) rule)

end Rule
end Predicate
end Wordbook
