import Wordbook.Predicate.Method.Coding
import Wordbook.Predicate.Method.Span
import Wordbook.Text.Lines
import Wordbook.Unicode.Case

/-!
# Operations of text
-/

namespace Wordbook
namespace Predicate
namespace TextMethod

/-- Operations without arguments that give a text. -/
def mapping? (name : String) : Option (List Char → List Char) :=
  match name with
  | "capitalize" => some Unicode.capitalize
  | "casefold" => some Unicode.caseFold
  | "lower" => some Unicode.lower
  | "swapcase" => some Unicode.swapCase
  | "title" => some Unicode.title
  | "upper" => some Unicode.upper
  | _ => none

/-- A text that is not empty has only characters of a class. -/
def allOf (within : Char → Bool) (chars : List Char) : Bool :=
  !chars.isEmpty && chars.all within

/-- Operations without arguments that give a truth value. -/
def test? (name : String) : Option (List Char → Bool) :=
  match name with
  | "isalnum" => some (allOf Unicode.isLetterOrNumeral)
  | "isalpha" => some (allOf Unicode.isLetter)
  | "isascii" => some fun chars => chars.all fun char => char.toNat < 128
  | "isdecimal" => some (allOf Unicode.isDecimal)
  | "isdigit" => some (allOf Unicode.isDigit)
  | "isidentifier" => some Unicode.isIdentifier
  | "islower" => some Unicode.allLower
  | "isnumeric" => some (allOf Unicode.isNumeral)
  | "isprintable" => some fun chars => chars.all Unicode.isPrintable
  | "isspace" => some (allOf Text.isBlank)
  | "istitle" => some Unicode.isTitle
  | "isupper" => some Unicode.allUpper
  | _ => none

/-- A value that must be text. -/
def textOf (value : Value) : Except Fault (List Char) :=
  match value with
  | .text text _ => .ok text.toList
  | _ => .error (.typing ("must be str, not " ++ value.label))

/-- The sought text and the span of a search. -/
def sought (name : String) (arguments : Arguments) (length : Nat) :
    Except Fault (Value × Span) := do
  let given ← arguments.takes name ("str." ++ name) 1 3
  return (given.headD .nothing, ← Span.make given[1]? given[2]? length)

/-- A text, or one of a tuple, stands at an edge.  The items of a tuple are looked at in turn, up to
the first one that does. -/
def anyEdge (name : String) (value : Value) (standsAt : List Char → Bool) : Except Fault Bool :=
  match value with
  | .text text _ => .ok (standsAt text.toList)
  | .tuple items _ =>
      items.anyM fun item =>
        match item with
        | .text text _ => .ok (standsAt text.toList)
        | _ =>
            .error (.typing ("tuple for " ++ name ++ " must only contain str, not " ++ item.label))
  | _ =>
      .error (.typing (name ++ " first arg must be str or a tuple of str, not " ++ value.label))

/-- The characters that are trimmed off: blanks if none are given. -/
def trimmed (name : String) (given : List Value) : Except Fault (Char → Bool) :=
  match given with
  | [] | [.nothing] => .ok Text.isBlank
  | [.text text _] => .ok text.toList.contains
  | _ => .error (.typing (name ++ " arg must be None or str"))

/-- The separator of a split, none for runs of blanks. -/
def separator (value : Option Value) : Except Fault (Option (List Char)) :=
  match value with
  | none | some .nothing => .ok none
  | some (.text text _) =>
      if text.isEmpty then .error (.value "empty separator") else .ok (some text.toList)
  | some other => .error (.typing ("must be str or None, not " ++ other.label))

/-- A list of parts of a text. -/
def listOf (whole : Value) (pieces : List (List Char)) : Work Value :=
  Work.newList (pieces.map whole.partOfText).toArray

/-- Split at a separator, or at runs of blanks. -/
def split (name : String) (whole : Value) (chars : List Char) (arguments : Arguments) :
    Work Value := do
  let given ← Work.ofExcept (arguments.bind name 0 ["sep", "maxsplit"] 0 2)
  let count ← match given[1]?.join with
    | some value => Work.ofExcept (wordInteger value)
    | none => pure (-1)
  let limit := limitOf count chars.length
  match ← Work.ofExcept (separator given[0]?.join) with
  | none =>
      listOf (if count = 0 then .nothing else whole)
        (if name == "split" then Text.splitRuns Text.isBlank limit chars
          else Text.splitRunsLast Text.isBlank limit chars)
  | some part =>
      listOf whole
        (if name == "split" then Text.splitFirst part limit chars
          else Text.splitLast part limit chars)

/-- The text before a separator, the separator and the text after it. -/
def partition (name : String) (whole : Value) (chars : List Char) (arguments : Arguments) :
    Except Fault Value := do
  let given ← arguments.single ("str." ++ name)
  let part ← textOf given
  if part.isEmpty then throw (.value "empty separator")
  let blank : Value := .ofChars []
  let cut :=
    if name == "partition" then Text.cutFirst? part chars else Text.cutLast? part chars
  match cut with
  | some (before, after) => return .tuple [.ofChars before, given, .ofChars after]
  | none =>
      return .tuple
        (if name == "partition" then [whole, blank, blank] else [blank, blank, whole])

/-- Pieces joined by a text. -/
def join (chars : List Char) (arguments : Arguments) : Work Value := do
  let given ← Work.ofExcept (arguments.single "str.join")
  let items ← match ← Work.itemsAtHand? given with
    | some items => pure items
    | none =>
        match ← Work.iterator? given with
        | some source => Work.drain source
        | none => Work.raise (.typing "can only join an iterable")
  let pieces ← Work.ofExcept (items.toList.zipIdx.mapM fun (item, place) =>
    match item with
    | .text text _ => .ok text.toList
    | _ =>
        .error (.typing ("sequence item " ++ toString place ++ ": expected str instance, " ++
          item.label ++ " found")))
  match items.toList with
  | [item] => return item
  | _ => return .ofCharsApart (Text.joinWith chars pieces)

/-- Zeros put between a sign and the digits, up to a width. -/
def fillZeros (chars : List Char) (width : Int) : Except Fault (List Char) := do
  let filled ← fillUp .left width '0' chars
  match chars with
  | sign :: rest =>
      if (sign == '+' || sign == '-') && chars.length < filled.length then
        return sign :: List.replicate (filled.length - chars.length) '0' ++ rest
      else return filled
  | [] => return filled

/-- Text filled up to a width with a character. -/
def justify (name : String) (edge : Edge) (chars : List Char) (arguments : Arguments) :
    Except Fault (List Char) := do
  let given ← arguments.between name ("str." ++ name) 1 2
  let width ← wordInteger (given.headD .nothing)
  match (given[1]? : Option Value) with
  | none => fillUp edge width ' ' chars
  | some (.text text _) =>
      match text.toList with
      | [fill] => fillUp edge width fill chars
      | _ => throw (.typing "The fill character must be exactly one character long")
  | some other =>
      throw (.typing ("The fill character must be a unicode character, not " ++ other.label))

/-- Text with parts of it replaced. -/
def replace (whole : Value) (chars : List Char) (arguments : Arguments) : Except Fault Value := do
  let given ← arguments.between "replace" "str.replace" 2 3
  let old ← textArgument "replace" 1 (given.headD .nothing)
  let new ← textArgument "replace" 2 (given.getD 1 .nothing)
  let count ← match given[2]? with
    | some value => wordInteger value
    | none => pure (-1)
  return whole.madeOfText
    (Text.replaceFirst old.toList new.toList (limitOf count chars.length) chars)

/-- Text without a part at one of its ends. -/
def removeEdge (name : String) (whole : Value) (chars : List Char) (arguments : Arguments) :
    Except Fault Value := do
  match ← arguments.single ("str." ++ name) with
  | .text text _ =>
      let part := text.toList
      if name == "removeprefix" then
        return whole.partOfText
          (if part.isPrefixOf chars then chars.drop part.length else chars)
      else
        return whole.partOfText
          (if part.reverse.isPrefixOf chars.reverse then chars.take (chars.length - part.length)
            else chars)
  | other =>
      throw (.typing (name ++ "() argument must be str, not " ++
        (if other.typeOf == .nothing then "None" else other.label)))

/-- The lines of a text, with their ends if asked for. -/
def splitLines (whole : Value) (chars : List Char) (arguments : Arguments) : Work Value := do
  let given ← Work.ofExcept (arguments.bind "splitlines" 0 ["keepends"] 0 1)
  let keep ← match given[0]?.join with
    | some value => Work.ofExcept ((smallInteger value).map fun found => found != 0)
    | none => pure false
  listOf whole ((Text.lines chars).map fun line => if keep then line.1 ++ line.2 else line.1)

/-- A key of a translation table. -/
def tableKey (key : Value) : Except Fault Value :=
  match key with
  | .text text _ =>
      match text.toList with
      | [char] => .ok (.int char.toNat)
      | _ => .error (.value "string keys in translate table must be of length 1")
  | _ =>
      if key.int?.isSome then .ok key
      else .error (.typing "keys in translate table must be strings or integers")

/-- A translation table. -/
def makeTable (arguments : Arguments) : Work Value := do
  let given ← Work.ofExcept (arguments.between "maketrans" "str.maketrans" 1 3)
  match given with
  | [.dict address] =>
      let pairs ← Work.dictPairs address
      let table ← Work.newDict
      for (key, value) in pairs do
        Work.dictSet table (← Work.ofExcept (tableKey key)) value
      return .dict table
  | [_] => Work.raise (.typing "if you give only one argument to maketrans it must be a dict")
  | first :: second :: rest =>
      let target ← Work.ofExcept (textArgument "maketrans" 2 second)
      let dropped ← match rest with
        | third :: _ => Work.ofExcept (textArgument "maketrans" 3 third)
        | [] => pure ""
      match first with
      | .text source _ =>
          let sources := source.toList
          let targets := target.toList
          if sources.length != targets.length then
            Work.raise (.value "the first two maketrans arguments must have equal length")
          else
            let code (char : Char) : Value := .int char.toNat
            let table ← Work.newDict
            let pair (source target : Char) : Value × Value := (code source, code target)
            Work.dictSetAll table (sources.zipWith pair targets ++
              dropped.toList.map fun char => (code char, .nothing))
            return .dict table
      | _ =>
          Work.raise (.typing
            "first maketrans argument must be a string if there is a second argument")
  | [] => return .nothing

/-- What a table gives for a character. -/
def translateChar (heap : Heap) (table : Value) (char : Char) : Except Fault (List Char) :=
  match heap.item table (.int char.toNat) with
  | .error (.missingKey _) => .ok [char]
  | .error (.other .index _) => .ok [char]
  | .error fault => .error fault
  | .ok .nothing => .ok []
  | .ok (.text text _) => .ok text.toList
  | .ok found =>
      match found.int? with
      | some code =>
          if 0 ≤ code && code ≤ 0x10ffff then .ok [Char.ofNat code.toNat]
          else .error (.value "character mapping must be in range(0x110000)")
      | none => .error (.typing "character mapping must return integer, None or str")

/-- An operation that searches. -/
def search (name : String) (chars : List Char) (arguments : Arguments) : Except Fault Value := do
  let (value, span) ← sought name arguments chars.length
  if name == "startswith" || name == "endswith" then
    return .bool (← anyEdge name value fun part =>
      if name == "startswith" then span.startsWith part chars else span.endsWith part chars)
  else
    let part ← textOf value
    let found (place : Option Nat) (must : Bool) : Except Fault Value :=
      match place with
      | some index => .ok (.int index)
      | none => if must then .error (.value "substring not found") else .ok (.int (-1))
    match name with
    | "count" => return .int (span.count part chars)
    | "find" => found (span.find? part chars) false
    | "index" => found (span.find? part chars) true
    | "rfind" => found (span.findLast? part chars) false
    | _ => found (span.findLast? part chars) true

/-- Text trimmed at its ends. -/
def trim (name : String) (whole : Value) (chars : List Char) (arguments : Arguments) :
    Except Fault Value := do
  let dropped ← trimmed name (← arguments.between name ("str." ++ name) 0 1)
  match name with
  | "lstrip" => return whole.partOfText (chars.dropWhile dropped)
  | "rstrip" => return whole.partOfText (Text.trimEndBy dropped chars)
  | _ => return whole.partOfText (Text.trimBy dropped chars)

/-- Text with its tabs filled up. -/
def expand (whole : Value) (chars : List Char) (arguments : Arguments) : Except Fault Value := do
  let given ← arguments.bind "expandtabs" 0 ["tabsize"] 0 1
  let size ← match given[0]?.join with
    | some value => smallInteger value
    | none => pure 8
  return whole.partOfText
    (expandTabs (· == '\t') (fun char => char == '\n' || char == '\r') ' ' size 0 chars)

/-- The names of the operations. -/
def names : List String :=
  ["capitalize", "casefold", "center", "count", "encode", "endswith", "expandtabs", "find", "index",
    "isalnum", "isalpha", "isascii", "isdecimal", "isdigit", "isidentifier", "islower", "isnumeric",
    "isprintable", "isspace", "istitle", "isupper", "join", "ljust", "lower", "lstrip", "maketrans",
    "partition", "removeprefix", "removesuffix", "replace", "rfind", "rindex", "rjust",
    "rpartition", "rsplit", "rstrip", "split", "splitlines", "startswith", "strip", "swapcase",
    "title", "translate", "upper", "zfill"]

/-- Call an operation of a text. -/
def call (name : String) (whole : Value) (chars : List Char)
    (arguments : Arguments) : Work Value := do
  match mapping? name with
  | some change =>
      Work.ofExcept (arguments.nothing ("str." ++ name))
      return .ofCharsApart (change chars)
  | none =>
      match test? name with
      | some test =>
          Work.ofExcept (arguments.nothing ("str." ++ name))
          return .bool (test chars)
      | none =>
          match name with
          | "center" =>
              return whole.madeOfText (← Work.ofExcept (justify name .both chars arguments))
          | "ljust" =>
              return whole.madeOfText (← Work.ofExcept (justify name .right chars arguments))
          | "rjust" =>
              return whole.madeOfText (← Work.ofExcept (justify name .left chars arguments))
          | "zfill" =>
              let width ← Work.ofExcept ((arguments.single "str.zfill").bind wordInteger)
              return whole.madeOfText (← Work.ofExcept (fillZeros chars width))
          | "count" | "find" | "index" | "rfind" | "rindex" | "startswith" | "endswith" =>
              Work.ofExcept (search name chars arguments)
          | "encode" => Work.ofExcept (Coding.encode chars arguments)
          | "expandtabs" => Work.ofExcept (expand whole chars arguments)
          | "join" => join chars arguments
          | "lstrip" | "rstrip" | "strip" => Work.ofExcept (trim name whole chars arguments)
          | "maketrans" => makeTable arguments
          | "partition" | "rpartition" => Work.ofExcept (partition name whole chars arguments)
          | "removeprefix" | "removesuffix" => Work.ofExcept (removeEdge name whole chars arguments)
          | "replace" => Work.ofExcept (replace whole chars arguments)
          | "split" | "rsplit" => split name whole chars arguments
          | "splitlines" => splitLines whole chars arguments
          | _ =>
              let table ← Work.ofExcept (arguments.single "str.translate")
              let pieces ← Work.inspect fun heap => chars.mapM (translateChar heap table)
              return .ofChars pieces.flatten

end TextMethod
end Predicate
end Wordbook
