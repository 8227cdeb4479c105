/-!
# Searching

Where a part stands in a sequence of characters or bytes, and what lies between its occurrences.
Occurrences do not overlap: the next is looked for after the end of the last.
-/

namespace Wordbook
namespace Text

variable {Symbol : Type} [BEq Symbol]

/-- The first place of a part, places being counted from an index on. -/
def findFrom? (part : List Symbol) (index : Nat) : List Symbol → Option Nat
  | [] => if part.isEmpty then some index else none
  | symbol :: rest =>
      if part.isPrefixOf (symbol :: rest) then some index else findFrom? part (index + 1) rest

/-- The first place of a part. -/
def find? (part symbols : List Symbol) : Option Nat := findFrom? part 0 symbols

/-- The last place of a part. -/
def findLast? (part symbols : List Symbol) : Option Nat :=
  (find? part.reverse symbols.reverse).map fun index => symbols.length - (index + part.length)

/-- What stands before the first occurrence of a part and after it; `taken` holds the reversed
symbols before. -/
def cutFirstFrom? (part taken : List Symbol) : List Symbol → Option (List Symbol × List Symbol)
  | [] => none
  | symbol :: rest =>
      if part.isPrefixOf (symbol :: rest) then
        some (taken.reverse, (symbol :: rest).drop part.length)
      else cutFirstFrom? part (symbol :: taken) rest

/-- What stands before the first occurrence of a part that is not empty, and after it. -/
def cutFirst? (part symbols : List Symbol) : Option (List Symbol × List Symbol) :=
  cutFirstFrom? part [] symbols

/-- What stands before the last occurrence of a part that is not empty, and after it. -/
def cutLast? (part symbols : List Symbol) : Option (List Symbol × List Symbol) :=
  (cutFirst? part.reverse symbols.reverse).map fun cut => (cut.2.reverse, cut.1.reverse)

/-- The pieces between the first occurrences of a part that is not empty, so many at most. -/
def splitFirst (part : List Symbol) : (limit : Nat) → List Symbol → List (List Symbol)
  | 0, symbols => [symbols]
  | limit + 1, symbols =>
      match cutFirst? part symbols with
      | none => [symbols]
      | some (before, after) => before :: splitFirst part limit after

/-- The pieces between the last occurrences of a part that is not empty, so many at most. -/
def splitLast (part : List Symbol) (limit : Nat) (symbols : List Symbol) : List (List Symbol) :=
  ((splitFirst part.reverse limit symbols.reverse).map List.reverse).reverse

/-- How often a part that is not empty occurs. -/
def occurrences (part symbols : List Symbol) : Nat :=
  (splitFirst part symbols.length symbols).length - 1

/-- The first occurrences of a part, so many at most, replaced; an empty part stands before every
symbol and at the end. -/
def replaceFirst (part replacement : List Symbol) (limit : Nat) (symbols : List Symbol) :
    List Symbol :=
  if part.isEmpty then
    let spread := (symbols.take limit).flatMap fun symbol => replacement ++ [symbol]
    spread ++ symbols.drop limit ++ (if symbols.length < limit then replacement else [])
  else
    match splitFirst part limit symbols with
    | [] => []
    | first :: rest => first ++ rest.flatMap fun piece => replacement ++ piece

/-- The pieces between runs of the symbols of a class, so many cuts at most; what is left after the
last cut keeps its own runs, but for one at its start. -/
def splitRuns (gap : Symbol → Bool) : (limit : Nat) → List Symbol → List (List Symbol)
  | limit, symbols =>
      let body := symbols.dropWhile gap
      if body.isEmpty then []
      else
        match limit with
        | 0 => [body]
        | limit + 1 =>
            body.takeWhile (fun symbol => !gap symbol) ::
              splitRuns gap limit (body.dropWhile fun symbol => !gap symbol)

/-- The pieces between runs of the symbols of a class, cut from the end. -/
def splitRunsLast (gap : Symbol → Bool) (limit : Nat) (symbols : List Symbol) :
    List (List Symbol) :=
  ((splitRuns gap limit symbols.reverse).map List.reverse).reverse

end Text
end Wordbook
