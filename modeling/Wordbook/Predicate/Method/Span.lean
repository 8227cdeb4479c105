import Wordbook.Predicate.FieldLayout
import Wordbook.Predicate.Signature

/-!
# Spans of text and bytes

Searching text or bytes within a span that two optional bounds give.
-/

namespace Wordbook
namespace Predicate

/-- A span of a sequence; it may be turned around, and then holds nothing. -/
structure Span where
  start : Int
  stop : Int

namespace Span

/-- A bound of a span, if it is given. -/
def bound (value : Option Value) : Except Fault (Option Int) :=
  match value with
  | none => .ok none
  | some given => Section.bound given

/-- The span that two optional bounds give in a sequence of a length. -/
def make (start stop : Option Value) (length : Nat) : Except Fault Span := do
  let first := (← bound start).getD 0
  let last := (← bound stop).getD length
  let shift (index : Int) : Int := if index < 0 then max (index + length) 0 else index
  return ⟨shift first, min (shift last) length⟩

variable {Symbol : Type} [BEq Symbol]

/-- The part of a sequence in a span that is as long as a sought one at least. -/
def part? (span : Span) (sought symbols : List Symbol) : Option (List Symbol) :=
  if span.stop - span.start < sought.length then none
  else some ((symbols.drop span.start.toNat).take (span.stop - span.start).toNat)

/-- The first place of a part in a span. -/
def find? (span : Span) (sought symbols : List Symbol) : Option Nat := do
  let inside ← span.part? sought symbols
  return (← Text.find? sought inside) + span.start.toNat

/-- The last place of a part in a span. -/
def findLast? (span : Span) (sought symbols : List Symbol) : Option Nat := do
  let inside ← span.part? sought symbols
  return (← Text.findLast? sought inside) + span.start.toNat

/-- How often a part occurs in a span. -/
def count (span : Span) (sought symbols : List Symbol) : Nat :=
  match span.part? sought symbols with
  | none => 0
  | some inside =>
      if sought.isEmpty then inside.length + 1 else Text.occurrences sought inside

/-- A span starts with a part. -/
def startsWith (span : Span) (sought symbols : List Symbol) : Bool :=
  (span.part? sought symbols).any sought.isPrefixOf

/-- A span ends with a part. -/
def endsWith (span : Span) (sought symbols : List Symbol) : Bool :=
  (span.part? sought symbols).any fun inside => sought.reverse.isPrefixOf inside.reverse

end Span

/-- The limit of a number of cuts or replacements; a negative one is none. -/
def limitOf (count : Int) (symbols : Nat) : Nat :=
  if count < 0 then symbols + 1 else count.toNat

/-- Where a sequence is filled up. -/
inductive Edge where
  | left
  | right
  | both
deriving DecidableEq

/-- A sequence filled up to a width; what cannot be halved goes to the side that makes the width
even. -/
def fillUp {Symbol : Type} (edge : Edge) (width : Int) (fill : Symbol) (symbols : List Symbol) :
    Except Fault (List Symbol) :=
  if width > FieldLayout.longestText then .error .memory
  else
    let missing := width.toNat - symbols.length
    let before :=
      match edge with
      | .left => missing
      | .right => 0
      | .both => missing / 2 + (missing % 2) * (width.toNat % 2)
    .ok (List.replicate before fill ++ symbols ++ List.replicate (missing - before) fill)

/-- A sequence in which every tab is filled up to the next stop; `column` counts from the last line
end. -/
def expandTabs {Symbol : Type} (isTab isEnd : Symbol → Bool) (blank : Symbol) (size : Int)
    (column : Nat) : List Symbol → List Symbol
  | [] => []
  | symbol :: rest =>
      if isTab symbol then
        let count := if size > 0 then size.toNat - column % size.toNat else 0
        List.replicate count blank ++ expandTabs isTab isEnd blank size (column + count) rest
      else if isEnd symbol then symbol :: expandTabs isTab isEnd blank size 0 rest
      else symbol :: expandTabs isTab isEnd blank size (column + 1) rest

end Predicate
end Wordbook
