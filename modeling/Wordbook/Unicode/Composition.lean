import Wordbook.Unicode.CompositionTable
import Wordbook.Unicode.Ranges

/-!
# Compatibility composition

Two spellings of an identifier are the same name when their compatibility compositions agree: every
character is decomposed, marks are put into their canonical order, and pairs are composed again.
-/

namespace Wordbook
namespace Unicode

/-- The entries in the rows of a packed table: the codes left of `=` and those right of it. -/
def packedEntries (table : List String) : List (List Nat × List Nat) :=
  (table.flatMap fun row => row.splitOn " ").filterMap fun word =>
    match word.splitOn "=" with
    | [left, right] => some ((left.splitOn "+").map hexCode, (right.splitOn "+").map hexCode)
    | _ => none

/-- The decomposition table, with the code point first. -/
def decompositionEntries : List (Nat × List Nat) :=
  (packedEntries decompositions).map fun entry => (entry.1.headD 0, entry.2)

/-- The composition table: first, second, composed. -/
def compositionEntries : List (Nat × Nat × Nat) :=
  (packedEntries compositions).map fun entry =>
    (entry.1.headD 0, (entry.1.drop 1).headD 0, entry.2.headD 0)

/-- Decompose one code point; Hangul syllables follow their arithmetic rule. -/
def decompose (code : Nat) : List Nat :=
  if code < 0x80 then [code]
  else if 0xac00 ≤ code && code ≤ 0xd7a3 then
    let index := code - 0xac00
    let tail := index % 28
    let pair := [0x1100 + index / 588, 0x1161 + index % 588 / 28]
    if tail == 0 then pair else pair ++ [0x11a7 + tail]
  else
    match decompositionEntries.find? fun entry => entry.1 == code with
    | some entry => entry.2
    | none => [code]

/-- The canonical combining class of a code point. -/
def combiningClass (code : Nat) : Nat :=
  if code < 0x300 then 0
  else match combiningRuns.find? fun run => run.1 ≤ code && code ≤ run.2.1 with
    | some run => run.2.2
    | none => 0

/-- Put a mark among reversed code points: it moves before marks of a higher class. -/
def insertMark (code : Nat) : List Nat → List Nat
  | [] => [code]
  | last :: before =>
      if combiningClass code != 0 && combiningClass last > combiningClass code then
        last :: insertMark code before
      else code :: last :: before

/-- Code points with every run of marks in canonical order. -/
def orderMarks (codes : List Nat) : List Nat :=
  (codes.foldl (fun reversed code => insertMark code reversed) []).reverse

/-- The composition of two code points, if they have one. -/
def composePair? (first second : Nat) : Option Nat :=
  if 0x1100 ≤ first && first ≤ 0x1112 && 0x1161 ≤ second && second ≤ 0x1175 then
    some (0xac00 + ((first - 0x1100) * 21 + (second - 0x1161)) * 28)
  else if 0xac00 ≤ first && first ≤ 0xd7a3 && (first - 0xac00) % 28 == 0 &&
      0x11a8 ≤ second && second ≤ 0x11c2 then
    some (first + (second - 0x11a7))
  else
    (compositionEntries.find? fun entry => entry.1 == first && entry.2.1 == second).map
      fun entry => entry.2.2

/-- The state of composing: finished code points reversed, the current starter, and the marks that
stayed behind it, reversed. -/
structure Composing where
  done : List Nat
  starter : Option Nat
  marks : List Nat

/-- Add one code point: it joins the starter unless a mark of its class or higher stands between. -/
def Composing.step (state : Composing) (code : Nat) : Composing :=
  match state.starter with
  | none =>
      if combiningClass code == 0 then { state with starter := some code }
      else { state with done := code :: state.done }
  | some starter =>
      let blocked :=
        match state.marks with
        | [] => false
        | mark :: _ => combiningClass mark == 0 || combiningClass mark ≥ combiningClass code
      match if blocked then none else composePair? starter code with
      | some composed => { state with starter := some composed }
      | none =>
          if combiningClass code == 0 then
            ⟨state.marks ++ starter :: state.done, some code, []⟩
          else { state with marks := code :: state.marks }

/-- The code points of a finished composition. -/
def Composing.finish (state : Composing) : List Nat :=
  match state.starter with
  | none => state.done.reverse
  | some starter => (state.marks ++ starter :: state.done).reverse

/-- The compatibility composition of a text. -/
def compose (chars : List Char) : List Char :=
  if chars.all fun char => char.toNat < 0x80 then chars
  else
    let decomposed := orderMarks (chars.flatMap fun char => decompose char.toNat)
    (decomposed.foldl Composing.step ⟨[], none, []⟩).finish.map Char.ofNat

end Unicode
end Wordbook
