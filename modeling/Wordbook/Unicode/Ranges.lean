/-!
# Tables of code points

The tables of this directory list sets of code points as ranges, as ranges with a stride, and as
shifts of such ranges, and code points in rows of text as hexadecimal numbers.  This module says
what the entries mean.
-/

namespace Wordbook
namespace Unicode

/-- The value of a text of upper-case hexadecimal digits. -/
def hexCode (text : String) : Nat :=
  text.toList.foldl (fun code digit =>
    code * 16 + (if digit.isDigit then digit.toNat - 48 else digit.toNat - 55)) 0

/-- A code point lies in one of the ranges, ends included. -/
def inRanges (ranges : List (Nat × Nat)) (code : Nat) : Bool :=
  ranges.any fun range => range.1 ≤ code && code ≤ range.2

/-- Every `step`-th code point from `first` to `last`. -/
structure Stride where
  first : Nat
  last : Nat
  step : Nat

/-- A code point is one of the members of a stride. -/
def Stride.contains (stride : Stride) (code : Nat) : Bool :=
  stride.first ≤ code && code ≤ stride.last && (code - stride.first) % stride.step == 0

/-- A code point is a member of one of the strides. -/
def inStrides (strides : List Stride) (code : Nat) : Bool :=
  strides.any fun stride => stride.contains code

/-- Every `step`-th code point from `first` to `last` maps to the one `offset` away. -/
structure Shift where
  first : Nat
  last : Nat
  step : Nat
  offset : Int

/-- A code point is one of those that a shift moves. -/
def Shift.contains (shift : Shift) (code : Nat) : Bool :=
  shift.first ≤ code && code ≤ shift.last && (code - shift.first) % shift.step == 0

/-- The image of a code point under a shift. -/
def Shift.apply (shift : Shift) (code : Nat) : Nat :=
  (Int.ofNat code + shift.offset).toNat

end Unicode
end Wordbook
