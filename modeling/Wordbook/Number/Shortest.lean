import Wordbook.Number.Binary64

/-!
# Decimal digits of binary numbers

Two ways to choose digits: the fewest that read back as the same number, and a given count of them
or of places, rounded to nearest with a tie going to the even digit.
-/

namespace Wordbook
namespace Number

/-- Decimal digits and the place of the point: `0.d1d2d3… * 10 ^ point`. -/
structure Digits where
  digits : List Nat
  point : Int

/-- The decimal digits of a natural number. -/
def digitsOf (value : Nat) : List Nat :=
  (Nat.toDigits 10 value).map fun digit => digit.toNat - 48

/-- The power of ten as a quotient of naturals. -/
def powerOfTen (exponent : Int) : Nat × Nat :=
  if exponent ≥ 0 then (Nat.pow 10 exponent.natAbs, 1) else (1, Nat.pow 10 exponent.natAbs)

/-- The count of digits before the point of a positive ratio, negative for leading zeros behind
it. -/
def pointOf (numerator denominator : Nat) : Int :=
  let estimate : Int :=
    ((Nat.toDigits 10 numerator).length : Int) - (Nat.toDigits 10 denominator).length
  let power := powerOfTen estimate
  if numerator * power.2 ≥ denominator * power.1 then estimate + 1 else estimate

/-- Digits without the zeros at their end. -/
def dropTrailingZeros (digits : List Nat) : List Nat :=
  (digits.reverse.dropWhile (· == 0)).reverse

/-- The digits of `grid * 10 ^ exponent`. -/
def digitsAt (grid : Nat) (exponent : Int) : Digits :=
  let digits := digitsOf grid
  ⟨dropTrailingZeros digits, exponent + digits.length⟩

/-- The digits of a decimal grid point next to a ratio that reads back as the same bits. -/
def readsBack? (bits : Nat) (numerator denominator : Nat) (exponent : Int) : Option Digits :=
  let power := powerOfTen exponent
  let top := numerator * power.2
  let bottom := denominator * power.1
  let below := top / bottom
  let above := below + 1
  let same (grid : Nat) : Bool := nearestBits? (grid * power.1) power.2 == some bits
  match same below, same above with
  | true, true =>
      if 2 * (top % bottom) < bottom then some (digitsAt below exponent)
      else if bottom < 2 * (top % bottom) then some (digitsAt above exponent)
      else some (digitsAt (if below % 2 == 0 then below else above) exponent)
  | true, false => some (digitsAt below exponent)
  | false, true => some (digitsAt above exponent)
  | false, false => none

/-- The first grid from `count` digits on that has a point which reads back. -/
def shortestFrom (bits numerator denominator : Nat) (point : Int) : Nat → Nat → Digits
  | 0, count => digitsAt (roundQuotient numerator denominator) (point - count)
  | tries + 1, count =>
      match readsBack? bits numerator denominator (point - count) with
      | some digits => digits
      | none => shortestFrom bits numerator denominator point tries (count + 1)

/-- The fewest digits that read back as a finite nonzero number. -/
def shortestDigits (parts : Parts) : Digits :=
  let (numerator, denominator) := parts.ratio
  match nearestBits? numerator denominator with
  | none => ⟨[], 0⟩
  | some bits =>
      if numerator == 0 then ⟨[0], 1⟩
      else shortestFrom bits numerator denominator (pointOf numerator denominator) 17 1

/-- A number rounded to a power of ten: the count of units. -/
def unitsOf (parts : Parts) (exponent : Int) : Nat :=
  let (numerator, denominator) := parts.ratio
  let power := powerOfTen exponent
  roundQuotient (numerator * power.2) (denominator * power.1)

/-- A given count of significant digits, zeros at the end kept. -/
def significantDigits (parts : Parts) (count : Nat) : Digits :=
  if parts.mantissa == 0 then ⟨List.replicate (max count 1) 0, 1⟩
  else
    let (numerator, denominator) := parts.ratio
    let point := pointOf numerator denominator
    let units := unitsOf parts (point - count)
    let digits := digitsOf units
    if digits.length > count then ⟨digits.take count, point + 1⟩ else ⟨digits, point⟩

end Number
end Wordbook
