/-!
# Binary floating point numbers as ratios

A finite number is a sign, a mantissa and a power of two.  Reading a ratio rounds to the nearest
number, a tie going to the even mantissa.  Everything here is exact integer arithmetic on the bits.
-/

namespace Wordbook
namespace Number

/-- A finite number: `mantissa * 2 ^ exponent`, with a sign that also zero carries. -/
structure Parts where
  negative : Bool
  mantissa : Nat
  exponent : Int

/-- What the bits of a number say. -/
inductive Shape where
  | finite (parts : Parts)
  | infinite (negative : Bool)
  | notANumber

/-- Take a number apart. -/
def shape (number : Float) : Shape :=
  let bits := number.toBits.toNat
  let negative := bits / Nat.pow 2 63 == 1
  let biased : Nat := bits / Nat.pow 2 52 % Nat.pow 2 11
  let fraction : Nat := bits % Nat.pow 2 52
  if biased == 2047 then
    if fraction == 0 then .infinite negative else .notANumber
  else if biased == 0 then .finite ⟨negative, fraction, -1074⟩
  else .finite ⟨negative, fraction + Nat.pow 2 52, Int.ofNat biased - 1075⟩

/-- The quotient of two naturals to the nearest natural, a tie going to the even one. -/
def roundQuotient (numerator denominator : Nat) : Nat :=
  let quotient := numerator / denominator
  let twice := 2 * (numerator % denominator)
  if twice < denominator then quotient
  else if denominator < twice then quotient + 1
  else if quotient % 2 == 0 then quotient else quotient + 1

/-- `numerator / denominator / 2 ^ exponent` as a quotient of naturals. -/
def scaleRatio (numerator denominator : Nat) (exponent : Int) : Nat × Nat :=
  if exponent ≤ 0 then (numerator * Nat.pow 2 exponent.natAbs, denominator)
  else (numerator, denominator * Nat.pow 2 exponent.natAbs)

/-- The bits of the nonnegative number nearest to a ratio, or nothing past the largest one. -/
def nearestBits? (numerator denominator : Nat) : Option Nat :=
  if numerator == 0 then some 0
  else
    let guess := max ((numerator.log2 : Int) - denominator.log2 - 52) (-1074)
    let probe := scaleRatio numerator denominator guess
    let exponent :=
      if probe.1 / probe.2 < Nat.pow 2 52 && guess > -1074 then guess - 1 else guess
    let scaled := scaleRatio numerator denominator exponent
    let rounded := roundQuotient scaled.1 scaled.2
    let carried := rounded == Nat.pow 2 53
    let mantissa := if carried then Nat.pow 2 52 else rounded
    let power := if carried then exponent + 1 else exponent
    if mantissa < Nat.pow 2 52 then some mantissa
    else if power > 971 then none
    else some ((power + 1075).toNat * Nat.pow 2 52 + (mantissa - Nat.pow 2 52))

/-- A number from its bits and a sign. -/
def ofBits (negative : Bool) (bits : Nat) : Float :=
  Float.ofBits (UInt64.ofNat (if negative then bits + Nat.pow 2 63 else bits))

/-- The infinity of a sign. -/
def infinity (negative : Bool) : Float := ofBits negative (2047 * Nat.pow 2 52)

/-- The value that is no number. -/
def notANumber : Float := ofBits false (2047 * Nat.pow 2 52 + Nat.pow 2 51)

/-- The number nearest to a ratio with a sign, or nothing past the largest one. -/
def ofRatio? (negative : Bool) (numerator denominator : Nat) : Option Float :=
  (nearestBits? numerator denominator).map (ofBits negative)

/-- The number nearest to an integer, or nothing past the largest one. -/
def ofInt? (value : Int) : Option Float := ofRatio? (value < 0) value.natAbs 1

/-- The absolute value of a finite number as a quotient of naturals. -/
def Parts.ratio (parts : Parts) : Nat × Nat :=
  if parts.exponent ≥ 0 then (parts.mantissa * Nat.pow 2 parts.exponent.natAbs, 1)
  else (parts.mantissa, Nat.pow 2 parts.exponent.natAbs)

/-- The absolute value of a finite number as a quotient in lowest terms. -/
def Parts.reducedRatio (parts : Parts) : Nat × Nat :=
  let (numerator, denominator) := parts.ratio
  let divisor := numerator.gcd denominator
  (numerator / divisor, denominator / divisor)

/-- Put a sign on a natural number. -/
def signed (negative : Bool) (value : Nat) : Int := if negative then -(value : Int) else value

/-- The integer part of a finite number, toward zero. -/
def Parts.truncate (parts : Parts) : Int :=
  let (numerator, denominator) := parts.ratio
  signed parts.negative (numerator / denominator)

/-- A finite number is an integer. -/
def Parts.isIntegral (parts : Parts) : Bool :=
  let (numerator, denominator) := parts.ratio
  numerator % denominator == 0

/-- A number is finite. -/
def isFinite (number : Float) : Bool :=
  match shape number with
  | .finite _ => true
  | _ => false

/-- A number is not a number. -/
def isNaN (number : Float) : Bool :=
  match shape number with
  | .notANumber => true
  | _ => false

/-- A number carries the minus sign. -/
def isNegative (number : Float) : Bool :=
  match shape number with
  | .finite parts => parts.negative
  | .infinite negative => negative
  | .notANumber => number.toBits.toNat / Nat.pow 2 63 == 1

/-- A number is zero of either sign. -/
def isZero (number : Float) : Bool :=
  match shape number with
  | .finite parts => parts.mantissa == 0
  | _ => false

/-- The sign of one number on the absolute value of another. -/
def copySign (magnitude sign : Float) : Float :=
  ofBits (isNegative sign) (magnitude.toBits.toNat % Nat.pow 2 63)

/-- The remainder of division with the quotient cut toward zero and the sign of the dividend. -/
def truncatedRemainder (dividend divisor : Float) : Float :=
  match shape dividend, shape divisor with
  | .finite left, .finite right =>
      if right.mantissa == 0 then notANumber
      else
        let common := min left.exponent right.exponent
        let scaledLeft := left.mantissa * Nat.pow 2 (left.exponent - common).toNat
        let scaledRight := right.mantissa * Nat.pow 2 (right.exponent - common).toNat
        let rest := scaledLeft % scaledRight
        let ratio := scaleRatio rest 1 (-common)
        (ofRatio? left.negative ratio.1 ratio.2).getD notANumber
  | .finite _, .infinite _ => dividend
  | _, _ => notANumber

/-- The comparison of a finite number with an integer. -/
def Parts.compareInt (parts : Parts) (value : Int) : Ordering :=
  let (numerator, denominator) := parts.ratio
  compare (signed parts.negative numerator) (value * denominator)

/-- The comparison of a number with an integer; none holds for what is no number. -/
def compareInt? (number : Float) (value : Int) : Option Ordering :=
  match shape number with
  | .finite parts => some (parts.compareInt value)
  | .infinite negative => some (if negative then .lt else .gt)
  | .notANumber => none

/-- A power of two that is a normal number. -/
def powerOfTwo (exponent : Int) : Float := ofBits false ((exponent + 1023).toNat * Nat.pow 2 52)

/-- The hypotenuse over two legs whose squares are normal numbers, the longer leg first: the square
root of the sum of the squares, less an estimate of its rounding error. -/
def hypotenuseBetween (long short : Float) : Float :=
  let rough := Float.sqrt (long * long + short * short)
  let (first, second) :=
    if rough ≤ 2.0 * short then
      let rest := rough - short
      (long * (2.0 * rest - long), (rest - 2.0 * (long - short)) * rest)
    else
      let rest := rough - long
      (2.0 * rest * (long - 2.0 * short), (4.0 * rest - short) * short + rest * rest)
  rough - (first + second) / (2.0 * rough)

/-- The hypotenuse over two finite legs.  Legs that are too long or too short to be squared are
scaled, and a leg that is too short to matter is added. -/
def hypotenuse (left right : Float) : Float :=
  let first := left.abs
  let second := right.abs
  let long := if first < second then second else first
  let short := if first < second then first else second
  let scale := powerOfTwo (-600)
  let negligible := short ≤ long * powerOfTwo (-54)
  if powerOfTwo 511 < long then
    if negligible then long + short
    else hypotenuseBetween (long * scale) (short * scale) / scale
  else if short < powerOfTwo (-459) then
    if short / powerOfTwo (-54) ≤ long then long + short
    else hypotenuseBetween (long / scale) (short / scale) * scale
  else if negligible then long + short
  else hypotenuseBetween long short

end Number
end Wordbook
