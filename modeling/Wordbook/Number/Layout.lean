import Wordbook.Number.Shortest

/-!
# Written forms of binary numbers

The default form has the fewest digits that read back: positional from `1e-4` up to but not
including `1e16`, with a fraction kept even when it is zero, and scientific elsewhere with at least
two exponent digits.  The other forms have a chosen precision.
-/

namespace Wordbook
namespace Number

/-- How the digits of a finite number are chosen and set. -/
inductive Form where
  | shortest
  | fixed (places : Nat)
  | scientific (places : Nat)
  | general (precision : Nat)

/-- Options of a written form: keep the point and trailing zeros, or keep at least one digit behind
the point. -/
structure FormOptions where
  alternate : Bool := false
  keepFraction : Bool := false

/-- The digit characters of a list of digits. -/
def digitChars (digits : List Nat) : List Char :=
  digits.map fun digit => Char.ofNat (48 + digit)

/-- The digits at the indices from `start`, `count` of them, zero where there is no digit. -/
def digitsBetween (digits : List Nat) (start : Int) (count : Nat) : List Nat :=
  (List.range count).map fun offset =>
    let index := start + Int.ofNat offset
    if index < 0 then 0 else digits.getD index.toNat 0

/-- The exponent mark with a sign and at least two digits. -/
def exponentChars (exponent : Int) : List Char :=
  let digits := Nat.toDigits 10 exponent.natAbs
  'e' :: (if exponent < 0 then '-' else '+') ::
    (if digits.length < 2 then '0' :: digits else digits)

/-- Set digits around a point, the fraction reaching at least to the digit index `fractionEnd`. -/
def setDigits (options : FormOptions) (scientific : Bool) (digits : Digits) (fractionEnd : Int) :
    List Char :=
  let point := if scientific then 1 else digits.point
  let least := if !scientific && options.keepFraction then point + 1 else point
  let stop := max fractionEnd least
  let whole :=
    if point ≤ 0 then ['0'] else digitChars (digitsBetween digits.digits 0 point.toNat)
  let fraction := digitChars (digitsBetween digits.digits point (stop - point).toNat)
  let body :=
    if fraction.isEmpty && !options.alternate then whole else whole ++ '.' :: fraction
  if scientific then body ++ exponentChars (digits.point - 1) else body

/-- The digits of a number rounded to a count of places behind the point. -/
def fixedDigits (parts : Parts) (places : Nat) : Digits :=
  let units := unitsOf parts (-(places : Int))
  if units == 0 then ⟨[], -(places : Int)⟩
  else
    let digits := digitsOf units
    ⟨digits, (digits.length : Int) - places⟩

/-- The absolute value of a finite number in a form. -/
def magnitudeChars (form : Form) (options : FormOptions) (parts : Parts) : List Char :=
  match form with
  | .shortest =>
      let digits := shortestDigits parts
      setDigits options (digits.point ≤ -4 || digits.point > 16) digits digits.digits.length
  | .fixed places =>
      let digits := fixedDigits parts places
      let atZero : Digits := if parts.mantissa == 0 then ⟨[0], 1⟩ else digits
      setDigits options false atZero (atZero.point + places)
  | .scientific places =>
      setDigits options true (significantDigits parts (places + 1)) (places + 1)
  | .general precision =>
      let count := max precision 1
      let digits := significantDigits parts count
      let trimmed : Digits :=
        if parts.mantissa == 0 then ⟨[0], 1⟩ else ⟨dropTrailingZeros digits.digits, digits.point⟩
      let limit : Int := if options.keepFraction then (count : Int) - 1 else count
      setDigits options (digits.point ≤ -4 || digits.point > limit) trimmed
        (if options.alternate then count else trimmed.digits.length)

/-- A number without its sign in a form. -/
def absoluteChars (form : Form) (options : FormOptions) (number : Float) : List Char :=
  match shape number with
  | .finite parts => magnitudeChars form options parts
  | .infinite _ => "inf".toList
  | .notANumber => "nan".toList

/-- A number has a minus sign in writing; the value that is no number has none. -/
def writtenNegative (number : Float) : Bool := !isNaN number && isNegative number

/-- The default written form of a number. -/
def text (number : Float) : String :=
  String.ofList ((if writtenNegative number then ['-'] else []) ++
    absoluteChars .shortest ⟨false, true⟩ number)

/-- The parts of a complex number without the fraction that the default form keeps. -/
def bareText (number : Float) : String :=
  String.ofList ((if writtenNegative number then ['-'] else []) ++
    absoluteChars .shortest ⟨false, false⟩ number)

end Number
end Wordbook
