import Wordbook.Predicate.FieldLayout

/-!
# Arithmetic

Integers of any size, binary floating point numbers and complex numbers.  An operation on numbers of
two types is done in the wider type; truth values count as integers.
-/

namespace Wordbook
namespace Predicate

/-- A number of one of the three types. -/
inductive Numeral where
  | int (value : Int)
  | float (value : Float)
  | complex (real imaginary : Float)

/-- The number that a value is. -/
def Value.numeral? : Value → Option Numeral
  | .float value _ => some (.float value)
  | .complex real imaginary _ => some (.complex real imaginary)
  | value => value.int?.map .int

namespace Arithmetic

/-- Results of this many bits cannot be kept. -/
def bitLimit : Nat := Nat.pow 2 33

/-- The quotient of two integers as the nearest float. -/
def divideInts (left right : Int) : Except Fault Value :=
  if right = 0 then .error (.division "division by zero")
  else
    match Number.ofRatio? ((left < 0) != (right < 0)) left.natAbs right.natAbs with
    | some quotient =>
        .ok (.ofFloat (if left = 0 then Number.ofBits (right < 0) 0 else quotient))
    | none => .error (.overflow "integer division result too large for a float")

/-- The quotient toward the floor and the remainder of floats, when the divisor is not zero. -/
def divideFloor (left right : Float) : Float × Float :=
  let rest := Number.truncatedRemainder left right
  let quotient := (left - rest) / right
  let (settled, remainder) :=
    if rest != 0.0 then
      if (right < 0.0) != (rest < 0.0) then (quotient - 1.0, rest + right) else (quotient, rest)
    else (quotient, Number.copySign 0.0 right)
  let whole :=
    if settled != 0.0 then
      let floor := settled.floor
      if settled - floor > 0.5 then floor + 1.0 else floor
    else Number.copySign 0.0 (left / right)
  (whole, remainder)

/-- The remainder of floats with the sign of the divisor. -/
def remainder (left right : Float) : Float := (divideFloor left right).2

/-- A float is an odd integer. -/
def isOdd (number : Float) : Bool :=
  match Number.shape number with
  | .finite parts => parts.isIntegral && parts.truncate % 2 != 0
  | _ => false

/-- A float is an integer. -/
def isWhole (number : Float) : Bool :=
  match Number.shape number with
  | .finite parts => parts.isIntegral
  | _ => false

/-- A float is an infinity. -/
def isInfinite (number : Float) : Bool := !Number.isFinite number && !Number.isNaN number

/-- The product of complex numbers. -/
def complexProduct (left right : Float × Float) : Float × Float :=
  (left.1 * right.1 - left.2 * right.2, left.1 * right.2 + left.2 * right.1)

/-- The quotient of complex numbers, if the divisor is not zero. -/
def complexQuotient? (left right : Float × Float) : Option (Float × Float) :=
  let real := right.1.abs
  let imaginary := right.2.abs
  if real ≥ imaginary then
    if real == 0.0 then none
    else
      let ratio := right.2 / right.1
      let denominator := right.1 + right.2 * ratio
      some ((left.1 + left.2 * ratio) / denominator, (left.2 - left.1 * ratio) / denominator)
  else if imaginary ≥ real then
    let ratio := right.1 / right.2
    let denominator := right.1 * ratio + right.2
    some ((left.1 * ratio + left.2) / denominator, (left.2 * ratio - left.1) / denominator)
  else some (Number.notANumber, Number.notANumber)

/-- A complex number to a natural power by repeated squaring; `fuel` bounds the bits of the
power. -/
def complexPower (base result : Float × Float) : (fuel : Nat) → Nat → Float × Float
  | 0, _ => result
  | fuel + 1, power =>
      if power = 0 then result
      else
        let next := if power % 2 = 1 then complexProduct result base else result
        complexPower (complexProduct base base) next fuel (power / 2)

/-- The distance of a complex number from zero. -/
def distance (real imaginary : Float) : Float :=
  match Number.shape real, Number.shape imaginary with
  | .infinite _, _ => Number.infinity false
  | _, .infinite _ => Number.infinity false
  | .finite _, .finite _ => Number.hypotenuse real imaginary
  | _, _ => Number.notANumber

/-- A complex number to a complex power. -/
def raiseComplex (base power : Float × Float) : Except Fault Value := do
  let zeroBase : Fault := .division "0.0 to a negative or complex power"
  let (real, imaginary) ←
    if power.2 == 0.0 && isWhole power.1 && power.1.abs ≤ 100.0 then
      let exponent := (Float.abs power.1).toUInt64.toNat
      let raised := complexPower base (1.0, 0.0) 64 exponent
      if power.1 > 0.0 then pure raised
      else
        match complexQuotient? (1.0, 0.0) raised with
        | some quotient => pure quotient
        | none => throw zeroBase
    else if power.1 == 0.0 && power.2 == 0.0 then pure (1.0, 0.0)
    else if base.1 == 0.0 && base.2 == 0.0 then
      if power.2 != 0.0 || power.1 < 0.0 then throw zeroBase else pure (0.0, 0.0)
    else
      let size := distance base.1 base.2
      let angle := Float.atan2 base.2 base.1
      let length := size.pow power.1
      let phase := angle * power.1
      let (longer, turned) :=
        if power.2 != 0.0 then
          (length / (angle * power.2).exp, phase + power.2 * size.log)
        else (length, phase)
      if isInfinite turned then throw zeroBase
      pure (longer * turned.cos, longer * turned.sin)
  if isInfinite real || isInfinite imaginary then throw (.overflow "complex exponentiation")
  return .complex real imaginary

/-- A float to the power of another. -/
def raiseFloat (base power : Float) : Except Fault Value :=
  if power == 0.0 then .ok (.ofFloat 1.0)
  else if Number.isNaN base then .ok (.ofFloat base)
  else if Number.isNaN power then .ok (.ofFloat (if base == 1.0 then 1.0 else power))
  else if isInfinite power then
    let size := base.abs
    .ok (.ofFloat
      (if size == 1.0 then 1.0 else if (power > 0.0) == (size > 1.0) then power.abs else 0.0))
  else if isInfinite base then
    .ok (.ofFloat
      (if power > 0.0 then (if isOdd power then base else base.abs)
        else if isOdd power then Number.copySign 0.0 base else 0.0))
  else if base == 0.0 then
    if power < 0.0 then .error (.division "0.0 cannot be raised to a negative power")
    else .ok (.ofFloat (if isOdd power then base else 0.0))
  else if base < 0.0 && !isWhole power then raiseComplex (base, 0.0) (power, 0.0)
  else
    let negative := base < 0.0 && isOdd power
    let size := base.abs
    let raised := if size == 1.0 then 1.0 else size.pow power
    if isInfinite raised then .error (.overflow "(34, 'Numerical result out of range')")
    else .ok (.ofFloat (if negative then -raised else raised))

/-- An integer to the power of another; a negative power is taken among floats. -/
def raiseInt (base power : Int) : Except Fault Value :=
  if power < 0 then do
    let first ← floatOfInt base
    raiseFloat first (← floatOfInt power)
  else if base.natAbs ≤ 1 then
    .ok (.int (if power = 0 then 1 else if base < 0 && power % 2 = 0 then 1 else base))
  else if bitLimit < base.natAbs.log2 * power.toNat then .error .memory
  else .ok (.int (Int.pow base power.toNat))

/-- An integer shifted to the left. -/
def shiftLeft (value count : Int) : Except Fault Value :=
  if count < 0 then .error (.value "negative shift count")
  else if value = 0 then .ok (.int 0)
  else if Int.pow 2 61 ≤ count / 30 then .error (.overflow "too many digits in integer")
  else if bitLimit < count.toNat then .error .memory
  else .ok (.int (value * Int.pow 2 count.toNat))

/-- An integer shifted to the right, toward the floor. -/
def shiftRight (value count : Int) : Except Fault Value :=
  if count < 0 then .error (.value "negative shift count")
  else if value.natAbs.log2 < count.toNat then .ok (.int (if value < 0 then -1 else 0))
  else .ok (.int (value.fdiv (Int.pow 2 count.toNat)))

/-- An operation on the bits of two integers, both seen as endless strings of bits. -/
def bitwise (op : Bool → Bool → Bool) (onNats : Nat → Nat → Nat) (left right : Int) : Int :=
  let width := max left.natAbs.log2 right.natAbs.log2 + 2
  let mask : Int := Int.pow 2 width
  let found : Int := onNats (left.emod mask).toNat (right.emod mask).toNat
  let negative := op (decide (left < 0)) (decide (right < 0))
  if negative then found - mask else found

/-- The operations on integers. -/
def onInts (op : BinaryOp) (left right : Int) : Except Fault Value :=
  match op with
  | .add => .ok (.int (left + right))
  | .subtract => .ok (.int (left - right))
  | .multiply => .ok (.int (left * right))
  | .divide => divideInts left right
  | .floorDivide =>
      if right = 0 then .error (.division "integer division or modulo by zero")
      else .ok (.int (left.fdiv right))
  | .modulo =>
      if right = 0 then .error (.division "integer modulo by zero")
      else .ok (.int (left.fmod right))
  | .power => raiseInt left right
  | .lShift => shiftLeft left right
  | .rShift => shiftRight left right
  | .bitOr => .ok (.int (bitwise or Nat.lor left right))
  | .bitXor => .ok (.int (bitwise xor Nat.xor left right))
  | .bitAnd => .ok (.int (bitwise and Nat.land left right))

/-- The operations on floats; none for those on bits. -/
def onFloats (op : BinaryOp) (left right : Float) : Option (Except Fault Value) :=
  match op with
  | .add => some (.ok (.ofFloat (left + right)))
  | .subtract => some (.ok (.ofFloat (left - right)))
  | .multiply => some (.ok (.ofFloat (left * right)))
  | .divide =>
      some (if right == 0.0 then .error (.division "float division by zero")
        else .ok (.ofFloat (left / right)))
  | .floorDivide =>
      some (if right == 0.0 then .error (.division "float floor division by zero")
        else .ok (.ofFloat (divideFloor left right).1))
  | .modulo =>
      some (if right == 0.0 then .error (.division "float modulo")
        else .ok (.ofFloat (remainder left right)))
  | .power => some (raiseFloat left right)
  | _ => none

/-- The operations on complex numbers; none for those that need an order or bits. -/
def onComplex (op : BinaryOp) (left right : Float × Float) : Option (Except Fault Value) :=
  let pair (value : Float × Float) : Value := .complex value.1 value.2
  match op with
  | .add => some (.ok (pair (left.1 + right.1, left.2 + right.2)))
  | .subtract => some (.ok (pair (left.1 - right.1, left.2 - right.2)))
  | .multiply => some (.ok (pair (complexProduct left right)))
  | .divide =>
      some (match complexQuotient? left right with
        | some quotient => .ok (pair quotient)
        | none => .error (.division "complex division by zero"))
  | .power => some (raiseComplex left right)
  | _ => none

/-- A number as a float. -/
def asFloat : Numeral → Except Fault Float
  | .int value => floatOfInt value
  | .float value => .ok value
  | .complex real _ => .ok real

/-- A number as a complex one. -/
def asComplex : Numeral → Except Fault (Float × Float)
  | .complex real imaginary => .ok (real, imaginary)
  | number => return (← asFloat number, 0.0)

/-- An operation is one on bits, for which truth values stay what they are. -/
def isBitwise : BinaryOp → Bool
  | .bitOr | .bitXor | .bitAnd => true
  | _ => false

/-- The result of an operation on bits, as a truth value if both operands are. -/
def settle (op : BinaryOp) (left right result : Value) : Value :=
  match left, right, result with
  | .bool _, .bool _, .int value _ => if isBitwise op then .bool (value != 0) else result
  | _, _, _ => result

/-- An operation on two numbers; none if one is no number or they do not have the operation. -/
def binary? (op : BinaryOp) (left right : Value) : Option (Except Fault Value) :=
  match left.numeral?, right.numeral? with
  | some (.int first), some (.int second) =>
      some ((onInts op first second).map (settle op left right))
  | some first, some second =>
      match first, second with
      | .complex _ _, _ | _, .complex _ _ =>
          match asComplex first, asComplex second with
          | .ok one, .ok two => onComplex op one two
          | .error fault, _ | _, .error fault =>
              (onComplex op (0.0, 0.0) (1.0, 0.0)).map fun _ => .error fault
      | _, _ =>
          match asFloat first, asFloat second with
          | .ok one, .ok two => onFloats op one two
          | .error fault, _ | _, .error fault =>
              (onFloats op 1.0 1.0).map fun _ => .error fault
  | _, _ => none

/-- The quotient toward the floor and the remainder of two numbers. -/
def quotientAndRemainder (left right : Value) : Except Fault Value :=
  match left.numeral?, right.numeral? with
  | some (.int first), some (.int second) =>
      if second = 0 then .error (.division "integer division or modulo by zero")
      else .ok (.tuple [.int (first.fdiv second), .int (first.fmod second)])
  | some (.complex _ _), _ | _, some (.complex _ _) => .error (.operands "divmod()" left right)
  | some first, some second => do
      let one ← asFloat first
      let two ← asFloat second
      if two == 0.0 then throw (.division "float divmod()")
      let (quotient, rest) := divideFloor one two
      return .tuple [.ofFloat quotient, .ofFloat rest]
  | _, _ => .error (.operands "divmod()" left right)

/-- The sign of an operation of one operand. -/
def unarySign : UnaryOp → String
  | .plus => "+"
  | .minus => "-"
  | .invert => "~"
  | .negate => "not"

/-- An operation of one operand on a number. -/
def unary (op : UnaryOp) (operand : Value) : Except Fault Value :=
  let refused : Except Fault Value :=
    .error (.typing ("bad operand type for unary " ++ unarySign op ++ ": '" ++ operand.label ++
      "'"))
  match op, operand with
  | .plus, .int _ _ | .plus, .float _ _ | .plus, .complex _ _ _ => .ok operand
  | .minus, .float value _ => .ok (.ofFloat (-value))
  | .minus, .complex real imaginary _ => .ok (.complex (-real) (-imaginary))
  | _, _ =>
      match operand.int? with
      | none => refused
      | some value =>
          match op with
          | .plus => .ok (.int value)
          | .minus => .ok (.int (-value))
          | .invert => .ok (.int (-value - 1))
          | .negate => refused

/-- The absolute value of a number. -/
def absolute (operand : Value) : Except Fault Value :=
  match operand with
  | .int value _ => .ok (if value < 0 then .int (-value) else operand)
  | .float value _ => .ok (.ofFloat value.abs)
  | .complex real imaginary _ =>
      let found := distance real imaginary
      if isInfinite found && !isInfinite real && !isInfinite imaginary then
        .error (.overflow "absolute value too large")
      else .ok (.ofFloat found)
  | _ =>
      match operand.int? with
      | some value => .ok (.int value.natAbs)
      | none => .error (.typing ("bad operand type for abs(): '" ++ operand.label ++ "'"))

/-- The integer part of a float. -/
def truncate (value : Float) : Except Fault Int :=
  match Number.shape value with
  | .finite parts => .ok parts.truncate
  | .infinite _ => .error (.overflow "cannot convert float infinity to integer")
  | .notANumber => .error (.value "cannot convert float NaN to integer")

/-- A float rounded to an integer, a half going to the even neighbour. -/
def roundToInt (value : Float) : Except Fault Int :=
  match Number.shape value with
  | .finite parts =>
      .ok (Number.signed parts.negative (Number.roundQuotient parts.ratio.1 parts.ratio.2))
  | _ => truncate value

/-- A float rounded to a number of decimal places, which may be negative. -/
def roundToPlaces (value : Float) (places : Int) : Except Fault Value :=
  match Number.shape value with
  | .finite parts =>
      if places > 323 then .ok (.ofFloat value)
      else if places < -308 then .ok (.ofFloat (Number.ofBits parts.negative 0))
      else
        let units := Number.unitsOf parts (-places)
        let power := Number.powerOfTen (-places)
        match Number.ofRatio? parts.negative (units * power.1) power.2 with
        | some found => .ok (.ofFloat found)
        | none => .error (.overflow "rounded value too large to represent")
  | _ => .ok (.ofFloat value)

/-- An integer rounded to a power of ten, a half going to the even neighbour. -/
def roundInt (value : Int) (places : Int) : Int :=
  if places ≥ 0 then value
  else if (value.natAbs.log2 : Int) + 2 < -places then 0
  else
    let power := Nat.pow 10 (-places).toNat
    Number.signed (value < 0) (Number.roundQuotient value.natAbs power * power)

end Arithmetic
end Predicate
end Wordbook
