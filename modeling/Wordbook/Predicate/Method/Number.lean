import Wordbook.Predicate.Arithmetic
import Wordbook.Predicate.Signature
import Wordbook.Text.Hexadecimal

/-!
# Operations of numbers
-/

namespace Wordbook
namespace Predicate

namespace IntMethod

/-- The properties of integers. -/
def properties : List String := ["denominator", "imag", "numerator", "real"]

/-- A property of an integer. -/
def property (name : String) (value : Int) : Value :=
  match name with
  | "denominator" => .int 1
  | "imag" => .int 0
  | _ => .int value

/-- The names of the operations. -/
def names : List String :=
  ["as_integer_ratio", "bit_count", "bit_length", "conjugate", "from_bytes", "to_bytes"]

/-- How many bits of a natural number are set; `fuel` bounds the bits. -/
def bitCount : (fuel : Nat) → Nat → Nat
  | 0, _ => 0
  | fuel + 1, value => if value = 0 then 0 else value % 2 + bitCount fuel (value / 2)

/-- How many bits a natural number has. -/
def bitLength (value : Nat) : Nat := if value = 0 then 0 else value.log2 + 1

/-- The last bytes of a natural number, the lowest first. -/
def lowBytes : (count : Nat) → Nat → List UInt8
  | 0, _ => []
  | count + 1, value => UInt8.ofNat (value % 256) :: lowBytes count (value / 256)

/-- The order of bytes that a name gives; the flag tells whether the highest comes first. -/
def byteOrder (function : String) (value : Option Value) : Except Fault Bool :=
  match value with
  | none => .ok true
  | some (.text "big" _) => .ok true
  | some (.text "little" _) => .ok false
  | some (.text _ _) => .error (.value "byteorder must be either 'little' or 'big'")
  | some other =>
      .error (.typing (function ++ "() argument 'byteorder' must be str, not " ++
        (if other.typeOf == .nothing then "None" else other.label)))

/-- The bytes of an integer. -/
def toBytes (heap : Heap) (value : Int) (arguments : Arguments) : Except Fault Value := do
  let given ← arguments.bind "to_bytes" 0 ["length", "byteorder", "signed"] 0 2
  let length ← match given[0]?.join with
    | some found => wordInteger found
    | none => pure 1
  let bigFirst ← byteOrder "to_bytes" given[1]?.join
  let signed := (given[2]?.join).any heap.truth
  if length < 0 then throw (.value "length argument must be non-negative")
  if value < 0 && !signed then throw (.overflow "can't convert negative int to unsigned")
  let bits := 8 * length.toNat
  let fits :=
    if signed then
      if value < 0 then bitLength (value.natAbs - 1) < bits else
        value = 0 || bitLength value.natAbs < bits
    else bitLength value.natAbs ≤ bits
  if !fits then throw (.overflow "int too big to convert")
  let low := lowBytes length.toNat (value.emod (Int.pow 2 bits)).toNat
  return .ofBytesApart (if bigFirst then low.reverse else low)

/-- The bytes that a value gives: its own, or those that its items number. -/
def bytesOf (value : Value) : Work (List UInt8) := do
  match value with
  | .bytes bytes _ => return bytes
  | .text _ _ => Work.raise (.typing "cannot convert 'str' object to bytes")
  | _ =>
      match ← Work.iterator? value with
      | none => Work.raise (.typing ("cannot convert '" ++ value.label ++ "' object to bytes"))
      | some source =>
          let items ← Work.drain source
          Work.ofExcept (items.toList.mapM fun item => do
            let code ← integer item
            if 0 ≤ code && code < 256 then return UInt8.ofNat code.toNat
            else throw (.value "bytes must be in range(0, 256)"))

/-- The integer of some bytes. -/
def fromBytes (arguments : Arguments) : Work Value := do
  let given ← Work.ofExcept (arguments.bind "from_bytes" 0 ["bytes", "byteorder", "signed"] 1 2)
  let bigFirst ← Work.ofExcept (byteOrder "from_bytes" given[1]?.join)
  let signed ← match given[2]?.join with
    | some found => Work.truth found
    | none => pure false
  let bytes ← bytesOf ((given[0]?.join).getD .nothing)
  let ordered := if bigFirst then bytes else bytes.reverse
  let value := Number.ofDigits 256 (ordered.map UInt8.toNat)
  let negative := signed && ordered.head?.any fun first => first.toNat ≥ 128
  return .int (if negative then (value : Int) - Int.pow 2 (8 * bytes.length) else value)

/-- Call an operation of an integer. -/
def call (name : String) (receiver : Value) (value : Int) (arguments : Arguments) : Work Value := do
  match name with
  | "to_bytes" => Work.inspect fun heap => toBytes heap value arguments
  | _ =>
      Work.ofExcept (arguments.nothing ("int." ++ name))
      match name with
      | "as_integer_ratio" => return .tuple [receiver, .int 1]
      | "bit_count" => return .int (bitCount (bitLength value.natAbs) value.natAbs)
      | "bit_length" => return .int (bitLength value.natAbs)
      | _ => return receiver

end IntMethod

namespace FloatMethod

/-- The properties of floats. -/
def properties : List String := ["imag", "real"]

/-- The names of the operations. -/
def names : List String := ["as_integer_ratio", "conjugate", "fromhex", "hex", "is_integer"]

/-- A float as a quotient of integers in lowest terms. -/
def ratio (value : Float) : Except Fault Value :=
  match Number.shape value with
  | .finite parts =>
      let (numerator, denominator) := parts.reducedRatio
      .ok (.tuple [.int (Number.signed parts.negative numerator), .int denominator])
  | .infinite _ => .error (.overflow "cannot convert Infinity to integer ratio")
  | .notANumber => .error (.value "cannot convert NaN to integer ratio")

/-- A float with the digits of its mantissa in hexadecimal. -/
def hex (value : Float) : List Char :=
  match Number.shape value with
  | .finite parts =>
      let sign := if parts.negative then ['-'] else []
      if parts.mantissa = 0 then sign ++ "0x0.0p+0".toList
      else
        let whole := parts.mantissa / Nat.pow 2 52
        let exponent := parts.exponent + 52
        sign ++ "0x".toList ++ Nat.toDigits 10 whole ++ '.' ::
          Text.hexPadded 13 (parts.mantissa % Nat.pow 2 52) ++ 'p' ::
          (if exponent < 0 then '-' else '+') :: Nat.toDigits 10 exponent.natAbs
  | _ => (Number.text value).toList

/-- Read hexadecimal digits with a point and an exponent of two after the sign. -/
def readDigits (negative : Bool) (chars : List Char) : Except Fault Float :=
  let malformed : Fault := .value "invalid hexadecimal floating-point string"
  let isHex (char : Char) : Bool := (Text.hexValue? char).isSome
  let body :=
    match chars with
    | '0' :: 'x' :: rest | '0' :: 'X' :: rest => rest
    | _ => chars
  let whole := body.takeWhile isHex
  let afterWhole := body.dropWhile isHex
  let (fraction, afterFraction) :=
    match afterWhole with
    | '.' :: rest => (rest.takeWhile isHex, rest.dropWhile isHex)
    | _ => ([], afterWhole)
  let power : Option Int :=
    match afterFraction with
    | [] => some 0
    | mark :: rest =>
        if mark == 'p' || mark == 'P' then
          let (down, digits) := Number.splitSign rest
          if digits.isEmpty || !digits.all Number.isPlainDigit then none
          else
            some (Number.signed down
              (Number.ofDigits 10 (digits.map fun digit => digit.toNat - 48)))
        else none
  match power with
  | none => .error malformed
  | some exponent =>
      if whole.isEmpty && fraction.isEmpty then .error malformed
      else
        let digits := (whole ++ fraction).map fun char => (Text.hexValue? char).getD 0
        let mantissa := Number.ofDigits 16 digits
        let scale := exponent - 4 * fraction.length
        let tooLarge : Fault := .overflow "hexadecimal value too large to represent as a float"
        if mantissa = 0 then .ok (Number.ofBits negative 0)
        else if (mantissa.log2 : Int) + scale > 1100 then .error tooLarge
        else if (mantissa.log2 : Int) + scale < -1200 then .ok (Number.ofBits negative 0)
        else
          let ratio := Number.scaleRatio mantissa 1 (-scale)
          match Number.ofRatio? negative ratio.1 ratio.2 with
          | some found => .ok found
          | none => .error tooLarge

/-- Read a float in hexadecimal. -/
def fromHex (arguments : Arguments) : Except Fault Value := do
  match ← arguments.single "float.fromhex" with
  | .text text _ =>
      let (negative, body) := Number.splitSign (Text.trimBy Number.isSpace text.toList)
      let name := String.ofList (body.map Char.toLower)
      if name == "inf" || name == "infinity" then return .ofFloat (Number.infinity negative)
      else if name == "nan" then return .ofFloat Number.notANumber
      else return .ofFloat (← readDigits negative body)
  | _ => throw (.typing "bad argument type for built-in operation")

/-- Call an operation of a float. -/
def call (name : String) (receiver : Value) (value : Float) (arguments : Arguments) :
    Except Fault Value := do
  arguments.nothing ("float." ++ name)
  match name with
  | "as_integer_ratio" => ratio value
  | "hex" => return .ofChars (hex value)
  | "is_integer" => return .bool (Arithmetic.isWhole value)
  | _ => return receiver

end FloatMethod

namespace ComplexMethod

/-- The properties of complex numbers. -/
def properties : List String := ["imag", "real"]

/-- The names of the operations. -/
def names : List String := ["conjugate"]

/-- Call an operation of a complex number. -/
def call (real imaginary : Float) (arguments : Arguments) : Except Fault Value := do
  arguments.nothing "complex.conjugate"
  return .complex real (-imaginary)

end ComplexMethod
end Predicate
end Wordbook
