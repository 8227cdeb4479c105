import Wordbook.Predicate.Display

/-!
# Layout of fields

A field of a text may say how its value is set: fill and alignment, sign, width, a separator of
thousands, precision and a type letter.  Each type of value takes some of these and refuses others.
-/

namespace Wordbook
namespace Predicate

/-- A layout that was read. -/
structure FieldLayout where
  fill : Char
  fillGiven : Bool
  align : Char
  sign : Option Char
  noNegativeZero : Bool
  alternate : Bool
  width : Nat
  separator : Option Char
  precision : Option Nat
  letter : Option Char

namespace FieldLayout

/-- The largest width or precision that can be asked for. -/
def largestCount : Nat := Nat.pow 2 63 - 1

/-- A text of more characters than this cannot be kept. -/
def longestText : Nat := Nat.pow 2 32

/-- A character says how a value is aligned. -/
def isAlign (char : Char) : Bool := char == '<' || char == '>' || char == '=' || char == '^'

/-- A count of decimal digits at the start of a text, if there is one, and what follows. -/
def readCount (chars : List Char) : Except Fault (Option Nat × List Char) :=
  let digits := chars.takeWhile Unicode.isDecimal
  let count := Number.ofDigits 10 (digits.map fun digit => (Unicode.decimalValue? digit).getD 0)
  if largestCount < count then .error (.value "Too many decimal digits in format string")
  else .ok (if digits.isEmpty then none else some count, chars.drop digits.length)

/-- A character, if it is the first of a text, and what follows. -/
def takeChar (char : Char) : List Char → Bool × List Char
  | first :: rest => if first == char then (true, rest) else (false, first :: rest)
  | [] => (false, [])

/-- The fault of a separator that a type letter does not go with. -/
def refusedSeparator (separator letter : Char) : Fault :=
  let code := letter.toNat
  if 32 < code && code < 128 then
    .value ("Cannot specify '" ++ String.singleton separator ++ "' with '" ++
      String.singleton letter ++ "'.")
  else
    .value ("Cannot specify '" ++ String.singleton separator ++ "' with '\\x" ++
      String.ofList (Nat.toDigits 16 code) ++ "'.")

/-- The fault of a type letter that a type does not know. -/
def unknownLetter (letter : Char) (kind : ValueType) : Fault :=
  let code := letter.toNat
  let shown :=
    if 32 < code && code < 128 then String.singleton letter
    else "\\x" ++ String.ofList (Nat.toDigits 16 code)
  .value ("Unknown format code '" ++ shown ++ "' for object of type '" ++ kind.label ++ "'")

/-- The letters that go with any separator of thousands. -/
def groupedLetters : List Char := ['d', 'e', 'f', 'g', 'E', 'G', '%', 'F']

/-- Read a layout for a value of a type; `letter` is the type letter when none is given, and `align`
the side on which a value stands. -/
def read (kind : ValueType) (letter : Option Char) (align : Char) (spec : List Char) :
    Except Fault FieldLayout := do
  let (fill, fillGiven, alignGiven, afterAlign) :=
    match spec with
    | first :: second :: rest =>
        if isAlign second then (first, true, some second, rest)
        else if isAlign first then (' ', false, some first, second :: rest)
        else (' ', false, none, spec)
    | [first] =>
        if isAlign first then (' ', false, some first, [])
        else (' ', false, none, spec)
    | [] => (' ', false, none, [])
  let (sign, afterSign) :=
    match afterAlign with
    | first :: rest =>
        if first == ' ' || first == '+' || first == '-' then (some first, rest)
        else (none, afterAlign)
    | [] => (none, [])
  let (noNegativeZero, afterZero) := takeChar 'z' afterSign
  let (alternate, afterAlternate) := takeChar '#' afterZero
  let (zeros, afterZeros) :=
    if fillGiven then (false, afterAlternate) else takeChar '0' afterAlternate
  let (width, afterWidth) ← readCount afterZeros
  let (comma, afterComma) := takeChar ',' afterWidth
  let (underscore, afterUnderscore) := takeChar '_' afterComma
  if comma && underscore then throw (.value "Cannot specify both ',' and '_'.")
  if underscore && (takeChar ',' afterUnderscore).1 then
    throw (.value "Cannot specify both ',' and '_'.")
  let (point, afterPoint) := takeChar '.' afterUnderscore
  let (precision, afterPrecision) ← if point then readCount afterPoint else pure (none, afterPoint)
  if point && precision.isNone then throw (.value "Format specifier missing precision")
  if afterPrecision.length > 1 then
    throw (.value ("Invalid format specifier '" ++ String.ofList spec ++ "' for object of type '" ++
      kind.label ++ "'"))
  let found := afterPrecision.head?.or letter
  let separator := if comma then some ',' else if underscore then some '_' else none
  match separator, found with
  | some mark, some code =>
      if !groupedLetters.contains code &&
          !(mark == '_' && [ 'b', 'o', 'x', 'X' ].contains code) then
        throw (refusedSeparator mark code)
  | _, _ => pure ()
  return {
    fill := if zeros then '0' else fill
    fillGiven := fillGiven || zeros
    align := alignGiven.getD (if zeros && align == '>' then '=' else align)
    sign, noNegativeZero, alternate, separator, precision
    width := width.getD 0
    letter := found }

/-- Text filled up to the width of a layout. -/
def pad (layout : FieldLayout) (chars : List Char) : Except Fault (List Char) :=
  if layout.width > longestText then .error .memory
  else
    let missing := layout.width - chars.length
    let left :=
      if layout.align == '>' then missing
      else if layout.align == '^' then missing / 2
      else 0
    .ok (List.replicate left layout.fill ++ chars ++ List.replicate (missing - left) layout.fill)

/-- The text of a layout for text. -/
def ofText (layout : FieldLayout) (chars : List Char) : Except Fault (List Char) := do
  match layout.sign with
  | some ' ' => throw (.value "Space not allowed in string format specifier")
  | some _ => throw (.value "Sign not allowed in string format specifier")
  | none => pure ()
  if layout.noNegativeZero then
    throw (.value "Negative zero coercion (z) not allowed in string format specifier")
  if layout.alternate then
    throw (.value "Alternate form (#) not allowed in string format specifier")
  if layout.align == '=' then
    throw (.value "'=' alignment not allowed in string format specifier")
  layout.pad
    (match layout.precision with
      | some precision => chars.take precision
      | none => chars)

/-- Digits in groups from the right, zeros put before them up to a least width, which counts the
separators; `digits` is reversed and `fuel` bounds the number of groups. -/
def groupDigits (separator : Char) (size : Nat) : (fuel : Nat) → (digits : List Char) →
    (least : Int) → List Char
  | 0, digits, _ => digits
  | fuel + 1, digits, least =>
      let wanted := max (max (digits.length : Int) least) 1
      let length := min size wanted.toNat
      let taken := digits.take length
      let group := taken ++ List.replicate (length - taken.length) '0'
      let rest := digits.drop length
      let left := least - length
      if rest.isEmpty && left ≤ 0 then group
      else group ++ separator :: groupDigits separator size fuel rest (left - 1)

/-- Digits with the separators and zeros that a layout asks for, in `room` characters at least. -/
def grouped (layout : FieldLayout) (size : Nat) (digits : List Char) (room : Int) : List Char :=
  if digits.isEmpty then []
  else
    let least := if layout.fill == '0' && layout.align == '=' then room else 0
    match layout.separator with
    | some separator =>
        (groupDigits separator size (digits.length + least.toNat + 1) digits.reverse least).reverse
    | none => List.replicate (least - digits.length).toNat '0' ++ digits

/-- The sign that is written for a number. -/
def signChars (layout : FieldLayout) (negative : Bool) : List Char :=
  if negative then ['-']
  else
    match layout.sign with
    | some '+' => ['+']
    | some ' ' => [' ']
    | _ => []

/-- A number set from its sign, a mark before its digits, its digits and the rest. -/
def number (layout : FieldLayout) (size : Nat) (negative : Bool) (mark digits rest : List Char) :
    Except Fault (List Char) :=
  if layout.width > longestText then .error .memory
  else
    let sign := layout.signChars negative
    let fixed := sign.length + mark.length + rest.length
    let body := layout.grouped size digits ((layout.width : Int) - fixed)
    if layout.align == '=' then
      let missing := layout.width - (fixed + body.length)
      .ok (sign ++ mark ++ List.replicate missing layout.fill ++ body ++ rest)
    else layout.pad (sign ++ mark ++ body ++ rest)

/-- The base of a type letter for integers, and the mark before the digits. -/
def radix : Char → Nat × List Char
  | 'b' => (2, ['0', 'b'])
  | 'o' => (8, ['0', 'o'])
  | 'x' => (16, ['0', 'x'])
  | 'X' => (16, ['0', 'X'])
  | _ => (10, [])

/-- The digits of a natural number for a type letter. -/
def digitsFor (letter : Char) (value : Nat) : Except Fault (List Char) :=
  match letter with
  | 'X' => .ok ((Nat.toDigits 16 value).map Char.toUpper)
  | _ =>
      let base := (radix letter).1
      if base = 10 then intChars value else .ok (Nat.toDigits base value)

/-- The text of a layout for an integer and one of its type letters. -/
def ofInt (layout : FieldLayout) (letter : Char) (value : Int) : Except Fault (List Char) := do
  if layout.precision.isSome then
    throw (.value "Precision not allowed in integer format specifier")
  if layout.noNegativeZero then
    throw (.value "Negative zero coercion (z) not allowed in integer format specifier")
  if letter == 'c' then
    if layout.sign.isSome then
      throw (.value "Sign not allowed with integer format specifier 'c'")
    if layout.alternate then
      throw (.value "Alternate form (#) not allowed with integer format specifier 'c'")
    if value < -(Int.pow 2 63) || Int.pow 2 63 ≤ value then
      throw (.overflow "Python int too large to convert to C long")
    if value < 0 || 0x10ffff < value then
      throw (.overflow "%c arg not in range(0x110000)")
    layout.number 3 false [] [] [Char.ofNat value.toNat]
  else
    let digits ← digitsFor letter value.natAbs
    let mark := if layout.alternate then (radix letter).2 else []
    layout.number (if (radix letter).1 = 10 then 3 else 4) (value < 0) mark digits []

/-- The form and options of a float for a type letter. -/
def formOf (layout : FieldLayout) : Number.Form × Number.FormOptions :=
  let places := layout.precision.getD 6
  match layout.letter with
  | none =>
      (match layout.precision with
        | none => .shortest
        | some precision => .general precision,
        ⟨layout.alternate, true⟩)
  | some letter =>
      let form : Number.Form :=
        if letter == 'e' || letter == 'E' then .scientific places
        else if letter == 'f' || letter == 'F' || letter == '%' then .fixed places
        else .general places
      (form, ⟨layout.alternate, false⟩)

/-- Written digits denote zero. -/
def denotesZero (chars : List Char) : Bool :=
  (chars.takeWhile fun char => char != 'e').all fun char => char == '0' || char == '.'

/-- The sign and the characters of a float in a layout; `whole` tells that a number without a
fraction is written with one where the form leaves that open. -/
def floatChars (layout : FieldLayout) (whole : Bool) (value : Float) : Bool × List Char :=
  let (form, options) := layout.formOf
  let chars := Number.absoluteChars form
    { options with keepFraction := whole && options.keepFraction } value
  let negative :=
    Number.writtenNegative value && !(layout.noNegativeZero && denotesZero chars)
  let upper := layout.letter.any fun letter => letter == 'E' || letter == 'F' || letter == 'G'
  (negative, if upper then chars.map Char.toUpper else chars)

/-- The text of a layout for a float. -/
def ofFloat (layout : FieldLayout) (value : Float) : Except Fault (List Char) := do
  if layout.precision.any (· ≥ Nat.pow 2 31) then throw (.value "precision too big")
  let percent := layout.letter == some '%'
  let (negative, chars) := layout.floatChars true (if percent then value * 100.0 else value)
  let digits := chars.takeWhile Char.isDigit
  let rest := chars.drop digits.length ++ (if percent then ['%'] else [])
  layout.number 3 negative [] digits rest

/-- The text of a layout for a complex number: both parts are set without padding. -/
def ofComplex (layout : FieldLayout) (real imaginary : Float) : Except Fault (List Char) := do
  if layout.precision.any (· ≥ Nat.pow 2 31) then throw (.value "precision too big")
  if layout.fill == '0' then
    throw (.value "Zero padding is not allowed in complex format specifier")
  if layout.align == '=' then
    throw (.value "'=' alignment flag is not allowed in complex format specifier")
  let bare := layout.letter.isNone
  let partOf (sign : Option Char) (value : Float) : Except Fault (List Char) := do
    let inner := { layout with sign := sign, width := 0, align := '<' }
    let (negative, shown) := inner.floatChars false value
    let digits := shown.takeWhile Char.isDigit
    inner.number 3 negative [] digits (shown.drop digits.length)
  if bare && Number.isZero real && !Number.isNegative real then
    layout.pad ((← partOf layout.sign imaginary) ++ ['j'])
  else
    let both := (← partOf layout.sign real) ++ (← partOf (some '+') imaginary) ++ ['j']
    layout.pad (if bare then '(' :: both ++ [')'] else both)

end FieldLayout

/-- The letters that set an integer. -/
def intLetters : List Char := ['b', 'c', 'd', 'o', 'x', 'X', 'n']

/-- The letters that set a float. -/
def floatLetters : List Char := ['e', 'E', 'f', 'F', 'g', 'G', 'n', '%']

/-- The float nearest to an integer. -/
def floatOfInt (value : Int) : Except Fault Float :=
  match Number.ofInt? value with
  | some number => .ok number
  | none => .error .tooLargeForFloat

/-- A value set as a layout asks. -/
def Heap.formatted (heap : Heap) (value : Value) (spec : List Char) : Except Fault (List Char) := do
  if spec.isEmpty then heap.plain value
  else
    match value with
    | .text text _ =>
        let layout ← FieldLayout.read .text (some 's') '<' spec
        match layout.letter with
        | some 's' => layout.ofText text.toList
        | some letter => throw (FieldLayout.unknownLetter letter .text)
        | none => layout.ofText text.toList
    | .float number _ =>
        let layout ← FieldLayout.read .float none '>' spec
        match layout.letter with
        | none => layout.ofFloat number
        | some letter =>
            if floatLetters.contains letter then layout.ofFloat number
            else throw (FieldLayout.unknownLetter letter .float)
    | .complex real imaginary _ =>
        let layout ← FieldLayout.read .complex none '>' spec
        match layout.letter with
        | none => layout.ofComplex real imaginary
        | some letter =>
            if letter != '%' && floatLetters.contains letter then layout.ofComplex real imaginary
            else throw (FieldLayout.unknownLetter letter .complex)
    | _ =>
        match value.int? with
        | some number =>
            let layout ← FieldLayout.read value.typeOf (some 'd') '>' spec
            let letter := layout.letter.getD 'd'
            if intLetters.contains letter then layout.ofInt letter number
            else if floatLetters.contains letter then layout.ofFloat (← floatOfInt number)
            else throw (FieldLayout.unknownLetter letter value.typeOf)
        | none =>
            throw (.typing ("unsupported format string passed to " ++ value.label ++
              ".__format__"))

end Predicate
end Wordbook
