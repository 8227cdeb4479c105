import Wordbook.Predicate.Arithmetic
import Wordbook.Predicate.Section

/-!
# Templates

A template is text, or bytes, with directives that start with a percent sign.  Each takes a value,
in order or by its key, and says how it is set: flags, width, precision and a letter.
-/

namespace Wordbook
namespace Predicate

/-- The values that a template still has to take, and the container that keys are looked up in. -/
structure Supply where
  pending : List Value
  mapping : Option Value

/-- How a directive sets its value. -/
structure Directive where
  left : Bool
  sign : Bool
  blank : Bool
  alternate : Bool
  zeros : Bool
  width : Nat
  precision : Option Nat
  letter : Char

namespace Template

/-- The largest width of a directive. -/
def widthLimit : Nat := Nat.pow 2 63 - 1

/-- The largest precision of a directive. -/
def precisionLimit : Nat := Nat.pow 2 31 - 1

/-- The next value. -/
def takeValue (supply : Supply) : Except Fault (Value × Supply) :=
  match supply.pending with
  | value :: rest => .ok (value, { supply with pending := rest })
  | [] => .error (.typing "not enough arguments for format string")

/-- The key of a directive up to its closing parenthesis, and the text after it; `open` counts the
parentheses that are not closed yet. -/
def readKey (taken : List Char) : (opened : Nat) → List Char → Except Fault (List Char × List Char)
  | _, [] => .error (.value "incomplete format key")
  | 0, _ :: _ => .error (.value "incomplete format key")
  | opened + 1, char :: rest =>
      if char == ')' then
        if opened = 0 then .ok (taken.reverse, rest) else readKey (char :: taken) opened rest
      else if char == '(' then readKey (char :: taken) (opened + 2) rest
      else readKey (char :: taken) (opened + 1) rest

/-- Take the values of the rest from a key. -/
def readMapping (heap : Heap) (binary : Bool) (supply : Supply) :
    List Char → Except Fault (List Char × Supply)
  | '(' :: rest =>
      match supply.mapping with
      | none => .error (.typing "format requires a mapping")
      | some mapping => do
          let (key, after) ← readKey [] 1 rest
          let sought : Value :=
            if binary then .bytes (key.map fun char => UInt8.ofNat char.toNat) else .ofChars key
          return (after, { supply with pending := [← heap.item mapping sought] })
  | chars => .ok (chars, supply)

/-- A count in digits, or the next value in place of a star; none if there is neither. -/
def readCount (limit : Nat) (why : String) (supply : Supply) :
    List Char → Except Fault (Option Int × List Char × Supply)
  | '*' :: rest => do
      let (value, after) ← takeValue supply
      match value.int? with
      | none => throw (.typing "* wants int")
      | some count =>
          if count.natAbs > limit then
            throw (if limit = widthLimit then .tooLargeForWord else .tooLargeForHalfWord)
          else return (some count, rest, after)
  | chars =>
      let digits := chars.takeWhile Number.isPlainDigit
      let count := Number.ofDigits 10 (digits.map fun digit => digit.toNat - 48)
      if digits.isEmpty then .ok (none, chars, supply)
      else if count > limit then .error (.value why)
      else .ok (some count, chars.drop digits.length, supply)

/-- Read a directive after its percent sign. -/
def readDirective (heap : Heap) (binary : Bool) (supply : Supply) (chars : List Char) :
    Except Fault (Directive × List Char × Supply) := do
  let (afterKey, named) ← readMapping heap binary supply chars
  let flags := afterKey.takeWhile fun char => [ '-', '+', ' ', '#', '0' ].contains char
  let (width, afterWidth, measured) ←
    readCount widthLimit "width too big" named (afterKey.drop flags.length)
  let (precision, afterPrecision, settled) ←
    match afterWidth with
    | '.' :: rest => do
        let (count, after, left) ← readCount precisionLimit "precision too big" measured rest
        pure (some (count.getD 0).toNat, after, left)
    | _ => pure (none, afterWidth, measured)
  let afterSize :=
    match afterPrecision with
    | char :: rest => if char == 'h' || char == 'l' || char == 'L' then rest else afterPrecision
    | [] => []
  match afterSize with
  | [] => throw (.value "incomplete format")
  | letter :: rest =>
      return ({
        left := flags.contains '-' || width.any (· < 0)
        sign := flags.contains '+'
        blank := flags.contains ' '
        alternate := flags.contains '#'
        zeros := flags.contains '0'
        width := (width.map Int.natAbs).getD 0
        precision
        letter }, rest, settled)

/-- Text filled up with blanks to the width of a directive. -/
def pad (directive : Directive) (chars : List Char) : Except Fault (List Char) :=
  if directive.width > FieldLayout.longestText then .error .memory
  else
    let blanks := List.replicate (directive.width - chars.length) ' '
    .ok (if directive.left then chars ++ blanks else blanks ++ chars)

/-- A number from its sign, the mark before its digits, and the digits. -/
def number (directive : Directive) (negative : Bool) (mark digits : List Char) :
    Except Fault (List Char) :=
  if directive.width > FieldLayout.longestText then .error .memory
  else
    let sign :=
      if negative then ['-']
      else if directive.sign then ['+']
      else if directive.blank then [' ']
      else []
    let room := directive.width - (sign.length + mark.length + digits.length)
    if directive.zeros && !directive.left then
      .ok (sign ++ mark ++ List.replicate room '0' ++ digits)
    else pad directive (sign ++ mark ++ digits)

/-- The letter that a fault names: a template of bytes names one of the two for plain integers. -/
def shownLetter (binary : Bool) (letter : Char) : Char :=
  if binary && letter == 'i' then 'd' else letter

/-- The fault of a value that is no number. -/
def notNumber (letter : Char) (value : Value) : Fault :=
  let wanted :=
    if letter == 'o' || letter == 'x' || letter == 'X' then "an integer" else "a real number"
  .typing ("%" ++ String.singleton letter ++ " format: " ++ wanted ++ " is required, not " ++
    value.label)

/-- The integer that a directive takes a value for. -/
def intOf (letter : Char) (value : Value) : Except Fault Int :=
  match value.int? with
  | some found => .ok found
  | none =>
      match value with
      | .float found _ =>
          if letter == 'o' || letter == 'x' || letter == 'X' then .error (notNumber letter value)
          else Arithmetic.truncate found
      | _ => .error (notNumber letter value)

/-- An integer as a directive sets it. -/
def ofInt (binary : Bool) (directive : Directive) (value : Value) : Except Fault (List Char) := do
  let found ← intOf (shownLetter binary directive.letter) value
  if directive.precision.any (· > precisionLimit - 3) then throw (.value "precision too large")
  let letter := directive.letter
  let plain := letter == 'd' || letter == 'i' || letter == 'u'
  let digits ← FieldLayout.digitsFor (if plain then 'd' else letter) found.natAbs
  let padded := List.replicate ((directive.precision.getD 0) - digits.length) '0' ++ digits
  let mark := if directive.alternate && !plain then ['0', letter] else []
  number directive (found < 0) mark padded

/-- A value as a float; a template of bytes has one fault for all values that are none. -/
def floatOf (binary : Bool) (value : Value) : Except Fault Float :=
  match value with
  | .float found _ => .ok found
  | _ =>
      let found := match value.int? with
        | some number => floatOfInt number
        | none => .error (.typing ("must be real number, not " ++ value.label))
      if binary then
        found.mapError fun _ => .typing ("float argument required, not " ++ value.label)
      else found

/-- A float as a directive sets it. -/
def ofFloat (binary : Bool) (directive : Directive) (value : Value) : Except Fault (List Char) := do
  let found ← floatOf binary value
  let places := directive.precision.getD 6
  let letter := directive.letter
  let form : Number.Form :=
    if letter == 'e' || letter == 'E' then .scientific places
    else if letter == 'f' || letter == 'F' then .fixed places
    else .general places
  let chars := Number.absoluteChars form ⟨directive.alternate, false⟩ found
  let shown := if letter.isUpper then chars.map Char.toUpper else chars
  number directive (Number.writtenNegative found) [] shown

/-- The character that a directive takes a value for. -/
def charOf (binary : Bool) (value : Value) : Except Fault Char :=
  let refused : Fault :=
    .typing
      (if binary then "%c requires an integer in range(256) or a single byte"
        else "%c requires int or char")
  match value with
  | .text text _ =>
      match binary, text.toList with
      | false, [char] => .ok char
      | _, _ => .error refused
  | .bytes [byte] _ => if binary then .ok (Char.ofNat byte.toNat) else .error refused
  | _ =>
      match value.int? with
      | none => .error refused
      | some code =>
          if binary then
            if code < 0 || 255 < code then .error (.overflow "%c arg not in range(256)")
            else .ok (Char.ofNat code.toNat)
          else if code < 0 || 0x10ffff < code then
            .error (.overflow "%c arg not in range(0x110000)")
          else .ok (Char.ofNat code.toNat)

/-- Text cut to the precision of a directive and filled up to its width. -/
def ofText (directive : Directive) (chars : List Char) : Except Fault (List Char) :=
  pad directive
    (match directive.precision with
      | some precision => chars.take precision
      | none => chars)

/-- The characters of bytes that a directive takes. -/
def bytesOf (value : Value) : Except Fault (List Char) :=
  match value with
  | .bytes bytes _ => .ok (bytes.map fun byte => Char.ofNat byte.toNat)
  | _ =>
      .error (.typing ("%b requires a bytes-like object, or an object that implements " ++
        "__bytes__, not '" ++ value.label ++ "'"))

/-- The fault of a letter that no directive has, at a place of the template. -/
def unknownLetter (letter : Char) (place : Nat) : Fault :=
  let code := letter.toNat
  let shown := if 31 ≤ code && code < 127 then letter else '?'
  .value ("unsupported format character '" ++ String.singleton shown ++ "' (0x" ++
    String.ofList (Nat.toDigits 16 code) ++ ") at index " ++ toString place)

/-- A value as a directive sets it; `place` is that of the letter. -/
def set (heap : Heap) (binary : Bool) (directive : Directive) (place : Nat) (value : Value) :
    Except Fault (List Char) := do
  let letter := directive.letter
  if letter == 's' && !binary then ofText directive (← heap.plain value)
  else if letter == 's' || (letter == 'b' && binary) then ofText directive (← bytesOf value)
  else if letter == 'r' && !binary then ofText directive (← heap.shown value)
  else if letter == 'a' || letter == 'r' then ofText directive (← heap.shownAscii value)
  else if [ 'd', 'i', 'u', 'o', 'x', 'X' ].contains letter then ofInt binary directive value
  else if [ 'e', 'E', 'f', 'F', 'g', 'G' ].contains letter then ofFloat binary directive value
  else if letter == 'c' then pad directive [← charOf binary value]
  else throw (unknownLetter letter place)

/-- A directive sets a text as it is: it is the whole of a template, or nothing was set before
it. -/
def setsAlone (directive : Directive) (value : Value) (before chars after : List Char) : Bool :=
  match value with
  | .text text _ =>
      before.isEmpty && after.isEmpty && directive.letter == 's' && !directive.sign &&
        !directive.blank && chars == text.toList
  | _ => false

/-- What a template was filled with: the text, the values that are left, and the value that alone
makes up the text. -/
structure Filled where
  chars : List Char
  left : Supply
  sole : Option Value

/-- Fill a template from a place on; `fuel` bounds the number of directives and characters, and
`taken` holds the reversed text before. -/
def fillFrom (heap : Heap) (binary : Bool) (size : Nat) : (fuel : Nat) → Supply → List Char →
    List Char → Except Fault Filled
  | 0, supply, taken, _ => .ok ⟨taken.reverse, supply, none⟩
  | _ + 1, supply, taken, [] => .ok ⟨taken.reverse, supply, none⟩
  | fuel + 1, supply, taken, '%' :: '%' :: rest =>
      fillFrom heap binary size fuel supply ('%' :: taken) rest
  | fuel + 1, supply, taken, '%' :: rest => do
      let (directive, after, left) ← readDirective heap binary supply rest
      let (value, remaining) ← takeValue left
      let chars ← set heap binary directive (size - after.length - 1) value
      if setsAlone directive value taken chars after then return ⟨chars, remaining, some value⟩
      else fillFrom heap binary size fuel remaining (chars.reverse ++ taken) after
  | fuel + 1, supply, taken, char :: rest =>
      fillFrom heap binary size fuel supply (char :: taken) rest

/-- Keys can be looked up in a value that a template is given; a template of bytes takes other bytes
as one value. -/
def isMapping (binary : Bool) : Value → Bool
  | .list _ | .dict _ | .range _ _ _ _ | .applied _ _ _ _ | .union _ _ => true
  | .bytes _ _ => !binary
  | _ => false

/-- Fill a template with a tuple of values, or with one; a text that alone makes up the result is
given with it. -/
def fill (heap : Heap) (binary : Bool) (template : List Char) (given : Value) :
    Except Fault (List Char × Option Value) := do
  let mapping := if isMapping binary given then some given else none
  let pending :=
    match given with
    | .tuple items _ => items
    | _ => [given]
  let filled ←
    fillFrom heap binary template.length (template.length + 1) ⟨pending, mapping⟩ [] template
  if filled.left.pending.isEmpty || mapping.isSome then return (filled.chars, filled.sole)
  else
    throw (.typing ("not all arguments converted during " ++
      (if binary then "bytes" else "string") ++ " formatting"))

end Template
end Predicate
end Wordbook
