import Wordbook.Predicate.Lexeme
import Wordbook.Predicate.Node
import Wordbook.Text.Hexadecimal
import Wordbook.Unicode.Name

/-!
# The values of literals

Numbers, text and bytes as they are written in a body.  Adjacent strings are one literal.  A string
with fields is cut into text and fields; the expression of a field is parsed by a function that the
caller supplies.
-/

namespace Wordbook
namespace Predicate

/-- Where a fault of a literal is reported: on a known line, or where reading has got to. -/
inductive LiteralFault where
  | onLine (line : Nat)
  | here
  | tooDeep

namespace Literal

/-- A number without the underscores in it. -/
def withoutUnderscores (text : String) : List Char := text.toList.filter (· != '_')

/-- The value of a number; none if it has too many decimal digits. -/
def ofNumber? (text : String) : Option Literal :=
  let chars := withoutUnderscores text
  match chars with
  | '0' :: mark :: _ =>
      if mark.isAlpha && mark != 'e' && mark != 'E' && mark != 'j' && mark != 'J' then
        match Number.readPlainInt 0 chars with
        | .value value => some (.int value)
        | _ => none
      else decimal chars
  | _ => decimal chars
where
  /-- The value of a number written in decimal. -/
  decimal (chars : List Char) : Option Literal :=
    let last := chars.getLast?
    if last == some 'j' || last == some 'J' then
      (Number.readPlainFloat? chars.dropLast).map .imaginary
    else if chars.all Number.isPlainDigit then
      match Number.readPlainInt 10 chars with
      | .value value => some (.int value)
      | _ => none
    else (Number.readPlainFloat? chars).map .float

/-- The character that a letter after a backslash stands for. -/
def shortEscape? (letter : Char) : Option Char :=
  match letter.toNat with
  | 92 => some letter
  | 39 => some letter
  | 34 => some letter
  | 97 => some (Char.ofNat 7)
  | 98 => some (Char.ofNat 8)
  | 102 => some (Char.ofNat 12)
  | 110 => some (Char.ofNat 10)
  | 114 => some (Char.ofNat 13)
  | 116 => some (Char.ofNat 9)
  | 118 => some (Char.ofNat 11)
  | _ => none

/-- The value of an octal digit. -/
def octalValue? (char : Char) : Option Nat :=
  if 48 ≤ char.toNat && char.toNat ≤ 55 then some (char.toNat - 48) else none

/-- The value of up to a number of octal digits, and the text after them. -/
def readOctal : Nat → Nat → List Char → Nat × List Char
  | 0, value, rest => (value, rest)
  | _ + 1, value, [] => (value, [])
  | count + 1, value, char :: rest =>
      match octalValue? char with
      | some digit => readOctal count (value * 8 + digit) rest
      | none => (value, char :: rest)

/-- The value of exactly a number of hexadecimal digits, and the text after them. -/
def readHex? : Nat → Nat → List Char → Option (Nat × List Char)
  | 0, value, rest => some (value, rest)
  | _ + 1, _, [] => none
  | count + 1, value, char :: rest =>
      (Text.hexValue? char).bind fun digit => readHex? count (value * 16 + digit) rest

/-- How many hexadecimal digits follow a letter after a backslash in text. -/
def hexWidth? (letter : Char) : Option Nat :=
  if letter == 'x' then some 2
  else if letter == 'u' then some 4
  else if letter == 'U' then some 8
  else none

/-- The character of a name in braces, and the text after them. -/
def readName? : List Char → Option (Char × List Char)
  | '\x7b' :: inside =>
      let name := inside.takeWhile (· != '\x7d')
      match inside.drop name.length with
      | _ :: after => (Unicode.charNamed? name).map fun named => (named, after)
      | [] => none
  | _ => none

/-- Text with its escapes replaced by what they stand for, or nothing if one is malformed; `fuel`
bounds the characters and `taken` holds the reversed text so far. -/
def unescapeFrom (inText : Bool) : Nat → List Nat → List Char → Option (List Nat)
  | 0, taken, _ => some taken.reverse
  | _ + 1, taken, [] => some taken.reverse
  | fuel + 1, taken, char :: rest =>
      if char.toNat != 92 then unescapeFrom inText fuel (char.toNat :: taken) rest
      else
        match rest with
        | [] => some (92 :: taken).reverse
        | letter :: others =>
            if letter == '\n' then unescapeFrom inText fuel taken others
            else
              match shortEscape? letter with
              | some meant => unescapeFrom inText fuel (meant.toNat :: taken) others
              | none =>
                  if (octalValue? letter).isSome then
                    let (value, after) := readOctal 3 0 rest
                    let code := if inText then value else value % 256
                    unescapeFrom inText fuel (code :: taken) after
                  else if letter == 'N' && inText then
                    match readName? others with
                    | some (named, after) => unescapeFrom inText fuel (named.toNat :: taken) after
                    | none => none
                  else
                    match hexWidth? letter with
                    | some width =>
                        if width > 2 && !inText then
                          unescapeFrom inText fuel (letter.toNat :: 92 :: taken) others
                        else
                          match readHex? width 0 others with
                          | some (value, after) =>
                              if value > 0x10ffff then none
                              else unescapeFrom inText fuel (value :: taken) after
                          | none => none
                    | none => unescapeFrom inText fuel (letter.toNat :: 92 :: taken) others

/-- Text with its escapes replaced. -/
def unescape? (chars : List Char) : Option (List Char) :=
  (unescapeFrom true (chars.length + 1) [] chars).map fun codes => codes.map Text.charOf

/-- Bytes with their escapes replaced. -/
def unescapeBytes? (chars : List Char) : Option (List UInt8) :=
  (unescapeFrom false (chars.length + 1) [] chars).map fun codes => codes.map UInt8.ofNat

/-- A string lexeme taken apart: its marks and the text between its quotes. -/
structure Written where
  marks : Lexeme.StringMarks
  body : List Char

/-- Take a string lexeme apart. -/
def written (text : String) : Written :=
  let chars := text.toList
  let letters := chars.takeWhile fun char => !Lexeme.isQuote char
  let quoted := chars.drop letters.length
  let marks := letters.foldl
    (fun (marks : Lexeme.StringMarks) letter => (marks.add? letter).getD marks) {}
  let width :=
    match quoted with
    | first :: second :: third :: _ :: _ :: _ => if first == second && second == third then 3 else 1
    | _ => 1
  ⟨marks, (quoted.drop width).take (quoted.length - 2 * width)⟩

/-- What stands between the braces of a field up to the mark that ends its expression. -/
structure FieldText where
  expression : List Char
  rest : List Char

/-- Find the end of a field's expression.  `opened` holds the brackets that are open, and `quote`
the quote and its width when inside a string. -/
def fieldText (opened : List Char) (quote : Option (Char × Nat)) (taken : List Char) :
    Nat → List Char → Option FieldText
  | 0, _ => none
  | _ + 1, [] => if quote.isSome || !opened.isEmpty then none else some ⟨taken.reverse, []⟩
  | fuel + 1, char :: rest =>
      if char.toNat == 92 then none
      else
        match quote with
        | some (mark, width) =>
            if char == mark then
              if width == 3 then
                match rest with
                | second :: third :: others =>
                    if second == mark && third == mark then
                      fieldText opened none (mark :: mark :: mark :: taken) fuel others
                    else fieldText opened quote (char :: taken) fuel rest
                | _ => fieldText opened quote (char :: taken) fuel rest
              else fieldText opened none (char :: taken) fuel rest
            else fieldText opened quote (char :: taken) fuel rest
        | none =>
            if Lexeme.isQuote char then
              match rest with
              | second :: third :: others =>
                  if second == char && third == char then
                    fieldText opened (some (char, 3)) (char :: char :: char :: taken) fuel others
                  else fieldText opened (some (char, 1)) (char :: taken) fuel rest
              | _ => fieldText opened (some (char, 1)) (char :: taken) fuel rest
            else if char == '[' || char == '\x7b' || char == '(' then
              if opened.length ≥ Lexeme.bracketLimit then none
              else fieldText (char :: opened) none (char :: taken) fuel rest
            else if char == '#' then none
            else if opened.isEmpty && (char == '!' || char == ':' || char == '\x7d' ||
                char == '=' || char == '>' || char == '<') then
              let pairs := rest.head? == some '=' && (char == '!' || char == '=' || char == '<' ||
                char == '>')
              if pairs then fieldText opened none ('=' :: char :: taken) fuel (rest.drop 1)
              else if char == '>' || char == '<' then
                fieldText opened none (char :: taken) fuel rest
              else some ⟨taken.reverse, char :: rest⟩
            else if char == ']' || char == '\x7d' || char == ')' then
              match opened with
              | [] => none
              | opening :: outer =>
                  if (opening == '(' && char == ')') || (opening == '[' && char == ']') ||
                      (opening == '\x7b' && char == '\x7d') then
                    fieldText outer none (char :: taken) fuel rest
                  else none
            else fieldText opened none (char :: taken) fuel rest

/-- The text up to the next brace that opens or closes a field: what was read, what follows, and
whether a doubled brace was passed.  A closing brace alone is a fault outside of fields. -/
def literalText (raw top : Bool) (taken : List Char) :
    Nat → List Char → Option (List Char × List Char × Bool)
  | 0, _ => none
  | _ + 1, [] => some (taken.reverse, [], false)
  | fuel + 1, char :: rest =>
      let atBrace (taken : List Char) (brace : Char) (after : List Char) :
          Option (List Char × List Char × Bool) :=
        if top && after.head? == some brace then
          some ((brace :: taken).reverse, after.drop 1, true)
        else if top && brace == '\x7d' then none
        else some (taken.reverse, brace :: after, false)
      if char.toNat == 92 && !raw then
        match rest with
        | [] => some ((char :: taken).reverse, [], false)
        | letter :: others =>
            if letter == 'N' then
              match others with
              | '\x7b' :: name =>
                  let inside := name.takeWhile (· != '\x7d')
                  let after := name.drop (inside.length + 1)
                  literalText raw top
                    ((name.take (inside.length + 1)).reverse ++ '\x7b' :: letter :: char :: taken)
                    fuel after
              | next :: after => literalText raw top (next :: letter :: char :: taken) fuel after
              | [] => some ((letter :: char :: taken).reverse, [], false)
            else if letter == '\x7b' || letter == '\x7d' then atBrace (char :: taken) letter others
            else literalText raw top (letter :: char :: taken) fuel others
      else if char == '\x7b' || char == '\x7d' then atBrace taken char rest
      else literalText raw top (char :: taken) fuel rest

/-- Parts of a string with fields that are being gathered: finished values, reversed, and the text
since the last field. -/
structure Gathered where
  values : List Node
  pending : List Char

/-- Text added behind what was gathered. -/
def Gathered.addText (gathered : Gathered) (chars : List Char) : Gathered :=
  { gathered with pending := gathered.pending ++ chars }

/-- The values with the text since the last field made one of them. -/
def Gathered.flush (line : Nat) (gathered : Gathered) : List Node :=
  if gathered.pending.isEmpty then gathered.values
  else Node.constant line (.text (String.ofList gathered.pending)) :: gathered.values

/-- The number of line feeds in a text. -/
def countLines (chars : List Char) : Nat := chars.count '\n'

/-- A character that a field's expression cannot consist of alone. -/
def isFieldBlank (char : Char) : Bool :=
  char.toNat == 32 || char.toNat == 9 || char.toNat == 10 || char.toNat == 12

/-- A blank that may follow the mark that shows a field's text. -/
def isFieldSpace (char : Char) : Bool :=
  char.toNat == 32 || (9 ≤ char.toNat && char.toNat ≤ 13)

/-- How the expression of a field is parsed: its line and its text in parentheses give a tree. -/
abbrev FieldParser := Nat → List Char → Except LiteralFault Node

/-- The text of a literal with its escapes replaced unless it is raw. -/
def meaning (raw : Bool) (chars : List Char) : Except LiteralFault (List Char) :=
  if raw then .ok chars
  else
    match unescape? chars with
    | some meant => .ok meant
    | none => .error .here

mutual

/-- Gather the text and fields of a string from a place on; `level` counts the fields around, `line`
is the line there, and a field inside a format ends at its closing brace. -/
def gather (parse : FieldParser) (raw : Bool) (level start : Nat) :
    Nat → Nat → Gathered → List Char → Except LiteralFault (Gathered × Nat × List Char)
  | 0, _, _, _ => .error .here
  | fuel + 1, line, gathered, chars =>
      match literalText raw (level == 0) [] (chars.length + 1) chars with
      | none => .error .here
      | some (piece, rest, doubled) =>
          match meaning raw piece with
          | .error fault => .error fault
          | .ok meant =>
              let lineNow := line + countLines piece
              let withText := gathered.addText meant
              if doubled then gather parse raw level start fuel lineNow withText rest
              else
                match rest with
                | '\x7b' :: inside =>
                    match field parse raw level start fuel lineNow inside with
                    | .error fault => .error fault
                    | .ok (shown, node, lineAfter, after) =>
                        let next := withText.addText shown
                        gather parse raw level start fuel lineAfter
                          ⟨node :: next.flush start, []⟩ after
                | _ => .ok (withText, lineNow, rest)

/-- Read a field after its opening brace: its text if that is shown, its tree, the line after it and
the text after it. -/
def field (parse : FieldParser) (raw : Bool) (level start : Nat) :
    Nat → Nat → List Char → Except LiteralFault (List Char × Node × Nat × List Char)
  | 0, _, _ => .error .here
  | fuel + 1, line, inside =>
      if level ≥ 2 then .error .here
      else
        match fieldText [] none [] (inside.length + 1) inside with
        | none => .error .here
        | some found =>
            if found.rest.isEmpty || found.expression.all isFieldBlank then .error .here
            else
              match parse line ('(' :: found.expression ++ [')']) with
              | .error fault => .error fault
              | .ok value =>
                  let (shown, afterShown) :=
                    match found.rest with
                    | '=' :: after =>
                        let blanks := after.takeWhile isFieldSpace
                        (found.expression ++ '=' :: blanks, after.drop blanks.length)
                    | after => ([], after)
                  let lineShown :=
                    line + countLines (if shown.isEmpty then found.expression else shown)
                  match conversion afterShown with
                  | none => .error .here
                  | some (mark, afterMark) =>
                      match afterMark with
                      | ':' :: spec =>
                          if spec.isEmpty then .error .here
                          else
                            match
                              gather parse raw (level + 1) start fuel lineShown ⟨[], []⟩ spec
                            with
                            | .error fault => .error fault
                            | .ok (format, lineAfter, after) =>
                                match after with
                                | '\x7d' :: others =>
                                    let pieces := (format.flush start).reverse
                                    let layout := Node.plain .joinedStr start pieces
                                    .ok (shown, .mk .formattedValue start (.counts [mark])
                                      [value, layout], lineAfter, others)
                                | _ => .error .here
                      | '\x7d' :: others =>
                          let chosen := if !shown.isEmpty && mark == 0 then 'r'.toNat else mark
                          .ok (shown, .mk .formattedValue start (.counts [chosen]) [value],
                            lineShown, others)
                      | _ => .error .here

/-- The conversion mark of a field, zero for none, and the text after it. -/
def conversion : List Char → Option (Nat × List Char)
  | '!' :: mark :: rest =>
      if mark == 's' || mark == 'r' || mark == 'a' then some (mark.toNat, rest) else none
  | ['!'] => none
  | rest => some (0, rest)

end

/-- What adjacent strings have given so far. -/
inductive Joined where
  | nothing
  | bytes (value : List UInt8)
  | text (formatted : Bool) (gathered : Gathered)

/-- Add one string to those before it. -/
def addString (parse : FieldParser) (start : Nat) (joined : Joined) (lexeme : Lexeme) :
    Except LiteralFault Joined :=
  let source := written lexeme.text
  if source.marks.bytes then
    if source.body.any fun char => 128 ≤ char.toNat then .error (.onLine lexeme.line)
    else
      let found? :=
        if source.marks.raw then some (source.body.map fun char => UInt8.ofNat char.toNat)
        else unescapeBytes? source.body
      match found?, joined with
      | none, _ => .error .here
      | some found, .nothing => .ok (.bytes found)
      | some found, .bytes before => .ok (.bytes (before ++ found))
      | some _, .text _ _ => .error .here
  else
    let before : Except LiteralFault (Bool × Gathered) :=
      match joined with
      | .nothing => .ok (false, ⟨[], []⟩)
      | .text formatted gathered => .ok (formatted, gathered)
      | .bytes _ => .error .here
    if source.marks.format then
      match before with
      | .error fault => .error fault
      | .ok (_, gathered) =>
          match gather parse source.marks.raw 0 start (source.body.length + 2) lexeme.line gathered
              source.body with
          | .error fault => .error fault
          | .ok (after, _, rest) => if rest.isEmpty then .ok (.text true after) else .error .here
    else
      match meaning source.marks.raw source.body with
      | .error fault => .error fault
      | .ok meant =>
          match before with
          | .error fault => .error fault
          | .ok (formatted, gathered) => .ok (.text formatted (gathered.addText meant))

/-- The tree of adjacent strings. -/
def ofStrings (parse : FieldParser) (lexemes : List Lexeme) : Except LiteralFault Node :=
  let start := (lexemes.head?.map Lexeme.line).getD 0
  match lexemes.foldlM (addString parse start) .nothing with
  | .error fault => .error fault
  | .ok .nothing => .error .here
  | .ok (.bytes value) => .ok (Node.constant start (.bytes value))
  | .ok (.text true gathered) => .ok (Node.plain .joinedStr start (gathered.flush start).reverse)
  | .ok (.text false gathered) => .ok (Node.constant start (.text (String.ofList gathered.pending)))

end Literal
end Predicate
end Wordbook
