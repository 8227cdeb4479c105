import Wordbook.Unicode.Class

/-!
# Lexemes of the predicate language

A text is cut into names, keywords, numbers, strings, operators and the marks of line ends and
indentation.  Lines inside brackets are one logical line.  A fault tells the line it is reported at.
-/

namespace Wordbook
namespace Predicate

/-- The kinds of lexeme. -/
inductive LexemeKind where
  | name
  | keyword
  | number
  | string
  | operator
  | lineEnd
  | indent
  | dedent
  | finish
deriving DecidableEq

/-- A lexeme, the line it starts on, and how many brackets are open after it. -/
structure Lexeme where
  kind : LexemeKind
  text : String
  line : Nat
  depth : Nat

/-- Why a text cannot be cut any further.  A reported fault overrides an error of the grammar before
it; any other does so only if a bracket was left open before the line of that error. -/
structure LexFault where
  line : Nat
  reported : Bool
  openLine : Option Nat

/-- A place in a text: what is left of it, the line there, the columns of the open indentations with
tabs counted as eight and as one, the open brackets with their lines, and whether a line starts. -/
structure Scan where
  rest : List Char
  line : Nat
  indents : List (Nat × Nat)
  brackets : List (Char × Nat)
  atLineStart : Bool

namespace Scan

/-- The line of the innermost open bracket. -/
def openLine (scan : Scan) : Option Nat := scan.brackets.head?.map fun bracket => bracket.2

/-- A fault that is reported at the current line. -/
def report (scan : Scan) : LexFault := ⟨scan.line, true, scan.openLine⟩

/-- A fault that is noticed at the current line only if the grammar gets that far. -/
def notice (scan : Scan) : LexFault := ⟨scan.line, false, scan.openLine⟩

/-- The fault of a text that ends where it must go on: an open bracket is blamed if there is one. -/
def ended (scan : Scan) : LexFault :=
  ⟨scan.openLine.getD scan.line, false, scan.openLine⟩

end Scan

namespace Lexeme

/-- The words that are no names. -/
def keywords : List String :=
  ["False", "None", "True", "and", "as", "assert", "async", "await", "break", "class", "continue",
    "def", "del", "elif", "else", "except", "finally", "for", "from", "global", "if", "import",
    "in", "is", "lambda", "nonlocal", "not", "or", "pass", "raise", "return", "try", "while",
    "with", "yield"]

/-- The deepest nesting of brackets. -/
def bracketLimit : Nat := 200

/-- The deepest nesting of indentations. -/
def indentLimit : Nat := 100

/-- A character may open a name; all beyond ASCII are checked afterwards. -/
def opensName (char : Char) : Bool :=
  let code := char.toNat
  (97 ≤ code && code ≤ 122) || (65 ≤ code && code ≤ 90) || code == 95 || 128 ≤ code

/-- A decimal digit. -/
def isDigit (char : Char) : Bool := 48 ≤ char.toNat && char.toNat ≤ 57

/-- A hexadecimal digit. -/
def isHexDigit (char : Char) : Bool :=
  let code := char.toNat
  isDigit char || (97 ≤ code && code ≤ 102) || (65 ≤ code && code ≤ 70)

/-- A character may go on with a name. -/
def continuesName (char : Char) : Bool := opensName char || isDigit char

/-- A blank between lexemes. -/
def isGap (char : Char) : Bool := char.toNat == 32 || char.toNat == 9 || char.toNat == 12

/-- The line after a line feed, which counts only if something follows. -/
def lineAfter (line : Nat) (rest : List Char) : Nat := if rest.isEmpty then line else line + 1

/-- The indentation of a line: its column with tabs to the next eighth column, its column with tabs
counted as one, the column at which the first continued line of it started if that is not zero, what
follows, and the line it is on. -/
structure Margin where
  column : Nat
  plain : Nat
  continued : Nat
  rest : List Char
  line : Nat

/-- Measure the blanks at the start of a line; a backslash before the line end continues them. -/
def measure (fault : Nat → LexFault) (ended : Nat → LexFault) :
    Nat → Nat → Nat → Nat → List Char → Except LexFault Margin
  | column, plain, continued, line, [] => .ok ⟨column, plain, continued, [], line⟩
  | column, plain, continued, line, char :: rest =>
      if char == ' ' then measure fault ended (column + 1) (plain + 1) continued line rest
      else if char == '\t' then
        measure fault ended ((column / 8 + 1) * 8) (plain + 1) continued line rest
      else if char.toNat == 12 then measure fault ended 0 0 continued line rest
      else if char.toNat == 92 then
        match rest with
        | '\n' :: [] => .error (ended line)
        | '\n' :: next :: others =>
            measure fault ended column plain (if continued == 0 then column else continued)
              (line + 1) (next :: others)
        | _ => .error (fault line)
      else .ok ⟨column, plain, continued, char :: rest, line⟩

/-- Close indentations down to a column: the ones left and how many were closed. -/
def closeIndents (column : Nat) : List (Nat × Nat) → List (Nat × Nat) × Nat
  | [] => ([], 0)
  | (top, plain) :: below =>
      if column < top && !below.isEmpty then
        let (left, closed) := closeIndents column below
        (left, closed + 1)
      else ((top, plain) :: below, 0)

/-- The indentation marks of a line that is not blank, and the indentations open after it. -/
def indentation (scan : Scan) (column plain : Nat) :
    Except LexFault (List Lexeme × List (Nat × Nat)) :=
  match scan.indents with
  | [] => .ok ([], [(column, plain)])
  | (top, topPlain) :: below =>
      if column == top then
        if plain == topPlain then .ok ([], scan.indents) else .error (Scan.notice scan)
      else if top < column then
        if scan.indents.length ≥ indentLimit then .error (Scan.notice scan)
        else if plain ≤ topPlain then .error (Scan.notice scan)
        else .ok ([⟨.indent, "", scan.line, 0⟩], (column, plain) :: scan.indents)
      else
        let (left, closed) := closeIndents column ((top, topPlain) :: below)
        match left.head? with
        | some (newTop, newPlain) =>
            if column == newTop && plain == newPlain then
              .ok (List.replicate closed ⟨.dedent, "", scan.line, 0⟩, left)
            else .error (Scan.notice scan)
        | none => .error (Scan.notice scan)

/-- The text starts with the rest of a word and no name goes on after it. -/
def completesWord : List Char → List Char → Bool
  | [], rest => !(rest.head?.any continuesName)
  | letter :: word, char :: rest => letter == char && completesWord word rest
  | _ :: _, [] => false

/-- A number may end here: no name follows, except a keyword that can stand after a number. -/
def numberEnds (rest : List Char) : Bool :=
  match rest with
  | [] => true
  | char :: after =>
      !continuesName char ||
        (match char with
          | 'a' => completesWord ['n', 'd'] after
          | 'e' => completesWord ['l', 's', 'e'] after
          | 'f' => completesWord ['o', 'r'] after
          | 'i' => after.head?.any fun next => next == 'f' || next == 'n' || next == 's'
          | 'o' => completesWord ['r'] after
          | 'n' => completesWord ['o', 't'] after
          | _ => false)

/-- The text after digits of a class with single underscores between them, which must start with a
digit; nothing if an underscore is out of place. -/
def afterDigits? (digit : Char → Bool) : List Char → Option (List Char)
  | [] => none
  | [char] => if digit char then some [] else none
  | char :: next :: rest =>
      if !digit char then none
      else if next == '_' then afterDigits? digit rest
      else if digit next then afterDigits? digit (next :: rest)
      else some (next :: rest)

/-- The text after digits that may start with an underscore. -/
def afterMarkedDigits? (digit : Char → Bool) : List Char → Option (List Char)
  | '_' :: rest => afterDigits? digit rest
  | rest => afterDigits? digit rest

/-- The text after an imaginary mark or none, with the check of the number's end. -/
def afterUnit? (rest : List Char) : Option (List Char) :=
  match rest with
  | mark :: others =>
      if mark == 'j' || mark == 'J' then
        if numberEnds others then some others else none
      else if numberEnds rest then some rest else none
  | [] => some []

/-- The text after an exponent, an imaginary mark or neither, with the check of the number's end. -/
def afterTail? (rest : List Char) : Option (List Char) :=
  match rest with
  | mark :: others =>
      if mark == 'e' || mark == 'E' then
        match others with
        | sign :: digits =>
            if sign == '+' || sign == '-' then (afterDigits? isDigit digits).bind afterUnit?
            else if isDigit sign then (afterDigits? isDigit others).bind afterUnit?
            else if numberEnds rest then some rest else none
        | [] => if numberEnds rest then some rest else none
      else afterUnit? rest
  | [] => some []

/-- The text after a fraction, its point being read, and what may follow it. -/
def afterFraction? (rest : List Char) : Option (List Char) :=
  match rest with
  | digit :: _ =>
      if isDigit digit then (afterDigits? isDigit rest).bind afterTail? else afterTail? rest
  | [] => some []

/-- The text after the point of a number and its fraction, or after what may follow digits. -/
def afterWhole? (rest : List Char) : Option (List Char) :=
  match rest with
  | point :: fraction => if point == '.' then afterFraction? fraction else afterTail? rest
  | [] => some []

/-- The text after a decimal number that starts with a digit. -/
def afterDecimal? (chars : List Char) : Option (List Char) :=
  (afterDigits? isDigit chars).bind afterWhole?

/-- A number that starts with zero has another digit than zero before its point or mark. -/
def hasLeadingZero (digits : List Char) : Bool :=
  digits.any fun digit => digit != '0' && digit != '_'

/-- The text after the digits of a number in another base, whose mark is read. -/
def afterBased? (digit : Char → Bool) (rest : List Char) : Option (List Char) :=
  (afterMarkedDigits? digit rest).bind fun after =>
    if after.head?.any isDigit || !numberEnds after then none else some after

/-- The text after what may follow digits that start with a zero: other digits than zeros are only
allowed before a point or a mark. -/
def afterZeros? (digits rest : List Char) : Option (List Char) :=
  match rest with
  | [] => if hasLeadingZero digits then none else some []
  | next :: fraction =>
      if next == '.' then afterFraction? fraction
      else if next == 'e' || next == 'E' || next == 'j' || next == 'J' then
        if hasLeadingZero digits && (next == 'e' || next == 'E') &&
            (afterTail? rest).any (fun others => others.length == rest.length) then none
        else afterTail? rest
      else if hasLeadingZero digits then none
      else if numberEnds rest then some rest else none

/-- The text after a number that starts with a zero. -/
def afterZero? (rest : List Char) : Option (List Char) :=
  let whole : Option (List Char) :=
    (afterDigits? isDigit ('0' :: rest)).bind fun after =>
      afterZeros? (('0' :: rest).take (rest.length + 1 - after.length)) after
  match rest with
  | [] => some []
  | mark :: digits =>
      if mark == 'x' || mark == 'X' then afterBased? isHexDigit digits
      else if mark == 'o' || mark == 'O' then
        afterBased? (fun char => 48 ≤ char.toNat && char.toNat ≤ 55) digits
      else if mark == 'b' || mark == 'B' then
        afterBased? (fun char => char == '0' || char == '1') digits
      else whole

/-- The text after a number that starts here, or nothing if it is malformed. -/
def afterNumber? (chars : List Char) : Option (List Char) :=
  match chars with
  | first :: rest =>
      if first == '0' then afterZero? rest
      else if first == '.' then afterFraction? rest
      else afterDecimal? chars
  | [] => none

/-- Which letters were read in front of a quote. -/
structure StringMarks where
  bytes : Bool := false
  raw : Bool := false
  unicode : Bool := false
  format : Bool := false

/-- The marks with one letter more, if it may stand there. -/
def StringMarks.add? (marks : StringMarks) (letter : Char) : Option StringMarks :=
  if (letter == 'b' || letter == 'B') && !(marks.bytes || marks.unicode || marks.format) then
    some { marks with bytes := true }
  else if (letter == 'u' || letter == 'U') &&
      !(marks.bytes || marks.unicode || marks.raw || marks.format) then
    some { marks with unicode := true }
  else if (letter == 'r' || letter == 'R') && !(marks.raw || marks.unicode) then
    some { marks with raw := true }
  else if (letter == 'f' || letter == 'F') && !(marks.format || marks.bytes || marks.unicode) then
    some { marks with format := true }
  else none

/-- A character is a quote. -/
def isQuote (char : Char) : Bool := char.toNat == 34 || char.toNat == 39

/-- How many letters stand in front of a quote that they mark, if a marked string starts here. -/
def stringMark? (marks : StringMarks) (count : Nat) : List Char → Option Nat
  | [] => none
  | char :: rest =>
      if isQuote char then some count
      else
        match marks.add? char with
        | some more => stringMark? more (count + 1) rest
        | none => none

/-- How many characters a string still has from inside it, and how many lines it passes: `size`
quotes end it and `run` of them were just read.  A short string ends on its line. -/
def stringBody (quote : Char) (size : Nat) :
    Nat → Nat → Nat → List Char → Option (Nat × Nat)
  | run, taken, passed, chars =>
      if run == size then some (taken, passed)
      else
        match chars with
        | [] => none
        | char :: rest =>
            if char == '\n' && size == 1 then none
            else if char == quote then stringBody quote size (run + 1) (taken + 1) passed rest
            else if char.toNat == 92 then
              match rest with
              | [] => none
              | escaped :: others =>
                  stringBody quote size 0 (taken + 2)
                    (if escaped == '\n' then passed + 1 else passed) others
            else
              stringBody quote size 0 (taken + 1) (if char == '\n' then passed + 1 else passed) rest

/-- How many characters a string has from its first quote on, and how many lines it passes. -/
def stringLength? (chars : List Char) : Option (Nat × Nat) :=
  match chars with
  | [] => none
  | quote :: rest =>
      match rest with
      | second :: third :: others =>
          if second == quote && third == quote then stringBody quote 3 0 3 0 others
          else if second == quote then some (2, 0)
          else stringBody quote 1 0 1 0 rest
      | [second] => if second == quote then some (2, 0) else none
      | [] => none

/-- The operators of three characters. -/
def tripleOperators : List String := ["**=", "...", "//=", "<<=", ">>="]

/-- The operators of two characters. -/
def doubleOperators : List String :=
  ["!=", "%=", "&=", "**", "*=", "+=", "-=", "->", "//", "/=", ":=", "<<", "<=", "<>", "==", ">=",
    ">>", "@=", "^=", "|="]

/-- The operator that starts here: the longest one. -/
def operatorText (chars : List Char) : String :=
  let three := String.ofList (chars.take 3)
  let two := String.ofList (chars.take 2)
  if tripleOperators.contains three then three
  else if doubleOperators.contains two then two
  else String.ofList (chars.take 1)

/-- The brackets after an operator: one more, one fewer, the same, or a fault. -/
def bracketsAfter? (scan : Scan) (symbol : String) : Option (List (Char × Nat)) :=
  if symbol == "(" then
    if scan.brackets.length ≥ bracketLimit then none else some (('(', scan.line) :: scan.brackets)
  else if symbol == "[" then
    if scan.brackets.length ≥ bracketLimit then none else some (('[', scan.line) :: scan.brackets)
  else if symbol == "\x7b" then
    if scan.brackets.length ≥ bracketLimit then none
    else some (('\x7b', scan.line) :: scan.brackets)
  else if symbol == ")" || symbol == "]" || symbol == "\x7d" then
    match scan.brackets with
    | [] => none
    | (opening, _) :: outer =>
        if (opening == '(' && symbol == ")") || (opening == '[' && symbol == "]") ||
            (opening == '\x7b' && symbol == "\x7d") then some outer
        else none
  else some scan.brackets

/-- What one step of cutting gives: lexemes, which may be none, and the place after them; or the end
of the text, or a fault. -/
inductive Step where
  | lexemes (found : List Lexeme) (after : Scan)
  | finished (found : List Lexeme)
  | fault (fault : LexFault)

/-- Pass over the start of a line: its indentation marks, or nothing if the line is blank. -/
def lineStart (scan : Scan) : Step :=
  let onLine (line : Nat) : Scan := { scan with line := line }
  match measure (fun line => Scan.notice (onLine line)) (fun line => Scan.ended (onLine line))
      0 0 0 scan.line scan.rest with
  | .error fault => .fault fault
  | .ok margin =>
      let here : Scan :=
        { scan with rest := margin.rest, line := margin.line, atLineStart := false }
      match margin.rest with
      | '#' :: _ =>
          match margin.rest.dropWhile (· != '\n') with
          | [] => .lexemes [] { here with rest := [] }
          | _ :: after =>
              .lexemes [] { here with
                rest := after, line := lineAfter here.line after, atLineStart := true }
      | '\n' :: after =>
          .lexemes [] { here with
            rest := after, line := lineAfter here.line after, atLineStart := true }
      | _ =>
          if !scan.brackets.isEmpty then .lexemes [] here
          else
            let column := if margin.continued == 0 then margin.column else margin.continued
            let plain := if margin.continued == 0 then margin.plain else margin.continued
            match indentation here column plain with
            | .error fault => .fault fault
            | .ok (marks, indents) => .lexemes marks { here with indents := indents }

/-- A piece of a text that is one lexeme, what follows it, and how many lines it passes. -/
structure Piece where
  kind : LexemeKind
  text : String
  rest : List Char
  passed : Nat

/-- Cut a name or keyword off. -/
def word? (chars : List Char) : Option Piece :=
  let word := chars.takeWhile continuesName
  if word.any (fun char => 128 ≤ char.toNat) && !Unicode.isIdentifier word then none
  else
    let text := String.ofList word
    some ⟨if keywords.contains text then .keyword else .name, text, chars.dropWhile continuesName, 0⟩

/-- Cut a string off, a number of letters standing in front of its quote. -/
def string? (letters : Nat) (chars : List Char) : Option Piece :=
  match stringLength? (chars.drop letters) with
  | none => none
  | some (length, passed) =>
      some ⟨.string, String.ofList (chars.take (letters + length)), chars.drop (letters + length),
        passed⟩

/-- Cut a number off. -/
def number? (chars : List Char) : Option Piece :=
  match afterNumber? chars with
  | none => none
  | some after =>
      some ⟨.number, String.ofList (chars.take (chars.length - after.length)), after, 0⟩

/-- Cut an operator off. -/
def operator? (chars : List Char) : Option Piece :=
  let symbol := operatorText chars
  if chars.head?.all Unicode.isPrintable || symbol.length > 1 then
    some ⟨.operator, symbol, chars.drop symbol.length, 0⟩
  else none

/-- Cut the lexeme off that a text starts with. -/
def piece? (chars : List Char) : Option Piece :=
  match chars with
  | [] => none
  | char :: after =>
      if opensName char then
        match stringMark? {} 0 chars with
        | some letters => string? letters chars
        | none => word? chars
      else if isDigit char || (char == '.' && after.head?.any isDigit) then number? chars
      else if isQuote char then string? 0 chars
      else operator? chars

/-- Cut the lexeme off that a place starts with. -/
def pieceStep (scan : Scan) : Step :=
  match piece? scan.rest with
  | none => .fault (Scan.report scan)
  | some piece =>
      let brackets? :=
        if piece.kind == .operator then bracketsAfter? scan piece.text else some scan.brackets
      match brackets? with
      | none => .fault (Scan.report scan)
      | some brackets =>
          .lexemes [⟨piece.kind, piece.text, scan.line, brackets.length⟩]
            { scan with rest := piece.rest, line := scan.line + piece.passed, brackets := brackets }

/-- Cut the next lexeme off, inside a line. -/
def step (scan : Scan) : Step :=
  let afterGap := scan.rest.dropWhile isGap
  let rest := if afterGap.head? == some '#' then afterGap.dropWhile (· != '\n') else afterGap
  let here : Scan := { scan with rest := rest }
  match rest with
  | [] =>
      if here.brackets.isEmpty then .finished [⟨.finish, "", here.line, 0⟩]
      else .fault (Scan.ended here)
  | char :: after =>
      if char == '\n' then
        let next : Scan :=
          { here with rest := after, line := lineAfter here.line after, atLineStart := true }
        if here.brackets.isEmpty then .lexemes [⟨.lineEnd, "", here.line, 0⟩] next
        else .lexemes [] next
      else if char.toNat == 92 then
        match after with
        | '\n' :: [] => .fault (Scan.ended here)
        | '\n' :: next => .lexemes [] { here with rest := next, line := here.line + 1 }
        | _ => .fault (Scan.notice here)
      else pieceStep here

/-- Cut a text from a place on, `fuel` bounding the steps and `found` holding the reversed
lexemes. -/
def cutFrom : Nat → Scan → List Lexeme → List Lexeme × Option LexFault
  | 0, _, found => (found.reverse, none)
  | fuel + 1, scan, found =>
      match if scan.atLineStart then lineStart scan else step scan with
      | .lexemes more after => cutFrom fuel after (more.reverse ++ found)
      | .finished more => ((more.reverse ++ found).reverse, none)
      | .fault fault => (found.reverse, some fault)

/-- Text with every line ended by a line feed. -/
def plainLines : List Char → List Char
  | [] => []
  | '\r' :: '\n' :: rest => '\n' :: plainLines rest
  | '\r' :: rest => '\n' :: plainLines rest
  | char :: rest => char :: plainLines rest

/-- Cut a text, which starts on a given line, into lexemes up to its end or the first fault. -/
def cut (line : Nat) (chars : List Char) : List Lexeme × Option LexFault :=
  cutFrom (2 * chars.length + 4) ⟨chars, line, [(0, 0)], [], true⟩ []

end Lexeme
end Predicate
end Wordbook
