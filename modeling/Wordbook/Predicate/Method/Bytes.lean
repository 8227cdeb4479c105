import Wordbook.Predicate.Method.Span
import Wordbook.Text.Hexadecimal

/-!
# Operations of bytes

Bytes are handled like text of ASCII characters: those beyond it have no case and belong to no
class.
-/

namespace Wordbook
namespace Predicate
namespace BytesMethod

/-- An upper-case letter. -/
def isUpper (byte : UInt8) : Bool := 65 ≤ byte.toNat && byte.toNat ≤ 90

/-- A lower-case letter. -/
def isLower (byte : UInt8) : Bool := 97 ≤ byte.toNat && byte.toNat ≤ 122

/-- A letter. -/
def isLetter (byte : UInt8) : Bool := isUpper byte || isLower byte

/-- A digit. -/
def isDigit (byte : UInt8) : Bool := 48 ≤ byte.toNat && byte.toNat ≤ 57

/-- A blank. -/
def isBlank (byte : UInt8) : Bool := byte.toNat == 32 || (9 ≤ byte.toNat && byte.toNat ≤ 13)

/-- A letter in upper case. -/
def upper (byte : UInt8) : UInt8 := if isLower byte then byte - 32 else byte

/-- A letter in lower case. -/
def lower (byte : UInt8) : UInt8 := if isUpper byte then byte + 32 else byte

/-- Words with a capital first letter; the flag tells whether a letter stands before. -/
def titleFrom (inWord : Bool) : List UInt8 → List UInt8
  | [] => []
  | byte :: rest =>
      (if inWord then lower byte else upper byte) :: titleFrom (isLetter byte) rest

/-- The words are capitalized; the flags tell whether a letter stands before and whether one was
seen. -/
def keepsTitle (inWord seen : Bool) : List UInt8 → Bool
  | [] => seen
  | byte :: rest =>
      if isUpper byte then !inWord && keepsTitle true true rest
      else if isLower byte then inWord && keepsTitle true true rest
      else keepsTitle false seen rest

/-- Operations without arguments that give bytes. -/
def mapping? (name : String) : Option (List UInt8 → List UInt8) :=
  match name with
  | "capitalize" => some fun bytes =>
      match bytes with
      | [] => []
      | first :: rest => upper first :: rest.map lower
  | "lower" => some fun bytes => bytes.map lower
  | "swapcase" => some fun bytes =>
      bytes.map fun byte => if isUpper byte then lower byte else upper byte
  | "title" => some (titleFrom false)
  | "upper" => some fun bytes => bytes.map upper
  | _ => none

/-- Bytes that are not empty have only bytes of a class. -/
def allOf (within : UInt8 → Bool) (bytes : List UInt8) : Bool :=
  !bytes.isEmpty && bytes.all within

/-- Operations without arguments that give a truth value. -/
def test? (name : String) : Option (List UInt8 → Bool) :=
  match name with
  | "isalnum" => some (allOf fun byte => isLetter byte || isDigit byte)
  | "isalpha" => some (allOf isLetter)
  | "isascii" => some fun bytes => bytes.all fun byte => byte.toNat < 128
  | "isdigit" => some (allOf isDigit)
  | "islower" => some fun bytes => bytes.any isLower && !bytes.any isUpper
  | "isspace" => some (allOf isBlank)
  | "istitle" => some (keepsTitle false false)
  | "isupper" => some fun bytes => bytes.any isUpper && !bytes.any isLower
  | _ => none

/-- A value that must be bytes. -/
def bytesOf (value : Value) : Except Fault (List UInt8) :=
  match value with
  | .bytes bytes _ => .ok bytes
  | _ => .error (.typing ("a bytes-like object is required, not '" ++ value.label ++ "'"))

/-- The bytes that are sought: some, or one given by its number. -/
def soughtOf (value : Value) : Except Fault (List UInt8) :=
  match value with
  | .bytes bytes _ => .ok bytes
  | _ =>
      match value.int? with
      | some code =>
          if 0 ≤ code && code < 256 then .ok [UInt8.ofNat code.toNat]
          else .error (.value "byte must be in range(0, 256)")
      | none =>
          .error (.typing ("argument should be integer or bytes-like object, not '" ++
            value.label ++ "'"))

/-- Some bytes, or those of one item of a tuple, stand at an edge.  The items of a tuple are looked
at in turn, up to the first one whose bytes do. -/
def anyEdge (name : String) (value : Value) (standsAt : List UInt8 → Bool) : Except Fault Bool :=
  match value with
  | .bytes bytes _ => .ok (standsAt bytes)
  | .tuple items _ => items.anyM fun item => (bytesOf item).map standsAt
  | _ =>
      .error (.typing (name ++ " first arg must be bytes or a tuple of bytes, not " ++ value.label))

/-- An operation that searches. -/
def search (name : String) (bytes : List UInt8) (arguments : Arguments) : Except Fault Value := do
  let given ← arguments.takes name ("bytes." ++ name) 1 3
  let value := given.headD .nothing
  let span ← Span.make given[1]? given[2]? bytes.length
  if name == "startswith" || name == "endswith" then
    return .bool (← anyEdge name value fun part =>
      if name == "startswith" then span.startsWith part bytes else span.endsWith part bytes)
  else
    let part ← soughtOf value
    let found (place : Option Nat) (must : Bool) : Except Fault Value :=
      match place with
      | some index => .ok (.int index)
      | none => if must then .error (.value "subsection not found") else .ok (.int (-1))
    match name with
    | "count" => return .int (span.count part bytes)
    | "find" => found (span.find? part bytes) false
    | "index" => found (span.find? part bytes) true
    | "rfind" => found (span.findLast? part bytes) false
    | _ => found (span.findLast? part bytes) true

/-- A list of parts of bytes. -/
def listOf (whole : Value) (pieces : List (List UInt8)) : Work Value :=
  Work.newList (pieces.map whole.partOfBytes).toArray

/-- Split at a separator, or at runs of blanks. -/
def split (name : String) (whole : Value) (bytes : List UInt8) (arguments : Arguments) :
    Work Value := do
  let given ← Work.ofExcept (arguments.bind name 0 ["sep", "maxsplit"] 0 2)
  let count ← match given[1]?.join with
    | some value => Work.ofExcept (wordInteger value)
    | none => pure (-1)
  let limit := limitOf count bytes.length
  match (given[0]?.join : Option Value) with
  | none | some .nothing =>
      listOf (if count = 0 then .nothing else whole)
        (if name == "split" then Text.splitRuns isBlank limit bytes
          else Text.splitRunsLast isBlank limit bytes)
  | some value =>
      let part ← Work.ofExcept (bytesOf value)
      if part.isEmpty then Work.raise (.value "empty separator")
      else
        listOf whole
          (if name == "split" then Text.splitFirst part limit bytes
            else Text.splitLast part limit bytes)

/-- The bytes before a separator, the separator and the bytes after it. -/
def partition (name : String) (whole : Value) (bytes : List UInt8) (arguments : Arguments) :
    Except Fault Value := do
  let given ← arguments.single ("bytes." ++ name)
  let part ← bytesOf given
  if part.isEmpty then throw (.value "empty separator")
  let blank : Value := .bytes []
  let cut :=
    if name == "partition" then Text.cutFirst? part bytes else Text.cutLast? part bytes
  match cut with
  | some (before, after) => return .tuple [.bytes before, given, .bytes after]
  | none =>
      return .tuple
        (if name == "partition" then [whole, blank, blank] else [blank, blank, whole])

/-- Pieces joined by bytes. -/
def join (bytes : List UInt8) (arguments : Arguments) : Work Value := do
  let given ← Work.ofExcept (arguments.single "bytes.join")
  match ← Work.iterator? given with
  | none => Work.raise (.typing "can only join an iterable")
  | some _ =>
      let items ← Work.gather given
      let pieces ← Work.ofExcept (items.toList.zipIdx.mapM fun (item, place) =>
        match item with
        | .bytes piece _ => .ok piece
        | _ =>
            .error (.typing ("sequence item " ++ toString place ++
              ": expected a bytes-like object, " ++ item.label ++ " found")))
      match pieces with
      | [] => return .bytes []
      | [_] => return items.getD 0 .nothing
      | first :: rest => return .ofBytesApart (first ++ rest.flatMap fun piece => bytes ++ piece)

/-- Bytes filled up to a width. -/
def justify (name : String) (edge : Edge) (whole : Value) (bytes : List UInt8)
    (arguments : Arguments) : Except Fault Value := do
  let given ← arguments.between name ("bytes." ++ name) 1 2
  let width ← wordInteger (given.headD .nothing)
  match (given[1]? : Option Value) with
  | none => return whole.madeOfBytes (← fillUp edge width 32 bytes)
  | some (.bytes [fill] _) => return whole.madeOfBytes (← fillUp edge width fill bytes)
  | some other =>
      throw (.typing (name ++ "() argument 2 must be a byte string of length 1, not " ++
        other.label))

/-- Zeros put between a sign and the digits, up to a width. -/
def fillZeros (whole : Value) (bytes : List UInt8) (width : Int) : Except Fault Value := do
  let filled ← fillUp .left width 48 bytes
  match bytes with
  | sign :: rest =>
      if (sign == 43 || sign == 45) && bytes.length < filled.length then
        return .ofBytesApart (sign :: List.replicate (filled.length - bytes.length) 48 ++ rest)
      else return whole.madeOfBytes filled
  | [] => return whole.madeOfBytes filled

/-- Bytes trimmed at their ends. -/
def trim (name : String) (whole : Value) (bytes : List UInt8) (arguments : Arguments) :
    Except Fault Value := do
  let dropped : UInt8 → Bool ←
    match ← arguments.between name ("bytes." ++ name) 0 1 with
    | [] | [.nothing] => pure isBlank
    | value :: _ => do
        let set ← bytesOf value
        pure set.contains
  let start (symbols : List UInt8) : List UInt8 := symbols.dropWhile dropped
  let stop (symbols : List UInt8) : List UInt8 := (symbols.reverse.dropWhile dropped).reverse
  match name with
  | "lstrip" => return whole.partOfBytes (start bytes)
  | "rstrip" => return whole.partOfBytes (stop bytes)
  | _ => return whole.partOfBytes (stop (start bytes))

/-- The lines of bytes with their ends, `line` being the reversed beginning of the current one. -/
def linesFrom (line : List UInt8) : List UInt8 → List (List UInt8 × List UInt8)
  | [] => if line.isEmpty then [] else [(line.reverse, [])]
  | 13 :: 10 :: rest => (line.reverse, [13, 10]) :: linesFrom [] rest
  | byte :: rest =>
      if byte == 10 || byte == 13 then (line.reverse, [byte]) :: linesFrom [] rest
      else linesFrom (byte :: line) rest

/-- The hexadecimal digits of bytes, with a mark between groups of them. -/
def hex (heap : Heap) (bytes : List UInt8) (arguments : Arguments) : Except Fault Value := do
  let given ← arguments.bind "hex" 0 ["sep", "bytes_per_sep"] 0 2
  let size ← match given[1]?.join with
    | some value => smallInteger value
    | none => pure 1
  let digits := bytes.map fun byte => (Text.hexOfBytes [byte]).toList
  match given[0]?.join with
  | none => return .ofChars digits.flatten
  | some value =>
      if (← heap.lengthOf value) != 1 then throw (.value "sep must be length 1.")
      let mark ← match value with
        | .text text _ => pure text.toList
        | .bytes found _ => pure (found.map fun byte => Char.ofNat byte.toNat)
        | _ => throw (.typing "sep must be str or bytes.")
      if mark.any fun char => char.toNat > 127 then throw (.value "sep must be ASCII.")
      let count := digits.length
      let cut (place : Nat) : Bool :=
        size != 0 && place != 0 &&
          (if size > 0 then (count - place) % size.toNat == 0 else place % size.natAbs == 0)
      return .ofChars (digits.zipIdx.flatMap fun (pair, place) =>
        if cut place then mark ++ pair else pair)

/-- Bytes read from pairs of hexadecimal digits, with blanks between the pairs, or the place of the
first character that does not belong there. -/
def readPairs (place : Nat) : List Char → Except Nat (List UInt8)
  | [] => .ok []
  | [char] =>
      if Number.isSpace char then .ok []
      else .error (if (Text.hexValue? char).isSome then place + 1 else place)
  | first :: second :: rest =>
      if Number.isSpace first then readPairs (place + 1) (second :: rest)
      else
        match Text.hexValue? first, Text.hexValue? second with
        | some high, some low => do
            let others ← readPairs (place + 2) rest
            return UInt8.ofNat (high * 16 + low) :: others
        | none, _ => .error place
        | some _, none => .error (place + 1)

/-- Bytes read from hexadecimal digits; characters beyond the basic ones are refused before all
others. -/
def readHex (chars : List Char) : Except Nat (List UInt8) :=
  match chars.findIdx? fun char => char.toNat ≥ 128 with
  | some place => .error place
  | none => readPairs 0 chars

/-- The names of the operations. -/
def names : List String :=
  ["capitalize", "center", "count", "endswith", "expandtabs", "find", "fromhex", "hex", "index",
    "isalnum", "isalpha", "isascii", "isdigit", "islower", "isspace", "istitle", "isupper", "join",
    "ljust", "lower", "lstrip", "maketrans", "partition", "removeprefix", "removesuffix", "replace",
    "rfind", "rindex", "rjust", "rpartition", "rsplit", "rstrip", "split", "splitlines",
    "startswith", "strip", "swapcase", "title", "translate", "upper", "zfill"]

/-- Operations that need no heap. -/
def apply (name : String) (whole : Value) (bytes : List UInt8) (arguments : Arguments) :
    Except Fault Value := do
  match name with
  | "center" => justify name .both whole bytes arguments
  | "ljust" => justify name .right whole bytes arguments
  | "rjust" => justify name .left whole bytes arguments
  | "zfill" => fillZeros whole bytes (← wordInteger (← arguments.single "bytes.zfill"))
  | "count" | "find" | "index" | "rfind" | "rindex" | "startswith" | "endswith" =>
      search name bytes arguments
  | "expandtabs" =>
      let given ← arguments.bind "expandtabs" 0 ["tabsize"] 0 1
      let size ← match given[0]?.join with
        | some value => smallInteger value
        | none => pure 8
      return .ofBytesApart
        (expandTabs (· == 9) (fun byte => byte == 10 || byte == 13) 32 size 0 bytes)
  | "fromhex" =>
      match ← arguments.single "bytes.fromhex" with
      | .text text _ =>
          match readHex text.toList with
          | .ok found => return .bytes found
          | .error place =>
              throw (.value ("non-hexadecimal number found in fromhex() arg at position " ++
                toString place))
      | other =>
          throw (.typing ("fromhex() argument must be str, not " ++
            (if other.typeOf == .nothing then "None" else other.label)))
  | "lstrip" | "rstrip" | "strip" => trim name whole bytes arguments
  | "maketrans" =>
      match ← arguments.between name "bytes.maketrans" 2 2 with
      | [first, second] =>
          let source ← bytesOf first
          let target ← bytesOf second
          if source.length != target.length then
            throw (.value "maketrans arguments must have same length")
          let changes := (source.zip target).reverse
          return .bytes ((List.range 256).map fun code =>
            ((changes.find? fun change => change.1.toNat == code).map Prod.snd).getD
              (UInt8.ofNat code))
      | _ => return .nothing
  | "partition" | "rpartition" => partition name whole bytes arguments
  | "removeprefix" =>
      let part ← bytesOf (← arguments.single "bytes.removeprefix")
      return whole.partOfBytes (if part.isPrefixOf bytes then bytes.drop part.length else bytes)
  | "removesuffix" =>
      let part ← bytesOf (← arguments.single "bytes.removesuffix")
      return whole.partOfBytes
        (if part.reverse.isPrefixOf bytes.reverse then bytes.take (bytes.length - part.length)
          else bytes)
  | "replace" =>
      let given ← arguments.between "replace" "bytes.replace" 2 3
      let old ← bytesOf (given.headD .nothing)
      let new ← bytesOf (given.getD 1 .nothing)
      let count ← match (given[2]? : Option Value) with
        | some value => wordInteger value
        | none => pure (-1)
      let isUntouched := count = 0 || (old.isEmpty && new.isEmpty) || (Text.find? old bytes).isNone
      if isUntouched then return whole
      else return .ofBytesApart (Text.replaceFirst old new (limitOf count bytes.length) bytes)
  | _ =>
      let given ← arguments.bind "translate" 1 ["delete"] 1 2
      let table ← match (given[0]?.join : Option Value) with
        | some .nothing => pure none
        | some value => do
            let found ← bytesOf value
            if found.length != 256 then
              throw (.value "translation table must be 256 characters long")
            pure (some found)
        | none => pure none
      let dropped ← match given[1]?.join with
        | some value => bytesOf value
        | none => pure []
      let kept := bytes.filter fun byte => !dropped.contains byte
      return whole.madeOfBytes
        (match table with
          | some found => kept.map fun byte => found.getD byte.toNat byte
          | none => kept)

/-- Call an operation of bytes. -/
def call (name : String) (whole : Value) (bytes : List UInt8)
    (arguments : Arguments) : Work Value := do
  match mapping? name with
  | some change =>
      Work.ofExcept (arguments.nothing ("bytes." ++ name))
      return .ofBytesApart (change bytes)
  | none =>
      match test? name with
      | some test =>
          Work.ofExcept (arguments.nothing ("bytes." ++ name))
          return .bool (test bytes)
      | none =>
          match name with
          | "hex" => Work.inspect fun heap => hex heap bytes arguments
          | "join" => join bytes arguments
          | "split" | "rsplit" => split name whole bytes arguments
          | "splitlines" => do
              let given ← Work.ofExcept (arguments.bind "splitlines" 0 ["keepends"] 0 1)
              let keep ← match given[0]?.join with
                | some value => Work.ofExcept ((smallInteger value).map fun found => found != 0)
                | none => pure false
              listOf whole ((linesFrom [] bytes).map fun line =>
                if keep then line.1 ++ line.2 else line.1)
          | _ => Work.ofExcept (apply name whole bytes arguments)

end BytesMethod
end Predicate
end Wordbook
