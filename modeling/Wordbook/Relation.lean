import Wordbook.Issue
import Wordbook.Json.Display
import Wordbook.Text.Blank
import Wordbook.Unicode.Case

/-!
# Relations

A relation has an identifier, a normalized name and a body in the predicate language.  Here are the
rules by which names, bodies and identifiers that come from outside are accepted.
-/

namespace Wordbook

/-- A named predicate over two tokens. -/
structure Relation where
  id : Int
  name : String
  definition : String
deriving DecidableEq

namespace Relation

/-- The normal form of a name: trimmed, in upper case, with an underscore for every run of
blanks. -/
def normalName (name : String) : String :=
  String.ofList (Text.collapseBlanks '_' (Unicode.upper (Text.trimBy Text.isBlank name.toList)))

/-- A name given as text, or nothing when it is blank. -/
def normalizeText (name : String) : Except Issue String :=
  let normalized := normalName name
  if normalized.isEmpty then .error .emptyName else .ok normalized

/-- A value that should be text: nothing and everything that counts as false is empty text. -/
def textOrEmpty (value : Json) : Except Breach String :=
  match value with
  | .str text => .ok text
  | other => if other.isTruthy then .error (.noMethod other.typeName "strip") else .ok ""

/-- Normalize a name that may be any value. -/
def normalizeName (value : Json) : Except Failure String := do
  let text ← (textOrEmpty value).mapError .breach
  (normalizeText text).mapError .issue

/-- A body without the blanks around it; it must not be blank. -/
def requireBody (body : String) : Except Issue String :=
  let trimmed := Text.trim body
  if trimmed.isEmpty then .error .emptyBody else .ok trimmed

/-- Trim a body that may be any value. -/
def requireDefinition (value : Json) : Except Failure String := do
  let text ← (textOrEmpty value).mapError .breach
  (requireBody text).mapError .issue

/-- A form field was left out or is blank. -/
def isMissing : Json → Bool
  | .null => true
  | .str text => Text.allBlank text
  | _ => false

/-- The integer that a value's text denotes, blanks around it dropped. -/
def idOfText? (value : Json) : Option Int :=
  match Number.readDecimal (Text.trim value.plain) with
  | .value id => some id
  | _ => none

/-- Read an identifier from any value: an integer or its text. -/
def readId (value : Json) : Except Issue Int :=
  if isMissing value then .error .missingId
  else
    match value with
    | .bool _ => .error (.invalidId value.shown)
    | _ =>
        match idOfText? value with
        | some id => .ok id
        | none => .error (.invalidId value.shown)

/-- Read an identifier from any value, which must have a text to be read from. -/
def takeId (value : Json) : Except Failure Int := do
  let _ ← value.written.mapError .breach
  (readId value).mapError .issue

/-- The identifier that a reference is read as, if it is read as one.  A reference without a text for
want of digits is read as none; one that is nested too deep cannot be read at all. -/
def soughtId (value : Json) : Except Breach (Option Int) :=
  match value.written with
  | .ok _ => .ok (idOfText? value)
  | .error (.tooManyDigits _) => .ok none
  | .error breach => .error breach

/-- The first number from a candidate on that is not taken; `tries` bounds the search. -/
def firstFree (taken : List Int) : Nat → Int → Int
  | 0, candidate => candidate
  | tries + 1, candidate =>
      if taken.contains candidate then firstFree taken tries (candidate + 1) else candidate

/-- A new identifier: the clock's milliseconds, past the last one issued and not in use. -/
def newId (clock : Int) (lastIssued : Int) (taken : List Int) : Int :=
  firstFree taken (taken.length + 1) (max (clock.fdiv 1000000) (lastIssued + 1))

end Relation
end Wordbook
