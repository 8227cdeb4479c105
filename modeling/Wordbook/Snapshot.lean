import Wordbook.Json.Printer
import Wordbook.Json.Reader
import Wordbook.State

/-!
# Snapshots

A state is saved as a JSON object with the members `lexicon`, `generatedTokens` and
`relationDefinitions`.  Reading one back checks every member it needs and ignores all others.
-/

namespace Wordbook
namespace Snapshot

/-- A relation as a JSON object. -/
def relationJson (relation : Relation) : Json :=
  .obj [("id", .int relation.id), ("name", .str relation.name),
    ("definition", .str relation.definition)]

/-- A state as a JSON object. -/
def toJson (state : State) : Json :=
  .obj
    [("lexicon", .obj [("alphabet", .str state.lexicon.alphabet),
        ("maxLength", .int state.lexicon.maxLength)]),
      ("generatedTokens", .arr (state.tokens.map .str)),
      ("relationDefinitions", .arr (state.relations.map relationJson))]

/-- The text of a snapshot. -/
def text (layout : Json.Layout) (state : State) : String := Json.print layout (toJson state)

/-- The bytes of a snapshot.  There are none when an integer of the state has too many digits. -/
def encode (layout : Json.Layout) (state : State) : Except Breach (List UInt8) :=
  match Json.tooLongInt? (toJson state) with
  | some _ => .error (.tooManyDigits none)
  | none => .ok (Encoding.encodeUtf8 (text layout state).toList)

/-- A value that must be an integer; a float equal to one is accepted. -/
def requireInt (what : String) (value : Json) : Except Issue Int :=
  match value with
  | .int number => .ok number
  | .float number =>
      match Number.shape number with
      | .finite parts =>
          if parts.isIntegral then .ok parts.truncate
          else .error (.invalidFormat (what ++ " must be an integer"))
      | _ => .error (.invalidFormat (what ++ " must be an integer"))
  | _ => .error (.invalidFormat (what ++ " must be an integer"))

/-- A value that must be text. -/
def requireText (what : String) (value : Json) : Except Issue String :=
  match value with
  | .str text => .ok text
  | _ => .error (.invalidFormat (what ++ " must be a string"))

/-- A value that must be an object. -/
def requireObject (what : String) (value : Json) : Except Issue (List (String × Json)) :=
  match value with
  | .obj members => .ok members
  | _ => .error (.invalidFormat (what ++ " must be an object"))

/-- A value that must be a list. -/
def requireList (what : String) (value : Json) : Except Issue (List Json) :=
  match value with
  | .arr items => .ok items
  | _ => .error (.invalidFormat (what ++ " must be a list"))

/-- The members that a snapshot must have. -/
def requiredMembers : List String := ["lexicon", "generatedTokens", "relationDefinitions"]

/-- Read the lexicon of a snapshot. -/
def readLexicon (members : List (String × Json)) : Except Issue Lexicon := do
  let alphabet ← requireText "lexicon.alphabet" (Json.memberOrNull "alphabet" members)
  let maxLength ← requireInt "lexicon.maxLength" (Json.memberOrNull "maxLength" members)
  match Lexicon.make alphabet maxLength with
  | .ok lexicon => .ok lexicon
  | .error issue => .error (.invalidFormat issue.message)

/-- Read one relation of a snapshot. -/
def readRelation (index : Nat) (entry : Json) : Except Issue Relation := do
  let place := "relationDefinitions[" ++ toString index ++ "]"
  let members ← requireObject place entry
  let id ← requireInt (place ++ ".id") (Json.memberOrNull "id" members)
  let name ← requireText (place ++ ".name") (Json.memberOrNull "name" members)
  let definition ← requireText (place ++ ".definition") (Json.memberOrNull "definition" members)
  .ok ⟨id, name, definition⟩

/-- Read the relations of a snapshot from an index on. -/
def readRelations (index : Nat) : List Json → Except Issue (List Relation)
  | [] => .ok []
  | entry :: entries => do
      let relation ← readRelation index entry
      let relations ← readRelations (index + 1) entries
      .ok (relation :: relations)

/-- Read the tokens of a snapshot, `taken` holding the reversed ones before. -/
def readTokens (taken : List String) : List Json → Except Issue (List String)
  | [] => .ok taken.reverse
  | item :: items =>
      match requireText "generatedTokens[]" item with
      | .ok token => readTokens (token :: taken) items
      | .error issue => .error issue

/-- Read a state from a JSON value. -/
def ofJson (value : Json) : Except Issue State := do
  let members ← requireObject "top level" value
  let missing := requiredMembers.filter fun name => (Json.memberOrNull name members).isNull
  if !missing.isEmpty then
    .error (.invalidFormat ("missing " ++ ", ".intercalate missing))
  else
    let lexiconMembers ← requireObject "lexicon" (Json.memberOrNull "lexicon" members)
    let tokenItems ← requireList "generatedTokens" (Json.memberOrNull "generatedTokens" members)
    let entries ←
      requireList "relationDefinitions" (Json.memberOrNull "relationDefinitions" members)
    let lexicon ← readLexicon lexiconMembers
    let relations ← readRelations 0 entries
    let tokens ← readTokens [] tokenItems
    .ok ⟨lexicon, tokens, relations⟩

/-- Read a state from bytes in any encoding that JSON may have. -/
def decode (bytes : List UInt8) : Except Failure State :=
  match Encoding.decodeAnnounced bytes with
  | .error fault => .error (.issue (.storage (.unreadableText fault.message)))
  | .ok chars =>
      match Json.read chars with
      | .ok value => (ofJson value).mapError .issue
      | .error (.tooManyDigits count) => .error (.breach (.tooManyDigits (some count)))
      | .error .tooDeep => .error (.breach .tooDeep)
      | .error (.malformed reason remaining) =>
          .error (.issue (.storage (.unreadableText (reason.message chars remaining))))

end Snapshot
end Wordbook
