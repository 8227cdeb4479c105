import Wordbook.Instruction
import Wordbook.State
import Wordbook.Text.Pieces

/-!
# Listings

How the state, its relations, its tokens and the instruction set are shown on a terminal.
-/

namespace Wordbook
namespace Listing

/-- One relation on a line of its own. -/
def relationRow (relation : Relation) : String :=
  Text.padStart 13 (Number.decimalText relation.id) ++ " | " ++ Text.padEnd 20 relation.name ++
    " | " ++ relation.definition

/-- Items in groups of a positive size; `fuel` bounds the number of groups. -/
def groups (size : Nat) : Nat → List String → List (List String)
  | 0, _ => []
  | fuel + 1, items =>
      if items.isEmpty then [] else items.take size :: groups size fuel (items.drop size)

/-- Tokens in rows of a given number, all filled up to the longest one. -/
def tokenRows (perLine : Int) (tokens : List String) : Except Breach String :=
  if tokens.isEmpty then .ok "No tokens generated yet."
  else if perLine == 0 then .error .zeroStep
  else
    let width := tokens.foldl (fun widest token => max widest token.length) 0
    let rows := if perLine < 0 then [] else groups perLine.toNat tokens.length tokens
    .ok ("\n".intercalate (rows.map fun row => "  ".intercalate (row.map (Text.padEnd width))))

/-- Tokens in rows of eight. -/
def tokens (items : List String) : String :=
  match tokenRows 8 items with
  | .ok text => text
  | .error _ => ""

/-- The lexicon, the count of tokens and the relations. -/
def state (state : State) : String :=
  let heading :=
    ["Token Relation Engine",
      String.ofList (List.replicate 50 '='),
      "Alphabet:   " ++ state.lexicon.alphabet,
      "Max length: " ++ Number.decimalText state.lexicon.maxLength,
      "Tokens:     " ++ toString state.tokens.length,
      "",
      "RELATIONS:"]
  let relations := state.relations.map fun relation =>
    "  • " ++ relation.name ++ " (ID: " ++ Number.decimalText relation.id ++ ")"
  "\n".intercalate (heading ++ (if relations.isEmpty then ["  (none)"] else relations))

/-- The instruction set, one instruction a line. -/
def instructions : String :=
  "\n".intercalate ("instructions:" :: Instruction.all.map fun entry =>
    "  " ++ Number.decimalText entry.number ++ "  " ++ Text.padEnd 16 entry.name ++ " " ++
      entry.description)

/-- A reference that is read as an identifier: digits after any signs. -/
def looksLikeId (reference : String) : Bool :=
  let body := (Text.trimBy Text.isBlank reference.toList).dropWhile fun char =>
    char == '+' || char == '-'
  !body.isEmpty && body.all Unicode.isDigit

/-- The relation that a reference names; a reference that is read as an identifier names none. -/
def named? (state : Option State) (reference : String) : Option Relation :=
  if looksLikeId reference then none
  else
    match Relation.normalizeText reference with
    | .error _ => none
    | .ok name => state.bind fun current => current.findByName? name

/-- The identifier, as text, of the relation that a reference names; a reference that is an
identifier or names nothing stays as it is. -/
def resolve (state : Option State) (reference : String) : String :=
  match named? state reference with
  | some relation => Number.decimalText relation.id
  | none => reference

/-- What a reference is resolved to, unless the identifier has too many digits for a text. -/
def resolved (state : Option State) (reference : String) : Except Breach String :=
  if (named? state reference).all fun relation => Number.hasText relation.id then
    .ok (resolve state reference)
  else .error (.tooManyDigits none)

end Listing
end Wordbook
