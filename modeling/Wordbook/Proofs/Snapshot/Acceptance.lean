import Mathlib.Data.List.Forall2
import Wordbook.Proofs.Number.Integral
import Wordbook.Proofs.Snapshot.RoundTrip

/-!
# Which values are snapshots

A snapshot is told from other JSON values by a few of its members alone: the alphabet and the length
of its lexicon, its tokens and its relations.  A state is read from a value exactly when these
members have the right forms, and then it holds what they say, in their order.  What is no snapshot
is refused as a value of the wrong format.
-/

namespace Wordbook
namespace Json

/-- The value of a member of an object, null where there is none. -/
def get (name : String) : Json → Json
  | .obj members => memberOrNull name members
  | _ => .null

end Json

namespace Snapshot

/-- An entry tells the identifier, the name and the definition of a relation. -/
structure DescribesRelation (entry : Json) (relation : Relation) : Prop where
  id : (entry.get "id").IsInteger relation.id
  name : entry.get "name" = .str relation.name
  definition : entry.get "definition" = .str relation.definition

/-- A value tells the lexicon, the tokens and the relations of a state. -/
structure Describes (value : Json) (state : State) : Prop where
  alphabet : (value.get "lexicon").get "alphabet" = .str state.lexicon.alphabet
  maxLength : ((value.get "lexicon").get "maxLength").IsInteger state.lexicon.maxLength
  tokens : value.get "generatedTokens" = .arr (state.tokens.map .str)
  relations : ∃ found, value.get "relationDefinitions" = .arr found ∧
    List.Forall₂ DescribesRelation found state.relations

/-- A value is an object with an integer for an identifier, a name and a definition. -/
structure IsEntry (entry : Json) : Prop where
  id : ∃ number, (entry.get "id").IsInteger number
  name : ∃ text, entry.get "name" = .str text
  definition : ∃ text, entry.get "definition" = .str text

/-- A value is an object with a lexicon, which is an object with an alphabet that is not empty and a
positive length, with a list of texts for tokens, and with a list of entries for relations. -/
structure IsSnapshot (value : Json) : Prop where
  alphabet : ∃ text, (value.get "lexicon").get "alphabet" = .str text ∧ text ≠ ""
  maxLength : ∃ number, ((value.get "lexicon").get "maxLength").IsInteger number ∧ 1 ≤ number
  tokens : ∃ items, value.get "generatedTokens" = .arr items ∧
    ∀ item ∈ items, ∃ token, item = .str token
  relations : ∃ found, value.get "relationDefinitions" = .arr found ∧
    ∀ entry ∈ found, IsEntry entry

/-- An issue says that a value has not the format of a snapshot. -/
def IsInvalidFormat (issue : Issue) : Prop :=
  issue.kind = .invalidFormat ∧ issue.family = .storage

/-- What is refused is refused for its format. -/
def RefusesFormat {Result : Type} (outcome : Except Issue Result) : Prop :=
  ∀ issue, outcome = .error issue → IsInvalidFormat issue

/-! ## Why values are refused -/

theorem isInvalidFormat (why : String) : IsInvalidFormat (.invalidFormat why) := ⟨rfl, rfl⟩

namespace RefusesFormat

variable {First Second : Type}

theorem ok (result : First) : RefusesFormat (.ok result) := nofun

theorem error (why : String) :
    RefusesFormat (.error (.invalidFormat why) : Except Issue First) := by
  rintro _ ⟨⟩
  exact isInvalidFormat why

theorem bind
    {outcome : Except Issue First}
    {next : First → Except Issue Second}
    (first : RefusesFormat outcome)
    (second : ∀ result, RefusesFormat (next result)) :
    RefusesFormat (outcome >>= next) := by
  cases outcome with
  | ok result => exact second result
  | error issue =>
      rintro _ ⟨⟩
      exact first issue rfl

theorem requireInt (what : String) (value : Json) : RefusesFormat (requireInt what value) := by
  unfold Snapshot.requireInt
  split
  · exact .ok _
  · split
    · split
      · exact .ok _
      · exact .error _
    · exact .error _
  · exact .error _

theorem requireText (what : String) (value : Json) : RefusesFormat (requireText what value) := by
  unfold Snapshot.requireText
  split
  · exact .ok _
  · exact .error _

theorem requireObject (what : String) (value : Json) :
    RefusesFormat (requireObject what value) := by
  unfold Snapshot.requireObject
  split
  · exact .ok _
  · exact .error _

theorem requireList (what : String) (value : Json) : RefusesFormat (requireList what value) := by
  unfold Snapshot.requireList
  split
  · exact .ok _
  · exact .error _

/-- A lexicon that cannot be is refused in the words of the lexicon. -/
theorem readLexicon (members : List (String × Json)) : RefusesFormat (readLexicon members) := by
  refine (requireText _ _).bind fun alphabet => (requireInt _ _).bind fun maxLength => ?_
  split
  · exact .ok _
  · exact .error _

theorem readRelation (index : Nat) (entry : Json) : RefusesFormat (readRelation index entry) :=
  (requireObject _ _).bind fun _ => (requireInt _ _).bind fun _ =>
    (requireText _ _).bind fun _ => (requireText _ _).bind fun _ => .ok _

theorem readRelations (index : Nat) (found : List Json) :
    RefusesFormat (readRelations index found) := by
  induction found generalizing index with
  | nil => exact .ok _
  | cons entry found inductionHypothesis =>
      exact (readRelation index entry).bind fun _ =>
        (inductionHypothesis (index + 1)).bind fun _ => .ok _

theorem readTokens (taken : List String) (items : List Json) :
    RefusesFormat (readTokens taken items) := by
  induction items generalizing taken with
  | nil => exact .ok _
  | cons item items inductionHypothesis =>
      unfold Snapshot.readTokens
      split
      · exact inductionHypothesis _
      · rename_i issue refused
        rintro _ ⟨⟩
        exact requireText _ _ issue refused

theorem ofJson (value : Json) : RefusesFormat (ofJson value) := by
  refine (requireObject _ _).bind fun members => ?_
  dsimp only
  split
  · exact .error _
  · exact (requireObject _ _).bind fun _ => (requireList _ _).bind fun _ =>
      (requireList _ _).bind fun _ => (readLexicon _).bind fun _ =>
        (readRelations _ _).bind fun _ => (readTokens _ _).bind fun _ => .ok _

end RefusesFormat

/-! ## Members that are required -/

theorem requireInt_eq_ok_iff
    {what : String}
    {value : Json}
    {number : Int} :
    requireInt what value = .ok number ↔ value.integer? = some number := by
  unfold requireInt Json.integer?
  cases value with
  | int found => simp
  | float found =>
      dsimp only
      cases Number.shape found with
      | finite parts => cases integral : parts.isIntegral <;> simp [integral]
      | infinite => simp
      | notANumber => simp
  | null => simp
  | bool found => simp
  | str found => simp
  | arr found => simp
  | obj found => simp

theorem requireText_eq_ok_iff
    {what : String}
    {value : Json}
    {text : String} :
    requireText what value = .ok text ↔ value = .str text := by
  cases value <;> simp [requireText]

theorem requireList_eq_ok_iff
    {what : String}
    {value : Json}
    {items : List Json} :
    requireList what value = .ok items ↔ value = .arr items := by
  cases value <;> simp [requireList]

theorem requireObject_eq_ok_iff
    {what : String}
    {value : Json}
    {members : List (String × Json)} :
    requireObject what value = .ok members ↔ value = .obj members := by
  cases value <;> simp [requireObject]

/-! ## What is read -/

/-- A value that has a member that is not null is an object. -/
theorem exists_members_of_get
    {value : Json}
    {name : String}
    (given : value.get name ≠ .null) :
    ∃ members, value = .obj members := by
  cases value with
  | obj members => exact ⟨members, rfl⟩
  | _ => exact absurd rfl given

theorem readRelation_eq_ok_iff
    {index : Nat}
    {entry : Json}
    {relation : Relation} :
    readRelation index entry = .ok relation ↔ DescribesRelation entry relation := by
  simp only [readRelation, bind_eq_ok_iff, requireObject_eq_ok_iff, requireInt_eq_ok_iff,
    requireText_eq_ok_iff, Json.integer?_eq_some_iff]
  constructor
  · rintro ⟨members, rfl, id, isId, name, isName, definition, isDefinition, ⟨⟩⟩
    exact ⟨isId, isName, isDefinition⟩
  · rintro ⟨isId, isName, isDefinition⟩
    have named : entry.get "name" ≠ .null := by simp [isName]
    obtain ⟨members, rfl⟩ := exists_members_of_get named
    exact ⟨members, rfl, _, isId, _, isName, _, isDefinition, rfl⟩

theorem readRelations_eq_ok_iff
    {index : Nat}
    {found : List Json}
    {relations : List Relation} :
    readRelations index found = .ok relations ↔
      List.Forall₂ DescribesRelation found relations := by
  induction found generalizing index relations with
  | nil => simp [readRelations, eq_comm]
  | cons entry found inductionHypothesis =>
      simp only [readRelations, bind_eq_ok_iff, readRelation_eq_ok_iff, inductionHypothesis,
        List.forall₂_cons_left_iff, Except.ok.injEq]
      constructor
      · rintro ⟨relation, first, others, rest, rfl⟩
        exact ⟨relation, others, first, rest, rfl⟩
      · rintro ⟨relation, others, first, rest, rfl⟩
        exact ⟨relation, first, others, rest, rfl⟩

theorem readTokens_eq_ok_iff
    {taken tokens : List String}
    {items : List Json} :
    readTokens taken items = .ok tokens ↔
      ∃ rest, items = rest.map .str ∧ tokens = taken.reverse ++ rest := by
  constructor
  · intro read
    induction items generalizing taken with
    | nil =>
        cases read
        exact ⟨[], rfl, (List.append_nil _).symm⟩
    | cons item items inductionHypothesis =>
        unfold readTokens at read
        split at read
        · rename_i token isText
          obtain ⟨rest, rfl, rfl⟩ := inductionHypothesis read
          rw [requireText_eq_ok_iff] at isText
          exact ⟨token :: rest, by rw [isText, List.map_cons], by simp⟩
        · cases read
  · rintro ⟨rest, rfl, rfl⟩
    exact readTokens_str rest taken

/-- A lexicon is made of an alphabet that is not empty and a positive length. -/
theorem make_eq_ok_iff
    {alphabet : String}
    {maxLength : Int}
    {lexicon : Lexicon} :
    Lexicon.make alphabet maxLength = .ok lexicon ↔
      lexicon.alphabet = alphabet ∧ (lexicon.maxLength : Int) = maxLength := by
  constructor
  · intro made
    unfold Lexicon.make at made
    split at made
    · cases made
    · split at made
      · rename_i positive
        cases made
        exact ⟨rfl, Int.toNat_of_nonneg (by omega)⟩
      · cases made
  · rintro ⟨rfl, rfl⟩
    exact make_lexicon lexicon

theorem readLexicon_eq_ok_iff
    {members : List (String × Json)}
    {lexicon : Lexicon} :
    readLexicon members = .ok lexicon ↔
      (Json.obj members).get "alphabet" = .str lexicon.alphabet ∧
        ((Json.obj members).get "maxLength").IsInteger lexicon.maxLength := by
  simp only [readLexicon, bind_eq_ok_iff, requireInt_eq_ok_iff, requireText_eq_ok_iff,
    Json.integer?_eq_some_iff]
  constructor
  · rintro ⟨alphabet, isText, maxLength, isInteger, made⟩
    split at made
    · rename_i made'
      cases made
      obtain ⟨rfl, rfl⟩ := make_eq_ok_iff.mp made'
      exact ⟨isText, isInteger⟩
    · cases made
  · rintro ⟨isText, isInteger⟩
    exact ⟨_, isText, _, isInteger, by rw [make_lexicon]⟩

/-- A member that is a text, a list or an object is not missing. -/
theorem missing_eq_nil
    {members : List (String × Json)}
    (lexicon : Json.memberOrNull "lexicon" members ≠ .null)
    (tokens : Json.memberOrNull "generatedTokens" members ≠ .null)
    (relations : Json.memberOrNull "relationDefinitions" members ≠ .null) :
    (requiredMembers.filter fun name => (Json.memberOrNull name members).isNull) = [] := by
  have given {value : Json} (notNull : value ≠ .null) : value.isNull = false := by
    cases value <;> first | rfl | exact absurd rfl notNull
  simp [requiredMembers, given lexicon, given tokens, given relations]

/-- A state is read from a value that tells its parts. -/
theorem ofJson_eq_ok_iff
    {value : Json}
    {state : State} :
    ofJson value = .ok state ↔ Describes value state := by
  constructor
  · intro read
    obtain ⟨members, isObject, complete⟩ := bind_eq_ok_iff.mp read
    cases requireObject_eq_ok_iff.mp isObject
    dsimp only at complete
    split at complete
    · cases complete
    · simp only [bind_eq_ok_iff, requireObject_eq_ok_iff, requireList_eq_ok_iff,
        readLexicon_eq_ok_iff, readRelations_eq_ok_iff, readTokens_eq_ok_iff] at complete
      obtain ⟨lexiconMembers, isLexicon, tokenItems, areTokens, found, areRelations, lexicon,
        ⟨isAlphabet, isLength⟩, relations, belong, tokens, ⟨rest, rfl, rfl⟩, ⟨⟩⟩ := complete
      have lexiconRead : (Json.obj members).get "lexicon" = .obj lexiconMembers := isLexicon
      exact ⟨lexiconRead ▸ isAlphabet, lexiconRead ▸ isLength, areTokens, found, areRelations,
        belong⟩
  · rintro ⟨isAlphabet, isLength, areTokens, found, areRelations, belong⟩
    have tokensGiven : value.get "generatedTokens" ≠ .null := by simp [areTokens]
    obtain ⟨members, rfl⟩ := exists_members_of_get tokensGiven
    have alphabetGiven : ((Json.obj members).get "lexicon").get "alphabet" ≠ .null := by
      simp [isAlphabet]
    obtain ⟨lexiconMembers, isLexicon⟩ := exists_members_of_get alphabetGiven
    rw [isLexicon] at isAlphabet isLength
    have complete := @missing_eq_nil members
      (fun missing => by cases isLexicon.symm.trans missing)
      (fun missing => by cases areTokens.symm.trans missing)
      (fun missing => by cases areRelations.symm.trans missing)
    refine bind_eq_ok_iff.mpr ⟨members, rfl, ?_⟩
    dsimp only
    rw [complete, if_neg (by simp)]
    simp only [bind_eq_ok_iff, requireObject_eq_ok_iff, requireList_eq_ok_iff,
      readLexicon_eq_ok_iff, readRelations_eq_ok_iff, readTokens_eq_ok_iff]
    exact ⟨_, isLexicon, _, areTokens, _, areRelations, _, ⟨isAlphabet, isLength⟩, _, belong, _,
      ⟨_, rfl, rfl⟩, rfl⟩

/-! ## Which values are accepted -/

theorem DescribesRelation.isEntry
    {entry : Json}
    {relation : Relation}
    (describes : DescribesRelation entry relation) :
    IsEntry entry :=
  ⟨⟨_, describes.id⟩, ⟨_, describes.name⟩, ⟨_, describes.definition⟩⟩

theorem IsEntry.exists_describes {entry : Json} (isEntry : IsEntry entry) :
    ∃ relation, DescribesRelation entry relation := by
  obtain ⟨⟨id, isId⟩, ⟨name, isName⟩, ⟨definition, isDefinition⟩⟩ := isEntry
  exact ⟨⟨id, name, definition⟩, isId, isName, isDefinition⟩

theorem areEntries_of_forall₂
    {found : List Json}
    {relations : List Relation}
    (belong : List.Forall₂ DescribesRelation found relations) :
    ∀ entry ∈ found, IsEntry entry := by
  induction belong with
  | nil => nofun
  | cons describes _ inductionHypothesis =>
      exact List.forall_mem_cons.mpr ⟨describes.isEntry, inductionHypothesis⟩

/-- A list of entries tells a list of relations. -/
theorem exists_forall₂_of_areEntries
    {found : List Json}
    (areEntries : ∀ entry ∈ found, IsEntry entry) :
    ∃ relations, List.Forall₂ DescribesRelation found relations := by
  induction found with
  | nil => exact ⟨[], .nil⟩
  | cons entry found inductionHypothesis =>
      rw [List.forall_mem_cons] at areEntries
      obtain ⟨relation, describes⟩ := areEntries.1.exists_describes
      obtain ⟨relations, belong⟩ := inductionHypothesis areEntries.2
      exact ⟨relation :: relations, .cons describes belong⟩

/-- A list of texts is made of them. -/
theorem exists_map_str_of_areTexts
    {items : List Json}
    (areTexts : ∀ item ∈ items, ∃ token, item = .str token) :
    ∃ tokens : List String, items = tokens.map .str := by
  induction items with
  | nil => exact ⟨[], rfl⟩
  | cons item items inductionHypothesis =>
      rw [List.forall_mem_cons] at areTexts
      obtain ⟨⟨token, rfl⟩, others⟩ := areTexts
      obtain ⟨tokens, rfl⟩ := inductionHypothesis others
      exact ⟨token :: tokens, rfl⟩

theorem Describes.isSnapshot
    {value : Json}
    {state : State}
    (describes : Describes value state) :
    IsSnapshot value := by
  obtain ⟨found, areRelations, belong⟩ := describes.relations
  refine ⟨⟨_, describes.alphabet, state.lexicon.alphabet_ne⟩,
    ⟨_, describes.maxLength, by exact_mod_cast state.lexicon.maxLength_pos⟩,
    ⟨_, describes.tokens, ?_⟩, found, areRelations, ?_⟩
  · intro item present
    obtain ⟨token, -, rfl⟩ := List.mem_map.mp present
    exact ⟨token, rfl⟩
  · exact areEntries_of_forall₂ belong

/-- A snapshot tells some state. -/
theorem IsSnapshot.exists_describes {value : Json} (isSnapshot : IsSnapshot value) :
    ∃ state, Describes value state := by
  obtain ⟨⟨alphabet, isAlphabet, nonempty⟩, ⟨maxLength, isLength, positive⟩,
    ⟨items, areItems, areTexts⟩, found, areRelations, areEntries⟩ := isSnapshot
  obtain ⟨tokens, rfl⟩ := exists_map_str_of_areTexts areTexts
  obtain ⟨relations, belong⟩ := exists_forall₂_of_areEntries areEntries
  have length : ((maxLength.toNat : Nat) : Int) = maxLength := Int.toNat_of_nonneg (by omega)
  exact ⟨⟨⟨alphabet, maxLength.toNat, nonempty, by omega⟩, tokens, relations⟩, isAlphabet,
    length.symm ▸ isLength, areItems, found, areRelations, belong⟩

/-- A state is read from a value exactly when the value tells its parts, some state is read exactly
from the snapshots, and every other value is refused for its format. -/
theorem ofJson_accepts (value : Json) :
    (∀ state, ofJson value = .ok state ↔ Describes value state) ∧
      ((∃ state, ofJson value = .ok state) ↔ IsSnapshot value) ∧
      (IsSnapshot value ∨ ∃ issue, ofJson value = .error issue ∧ IsInvalidFormat issue) := by
  have accepts : (∃ state, ofJson value = .ok state) ↔ IsSnapshot value := by
    simp only [ofJson_eq_ok_iff]
    exact ⟨fun ⟨_, describes⟩ => describes.isSnapshot, IsSnapshot.exists_describes⟩
  refine ⟨fun state => ofJson_eq_ok_iff, accepts, ?_⟩
  cases read : ofJson value with
  | ok state => exact .inl (accepts.mp ⟨state, read⟩)
  | error issue => exact .inr ⟨issue, rfl, RefusesFormat.ofJson value issue read⟩

end Snapshot
end Wordbook
