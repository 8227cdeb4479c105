import Mathlib.Data.List.Nodup
import Wordbook.Proofs.Snapshot.Acceptance

/-!
# Uniqueness in snapshots

Relations are looked up by identifier and by name, and letters by their place in the alphabet.  A
snapshot is taken for a state whatever its entries have in common: the state that is read tells its
relations and letters apart exactly when the entries of the snapshot do.
-/

namespace Wordbook

/-- No two relations of a state have one identifier or one name, every name is in normal form, and
no letter of the alphabet is repeated. -/
structure State.ToldApart (state : State) : Prop where
  idsDistinct : state.relationIds.Nodup
  namesDistinct : (state.relations.map Relation.name).Nodup
  namesNormal : ∀ relation ∈ state.relations,
    Relation.normalizeName (.str relation.name) = .ok relation.name
  lettersDistinct : state.lexicon.alphabet.toList.Nodup

namespace Json

/-- The items of a list. -/
def items : Json → List Json
  | .arr items => items
  | _ => []

end Json

namespace Snapshot

/-- The bytes are the text of a JSON value. -/
def Reads (bytes : List UInt8) (value : Json) : Prop :=
  ∃ chars, Encoding.decodeAnnounced bytes = .ok chars ∧ Json.read chars = .ok value

/-- The entries of a snapshot for its relations. -/
def entries (value : Json) : List Json := (value.get "relationDefinitions").items

/-- No two entries of a snapshot have one identifier or one name, every name is in normal form, and
no letter of the alphabet is repeated. -/
structure TellsApart (value : Json) : Prop where
  idsDistinct : ((entries value).map fun entry => (entry.get "id").integer?).Nodup
  namesDistinct : ((entries value).map fun entry => entry.get "name").Nodup
  namesNormal : ∀ entry ∈ entries value, ∀ name, entry.get "name" = .str name →
    Relation.normalizeName (.str name) = .ok name
  lettersDistinct : ∀ alphabet, (value.get "lexicon").get "alphabet" = .str alphabet →
    alphabet.toList.Nodup

/-! ## What is read -/

/-- A state has the relations and the alphabet of the value that it is read from. -/
theorem parts_of_ofJson
    {value : Json}
    {state : State}
    (read : ofJson value = .ok state) :
    List.Forall₂ (fun entry relation =>
        (entry.get "id").integer? = some relation.id ∧ entry.get "name" = .str relation.name)
      (entries value) state.relations ∧
      (value.get "lexicon").get "alphabet" = .str state.lexicon.alphabet := by
  have describes := ofJson_eq_ok_iff.mp read
  obtain ⟨found, areRelations, belong⟩ := describes.relations
  refine ⟨?_, describes.alphabet⟩
  rw [entries, areRelations]
  exact belong.imp fun _ _ parts => ⟨Json.integer?_eq_some_iff.mpr parts.id, parts.name⟩

/-- A snapshot that is read is the text of a value, and the state is read from that value. -/
theorem exists_reads_of_decode
    {bytes : List UInt8}
    {state : State}
    (decoded : decode bytes = .ok state) :
    ∃ value, Reads bytes value ∧ ofJson value = .ok state := by
  unfold decode at decoded
  split at decoded
  case h_1 => cases decoded
  case h_2 chars text =>
    split at decoded
    case h_1 value valid => exact ⟨value, ⟨chars, text, valid⟩, mapError_eq_ok_iff.mp decoded⟩
    all_goals cases decoded

/-! ## Identifiers, names and letters -/

theorem map_integer?_entries
    {found : List Json}
    {relations : List Relation}
    (belong : List.Forall₂ (fun entry relation =>
      (entry.get "id").integer? = some relation.id ∧ entry.get "name" = .str relation.name)
      found relations) :
    found.map (fun entry => (entry.get "id").integer?) = (relations.map Relation.id).map some ∧
      found.map (fun entry => entry.get "name") = (relations.map Relation.name).map Json.str := by
  induction belong with
  | nil => exact ⟨rfl, rfl⟩
  | cons parts _ inductionHypothesis =>
      simp only [List.map_cons, parts.1, parts.2, inductionHypothesis.1, inductionHypothesis.2]
      exact ⟨trivial, trivial⟩

theorem some_injective : Function.Injective (some : Int → Option Int) :=
  fun _ _ same => Option.some.inj same

theorem str_injective : Function.Injective Json.str := fun _ _ same => Json.str.inj same

theorem namesNormal_iff
    {found : List Json}
    {relations : List Relation}
    (belong : List.Forall₂ (fun entry relation =>
      (entry.get "id").integer? = some relation.id ∧ entry.get "name" = .str relation.name)
      found relations) :
    (∀ relation ∈ relations, Relation.normalizeName (.str relation.name) = .ok relation.name) ↔
      ∀ entry ∈ found, ∀ name, entry.get "name" = .str name →
        Relation.normalizeName (.str name) = .ok name := by
  induction belong with
  | nil => simp
  | @cons entry relation _ _ parts _ inductionHypothesis =>
      rw [List.forall_mem_cons, List.forall_mem_cons, inductionHypothesis, parts.2]
      simp

/-- The state of a snapshot tells its relations and letters apart exactly when the entries of the
snapshot do; nothing else in a snapshot makes up for entries that do not. -/
theorem decode_toldApart_iff
    {bytes : List UInt8}
    {state : State}
    (decoded : decode bytes = .ok state) :
    ∃ value, Reads bytes value ∧ (state.ToldApart ↔ TellsApart value) := by
  obtain ⟨value, reads, read⟩ := exists_reads_of_decode decoded
  refine ⟨value, reads, ?_⟩
  obtain ⟨belong, alphabet⟩ := parts_of_ofJson read
  obtain ⟨ids, names⟩ := map_integer?_entries belong
  have sameIds : state.relationIds.Nodup ↔
      ((entries value).map fun entry => (entry.get "id").integer?).Nodup := by
    rw [ids, List.nodup_map_iff some_injective]
    rfl
  have sameNames : (state.relations.map Relation.name).Nodup ↔
      ((entries value).map fun entry => entry.get "name").Nodup := by
    rw [names, List.nodup_map_iff str_injective]
  have sameLetters : state.lexicon.alphabet.toList.Nodup ↔
      ∀ letters, (value.get "lexicon").get "alphabet" = .str letters → letters.toList.Nodup := by
    rw [alphabet]
    simp
  constructor
  · intro apart
    exact ⟨sameIds.mp apart.idsDistinct, sameNames.mp apart.namesDistinct,
      (namesNormal_iff belong).mp apart.namesNormal, sameLetters.mp apart.lettersDistinct⟩
  · intro apart
    exact ⟨sameIds.mpr apart.idsDistinct, sameNames.mpr apart.namesDistinct,
      (namesNormal_iff belong).mpr apart.namesNormal, sameLetters.mpr apart.lettersDistinct⟩

/-- The bytes that a state is kept as. -/
def kept (state : State) : List UInt8 := Encoding.encodeUtf8 (text .compact state).toList

theorem decode_kept
    {state : State}
    (short : state.HasShortIntegers) :
    decode (kept state) = .ok state :=
  decode_of_encode_eq_ok ((encode_eq_ok_iff .compact state _).mpr ⟨short, rfl⟩)

/-- A state whose only letter stands twice in its alphabet. -/
def repeatedLetter : State := ⟨⟨"aa", 1, by decide, by decide⟩, ["a"], []⟩

/-- A state of two relations with one identifier and one name, which is not in normal form. -/
def repeatedRelation : State :=
  { lexicon := ⟨"a", 1, by decide, by decide⟩
    tokens := ["a"]
    relations := [⟨1, "same as", "tokenA == tokenB"⟩, ⟨1, "same as", "tokenA != tokenB"⟩] }

theorem repeatedRelation_decode_toldApart :
    decode (kept repeatedRelation) = .ok repeatedRelation ∧
      ∃ value, Reads (kept repeatedRelation) value ∧
        (repeatedRelation.ToldApart ↔ TellsApart value) := by
  have decoded : decode (kept repeatedRelation) = .ok repeatedRelation :=
    decode_kept (by decide +kernel)
  exact ⟨decoded, decode_toldApart_iff decoded⟩

/-- Snapshots are read although a letter is repeated, or an identifier and a name, or although a
name is not in normal form. -/
theorem unchecked_snapshots_decode :
    (decode (kept repeatedLetter) = .ok repeatedLetter ∧
        ¬ repeatedLetter.lexicon.alphabet.toList.Nodup) ∧
      decode (kept repeatedRelation) = .ok repeatedRelation ∧
        ¬ repeatedRelation.relationIds.Nodup ∧
        ¬ (repeatedRelation.relations.map Relation.name).Nodup ∧
        Relation.normalName "same as" = "SAME_AS" :=
  ⟨⟨decode_kept (by decide +kernel), by decide⟩, decode_kept (by decide +kernel), by decide,
    by decide, by decide +kernel⟩

end Snapshot
end Wordbook
