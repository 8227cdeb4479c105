import Wordbook.Proofs.Outcome
import Wordbook.Proofs.Encoding.Utf8
import Wordbook.Proofs.Json.Containers
import Wordbook.Snapshot

/-!
# Snapshots read back

A snapshot of a state is read back as the state, in the layout for stores and in the one for people
alike.  The only thing that can stand in the way is an integer of more digits than text may have.
-/

namespace Wordbook

/-- Every integer of a state has a decimal text. -/
def State.HasShortIntegers (state : State) : Prop :=
  Number.hasText state.lexicon.maxLength = true ∧
    ∀ relation ∈ state.relations, Number.hasText relation.id = true

instance (state : State) : Decidable state.HasShortIntegers :=
  inferInstanceAs (Decidable (_ ∧ _))

namespace Snapshot

/-! ## The printed object -/

theorem tooLongIntOfItems_tokens (tokens : List String) :
    Json.tooLongIntOfItems? (tokens.map .str) = none := by
  induction tokens with
  | nil => rfl
  | cons token tokens inductionHypothesis =>
      simpa [Json.tooLongIntOfItems?, Json.tooLongInt?] using inductionHypothesis

theorem tooLongInt_relationJson (relation : Relation) :
    Json.tooLongInt? (relationJson relation) =
      if Number.hasText relation.id then none else some relation.id := by
  simp [relationJson, Json.tooLongInt?, Json.tooLongIntOfMembers?]

theorem tooLongIntOfItems_relations (relations : List Relation) :
    Json.tooLongIntOfItems? (relations.map relationJson) = none ↔
      ∀ relation ∈ relations, Number.hasText relation.id = true := by
  induction relations with
  | nil => simp [Json.tooLongIntOfItems?]
  | cons relation relations inductionHypothesis =>
      simp [Json.tooLongIntOfItems?, tooLongInt_relationJson, inductionHypothesis]

/-- A state has no integer that is too long exactly when its snapshot has none. -/
theorem tooLongInt_toJson (state : State) :
    Json.tooLongInt? (toJson state) = none ↔ state.HasShortIntegers := by
  simp [toJson, Json.tooLongInt?, Json.tooLongIntOfMembers?, tooLongIntOfItems_tokens,
    tooLongIntOfItems_relations, State.HasShortIntegers]

theorem relationJson_readsBack
    (layout : Json.Layout)
    (level room : Nat)
    {relation : Relation}
    (short : Number.hasText relation.id = true) :
    Json.ReadsBack layout level (room + 1) (relationJson relation) := by
  apply Json.ReadsBack.obj
  · change ["id", "name", "definition"].Nodup
    decide
  · intro member present
    simp only [List.mem_cons, List.not_mem_nil, or_false] at present
    rcases present with rfl | rfl | rfl
    · exact .int layout _ _ short
    · exact .str layout _ _ _
    · exact .str layout _ _ _

theorem toJson_readsBack
    (layout : Json.Layout)
    (level room : Nat)
    {state : State}
    (short : state.HasShortIntegers) :
    Json.ReadsBack layout level (room + 3) (toJson state) := by
  apply Json.ReadsBack.obj
  · change ["lexicon", "generatedTokens", "relationDefinitions"].Nodup
    decide
  · intro member present
    simp only [List.mem_cons, List.not_mem_nil, or_false] at present
    rcases present with rfl | rfl | rfl
    · apply Json.ReadsBack.obj
      · change ["alphabet", "maxLength"].Nodup
        decide
      · intro member present
        simp only [List.mem_cons, List.not_mem_nil, or_false] at present
        rcases present with rfl | rfl
        · exact .str layout _ _ _
        · exact .int layout _ _ short.1
    · apply Json.ReadsBack.arr
      intro item present
      obtain ⟨token, _, rfl⟩ := List.mem_map.mp present
      exact .str layout _ _ _
    · apply Json.ReadsBack.arr
      intro item present
      obtain ⟨relation, held, rfl⟩ := List.mem_map.mp present
      exact relationJson_readsBack layout _ _ (short.2 relation held)

/-! ## From the object to the state -/

theorem readRelation_relationJson
    (index : Nat)
    (relation : Relation) :
    readRelation index (relationJson relation) = .ok relation := rfl

theorem readRelations_relationJson
    (index : Nat)
    (relations : List Relation) :
    readRelations index (relations.map relationJson) = .ok relations := by
  induction relations generalizing index with
  | nil => rfl
  | cons relation relations inductionHypothesis =>
      rw [List.map_cons, readRelations, readRelation_relationJson, inductionHypothesis]
      rfl

theorem readTokens_str (tokens taken : List String) :
    readTokens taken (tokens.map .str) = .ok (taken.reverse ++ tokens) := by
  induction tokens generalizing taken with
  | nil => simp [readTokens]
  | cons token tokens inductionHypothesis =>
      simp [readTokens, requireText, inductionHypothesis]

theorem make_lexicon (lexicon : Lexicon) :
    Lexicon.make lexicon.alphabet lexicon.maxLength = .ok lexicon := by
  rw [Lexicon.make, dif_neg lexicon.alphabet_ne, dif_pos (by simpa using lexicon.maxLength_pos)]
  rfl

theorem readLexicon_members (lexicon : Lexicon) :
    readLexicon [("alphabet", .str lexicon.alphabet), ("maxLength", .int lexicon.maxLength)] =
      .ok lexicon := by
  have alphabet : requireText "lexicon.alphabet" (.str lexicon.alphabet) =
      .ok lexicon.alphabet := rfl
  have maxLength : requireInt "lexicon.maxLength" (.int lexicon.maxLength) =
      .ok lexicon.maxLength := rfl
  unfold readLexicon
  refine bind_eq_ok_iff.mpr ⟨_, alphabet, bind_eq_ok_iff.mpr ⟨_, maxLength, ?_⟩⟩
  rw [make_lexicon]

/-- A state is read back from its object. -/
theorem ofJson_toJson (state : State) : ofJson (toJson state) = .ok state := by
  change (do
    let lexicon ← readLexicon
      [("alphabet", .str state.lexicon.alphabet), ("maxLength", .int state.lexicon.maxLength)]
    let relations ← readRelations 0 (state.relations.map relationJson)
    let tokens ← readTokens [] (state.tokens.map .str)
    .ok ⟨lexicon, tokens, relations⟩) = Except.ok state
  rw [readLexicon_members, readRelations_relationJson, readTokens_str]
  rfl

/-! ## Bytes -/

/-- A snapshot is written exactly for the states whose integers have a text. -/
theorem encode_eq_ok_iff
    (layout : Json.Layout)
    (state : State)
    (bytes : List UInt8) :
    encode layout state = .ok bytes ↔
      state.HasShortIntegers ∧ bytes = Encoding.encodeUtf8 (text layout state).toList := by
  rw [← tooLongInt_toJson]
  unfold encode
  cases Json.tooLongInt? (toJson state) with
  | none => simp [eq_comm]
  | some value => simp

/-- The bytes of a snapshot give its text back. -/
theorem decodeAnnounced_text
    (layout : Json.Layout)
    (state : State) :
    Encoding.decodeAnnounced (Encoding.encodeUtf8 (text layout state).toList) =
      .ok (text layout state).toList := by
  have starts : ∃ second rest, (text layout state).toList = '\x7b' :: second :: rest ∧
      0 < second.toNat ∧ second.toNat < 0x80 := by
    rw [text, Json.print, String.toList_ofList]
    cases layout with
    | compact => exact ⟨Char.ofNat 34, _, rfl, by decide, by decide⟩
    | spread => exact ⟨'\n', _, rfl, by decide, by decide⟩
  obtain ⟨second, rest, starts, ascii⟩ := starts
  rw [starts]
  exact Encoding.decodeAnnounced_encodeUtf8 (by decide) ascii rest

/-- What was written as a snapshot of a state is read back as the state. -/
theorem decode_of_encode_eq_ok
    {layout : Json.Layout}
    {state : State}
    {bytes : List UInt8}
    (encoded : encode layout state = .ok bytes) :
    decode bytes = .ok state := by
  obtain ⟨short, rfl⟩ := (encode_eq_ok_iff layout state bytes).mp encoded
  have readBack : Json.read (text layout state).toList = .ok (toJson state) :=
    Json.read_print (toJson_readsBack layout 0 982 short)
  simp only [decode, decodeAnnounced_text, readBack, ofJson_toJson]
  rfl

/-- Every state whose integers have a text is written as a snapshot in either layout, and read back
from it unchanged. -/
theorem encode_then_decode
    (layout : Json.Layout)
    (state : State)
    (short : state.HasShortIntegers) :
    ∃ bytes, encode layout state = .ok bytes ∧ decode bytes = .ok state := by
  refine ⟨_, (encode_eq_ok_iff layout state _).mpr ⟨short, rfl⟩, ?_⟩
  exact decode_of_encode_eq_ok ((encode_eq_ok_iff layout state _).mpr ⟨short, rfl⟩)

/-- A state of repeated tokens and relations, with the longest integer, quotes, control characters
and characters of every width. -/
def mixed : State :=
  let repeated : Relation := ⟨-1, "A\"B", "return \x7b'\\': tokenA\x7d"⟩
  { lexicon := ⟨"\"\\/é\u2028", Number.tooLarge - 1, by decide, by decide +kernel⟩
    tokens := ["", "\t\r\n\x00", "\u007f\u0085߿ࠀ", "𐀀😀", "𐀀😀"]
    relations := [repeated, repeated] }

theorem mixed_encode_then_decode :
    mixed.HasShortIntegers ∧
      (∃ bytes, encode .compact mixed = .ok bytes ∧ decode bytes = .ok mixed) ∧
      ∃ bytes, encode .spread mixed = .ok bytes ∧ decode bytes = .ok mixed := by
  have short : mixed.HasShortIntegers := by decide +kernel
  exact ⟨short, encode_then_decode .compact mixed short, encode_then_decode .spread mixed short⟩

end Snapshot
end Wordbook
