import Wordbook.Listing
import Wordbook.Proofs.Relation.Spelling
import Wordbook.Proofs.Session.References

/-!
# Relations by their names

On the command line a relation is given by its identifier or by a spelling of its name.  A reference
of digits of any style, behind plus and minus signs, is taken for an identifier; a relation under such
a name is stored and found under its identifier, but not under its name.
-/

namespace Wordbook

/-! ## Digits and signs in names -/

/-- The code points of the two signs and of the digits of any style. -/
def Unicode.numberCodes : List Nat :=
  0x2b :: 0x2d :: digitRanges.flatMap fun range => List.range' range.1 (range.2 + 1 - range.1)

/-- A character is a sign or a digit of any style. -/
def Unicode.IsOfNumber (char : Char) : Prop := char ∈ ['+', '-'] ∨ isDigit char = true

namespace Unicode

variable {char : Char}

theorem IsOfNumber.mem_numberCodes (ofNumber : IsOfNumber char) : char.toNat ∈ numberCodes := by
  rcases ofNumber with sign | digit
  · rcases List.mem_pair.mp sign with rfl | rfl
    · exact List.mem_cons_self
    · exact List.mem_cons_of_mem _ List.mem_cons_self
  · obtain ⟨range, inside, near⟩ := List.any_eq_true.mp digit
    simp only [Bool.and_eq_true, decide_eq_true_eq] at near
    refine List.mem_cons_of_mem _ (List.mem_cons_of_mem _ (List.mem_flatMap.mpr ⟨range, inside, ?_⟩))
    rw [List.mem_range'_1]
    omega

theorem numberCodes_apart :
    ∀ code ∈ numberCodes,
      code ∉ mapped upperExpansions upperShifts ++ 0 :: images upperExpansions upperShifts :=
  fun _ => disjoint_of_bitsOf (by decide +kernel)

theorem numberCodes_not_blank : ∀ code ∈ numberCodes, Text.isBlankCode code = false := by
  decide +kernel

theorem IsOfNumber.not_isBlank (ofNumber : IsOfNumber char) : Text.isBlank char = false :=
  numberCodes_not_blank _ ofNumber.mem_numberCodes

/-- Digits and signs stay in upper case. -/
theorem IsOfNumber.upperChar_eq (ofNumber : IsOfNumber char) : upperChar char = [char] :=
  upperChar_of_mapCode (mapCode_of_not_mapped fun isMapped =>
    numberCodes_apart _ ofNumber.mem_numberCodes (List.mem_append_left _ isMapped))

/-- Digits and signs are the upper case of nothing else. -/
theorem IsOfNumber.eq_of_mem_upperChar
    {image : Char}
    (ofNumber : IsOfNumber image)
    (present : image ∈ upperChar char) :
    image = char := by
  rcases mem_map_mapCode present with isImage | ⟨same, -⟩
  · exact absurd (List.mem_append_right _ isImage) (numberCodes_apart _ ofNumber.mem_numberCodes)
  · exact same

/-- Text whose upper case is made of digits and signs is its own upper case. -/
theorem upper_eq_of_ofNumber
    {chars : List Char}
    (ofNumber : ∀ image ∈ upper chars, IsOfNumber image) :
    upper chars = chars := by
  refine upper_of_fixed fun char present => ?_
  obtain ⟨image, rest, whole⟩ := List.exists_cons_of_ne_nil (upperChar_sparesBlanks.given char)
  have raised : image ∈ upperChar char := whole ▸ List.mem_cons_self
  have isOfNumber := ofNumber image (List.mem_flatMap.mpr ⟨char, present, raised⟩)
  cases isOfNumber.eq_of_mem_upperChar raised
  exact isOfNumber.upperChar_eq

end Unicode

namespace Relation

variable {name : List Char}

/-- A name of digits and signs is normal as soon as it is trimmed. -/
theorem normalChars_of_ofNumber
    (ofNumber : ∀ char ∈ Text.trimBy Text.isBlank name, Unicode.IsOfNumber char) :
    normalChars name = Text.trimBy Text.isBlank name := by
  rw [normalChars, Unicode.upper_of_fixed fun char present => (ofNumber char present).upperChar_eq,
    Text.collapseBlanks_of_none _ fun char present => (ofNumber char present).not_isBlank]

/-- Of the names that have a normal form of digits and signs each has it already, apart from the
blanks around it. -/
theorem trimBy_of_normalChars_ofNumber
    (ofNumber : ∀ char ∈ normalChars name, Unicode.IsOfNumber char) :
    normalChars name = Text.trimBy Text.isBlank name := by
  have solid : ∀ char ∈ Unicode.upper (Text.trimBy Text.isBlank name), Text.isBlank char = false := by
    intro char present
    by_contra blank
    rw [Bool.not_eq_false] at blank
    have underscore := Text.separator_mem_collapseBlanks '_' ⟨char, present, blank⟩
    exact absurd (ofNumber '_' underscore).mem_numberCodes (by decide +kernel)
  have uncollapsed : normalChars name = Unicode.upper (Text.trimBy Text.isBlank name) :=
    Text.collapseBlanks_of_none _ solid
  rw [uncollapsed] at ofNumber ⊢
  exact Unicode.upper_eq_of_ofNumber ofNumber

theorem normalName_of_normalizeText
    {name normal : String}
    (normalized : normalizeText name = .ok normal) :
    normalName name = normal := by
  unfold normalizeText at normalized
  dsimp only at normalized
  split at normalized
  · cases normalized
  · exact Except.ok.inj normalized

theorem trim_normalName (name : String) : Text.trim (normalName name) = normalName name := by
  rw [Text.trim, Text.trimBy_of_none, String.ofList_toList]
  intro char present
  rw [normalName_eq, String.toList_ofList] at present
  rcases Text.mem_collapseBlanks present with rfl | ⟨-, solid⟩
  · decide
  · exact solid

end Relation

namespace Listing

/-! ## References that are taken for identifiers -/

/-- A text is made of digits of any style behind plus and minus signs. -/
def IsNumeric (text : String) : Prop :=
  ∃ signs digits, text.toList = signs ++ digits ∧ (∀ sign ∈ signs, sign ∈ ['+', '-']) ∧
    digits ≠ [] ∧ ∀ digit ∈ digits, Unicode.isDigit digit = true

theorem IsNumeric.isOfNumber {text : String} (numeric : IsNumeric text) :
    ∀ char ∈ text.toList, Unicode.IsOfNumber char := by
  obtain ⟨signs, digits, whole, areSigns, -, areDigits⟩ := numeric
  rw [whole]
  intro char present
  exact (List.mem_append.mp present).imp (areSigns char) (areDigits char)

theorem looksLikeId_iff {reference : String} :
    looksLikeId reference = true ↔ IsNumeric (Text.trim reference) := by
  let isSign : Char → Bool := fun char => char == '+' || char == '-'
  have isSign_iff {char : Char} : isSign char = true ↔ char ∈ ['+', '-'] := by simp [isSign]
  rw [looksLikeId, IsNumeric, Text.trim, String.toList_ofList]
  change (!(List.dropWhile isSign _).isEmpty && (List.dropWhile isSign _).all Unicode.isDigit) =
    true ↔ _
  generalize Text.trimBy Text.isBlank reference.toList = chars
  simp only [Bool.and_eq_true, Bool.not_eq_true', List.isEmpty_eq_false_iff, List.all_eq_true]
  constructor
  · rintro ⟨given, areDigits⟩
    exact ⟨_, _, (List.takeWhile_append_dropWhile).symm,
      fun sign present => isSign_iff.mp (List.mem_takeWhile_imp present), given, areDigits⟩
  · rintro ⟨signs, digits, rfl, areSigns, given, areDigits⟩
    rw [List.dropWhile_append_of_pos fun sign present => isSign_iff.mpr (areSigns sign present)]
    obtain ⟨digit, rest, rfl⟩ := List.exists_cons_of_ne_nil given
    have noSign : ¬ isSign digit = true := by
      intro signed
      have isDigit := areDigits digit List.mem_cons_self
      rcases List.mem_pair.mp (isSign_iff.mp signed) with rfl | rfl
      · exact absurd isDigit (by decide)
      · exact absurd isDigit (by decide)
    rw [List.dropWhile_cons_of_neg noSign]
    exact ⟨given, areDigits⟩

/-- A reference is taken for an identifier when its normal form as a name is numeric, and then it is
its normal form. -/
theorem trim_of_isNumeric
    {reference : String}
    (numeric : IsNumeric (Text.trim reference) ∨ IsNumeric (Relation.normalName reference)) :
    Text.trim reference = Relation.normalName reference := by
  rw [Relation.normalName_eq] at numeric ⊢
  rw [Text.trim] at numeric ⊢
  refine congrArg String.ofList (Eq.symm ?_)
  rcases numeric with trimmed | normal
  · have ofNumber := trimmed.isOfNumber
    rw [String.toList_ofList] at ofNumber
    exact Relation.normalChars_of_ofNumber ofNumber
  · have ofNumber := normal.isOfNumber
    rw [String.toList_ofList] at ofNumber
    exact Relation.trimBy_of_normalChars_ofNumber ofNumber

theorem looksLikeId_iff_normalName {reference : String} :
    looksLikeId reference = true ↔ IsNumeric (Relation.normalName reference) := by
  rw [looksLikeId_iff]
  constructor
  · intro numeric
    rwa [← trim_of_isNumeric (.inl numeric)]
  · intro numeric
    rwa [trim_of_isNumeric (.inr numeric)]

end Listing

/-! ## Comparisons by references -/

/-- Where names are distinct, a relation is found by its name. -/
theorem State.findByName?_eq
    {state : State}
    (distinct : (state.relations.map Relation.name).Nodup)
    {relation : Relation}
    (present : relation ∈ state.relations) :
    state.findByName? relation.name = some relation := by
  have isFound : (state.relations.find? fun other => other.name == relation.name).isSome :=
    List.find?_isSome.mpr ⟨relation, present, beq_self_eq_true _⟩
  obtain ⟨found, first⟩ := Option.isSome_iff_exists.mp isFound
  have same := List.find?_some first
  rw [findByName?, first,
    List.inj_on_of_nodup_map distinct (List.mem_of_find?_eq_some first) present (eq_of_beq same)]

/-- No evaluation says that a relation was not found. -/
theorem Predicate.Verdict.ofBody_ne_relationNotFound (body : String) (first second : Json) :
    ofBody body first second ≠ .error (.issue .relationNotFound) := by
  unfold ofBody
  cases Definition.compile body.toList with
  | error fault => cases fault <;> nofun
  | ok program =>
      dsimp only
      unfold ofProgram
      split
      · nofun
      · unfold ofStop
        split <;> nofun
      · nofun

namespace Session

variable {session : Session} {state : State} {reference : String} {relation : Relation}
  {tokenA tokenB : Json}

/-- A comparison evaluates a relation by a reference, which is resolved as a name or an identifier. -/
def Evaluates
    (session : Session)
    (tokenA tokenB : Json)
    (reference : String)
    (relation : Relation) : Prop :=
  ∃ id, Listing.resolved session.state reference = .ok id ∧
    session.run (compare tokenA tokenB (.str id)) = session.run (apply relation tokenA tokenB)

/-- What a reference is resolved to that spells the name of a relation. -/
theorem resolved_eq
    (held : session.state = some state)
    (namesDistinct : (state.relations.map Relation.name).Nodup)
    (present : relation ∈ state.relations)
    (spells : Relation.normalizeText reference = .ok relation.name) :
    Listing.resolved session.state reference =
      if Listing.looksLikeId reference = true then .ok reference
      else if Number.hasText relation.id = true then .ok (Number.decimalText relation.id)
      else .error (.tooManyDigits none) := by
  have named : Listing.named? session.state reference =
      if Listing.looksLikeId reference = true then none else some relation := by
    rw [Listing.named?, spells, held]
    simp only [Option.bind_some, State.findByName?_eq namesDistinct present]
  rw [Listing.resolved, Listing.resolve, named]
  split
  · rfl
  · rfl

/-- A relation is not found by its name if the reference is taken for an identifier. -/
theorem run_compare_of_isNumeric
    (held : session.state = some state)
    (unread : ∀ other ∈ state.relations,
      Relation.idOfText? (.str relation.name) ≠ some other.id)
    (spells : Relation.normalizeText reference = .ok relation.name)
    (givenA : Relation.isMissing tokenA = false)
    (givenB : Relation.isMissing tokenB = false)
    (numeric : Listing.IsNumeric relation.name) :
    session.run (compare tokenA tokenB (.str reference)) =
      (.error (.issue .relationNotFound), session) := by
  have normal := Relation.normalName_of_normalizeText spells
  have trimmed : Text.trim reference = relation.name :=
    (Listing.trim_of_isNumeric (.inr (normal ▸ numeric))).trans normal
  have given : Relation.isMissing (.str reference) = false := by
    rw [Relation.isMissing_str, ← Bool.not_eq_true, ← Text.trim_eq_empty_iff, trimmed]
    obtain ⟨signs, digits, whole, -, given, -⟩ := numeric
    intro empty
    rw [empty] at whole
    exact given (List.append_eq_nil_iff.mp whole.symm).2
  have read : Relation.idOfText? (.str reference) = Relation.idOfText? (.str relation.name) := by
    have normalTrimmed : Text.trim relation.name = relation.name :=
      normal ▸ Relation.trim_normalName reference
    rw [Relation.idOfText?, Relation.idOfText?, Json.plain, Json.plain, trimmed, normalTrimmed]
  have unfound : (Relation.idOfText? (.str reference)).bind state.find? = none := by
    rw [read, Option.bind_eq_none_iff]
    intro id isRead
    rw [find?_eq_none_iff]
    intro used
    obtain ⟨other, isOther, rfl⟩ := List.mem_map.mp used
    exact unread other isOther isRead
  have sought : Relation.soughtId (.str reference) = .ok (Relation.idOfText? (.str reference)) := rfl
  rw [run_compare_of_given held givenA givenB given, sought]
  simp only [unfound]

/-- A comparison that says that a relation was not found evaluates none. -/
theorem not_evaluates_of_missed
    (resolves : Listing.resolved session.state reference = .ok reference)
    (missed : session.run (compare tokenA tokenB (.str reference)) =
      (.error (.issue .relationNotFound), session)) :
    ¬ session.Evaluates tokenA tokenB reference relation := by
  rintro ⟨id, same, ran⟩
  cases resolves.symm.trans same
  rw [missed, apply, run_bind, run_permit] at ran
  cases verdict : Predicate.Verdict.ofBody relation.definition tokenA tokenB with
  | ok => simp [verdict] at ran
  | error failure =>
      rw [verdict] at ran
      cases ran
      exact Predicate.Verdict.ofBody_ne_relationNotFound _ _ _ verdict

/-- A spelling of the name of a relation leads to its evaluation exactly when the name is not numeric
and the identifier has not too many digits for a text.  With a numeric name the relation is not
found. -/
theorem reference_evaluates_iff
    (held : session.state = some state)
    (idsDistinct : state.relationIds.Nodup)
    (namesDistinct : (state.relations.map Relation.name).Nodup)
    (present : relation ∈ state.relations)
    (unread : ∀ other ∈ state.relations,
      Relation.idOfText? (.str relation.name) ≠ some other.id)
    (spells : Relation.normalizeText reference = .ok relation.name)
    (givenA : Relation.isMissing tokenA = false)
    (givenB : Relation.isMissing tokenB = false) :
    (session.Evaluates tokenA tokenB reference relation ↔
      ¬ Listing.IsNumeric relation.name ∧ Number.hasText relation.id = true) ∧
      (Listing.IsNumeric relation.name →
        Listing.resolved session.state reference = .ok reference ∧
          session.run (compare tokenA tokenB (.str reference)) =
            (.error (.issue .relationNotFound), session)) := by
  have resolves := resolved_eq held namesDistinct present spells
  have looks : Listing.looksLikeId reference = true ↔ Listing.IsNumeric relation.name := by
    rw [Listing.looksLikeId_iff_normalName, Relation.normalName_of_normalizeText spells]
  by_cases numeric : Listing.IsNumeric relation.name
  · rw [if_pos (looks.mpr numeric)] at resolves
    have missed := run_compare_of_isNumeric held unread spells givenA givenB numeric
    exact ⟨iff_of_false (not_evaluates_of_missed resolves missed) fun both => both.1 numeric,
      fun _ => ⟨resolves, missed⟩⟩
  · rw [if_neg (mt looks.mp numeric)] at resolves
    refine ⟨?_, fun isNumeric => absurd isNumeric numeric⟩
    rw [and_iff_right numeric]
    by_cases short : Number.hasText relation.id = true
    · rw [if_pos short] at resolves
      refine iff_of_true ⟨_, resolves, run_compare_of_found held givenA givenB ?_⟩ short
      rw [(Relation.spells_decimalText relation.id).idOfText?_eq, if_pos short, Option.bind_some]
      exact (State.finds_iff_mem idsDistinct).mpr present
    · rw [if_neg short] at resolves
      refine iff_of_false ?_ short
      rintro ⟨id, same, -⟩
      cases resolves.symm.trans same

/-- A default relation is evaluated by its name in lower case. -/
theorem prefix_reference_evaluates :
    let relation := BuiltIn.isPrefixOf.relation
    (holding .default).state = some .default ∧ State.default.relationIds.Nodup ∧
      (State.default.relations.map Relation.name).Nodup ∧ relation ∈ State.default.relations ∧
      (∀ other ∈ State.default.relations,
        Relation.idOfText? (.str relation.name) ≠ some other.id) ∧
      Relation.normalizeText " is prefix of " = .ok relation.name ∧
      Relation.isMissing (.str "0") = false ∧ Relation.isMissing (.str "01") = false ∧
      (holding .default).Evaluates (.str "0") (.str "01") " is prefix of " relation := by
  intro relation
  have idsDistinct : State.default.relationIds.Nodup := by decide
  have namesDistinct : (State.default.relations.map Relation.name).Nodup := by decide
  have present : relation ∈ State.default.relations := by decide
  have unread : ∀ other ∈ State.default.relations,
      Relation.idOfText? (.str relation.name) ≠ some other.id := by decide +kernel
  have spells : Relation.normalizeText " is prefix of " = .ok relation.name := by decide +kernel
  have givenA : Relation.isMissing (.str "0") = false := by decide
  have givenB : Relation.isMissing (.str "01") = false := by decide
  have short : Number.hasText relation.id = true :=
    (Number.hasText_iff_length_le _).mpr (by decide)
  have worded : ¬ Listing.IsNumeric relation.name := by
    rw [← Relation.normalName_of_normalizeText spells, ← Listing.looksLikeId_iff_normalName]
    decide +kernel
  have evaluates := @reference_evaluates_iff (holding .default) .default " is prefix of " relation
    (.str "0") (.str "01") rfl idsDistinct namesDistinct present unread spells givenA givenB
  exact ⟨rfl, idsDistinct, namesDistinct, present, unread, spells, givenA, givenB,
    evaluates.1.mpr ⟨worded, short⟩⟩

/-- A relation is stored under a superscript two, which no integer is read from, and is not found
under it. -/
theorem superscript_reference_not_found :
    let relation : Relation := ⟨5, "²", "True"⟩
    let state : State := { State.default with relations := [relation] }
    state.relationIds.Nodup ∧ (state.relations.map Relation.name).Nodup ∧
      relation ∈ state.relations ∧ Relation.idOfText? (.str relation.name) = none ∧
      Relation.normalizeText "²" = .ok relation.name ∧
      ¬ (holding state).Evaluates (.str "0") (.str "0") "²" relation ∧
      Listing.resolved (some state) "²" = .ok "²" ∧
      (holding state).run (compare (.str "0") (.str "0") (.str "²")) =
        (.error (.issue .relationNotFound), holding state) := by
  intro relation state
  have unread : Relation.idOfText? (.str relation.name) = none := by decide +kernel
  have spells : Relation.normalizeText "²" = .ok relation.name := by decide +kernel
  have missed : (holding state).run (compare (.str "0") (.str "0") (.str "²")) =
      (.error (.issue .relationNotFound), holding state) :=
    run_compare_of_isNumeric rfl (by simp [unread]) spells rfl rfl
      ⟨[], ['²'], by decide, nofun, List.cons_ne_nil _ _,
        List.forall_mem_singleton.mpr (by decide +kernel)⟩
  have resolves : Listing.resolved (some state) "²" = .ok "²" := by decide +kernel
  exact ⟨List.nodup_singleton _, List.nodup_singleton _, List.mem_singleton_self _, unread, spells,
    not_evaluates_of_missed resolves missed, resolves, missed⟩

end Session
end Wordbook
