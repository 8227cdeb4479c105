import Mathlib.Logic.Relation
import Wordbook.Proofs.Relation
import Wordbook.Proofs.Unicode.Recasing

/-!
# Spellings of a name

A normal name stands for many spellings.  Blanks around a name and the way in which its words are
separated make no difference to it, and neither does the case of its letters unless one of them is a
capital that lower case leads astray.
-/

namespace Wordbook
namespace Relation

/-- The characters of the normal form of a name. -/
def normalChars (name : List Char) : List Char :=
  Text.collapseBlanks '_' (Unicode.upper (Text.trimBy Text.isBlank name))

theorem normalName_eq (name : String) :
    normalName name = String.ofList (normalChars name.toList) := rfl

/-- A text is accepted as a name when its normal form is not empty. -/
theorem normalizeName_str_eq_ok_iff {name normal : String} :
    normalizeName (.str name) = .ok normal ↔ normalName name = normal ∧ normal ≠ "" := by
  have given : textOrEmpty (.str name) = .ok name := rfl
  have normalized : normalizeName (.str name) = (normalizeText name).mapError .issue := by
    rw [normalizeName, given, mapError_ok, ok_bind]
  rw [normalized, mapError_eq_ok_iff, normalizeText]
  by_cases empty : normalName name = ""
  · rw [if_pos (String.isEmpty_iff.mpr empty), empty]
    refine iff_of_false (fun same => ?_) fun found => found.2 found.1.symm
    cases same
  · rw [if_neg (by simpa using empty)]
    constructor
    · rintro ⟨⟩
      exact ⟨rfl, empty⟩
    · rintro ⟨rfl, -⟩
      rfl

/-! ## Other blanks -/

/-- A run of blanks stands between two parts of a text, and neither of them goes on with it. -/
structure IsGap (before run behind : List Char) : Prop where
  given : run ≠ []
  blank : ∀ char ∈ run, Text.isBlank char = true
  ended : Text.EndsSolid before
  started : Text.StartsSolid behind

/-- What may stand in place of a run of blanks: other blanks, or one underscore. -/
inductive FillsGap : List Char → Prop
  | blanks
      {filler : List Char}
      (given : filler ≠ [])
      (blank : ∀ char ∈ filler, Text.isBlank char = true) :
      FillsGap filler
  | underscore : FillsGap ['_']

/-- A name is spaced in another way: it has more blanks at its ends, or something else in the place
of a run of blanks within. -/
inductive Respaced (name : List Char) : List Char → Prop
  | padded
      {front back : List Char}
      (frontBlank : ∀ char ∈ front, Text.isBlank char = true)
      (backBlank : ∀ char ∈ back, Text.isBlank char = true) :
      Respaced name (front ++ name ++ back)
  | filled
      {front before run filler behind back : List Char}
      (frontBlank : ∀ char ∈ front, Text.isBlank char = true)
      (backBlank : ∀ char ∈ back, Text.isBlank char = true)
      (trimmed : Text.trimBy Text.isBlank name = before ++ run ++ behind)
      (gap : IsGap before run behind)
      (fills : FillsGap filler) :
      Respaced name (front ++ (before ++ filler ++ behind) ++ back)

variable {name respaced before run behind filler : List Char}

namespace IsGap

theorem fillsGap (gap : IsGap before run behind) : FillsGap run :=
  .blanks gap.given gap.blank

theorem before_ne_nil
    (gap : IsGap before run behind)
    (starts : Text.StartsSolid (before ++ run ++ behind)) :
    before ≠ [] := by
  rintro rfl
  obtain ⟨first, rest, rfl⟩ := List.exists_cons_of_ne_nil gap.given
  have solid : Text.isBlank first = false := starts first rfl
  rw [gap.blank first List.mem_cons_self] at solid
  contradiction

theorem behind_ne_nil
    (gap : IsGap before run behind)
    (ends : Text.EndsSolid (before ++ run ++ behind)) :
    behind ≠ [] := by
  rintro rfl
  rcases List.eq_nil_or_concat run with rfl | ⟨rest, last, rfl⟩
  · exact gap.given rfl
  · have solid : Text.isBlank last = false := ends last (by simp)
    rw [gap.blank last (by simp)] at solid
    contradiction

/-- Whatever fills a gap, the text has solid ends if it has them with the blanks. -/
theorem trimBy_filled
    (gap : IsGap before run behind)
    (trimmed : Text.trimBy Text.isBlank name = before ++ run ++ behind)
    (filler : List Char) :
    Text.trimBy Text.isBlank (before ++ filler ++ behind) = before ++ filler ++ behind := by
  have starts := Text.startsSolid_trimBy name
  have ends := Text.endsSolid_trimBy name
  rw [trimmed] at starts ends
  have beforeGiven := gap.before_ne_nil starts
  have behindGiven := gap.behind_ne_nil ends
  have beforeStarts : Text.StartsSolid before := by
    rwa [Text.StartsSolid, List.append_assoc, List.head?_append_of_ne_nil _ beforeGiven] at starts
  have behindEnds : Text.EndsSolid behind := by
    rwa [Text.EndsSolid, List.getLast?_append_of_ne_nil _ behindGiven] at ends
  refine Text.trimBy_of_solid ?_ (behindEnds.append behindGiven)
  rw [List.append_assoc]
  exact beforeStarts.append beforeGiven

end IsGap

/-- Whatever fills a gap becomes one underscore. -/
theorem collapse_upper_filler (fills : FillsGap filler) :
    Text.collapseBlanks '_' (Unicode.upper filler) = ['_'] := by
  cases fills with
  | blanks given blank =>
      rw [Unicode.upper, Unicode.upperChar_sparesBlanks.flatMap_of_blank blank,
        Text.collapseBlanks_of_blank '_' given blank]
  | underscore => decide +kernel

/-- The two parts around a gap are raised and collapsed on their own. -/
theorem collapse_upper_filled
    (ended : Text.EndsSolid before)
    (started : Text.StartsSolid behind)
    (fills : FillsGap filler) :
    Text.collapseBlanks '_' (Unicode.upper (before ++ filler ++ behind)) =
      Text.collapseBlanks '_' (Unicode.upper before) ++ '_' ::
        Text.collapseBlanks '_' (Unicode.upper behind) := by
  have raisedEnded : Text.EndsSolid (Unicode.upper before) :=
    Unicode.upperChar_sparesBlanks.endsSolid ended
  have raisedStarted : Text.StartsSolid (Unicode.upper behind) :=
    Unicode.upperChar_sparesBlanks.startsSolid started
  rw [Unicode.upper_append, Unicode.upper_append, List.append_assoc,
    Text.collapseBlanks_append '_' (.inl raisedEnded),
    Text.collapseBlanks_append '_' (.inr raisedStarted), collapse_upper_filler fills,
    List.singleton_append]

/-- Another way of spacing does not change the normal form. -/
theorem Respaced.normalChars_eq (step : Respaced name respaced) :
    normalChars respaced = normalChars name := by
  unfold normalChars
  cases step with
  | padded frontBlank backBlank => rw [Text.trimBy_append frontBlank backBlank]
  | filled frontBlank backBlank trimmed gap fills =>
      rw [Text.trimBy_append frontBlank backBlank, gap.trimBy_filled trimmed, trimmed,
        collapse_upper_filled gap.ended gap.started fills,
        collapse_upper_filled gap.ended gap.started gap.fillsGap]

theorem normalChars_of_respaced
    (steps : Relation.ReflTransGen Respaced name respaced) :
    normalChars respaced = normalChars name := by
  induction steps with
  | refl => rfl
  | tail _ step inductionHypothesis => rw [step.normalChars_eq, inductionHypothesis]

/-- A normal name is not empty, has no blanks and is its own normal form, and every spacing of an
accepted name has the same one. -/
theorem normal_name_lasts
    {name normal : String}
    (accepted : normalizeName (.str name) = .ok normal) :
    normal ≠ "" ∧ (∀ char ∈ normal.toList, Text.isBlank char = false) ∧
      normalizeName (.str normal) = .ok normal ∧
      ∀ respaced : String, Relation.ReflTransGen Respaced name.toList respaced.toList →
        normalizeName (.str respaced) = .ok normal := by
  obtain ⟨normalized, given⟩ := normalizeName_str_eq_ok_iff.mp accepted
  refine ⟨given, ?_, normalizeName_of_normalizeName accepted, fun respaced steps => ?_⟩
  · rw [← normalized]
    exact fun _ present => (mem_normalName present).1
  · refine normalizeName_str_eq_ok_iff.mpr ⟨?_, given⟩
    rw [normalName_eq, normalChars_of_respaced steps, ← normalized, normalName_eq]

/-- Other blanks between the words, and an underscore for some of them. -/
theorem prefix_name_lasts :
    normalizeName (.str " is\tprefix  of ") = .ok "IS_PREFIX_OF" ∧
      Relation.ReflTransGen Respaced " is\tprefix  of ".toList "\nis prefix_of".toList ∧
      normalizeName (.str "\nis prefix_of") = .ok "IS_PREFIX_OF" := by
  have accepted : normalizeName (.str " is\tprefix  of ") = .ok "IS_PREFIX_OF" :=
    normalizeName_str_eq_ok_iff.mpr ⟨by decide +kernel, by decide⟩
  have tabGap : IsGap "is".toList "\t".toList "prefix  of".toList :=
    ⟨by decide, List.all_eq_true.mp (by decide), by decide, by decide⟩
  have wideGap : IsGap "is prefix".toList "  ".toList "of".toList :=
    ⟨by decide, List.all_eq_true.mp (by decide), by decide, by decide⟩
  have oneBlank : FillsGap " ".toList := .blanks (by decide) (List.all_eq_true.mp (by decide))
  have first : Respaced " is\tprefix  of ".toList "is prefix  of".toList :=
    @Respaced.filled _ [] _ _ _ _ [] nofun nofun (by decide) tabGap oneBlank
  have second : Respaced "is prefix  of".toList "\nis prefix_of".toList :=
    @Respaced.filled _ ['\n'] _ _ _ _ [] (List.all_eq_true.mp (by decide)) nofun (by decide)
      wideGap .underscore
  have steps : Relation.ReflTransGen Respaced " is\tprefix  of ".toList "\nis prefix_of".toList :=
    .tail (.single first) second
  exact ⟨accepted, steps, (normal_name_lasts accepted).2.2.2 "\nis prefix_of" steps⟩

/-! ## Other cases -/

/-- A name in upper case. -/
def raised (name : String) : String := String.ofList (Unicode.upper name.toList)

/-- A name in lower case. -/
def lowered (name : String) : String := String.ofList (Unicode.lower name.toList)

/-- It makes no difference whether a name is trimmed before or after it is raised. -/
theorem normalChars_eq_of_upper_eq
    {other : List Char}
    (same : Unicode.upper other = Unicode.upper name) :
    normalChars other = normalChars name := by
  have raisedFirst (chars : List Char) : normalChars chars =
      Text.collapseBlanks '_' (Text.trimBy Text.isBlank (Unicode.upper chars)) := by
    rw [normalChars, Unicode.upper, Unicode.upper,
      Unicode.upperChar_sparesBlanks.trimBy_flatMap]
  rw [raisedFirst, raisedFirst, same]

/-- A stray capital stays in the normal form of a name, and comes into no other one. -/
theorem mem_normalChars_iff_of_stray
    {char : Char}
    (stray : char.toNat ∈ Unicode.strayCapitals)
    (name : List Char) :
    char ∈ normalChars name ↔ char ∈ name := by
  have solid : Text.isBlank char = false := by
    simp only [Unicode.strayCapitals, List.mem_cons, List.not_mem_nil, or_false] at stray
    rcases stray with code | code | code | code | code | code <;> rw [Text.isBlank, code] <;> rfl
  have notUnderscore : char ≠ '_' := by
    rintro rfl
    exact absurd stray (by decide)
  have kept : char ∈ Unicode.upper (Text.trimBy Text.isBlank name) ↔ char ∈ name := by
    rw [Unicode.mem_upper_iff_of_stray stray, Text.mem_trimBy_iff solid]
  rw [← kept]
  constructor
  · intro present
    exact ((Text.mem_collapseBlanks present).resolve_left notUnderscore).1
  · exact Text.mem_collapseBlanks_of_mem '_' solid

/-- A name keeps its normal form in lower case exactly when it has no stray capital. -/
theorem normalChars_lower_iff (name : List Char) :
    normalChars (Unicode.lower name) = normalChars name ↔ Unicode.CaseSettled name := by
  constructor
  · intro same char present stray
    have kept := (mem_normalChars_iff_of_stray stray name).mpr present
    rw [← same, mem_normalChars_iff_of_stray stray] at kept
    exact Unicode.not_mem_lowerAfter_of_stray stray [] name kept
  · intro settled
    exact normalChars_eq_of_upper_eq ((Unicode.upper_lower_iff name).mpr settled)

/-- Only a blank name has an empty normal form. -/
theorem normalChars_eq_nil_iff (name : List Char) :
    normalChars name = [] ↔ name.all Text.isBlank = true := by
  have raisedNil (chars : List Char) : Unicode.upper chars = [] ↔ chars = [] := by
    cases chars with
    | nil => exact iff_of_true rfl rfl
    | cons char chars => simp [Unicode.upper, Unicode.upperChar_sparesBlanks.given char]
  rw [normalChars, Text.collapseBlanks_eq_nil_iff, raisedNil]
  have trimmed := @Text.trim_eq_empty_iff (String.ofList name)
  rwa [Text.trim, Text.allBlank, String.toList_ofList, String.ofList_eq_empty_iff] at trimmed

/-- What becomes of a name in other cases: it is the same in upper case, in lower case unless it has
a stray capital, and then in every case. -/
structure CasesAgree (name normal : String) : Prop where
  raised : normalizeName (.str (raised name)) = .ok normal
  lowered : normalizeName (.str (lowered name)) = .ok normal ↔ Unicode.CaseSettled name.toList
  recased : Unicode.CaseSettled name.toList → ∀ recased : String,
    Unicode.Recased name.toList recased.toList → normalizeName (.str recased) = .ok normal

theorem casesAgree
    {name normal : String}
    (accepted : normalizeName (.str name) = .ok normal) :
    CasesAgree name normal := by
  obtain ⟨normalized, given⟩ := normalizeName_str_eq_ok_iff.mp accepted
  have shared {other : String} :
      normalizeName (.str other) = .ok normal ↔
        normalChars other.toList = normalChars name.toList := by
    rw [normalizeName_str_eq_ok_iff, and_iff_left given, ← normalized, normalName_eq, normalName_eq,
      String.ofList_inj]
  refine ⟨shared.mpr ?_, shared.trans ?_, fun settled recased variant => shared.mpr ?_⟩
  · rw [Relation.raised, String.toList_ofList]
    exact normalChars_eq_of_upper_eq (Unicode.upper_upper name.toList)
  · rw [Relation.lowered, String.toList_ofList]
    exact normalChars_lower_iff name.toList
  · exact normalChars_eq_of_upper_eq (variant.upper_eq settled)

/-- A name that is accepted is accepted in all its cases, if not under the same normal form. -/
theorem normalName_recased_ne_empty
    {name recased : String}
    (given : normalName name ≠ "")
    (variant : Unicode.Recased name.toList recased.toList) :
    normalName recased ≠ "" := by
  rw [normalName_eq, Ne, String.ofList_eq_empty_iff, normalChars_eq_nil_iff] at given ⊢
  rwa [variant.all_isBlank]

end Relation
end Wordbook
