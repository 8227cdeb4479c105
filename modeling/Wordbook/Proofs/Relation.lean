import Mathlib.Order.Bounds.Defs
import Wordbook.Proofs.Outcome
import Wordbook.Proofs.Text.Blank
import Wordbook.Proofs.Unicode.Case
import Wordbook.Relation

/-!
# Accepted names, bodies and identifiers

What normalizing yields is accepted as it is: a normal name is its own normal form, and a body that
was trimmed is neither blank nor trimmed any further.  A new identifier is one that is not in use.
-/

namespace Wordbook
namespace Relation

/-! ## Names -/

/-- A character of a normal name is not blank and is its own upper case. -/
theorem mem_normalName
    {name : String}
    {char : Char}
    (present : char ∈ (normalName name).toList) :
    Text.isBlank char = false ∧ Unicode.upperChar char = [char] := by
  rw [normalName, String.toList_ofList] at present
  rcases Text.mem_collapseBlanks present with rfl | ⟨raised, solid⟩
  · exact ⟨by decide, by decide +kernel⟩
  · exact ⟨solid, Unicode.upperChar_of_mem_upper raised⟩

/-- Normalizing a name a second time changes nothing. -/
theorem normalName_normalName (name : String) :
    normalName (normalName name) = normalName name := by
  have solid : ∀ char ∈ (normalName name).toList, Text.isBlank char = false :=
    fun _ present => (mem_normalName present).1
  have raised : ∀ char ∈ (normalName name).toList, Unicode.upperChar char = [char] :=
    fun _ present => (mem_normalName present).2
  conv_lhs => rw [normalName]
  rw [Text.trimBy_of_none solid, Unicode.upper_of_fixed raised,
    Text.collapseBlanks_of_none '_' solid, String.ofList_toList]

theorem normalizeText_of_normalizeText
    {name normal : String}
    (normalized : normalizeText name = .ok normal) :
    normalizeText normal = .ok normal := by
  simp only [normalizeText] at normalized
  split at normalized
  case isTrue => cases normalized
  case isFalse given =>
    cases normalized
    rw [normalizeText, normalName_normalName, if_neg given]

/-- A name that was accepted is left unchanged when it is normalized again. -/
theorem normalizeName_of_normalizeName
    {value : Json}
    {normal : String}
    (normalized : normalizeName value = .ok normal) :
    normalizeName (.str normal) = .ok normal := by
  obtain ⟨text, _, checked⟩ := bind_eq_ok_iff.mp normalized
  have fixed := normalizeText_of_normalizeText (mapError_eq_ok_iff.mp checked)
  exact bind_eq_ok_iff.mpr ⟨normal, rfl, mapError_eq_ok_iff.mpr fixed⟩

/-! ## Bodies -/

/-- A body that was accepted is trimmed and not blank. -/
theorem trimmed_of_requireBody
    {body trimmed : String}
    (accepted : requireBody body = .ok trimmed) :
    Text.trim trimmed = trimmed ∧ Text.allBlank trimmed = false := by
  simp only [requireBody] at accepted
  split at accepted
  case isTrue => cases accepted
  case isFalse given =>
    cases accepted
    refine ⟨Text.trim_trim body, Bool.eq_false_iff.mpr fun blank => given ?_⟩
    rw [← Text.trim_trim, Text.trim_eq_empty_of_allBlank blank]
    rfl

theorem trimmed_of_requireDefinition
    {value : Json}
    {trimmed : String}
    (accepted : requireDefinition value = .ok trimmed) :
    Text.trim trimmed = trimmed ∧ Text.allBlank trimmed = false := by
  obtain ⟨text, _, checked⟩ := bind_eq_ok_iff.mp accepted
  exact trimmed_of_requireBody (mapError_eq_ok_iff.mp checked)

/-! ## Identifiers -/

/-- The search for a number that is not taken ends: it goes on from a candidate to the next number
for as long as the candidate is taken. -/
inductive SearchEnds (taken : List Int) : Int → Int → Prop
  | free
      {candidate : Int}
      (untaken : candidate ∉ taken) :
      SearchEnds taken candidate candidate
  | onward
      {candidate found : Int}
      (held : candidate ∈ taken)
      (ends : SearchEnds taken (candidate + 1) found) :
      SearchEnds taken candidate found

/-- The search ends at the least number from the candidate on that is not taken. -/
theorem SearchEnds.isLeast
    {taken : List Int}
    {candidate found : Int}
    (ends : SearchEnds taken candidate found) :
    IsLeast {number : Int | candidate ≤ number ∧ number ∉ taken} found := by
  induction ends with
  | free untaken => exact ⟨⟨Int.le_refl _, untaken⟩, fun _ inside => inside.1⟩
  | @onward candidate found held ends inductionHypothesis =>
      obtain ⟨⟨further, untaken⟩, least⟩ := inductionHypothesis
      refine ⟨⟨by omega, untaken⟩, ?_⟩
      rintro number ⟨ahead, unheld⟩
      have other : number ≠ candidate := by
        rintro rfl
        exact unheld held
      exact least ⟨by omega, unheld⟩

/-- A search that may try more often than there are taken numbers ahead is not broken off. -/
theorem firstFree_searchEnds
    (taken : List Int)
    (tries : Nat)
    (candidate : Int)
    (enough : (taken.filter (candidate ≤ ·)).length < tries) :
    SearchEnds taken candidate (firstFree taken tries candidate) := by
  induction tries generalizing candidate with
  | zero => omega
  | succ tries inductionHypothesis =>
      unfold firstFree
      split
      case isFalse free => exact .free (by simpa using free)
      case isTrue held =>
        refine .onward (by simpa using held) (inductionHypothesis (candidate + 1) ?_)
        -- The candidate itself is ahead no longer.
        have fewer : (taken.filter (candidate + 1 ≤ ·)).length <
            (taken.filter (candidate ≤ ·)).length := by
          have ahead : taken.filter (candidate + 1 ≤ ·) =
              (taken.filter (candidate ≤ ·)).filter (candidate + 1 ≤ ·) := by
            rw [List.filter_filter]
            refine List.filter_congr fun number _ => ?_
            rw [← Bool.decide_and, decide_eq_decide]
            omega
          rw [ahead, List.length_filter_lt_length_iff_exists]
          exact ⟨candidate, by simpa using held, by rw [decide_eq_true_eq]; omega⟩
        omega

/-- The search for a new identifier ends at it. -/
theorem newId_searchEnds
    (clock lastIssued : Int)
    (taken : List Int) :
    SearchEnds taken (max (clock.fdiv 1000000) (lastIssued + 1))
      (newId clock lastIssued taken) :=
  firstFree_searchEnds taken _ _ (Nat.lt_succ_of_le (List.length_filter_le _ taken))

/-- A new identifier is not in use. -/
theorem newId_not_mem
    (clock lastIssued : Int)
    (taken : List Int) :
    newId clock lastIssued taken ∉ taken :=
  (newId_searchEnds clock lastIssued taken).isLeast.1.2

end Relation
end Wordbook
