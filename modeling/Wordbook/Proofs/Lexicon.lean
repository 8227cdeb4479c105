import Mathlib.Data.List.Nodup
import Mathlib.Data.List.Perm.Subperm
import Wordbook.Lexicon

/-!
# Accepted alphabets and lengths

An alphabet that was read has every character once, and a lexicon is built from exactly the alphabet
and the length that were read.
-/

namespace Wordbook
namespace Lexicon

theorem nodup_distinct (chars : List Char) : (distinct chars).Nodup := by
  induction chars with
  | nil => exact List.nodup_nil
  | cons first rest inductionHypothesis =>
      exact List.nodup_cons.mpr ⟨by simp, inductionHypothesis.filter _⟩

theorem filter_distinct (passes : Char → Bool) (chars : List Char) :
    (distinct chars).filter passes = distinct (chars.filter passes) := by
  induction chars with
  | nil => rfl
  | cons first rest inductionHypothesis =>
      rw [distinct, List.filter_cons, List.filter_cons, List.filter_comm, inductionHypothesis]
      split
      case isTrue => rw [distinct]
      case isFalse fails =>
        -- The first character does not pass, so that none of the others is a repetition of it.
        refine List.filter_eq_self.mpr fun char present => ?_
        rw [← inductionHypothesis] at present
        rw [bne_iff_ne]
        rintro rfl
        exact fails (List.mem_filter.mp present).2

/-- Of repeated characters, the first ones stay. -/
theorem distinct_eq_eraseDups (chars : List Char) : distinct chars = chars.eraseDups := by
  induction length : chars.length using Nat.strongRecOn generalizing chars with
  | ind bound inductionHypothesis =>
      cases chars with
      | nil => rfl
      | cons first rest =>
          have fewer : (rest.filter fun char => !char == first).length < bound := by
            rw [← length, List.length_cons]
            exact Nat.lt_succ_of_le (List.length_filter_le _ rest)
          rw [distinct, List.eraseDups_cons, filter_distinct]
          exact congrArg _ (inductionHypothesis _ fewer _ rfl)

/-- There are only so many characters. -/
theorem length_le_of_nodup {chars : List Char} (distinct : chars.Nodup) :
    chars.length ≤ 0x110000 := by
  have codes : (chars.map Char.toNat).Nodup := distinct.map fun _ _ => Char.toNat_inj.mp
  have bounded : chars.map Char.toNat ⊆ List.range 0x110000 := by
    intro code present
    obtain ⟨char, _, rfl⟩ := List.mem_map.mp present
    have valid := char.valid
    simp only [UInt32.isValidChar, Nat.isValidChar] at valid
    rw [List.mem_range, Char.toNat]
    omega
  have fewer := (List.subperm_of_subset codes bounded).length_le
  rwa [List.length_map, List.length_range] at fewer

/-- An alphabet that was read has no character twice. -/
theorem nodup_of_readAlphabet
    {value : Json}
    {alphabet : String}
    (read : readAlphabet value = .ok alphabet) :
    alphabet.toList.Nodup := by
  unfold readAlphabet at read
  split at read
  case isTrue =>
    cases read
    rw [String.toList_ofList]
    exact nodup_distinct _
  case isFalse => cases read

theorem pos_of_positive?
    {value : Int}
    {length : Nat}
    (positive : positive? value = some length) :
    0 < length := by
  unfold positive? at positive
  split at positive
  · cases positive
    omega
  · cases positive

theorem pos_of_lengthOf?
    {value : Json}
    {length : Nat}
    (denoted : lengthOf? value = some length) :
    0 < length := by
  cases value with
  | int value => exact pos_of_positive? denoted
  | float value =>
      rw [lengthOf?] at denoted
      split at denoted
      · split at denoted
        · exact pos_of_positive? denoted
        · cases denoted
      · cases denoted
  | str text =>
      dsimp only [lengthOf?] at denoted
      split at denoted
      · split at denoted
        · exact pos_of_positive? denoted
        · cases denoted
      · cases denoted
  | null | bool | arr | obj => cases denoted

/-- A length that was read is positive. -/
theorem pos_of_readLength
    {value : Json}
    {length : Nat}
    (read : readLength value = .ok length) :
    0 < length := by
  unfold readLength at read
  split at read
  case h_1 denoted =>
    cases read
    exact pos_of_lengthOf? denoted
  case h_2 => cases read

theorem exists_make_eq_ok
    {alphabet : String}
    {length : Nat}
    (given : alphabet ≠ "")
    (positive : 0 < length) :
    ∃ lexicon, make alphabet length = .ok lexicon := by
  rw [make, dif_neg given, dif_pos (by simpa using positive)]
  exact ⟨_, rfl⟩

/-- A lexicon has the alphabet and the length that it was built from. -/
theorem parts_of_make
    {alphabet : String}
    {length : Nat}
    {lexicon : Lexicon}
    (made : make alphabet length = .ok lexicon) :
    lexicon.alphabet = alphabet ∧ lexicon.maxLength = length := by
  unfold make at made
  split at made
  · cases made
  · split at made
    · cases made
      exact ⟨rfl, rfl⟩
    · cases made

end Lexicon
end Wordbook
