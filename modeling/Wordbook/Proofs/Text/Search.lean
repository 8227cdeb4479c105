import Mathlib.Data.List.Infix
import Wordbook.Text.Pieces
import Wordbook.Text.Search

/-!
# Starts, ends and parts of a text

A text starts with another exactly when the other is a prefix of it, ends with it exactly when it is
a suffix, and a part is found in a sequence exactly when it stands somewhere in it as a whole.  Each
of these says that the text can be put together from the other one and what is left.
-/

namespace Wordbook
namespace Text

theorem startsWith_iff {chars start : List Char} :
    startsWith chars start = true ↔ start <+: chars := by
  induction chars generalizing start with
  | nil => cases start <;> simp [startsWith]
  | cons char chars inductionHypothesis =>
      cases start with
      | nil => simp [startsWith]
      | cons first start =>
          rw [startsWith, Bool.and_eq_true, beq_iff_eq, inductionHypothesis, List.cons_prefix_cons,
            eq_comm]

theorem endsWith_iff {chars ending : List Char} :
    endsWith chars ending = true ↔ ending <:+ chars := by
  rw [endsWith, startsWith_iff, List.reverse_prefix]

section

variable {Symbol : Type} [BEq Symbol] [LawfulBEq Symbol]

/-- A search finds a part from whatever index on places are counted. -/
theorem isSome_findFrom?_iff {part symbols : List Symbol} {index : Nat} :
    (findFrom? part index symbols).isSome = true ↔ part <:+: symbols := by
  induction symbols generalizing index with
  | nil =>
      rw [findFrom?, List.infix_nil]
      cases part <;> simp
  | cons symbol rest inductionHypothesis =>
      rw [findFrom?, List.infix_cons_iff, ← @inductionHypothesis (index + 1),
        ← List.isPrefixOf_iff_prefix]
      cases part.isPrefixOf (symbol :: rest) <;> simp

theorem isSome_find?_iff {part symbols : List Symbol} :
    (find? part symbols).isSome = true ↔ part <:+: symbols :=
  isSome_findFrom?_iff

end

/-! ## Texts put together -/

section

variable {first second : String}

theorem isPrefix_toList_iff : first.toList <+: second.toList ↔ ∃ rest, second = first ++ rest := by
  constructor
  · rintro ⟨rest, joined⟩
    refine ⟨String.ofList rest, ?_⟩
    rw [← String.toList_inj, String.toList_append, String.toList_ofList, joined]
  · rintro ⟨rest, rfl⟩
    exact ⟨rest.toList, String.toList_append.symm⟩

theorem isSuffix_toList_iff : first.toList <:+ second.toList ↔ ∃ rest, second = rest ++ first := by
  constructor
  · rintro ⟨rest, joined⟩
    refine ⟨String.ofList rest, ?_⟩
    rw [← String.toList_inj, String.toList_append, String.toList_ofList, joined]
  · rintro ⟨rest, rfl⟩
    exact ⟨rest.toList, String.toList_append.symm⟩

theorem isInfix_toList_iff :
    first.toList <:+: second.toList ↔ ∃ before behind, second = before ++ first ++ behind := by
  constructor
  · rintro ⟨before, behind, joined⟩
    refine ⟨String.ofList before, String.ofList behind, ?_⟩
    rw [← String.toList_inj, String.toList_append, String.toList_append, String.toList_ofList,
      String.toList_ofList, joined]
  · rintro ⟨before, behind, rfl⟩
    refine ⟨before.toList, behind.toList, ?_⟩
    rw [String.toList_append, String.toList_append]

end

end Text
end Wordbook
