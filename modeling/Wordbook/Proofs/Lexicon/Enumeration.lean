import Wordbook.Lexicon
import Wordbook.Proofs.Lexicon.Numeral

/-!
# The canonical enumeration

The tokens over an alphabet are enumerated length by length, each length by adding every letter to
every token of the length before.  What comes out are the numerals of successive numbers, from one
on; that the enumeration is complete, in order and without repetition follows from that.
-/

namespace Wordbook
namespace Lexicon

variable {letters : List Char}

/-! ## Levels -/

theorem map_append_letters (value : Nat) :
    (letters.map fun letter => numeral letters value ++ [letter]) =
      (List.range' (value * letters.length + 1) letters.length).map (numeral letters) := by
  refine List.ext_getElem (by simp) fun place inside _ => ?_
  rw [List.length_map] at inside
  rw [List.getElem_map, List.getElem_map, List.getElem_range', numeral_append_letter inside]
  congr 1
  omega

/-- The words that extend those of successive numbers are those of successive numbers. -/
theorem extendWords_numerals (start count : Nat) :
    extendWords letters ((List.range' start count).map (numeral letters)) =
      (List.range' (start * letters.length + 1) (count * letters.length)).map
        (numeral letters) := by
  induction count generalizing start with
  | zero => simp [extendWords]
  | succ count inductionHypothesis =>
      have later := inductionHypothesis (start + 1)
      have next : (start + 1) * letters.length + 1 =
          start * letters.length + 1 + letters.length := by ring
      rw [next] at later
      rw [extendWords] at later ⊢
      rw [List.range'_succ, List.map_cons, List.flatMap_cons, later, map_append_letters,
        ← List.map_append, List.range'_append_1, Nat.add_mul, Nat.one_mul,
        Nat.add_comm letters.length]

/-- If a level starts where the words that extend it would be reached by counting on, then so do all
levels after it. -/
theorem wordsFrom_numerals
    {start count : Nat}
    (joined : start + count = start * letters.length + 1)
    (remaining : Nat) :
    wordsFrom letters remaining ((List.range' start count).map (numeral letters)) =
      (List.range' (start + count) (count * wordCount letters.length remaining)).map
        (numeral letters) := by
  induction remaining generalizing start count with
  | zero => simp [wordsFrom]
  | succ remaining inductionHypothesis =>
      have rejoined : start * letters.length + 1 + count * letters.length =
          (start * letters.length + 1) * letters.length + 1 := by
        rw [← joined, Nat.add_mul]
        omega
      have all : count * letters.length +
            count * letters.length * wordCount letters.length remaining =
          count * wordCount letters.length (remaining + 1) := by
        rw [wordCount_succ_eq_mul]
        ring
      rw [wordsFrom, extendWords_numerals, inductionHypothesis rejoined, ← List.map_append,
        List.range'_append_1, all, joined]

/-- The enumeration lists the numerals from one on. -/
theorem tokens_eq_numerals (alphabet : String) (maxLength : Nat) :
    tokens alphabet maxLength =
      (List.range' 1 (wordCount alphabet.toList.length maxLength)).map
        fun value => String.ofList (numeral alphabet.toList value) := by
  have first : ([[]] : List (List Char)) =
      (List.range' 0 1).map (numeral alphabet.toList) := by simp
  rw [tokens, first, wordsFrom_numerals (by simp), List.map_map]
  simp [Function.comp_def]

theorem length_tokens (alphabet : String) (maxLength : Nat) :
    (tokens alphabet maxLength).length = wordCount alphabet.length maxLength := by
  rw [tokens_eq_numerals, List.length_map, List.length_range', String.length_toList]

/-! ## The whole enumeration -/

/-- A list holds the tokens over an alphabet up to a length, each one once and in canonical order.
The token at a place is the numeral of the place counted from one. -/
structure Enumerates (alphabet : String) (maxLength : Nat) (words : List String) : Prop where
  mem_iff : ∀ word : String, word ∈ words ↔
    (∀ letter ∈ word.toList, letter ∈ alphabet.toList) ∧ 1 ≤ word.length ∧
      word.length ≤ maxLength
  nodup : words.Nodup
  sorted : words.Pairwise fun first second =>
    ComesBefore alphabet.toList first.toList second.toList
  length_eq : words.length = ∑ length ∈ Finset.Icc 1 maxLength, alphabet.length ^ length
  numerals : ∀ place, (inside : place < words.length) →
    words[place] = String.ofList (numeral alphabet.toList (place + 1)) ∧
      number alphabet.toList words[place].toList = place + 1

theorem mem_tokens_iff
    {alphabet : String}
    (given : alphabet ≠ "")
    (distinct : alphabet.toList.Nodup)
    (maxLength : Nat)
    (word : String) :
    word ∈ tokens alphabet maxLength ↔
      IsOver alphabet.toList word.toList ∧ 1 ≤ word.length ∧ word.length ≤ maxLength := by
  have nonempty : alphabet.toList ≠ [] := by simpa using given
  rw [tokens_eq_numerals, ← String.length_toList, Nat.one_le_iff_ne_zero, Ne,
    List.length_eq_zero_iff, ← Ne, ← number_pos_iff]
  simp only [List.mem_map, List.mem_range'_1]
  constructor
  · rintro ⟨value, ⟨positive, bounded⟩, rfl⟩
    have isOver := isOver_numeral nonempty value
    have denoted := number_numeral nonempty distinct value
    rw [String.toList_ofList, ← number_le_wordCount_iff isOver, denoted]
    exact ⟨isOver, positive, by omega⟩
  · rintro ⟨isOver, positive, short⟩
    rw [← number_le_wordCount_iff isOver] at short
    refine ⟨number alphabet.toList word.toList, ⟨positive, by omega⟩, ?_⟩
    rw [numeral_number isOver, String.ofList_toList]

theorem sorted_tokens
    {alphabet : String}
    (given : alphabet ≠ "")
    (distinct : alphabet.toList.Nodup)
    (maxLength : Nat) :
    (tokens alphabet maxLength).Pairwise fun first second =>
      ComesBefore alphabet.toList first.toList second.toList := by
  have nonempty : alphabet.toList ≠ [] := by simpa using given
  rw [tokens_eq_numerals, List.pairwise_map]
  refine (List.pairwise_lt_range' (s := 1)).imp fun ordered => ?_
  rw [String.toList_ofList, String.toList_ofList]
  exact comesBefore_numeral nonempty distinct ordered

theorem nodup_tokens
    {alphabet : String}
    (given : alphabet ≠ "")
    (distinct : alphabet.toList.Nodup)
    (maxLength : Nat) :
    (tokens alphabet maxLength).Nodup := by
  have nonempty : alphabet.toList ≠ [] := by simpa using given
  rw [tokens_eq_numerals]
  refine List.Nodup.map ?_ (List.nodup_range' _)
  intro first second same
  rw [← number_numeral nonempty distinct first, ← number_numeral nonempty distinct second,
    String.ofList_injective same]

/-- The enumeration for an alphabet of distinct letters is complete and canonical. -/
theorem tokens_enumerate
    {alphabet : String}
    (given : alphabet ≠ "")
    (distinct : alphabet.toList.Nodup)
    (maxLength : Nat) :
    Enumerates alphabet maxLength (tokens alphabet maxLength) where
  mem_iff := mem_tokens_iff given distinct maxLength
  nodup := nodup_tokens given distinct maxLength
  sorted := sorted_tokens given distinct maxLength
  length_eq := length_tokens alphabet maxLength
  numerals := by
    intro place inside
    have nonempty : alphabet.toList ≠ [] := by simpa using given
    simp only [tokens_eq_numerals, List.getElem_map, List.getElem_range', String.toList_ofList,
      number_numeral nonempty distinct]
    simp [Nat.add_comm]

/-- The letters of an alphabet need not stand in the order of their codes. -/
theorem tokens_enumerate_reversed :
    "ba" ≠ "" ∧ "ba".toList.Nodup ∧
      Enumerates "ba" 2 (tokens "ba" 2) ∧ tokens "ba" 2 = ["b", "a", "bb", "ba", "ab", "aa"] := by
  have distinct : "ba".toList.Nodup := by decide
  exact ⟨by decide, distinct, tokens_enumerate (by decide) distinct 2, by decide⟩

end Lexicon
end Wordbook
