import Mathlib.Algebra.BigOperators.Intervals
import Mathlib.Algebra.Order.BigOperators.Group.Finset
import Mathlib.Data.List.Shortlex
import Mathlib.Tactic.Ring

/-!
# Words as numerals

The letters of an alphabet are digits that count from one.  Every word over the alphabet is the
numeral of one number, and the order of the numbers is that of the words: shorter words come first,
and words of one length in the order of their letters.
-/

namespace Wordbook
namespace Lexicon

/-- All letters of a word are in the alphabet. -/
def IsOver (letters word : List Char) : Prop := ∀ letter ∈ word, letter ∈ letters

/-- A letter stands before another one in the alphabet. -/
def StandsBefore (letters : List Char) (first second : Char) : Prop :=
  letters.idxOf first < letters.idxOf second

/-- A word comes before another one: it is shorter, or has the same length and, at the first place
where they differ, the letter that stands before the other one. -/
def ComesBefore (letters : List Char) : List Char → List Char → Prop :=
  List.Shortlex (StandsBefore letters)

/-- The number that a word denotes to the base of the count of letters, each letter being the digit
that tells its place in the alphabet, counted from one. -/
def number (letters word : List Char) : Nat :=
  word.foldl (fun total letter => total * letters.length + (letters.idxOf letter + 1)) 0

/-- The word that denotes a number. -/
def numeral (letters : List Char) : Nat → List Char
  | 0 => []
  | before + 1 =>
      numeral letters (before / letters.length) ++ letters[before % letters.length]?.toList
termination_by number => number
decreasing_by exact Nat.lt_succ_of_le (Nat.div_le_self before letters.length)

variable {letters : List Char}

@[simp] theorem number_nil : number letters [] = 0 := rfl

@[simp] theorem number_append_singleton (word : List Char) (letter : Char) :
    number letters (word ++ [letter]) =
      number letters word * letters.length + (letters.idxOf letter + 1) := by
  simp [number]

/-- Only the empty word denotes zero, as no digit does. -/
theorem number_pos_iff {word : List Char} : 0 < number letters word ↔ word ≠ [] := by
  induction word using List.reverseRecOn with
  | nil => simp
  | append_singleton word letter _ => simp

@[simp] theorem numeral_zero : numeral letters 0 = [] := by
  rw [numeral]

/-- Behind a word, the letter at a place is the digit of the next place. -/
theorem numeral_append_letter
    {place : Nat}
    (inside : place < letters.length)
    (value : Nat) :
    numeral letters value ++ [letters[place]] =
      numeral letters (value * letters.length + place + 1) := by
  have nonempty : 0 < letters.length := Nat.zero_lt_of_lt inside
  have quotient : (value * letters.length + place) / letters.length = value := by
    rw [Nat.add_comm, Nat.add_mul_div_right _ _ nonempty, Nat.div_eq_of_lt inside, Nat.zero_add]
  have remainder : (value * letters.length + place) % letters.length = place := by
    rw [Nat.add_comm, Nat.add_mul_mod_self_right, Nat.mod_eq_of_lt inside]
  rw [numeral, quotient, remainder, List.getElem?_eq_getElem inside, Option.toList_some]

/-- A number other than zero is that of a word with one more letter behind it. -/
theorem exists_place
    (given : letters ≠ [])
    {value : Nat}
    (positive : 0 < value) :
    ∃ quotient place, place < letters.length ∧ value = quotient * letters.length + place + 1 := by
  refine ⟨(value - 1) / letters.length, (value - 1) % letters.length, ?_, ?_⟩
  · exact Nat.mod_lt _ (List.length_pos_iff.mpr given)
  · rw [Nat.div_add_mod']
    omega

/-- Numerals are made digit by digit. -/
theorem numeralInduction
    {motive : Nat → Prop}
    (given : letters ≠ [])
    (zero : motive 0)
    (digit : ∀ value place, place < letters.length → motive value →
      motive (value * letters.length + place + 1))
    (value : Nat) :
    motive value := by
  induction value using Nat.strong_induction_on with
  | _ value inductionHypothesis =>
      rcases Nat.eq_zero_or_pos value with rfl | positive
      · exact zero
      · obtain ⟨quotient, place, inside, rfl⟩ := exists_place given positive
        have smaller : quotient ≤ quotient * letters.length :=
          Nat.le_mul_of_pos_right _ (List.length_pos_iff.mpr given)
        exact digit quotient place inside (inductionHypothesis quotient (by omega))

/-! ## Words and numbers -/

theorem isOver_append_singleton {word : List Char} {letter : Char} :
    IsOver letters (word ++ [letter]) ↔ IsOver letters word ∧ letter ∈ letters := by
  simp [IsOver, or_imp, forall_and]

/-- The word of a number is over the alphabet. -/
theorem isOver_numeral (given : letters ≠ []) (value : Nat) :
    IsOver letters (numeral letters value) := by
  induction value using numeralInduction given with
  | zero => simp [IsOver]
  | digit value place inside inductionHypothesis =>
      rw [← numeral_append_letter inside, isOver_append_singleton]
      exact ⟨inductionHypothesis, List.getElem_mem inside⟩

/-- The word of a number denotes it. -/
theorem number_numeral
    (given : letters ≠ [])
    (distinct : letters.Nodup)
    (value : Nat) :
    number letters (numeral letters value) = value := by
  induction value using numeralInduction given with
  | zero => simp
  | digit value place inside inductionHypothesis =>
      rw [← numeral_append_letter inside, number_append_singleton, inductionHypothesis,
        distinct.idxOf_getElem place inside]
      omega

/-- Every word over the alphabet is that of the number it denotes. -/
theorem numeral_number
    {word : List Char}
    (isOver : IsOver letters word) :
    numeral letters (number letters word) = word := by
  induction word using List.reverseRecOn with
  | nil => simp
  | append_singleton word letter inductionHypothesis =>
      obtain ⟨isOver, known⟩ := isOver_append_singleton.mp isOver
      have inside : letters.idxOf letter < letters.length := List.idxOf_lt_length_iff.mpr known
      rw [number_append_singleton, ← Nat.add_assoc, ← numeral_append_letter inside,
        inductionHypothesis isOver, List.getElem_idxOf inside]

/-! ## Lengths -/

/-- How many words over a number of letters have one of the lengths up to a greatest one, the empty
word left out. -/
def wordCount (size maxLength : Nat) : Nat := ∑ length ∈ Finset.Icc 1 maxLength, size ^ length

@[simp] theorem wordCount_zero (size : Nat) : wordCount size 0 = 0 := rfl

theorem wordCount_succ (size maxLength : Nat) :
    wordCount size (maxLength + 1) = wordCount size maxLength + size ^ (maxLength + 1) :=
  Finset.sum_Icc_succ_top (by omega) _

/-- Words one letter longer are as many for every word there was, the empty one included. -/
theorem wordCount_succ_eq_mul (size maxLength : Nat) :
    wordCount size (maxLength + 1) = (wordCount size maxLength + 1) * size := by
  induction maxLength with
  | zero => simp [wordCount_succ]
  | succ maxLength inductionHypothesis =>
      calc wordCount size (maxLength + 2)
          = wordCount size (maxLength + 1) + size ^ (maxLength + 1) * size :=
            wordCount_succ size (maxLength + 1)
        _ = (wordCount size maxLength + size ^ (maxLength + 1) + 1) * size := by
            rw [inductionHypothesis]
            ring
        _ = (wordCount size (maxLength + 1) + 1) * size := by
            rw [wordCount_succ]

theorem wordCount_mono
    (size : Nat)
    {shorter longer : Nat}
    (ordered : shorter ≤ longer) :
    wordCount size shorter ≤ wordCount size longer :=
  Finset.sum_le_sum_of_subset (Finset.Icc_subset_Icc_right ordered)

/-- A word denotes no more than there are words up to its length. -/
theorem number_le_wordCount
    {word : List Char}
    (isOver : IsOver letters word) :
    number letters word ≤ wordCount letters.length word.length := by
  induction word using List.reverseRecOn with
  | nil => simp
  | append_singleton word letter inductionHypothesis =>
      obtain ⟨isOver, known⟩ := isOver_append_singleton.mp isOver
      have inside : letters.idxOf letter < letters.length := List.idxOf_lt_length_iff.mpr known
      have bound := Nat.mul_le_mul_right letters.length (inductionHypothesis isOver)
      rw [number_append_singleton, List.length_append, List.length_singleton,
        wordCount_succ_eq_mul, Nat.add_mul]
      omega

/-- With one more digit behind it, a word denotes more than there are words up to its length. -/
theorem wordCount_le_number_mul
    {word : List Char}
    (isOver : IsOver letters word) :
    wordCount letters.length word.length ≤ number letters word * letters.length := by
  induction word using List.reverseRecOn with
  | nil => simp
  | append_singleton word letter inductionHypothesis =>
      have bound := inductionHypothesis (isOver_append_singleton.mp isOver).1
      rw [number_append_singleton, List.length_append, List.length_singleton,
        wordCount_succ_eq_mul]
      exact Nat.mul_le_mul_right _ (by omega)

/-- The words up to a length are those that denote no more than there are such words. -/
theorem number_le_wordCount_iff
    {word : List Char}
    (isOver : IsOver letters word)
    (maxLength : Nat) :
    number letters word ≤ wordCount letters.length maxLength ↔ word.length ≤ maxLength := by
  refine ⟨fun small => ?_, fun short =>
    (number_le_wordCount isOver).trans (wordCount_mono _ short)⟩
  by_contra long
  induction word using List.reverseRecOn with
  | nil => simp at long
  | append_singleton word letter _ =>
      have bound := wordCount_le_number_mul (isOver_append_singleton.mp isOver).1
      rw [List.length_append, List.length_singleton] at long
      have fewer := wordCount_mono letters.length (show maxLength ≤ word.length by omega)
      rw [number_append_singleton] at small
      omega

/-! ## Order -/

theorem ComesBefore.of_nil (word : List Char) (letter : Char) :
    ComesBefore letters [] (word ++ [letter]) :=
  List.Shortlex.of_length_lt (by simp)

/-- Letters behind words do not change the order of the words. -/
theorem ComesBefore.append
    {first second : List Char}
    (ordered : ComesBefore letters first second)
    (letter other : Char) :
    ComesBefore letters (first ++ [letter]) (second ++ [other]) := by
  rcases List.shortlex_def.mp ordered with shorter | ⟨same, lower⟩
  · exact List.Shortlex.of_length_lt (by simpa using shorter)
  · refine List.Shortlex.of_lex (by simp [same]) ?_
    induction lower with
    | nil => simp at same
    | rel lower => exact .rel lower
    | cons _ inductionHypothesis =>
        exact .cons (inductionHypothesis (List.Shortlex.of_lex (by simpa using same) ‹_›)
          (by simpa using same))

/-- Of two words that differ in their last letters, the one comes first whose letter does. -/
theorem ComesBefore.of_standsBefore
    {letter other : Char}
    (ordered : StandsBefore letters letter other)
    (word : List Char) :
    ComesBefore letters (word ++ [letter]) (word ++ [other]) :=
  ((List.shortlex_singleton_iff letter other).mpr ordered).append_left word

/-- The words of greater numbers come later. -/
theorem comesBefore_numeral
    (given : letters ≠ [])
    (distinct : letters.Nodup)
    {lower higher : Nat}
    (ordered : lower < higher) :
    ComesBefore letters (numeral letters lower) (numeral letters higher) := by
  induction higher using numeralInduction given generalizing lower with
  | zero => omega
  | digit higher place inside inductionHypothesis =>
      rw [← numeral_append_letter inside]
      rcases Nat.eq_zero_or_pos lower with rfl | positive
      · rw [numeral_zero]
        exact .of_nil _ _
      obtain ⟨lower, earlier, within, rfl⟩ := exists_place given positive
      rw [← numeral_append_letter within]
      rcases Nat.lt_trichotomy lower higher with less | rfl | more
      · exact (inductionHypothesis less).append _ _
      · refine .of_standsBefore ?_ _
        rw [StandsBefore, distinct.idxOf_getElem earlier within,
          distinct.idxOf_getElem place inside]
        omega
      · have further := Nat.mul_le_mul_right letters.length (Nat.succ_le_of_lt more)
        rw [Nat.succ_mul] at further
        omega

end Lexicon
end Wordbook
