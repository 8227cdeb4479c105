import Wordbook.Proofs.Lexicon.Enumeration

/-!
# Counting up to a limit

A count of the vocabulary adds the levels one after the other and stops at the first sum that passes
its limit, if it has one.  It never says more than there are tokens, it tells whether it is exact,
and it passes its limit exactly when the vocabulary does.
-/

namespace Wordbook
namespace Lexicon

variable {size maxLength : Nat} {limit : Int}

theorem wordCount_lt
    (some_letter : 0 < size)
    {shorter longer : Nat}
    (ordered : shorter < longer) :
    wordCount size shorter < wordCount size longer := by
  have more : wordCount size shorter < wordCount size (shorter + 1) := by
    rw [wordCount_succ]
    exact Nat.lt_add_of_pos_right (Nat.pow_pos some_letter)
  exact more.trans_le (wordCount_mono size ordered)

/-! ## Counting on -/

/-- Counting on from the sum up to a length ended at the sum up to another one, which is told to be
exact if it is the last.  No sum on the way passed the limit, and only one that passes it ends the
count before the last length. -/
structure CountsTo
    (size : Nat)
    (limit : Int)
    (start last : Nat)
    (counted : Int × Bool)
    (reached : Nat) : Prop where
  from_start : start ≤ reached
  onward : start < last → start < reached
  to_last : reached ≤ last
  counted_eq : counted = (↑(wordCount size reached), decide (reached = last))
  within : ∀ length, start < length → length < reached → (wordCount size length : Int) ≤ limit
  passed : reached < last → limit < wordCount size reached

/-- Counting on by one level: the sum up to the next length is the result if it passes the limit. -/
theorem countFrom_succ (size : Nat) (limit : Option Int) (remaining start : Nat) :
    countFrom size limit (remaining + 1) ↑(size ^ start) ↑(wordCount size start) =
      if limit.any (· < (wordCount size (start + 1) : Int)) = true then
        (↑(wordCount size (start + 1)), remaining == 0)
      else countFrom size limit remaining ↑(size ^ (start + 1)) ↑(wordCount size (start + 1)) := by
  have nextLevel : (↑(size ^ start) * ↑size : Int) = ↑(size ^ (start + 1)) := by push_cast; ring
  have nextTotal : (↑(wordCount size start) + ↑(size ^ (start + 1)) : Int) =
      ↑(wordCount size (start + 1)) := by rw [wordCount_succ]; push_cast; ring
  rw [countFrom, nextLevel, nextTotal]

theorem countFrom_countsTo (size : Nat) (limit : Int) (remaining start : Nat) :
    ∃ reached, CountsTo size limit start (start + remaining)
      (countFrom size (some limit) remaining ↑(size ^ start) ↑(wordCount size start)) reached := by
  induction remaining generalizing start with
  | zero => exact ⟨start, by omega, by omega, by omega, by simp [countFrom], by omega, by omega⟩
  | succ remaining inductionHypothesis =>
      rw [countFrom_succ, Option.any_some]
      by_cases stops : limit < wordCount size (start + 1)
      · refine ⟨start + 1, by omega, by omega, by omega, ?_, by omega, fun _ => stops⟩
        rw [if_pos (decide_eq_true stops), Prod.mk.injEq, Bool.beq_eq_decide_eq, decide_eq_decide]
        exact ⟨rfl, by omega⟩
      · obtain ⟨reached, counts⟩ := inductionHypothesis (start + 1)
        have last_eq : start + 1 + remaining = start + (remaining + 1) := by omega
        rw [last_eq] at counts
        rw [if_neg (by simpa using stops)]
        have further := counts.from_start
        refine ⟨reached, by omega, by omega, counts.to_last, counts.counted_eq, ?_, counts.passed⟩
        intro length later earlier
        obtain rfl | later : length = start + 1 ∨ start + 1 < length := by omega
        · exact Int.not_lt.mp stops
        · exact counts.within length later earlier

theorem count_of_small {limit : Option Int} (small : size ≤ 1) :
    count size maxLength limit = (↑(wordCount size maxLength), true) := by
  rw [count, if_pos (by omega)]
  obtain rfl | rfl : size = 0 ∨ size = 1 := by omega
  · have none : wordCount 0 maxLength = 0 :=
      Finset.sum_eq_zero fun length inside => Nat.zero_pow (Finset.mem_Icc.mp inside).1
    simp [none]
  · simp [wordCount]

theorem count_of_large (large : 1 < size) (maxLength : Nat) (limit : Int) :
    ∃ reached, CountsTo size limit 0 maxLength (count size maxLength (some limit)) reached := by
  have counted := countFrom_countsTo size limit maxLength 0
  rw [count, if_neg (by omega)]
  simpa using counted

/-- Counting on without a limit ends at the last length. -/
theorem countFrom_none (size remaining start : Nat) :
    countFrom size none remaining ↑(size ^ start) ↑(wordCount size start) =
      (↑(wordCount size (start + remaining)), true) := by
  induction remaining generalizing start with
  | zero => rfl
  | succ remaining inductionHypothesis =>
      have last_eq : start + (remaining + 1) = start + 1 + remaining := by omega
      rw [countFrom_succ, Option.any_none, if_neg Bool.false_ne_true, last_eq]
      exact inductionHypothesis (start + 1)

theorem count_none (size maxLength : Nat) :
    count size maxLength none = (↑(wordCount size maxLength), true) := by
  by_cases small : size ≤ 1
  · exact count_of_small small
  · have counted := countFrom_none size maxLength 0
    rw [count, if_neg (by omega)]
    simpa using counted

/-! ## What a count tells -/

/-- The flag of a count tells whether it is exact. -/
theorem count_exact_iff :
    (count size maxLength (some limit)).2 = true ↔
      (count size maxLength (some limit)).1 = wordCount size maxLength := by
  by_cases small : size ≤ 1
  · simp [count_of_small small]
  · obtain ⟨reached, counts⟩ := count_of_large (Nat.lt_of_not_le small) maxLength limit
    rw [counts.counted_eq, decide_eq_true_iff]
    refine ⟨fun last => by rw [last], fun same => ?_⟩
    by_contra early
    have some_letter : 0 < size := by omega
    have fewer := wordCount_lt some_letter (counts.to_last.lt_of_ne early)
    omega

theorem count_le : (count size maxLength (some limit)).1 ≤ wordCount size maxLength := by
  by_cases small : size ≤ 1
  · simp [count_of_small small]
  · obtain ⟨reached, counts⟩ := count_of_large (Nat.lt_of_not_le small) maxLength limit
    rw [counts.counted_eq]
    exact Int.ofNat_le.mpr (wordCount_mono size counts.to_last)

theorem count_nonneg : 0 ≤ (count size maxLength (some limit)).1 := by
  by_cases small : size ≤ 1
  · simp [count_of_small small]
  · obtain ⟨reached, counts⟩ := count_of_large (Nat.lt_of_not_le small) maxLength limit
    rw [counts.counted_eq]
    exact Int.natCast_nonneg _

/-- A count that stays within its limit is exact. -/
theorem count_of_le (within : (count size maxLength (some limit)).1 ≤ limit) :
    (count size maxLength (some limit)).1 = wordCount size maxLength := by
  by_cases small : size ≤ 1
  · rw [count_of_small small]
  · obtain ⟨reached, counts⟩ := count_of_large (Nat.lt_of_not_le small) maxLength limit
    rw [counts.counted_eq] at within ⊢
    obtain early | last := counts.to_last.lt_or_eq
    · exact absurd (counts.passed early) (Int.not_lt.mpr within)
    · rw [last]

/-- A count passes its limit exactly when there are more tokens than that. -/
theorem limit_lt_count_iff :
    limit < (count size maxLength (some limit)).1 ↔ limit < wordCount size maxLength := by
  refine ⟨fun passed => passed.trans_le count_le, fun passed => ?_⟩
  by_contra within
  rw [count_of_le (Int.not_lt.mp within)] at within
  exact within passed

/-- When the count stays within its limit, so does the number of tokens. -/
theorem length_tokens_le
    {alphabet : String}
    (within : (count alphabet.length maxLength (some limit)).1 ≤ limit) :
    (tokens alphabet maxLength).length ≤ limit := by
  rw [length_tokens, ← count_of_le within]
  exact within

/-- A count does not go far beyond its limit: by no more than one level. -/
theorem count_le_mul (large : 1 < size) (bounded : 0 ≤ limit) :
    (count size maxLength (some limit)).1 ≤ (limit + 1) * size := by
  obtain ⟨reached, counts⟩ := count_of_large large maxLength limit
  rw [counts.counted_eq]
  have room : (0 : Int) ≤ (limit + 1) * size := by positivity
  cases reached with
  | zero => simpa using room
  | succ reached =>
      have before : (wordCount size reached : Int) ≤ limit := by
        cases reached with
        | zero => simpa using bounded
        | succ shorter => exact counts.within (shorter + 1) (by omega) (by omega)
      rw [wordCount_succ_eq_mul]
      push_cast
      exact Int.mul_le_mul_of_nonneg_right (by omega) (by omega)

/-- What a count that is not exact tells is the first sum of levels that passes the limit. -/
theorem count_isLeast (stopped : (count size maxLength (some limit)).2 = false) :
    IsLeast {sum : Int | limit < sum ∧ ∃ last ∈ Finset.Icc 1 maxLength, sum = wordCount size last}
      (count size maxLength (some limit)).1 := by
  have large : 1 < size := by
    by_contra small
    simp [count_of_small (Nat.not_lt.mp small)] at stopped
  obtain ⟨reached, counts⟩ := count_of_large large maxLength limit
  rw [counts.counted_eq] at stopped ⊢
  have early : reached < maxLength :=
    counts.to_last.lt_of_ne (by simpa using stopped)
  have begun : 0 < reached := counts.onward (by omega)
  refine ⟨⟨counts.passed early, reached, Finset.mem_Icc.mpr ⟨begun, early.le⟩, rfl⟩, ?_⟩
  rintro _ ⟨passes, last, inside, rfl⟩
  -- The sums before the one that was reached are within the limit.
  by_contra smaller
  have shorter : last < reached := by
    by_contra longer
    exact smaller (Int.ofNat_le.mpr (wordCount_mono size (Nat.not_lt.mp longer)))
  exact absurd (counts.within last (Finset.mem_Icc.mp inside).1 shorter) (Int.not_le.mpr passes)

/-- What a count with a limit tells of the number of tokens: it is no more than that, and it passes
the limit when that does; it is marked as exact when it is that number, and is else the first sum of
levels that passes the limit. -/
structure Tells (size maxLength : Nat) (limit : Int) (counted : Int × Bool) : Prop where
  bounded : counted.1 ≤ wordCount size maxLength
  exact_iff : counted.2 = true ↔ counted.1 = wordCount size maxLength
  passes_iff : limit < counted.1 ↔ limit < wordCount size maxLength
  least : counted.2 = false →
    IsLeast {sum : Int | limit < sum ∧ ∃ last ∈ Finset.Icc 1 maxLength, sum = wordCount size last}
      counted.1

/-- Without a limit the tokens are counted, and with one as many of them as it takes to know whether
there are more. -/
theorem count_tells (size maxLength : Nat) :
    count size maxLength none =
        (↑(∑ length ∈ Finset.Icc 1 maxLength, size ^ length), true) ∧
      ∀ limit : Int, Tells size maxLength limit (count size maxLength (some limit)) :=
  ⟨count_none size maxLength, fun _ =>
    { bounded := count_le
      exact_iff := count_exact_iff
      passes_iff := limit_lt_count_iff
      least := count_isLeast }⟩

example : count 2 15000 (some 10000) = (16382, false) := by decide +kernel

example : count 10 4 (some 10000) = (11110, true) := by decide +kernel

end Lexicon
end Wordbook
