import Wordbook.Proofs.Lexicon
import Wordbook.Proofs.Lexicon.Counting
import Wordbook.Proofs.Number.DecimalText
import Wordbook.Proofs.Session.Failures

/-!
# Generating a vocabulary

A vocabulary that is not too large, or that is asked for in spite of its size, is generated and
replaces the one before.  Otherwise a warning tells how many tokens there would be at least, found
without counting all of them.
-/

namespace Wordbook

/-- A count up to the threshold has a text if the length has one. -/
theorem Lexicon.hasText_count
    {size length : Nat}
    (few : size ≤ 0x110000)
    (short : Number.hasText length = true) :
    Number.hasText (count size length (some threshold)).1 = true := by
  rw [Number.hasText_iff] at short ⊢
  by_cases small : size ≤ 1
  · have counted : (count size length (some threshold)).1 = size * length := by
      rw [count, if_pos (by omega)]
    have no_more : size * length ≤ length := by
      simpa using Nat.mul_le_mul_right length small
    rw [counted, ← Int.natCast_mul, Int.natAbs_natCast]
    omega
  · have bounded : (count size length (some threshold)).1 ≤ (10000 + 1) * size :=
      count_le_mul (Nat.lt_of_not_le small) (by decide)
    have given : 0 ≤ (count size length (some threshold)).1 := count_nonneg
    calc (count size length (some threshold)).1.natAbs
        < 10 ^ 11 := by omega
      _ ≤ Number.tooLarge := Number.pow_le_tooLarge (by decide)

/-- A vocabulary is not generated when the count passes the threshold and it is not asked for in
spite of that, that is when there are too many tokens. -/
theorem Lexicon.stops_iff {size length : Nat} {force : Bool} :
    (threshold < (count size length (some threshold)).1 && !force) = true ↔
      ¬ (wordCount size length ≤ 10000 ∨ force = true) := by
  have passed_iff : threshold < (count size length (some threshold)).1 ↔
      10000 < wordCount size length :=
    limit_lt_count_iff.trans Int.ofNat_lt
  rw [Bool.and_eq_true, decide_eq_true_iff, passed_iff, Bool.not_eq_true', not_or, Nat.not_le,
    Bool.not_eq_true]

namespace Session

variable {session : Session} {state : State}

/-- The vocabulary over some symbols up to a length, complete and in order, replaced the one of a
state, and the answer tells how many tokens it has. -/
structure Generates
    (state : State)
    (symbols : String)
    (length : Nat)
    (answer : Answer)
    (after : Session) : Prop where
  success : answer.success = true
  counted : answer.tokenCount = some ↑(Lexicon.wordCount symbols.length length)
  reached : ∃ lexicon : Lexicon, lexicon.alphabet = symbols ∧ lexicon.maxLength = length ∧
    after.state =
      some { state with lexicon := lexicon, tokens := Lexicon.tokens symbols length }
  complete : ∀ word : String, word ∈ Lexicon.tokens symbols length ↔
    Lexicon.IsOver symbols.toList word.toList ∧ 1 ≤ word.length ∧ word.length ≤ length
  sorted : (Lexicon.tokens symbols length).Pairwise fun first second =>
    Lexicon.ComesBefore symbols.toList first.toList second.toList

/-- An answer warns of the size of a vocabulary that was not generated: it tells a number of tokens
beyond the threshold, and says so if there are more. -/
structure Warns
    (state : State)
    (total : Nat)
    (answer : Answer)
    (after : Session) : Prop where
  failed : answer.success = false
  kind : answer.issue = some .tokenThreshold
  warning : answer.warning = some true
  told : ∃ count : Int, answer.tokenCount = some count ∧ 10000 < count ∧ count ≤ total ∧
    answer.message = some ("This will generate " ++ (if count < total then "at least " else "") ++
      Number.decimalText count ++ " tokens, which may slow down your system.")
  unchanged : after.state = some state

theorem readAlphabet_str {alphabet : String} (given : alphabet ≠ "") :
    Lexicon.readAlphabet (.str alphabet) = .ok (String.ofList alphabet.toList.eraseDups) := by
  have truthy : Json.isTruthy (.str alphabet) = true := by
    simpa [Json.isTruthy, String.isEmpty_iff] using given
  rw [Lexicon.readAlphabet, if_pos truthy, Lexicon.distinct_eq_eraseDups]
  rfl

theorem eraseDups_ne_empty {alphabet : String} (given : alphabet ≠ "") :
    String.ofList alphabet.toList.eraseDups ≠ "" := by
  rw [Ne, String.ofList_eq_empty_iff]
  cases letters : alphabet.toList with
  | nil => exact absurd (String.toList_eq_nil_iff.mp letters) given
  | cons first rest => simp [List.eraseDups_cons]

/-- Generation counts first, and either stops with the count or replaces the vocabulary. -/
theorem run_generate
    (held : session.state = some state)
    {alphabet maxLength : Json}
    {symbols : String}
    {length : Nat}
    {lexicon : Lexicon}
    (readSymbols : Lexicon.readAlphabet alphabet = .ok symbols)
    (readLength : Lexicon.readLength maxLength = .ok length)
    (made : Lexicon.make symbols length = .ok lexicon)
    (force : Bool) :
    session.run (generate alphabet maxLength force) =
      let counted := Lexicon.count symbols.length length (some Lexicon.threshold)
      let tokens := Lexicon.tokens symbols length
      if Lexicon.threshold < counted.1 && !force then
        (.error (Lexicon.excess counted.1 counted.2), session)
      else
        (.ok { Answer.done ("Generated " ++ toString tokens.length ++ " tokens") with
            tokenCount := some tokens.length },
          { session with state := some { state with lexicon := lexicon, tokens := tokens } }) := by
  simp only [generate, run_bind, run_requireState held, run_require, readSymbols, readLength,
    mapError_ok]
  split
  · rfl
  · simp only [run_bind, run_require, made, mapError_ok]
    rfl

/-- The warning for a vocabulary beyond the threshold. -/
theorem warns_tooManyTokens
    {after : Session}
    (unchanged : after.state = some state)
    {size length : Nat}
    (large : 10000 < Lexicon.wordCount size length) :
    let counted := Lexicon.count size length (some Lexicon.threshold)
    Warns state (Lexicon.wordCount size length)
      (.ofIssue (.tooManyTokens counted.1 counted.2)) after := by
  intro counted
  have passed : 10000 < counted.1 := Lexicon.limit_lt_count_iff.mpr (Int.ofNat_lt.mpr large)
  have bounded : counted.1 ≤ Lexicon.wordCount size length := Lexicon.count_le
  have exact_iff : counted.2 = true ↔ counted.1 = Lexicon.wordCount size length :=
    Lexicon.count_exact_iff
  have amount : (if counted.2 then "" else "at least ") =
      if counted.1 < Lexicon.wordCount size length then "at least " else "" := by
    by_cases early : counted.1 < Lexicon.wordCount size length
    · rw [if_pos early, if_neg (by rw [exact_iff]; omega)]
    · rw [if_neg early, if_pos (exact_iff.mpr (by omega))]
  exact
    { failed := rfl
      kind := rfl
      warning := rfl
      told := ⟨counted.1, rfl, passed, bounded, by rw [← amount]; rfl⟩
      unchanged := unchanged }

/-- A vocabulary of no more than ten thousand tokens is generated, and a larger one if it is asked
for in spite of that; otherwise the answer warns and the state stays. -/
theorem generate_settles
    (held : session.state = some state)
    {alphabet : String}
    (given : alphabet ≠ "")
    {maxLength : Json}
    {length : Nat}
    (read : Lexicon.readLength maxLength = .ok length)
    (short : Number.hasText length = true)
    (force : Bool) :
    ∃ answer after,
      session.run (Request.generateTokens (.str alphabet) maxLength force).settle =
        (.ok answer, after) ∧
      let symbols := String.ofList alphabet.toList.eraseDups
      let total := Lexicon.wordCount symbols.length length
      if total ≤ 10000 ∨ force = true then Generates state symbols length answer after
      else Warns state total answer after := by
  have readSymbols := readAlphabet_str given
  have distinct := Lexicon.nodup_of_readAlphabet readSymbols
  have symbolsGiven := eraseDups_ne_empty given
  generalize String.ofList alphabet.toList.eraseDups = symbols
    at readSymbols distinct symbolsGiven ⊢
  obtain ⟨lexicon, made⟩ := Lexicon.exists_make_eq_ok symbolsGiven (Lexicon.pos_of_readLength read)
  rw [run_settle, Request.perform, run_generate held readSymbols read made force]
  by_cases allowed : Lexicon.wordCount symbols.length length ≤ 10000 ∨ force = true
  · rw [if_neg (mt Lexicon.stops_iff.mp (not_not_intro allowed))]
    refine ⟨_, _, rfl, ?_⟩
    obtain ⟨sameSymbols, sameLength⟩ := Lexicon.parts_of_make made
    rw [if_pos allowed]
    exact
      { success := rfl
        counted := by rw [← Lexicon.length_tokens]
        reached := ⟨lexicon, sameSymbols, sameLength, rfl⟩
        complete := Lexicon.mem_tokens_iff symbolsGiven distinct length
        sorted := Lexicon.sorted_tokens symbolsGiven distinct length }
  · have few : symbols.length ≤ 0x110000 := Lexicon.length_le_of_nodup distinct
    rw [if_pos (Lexicon.stops_iff.mpr allowed), Lexicon.excess,
      if_pos (Lexicon.hasText_count few short)]
    refine ⟨_, _, rfl, ?_⟩
    rw [if_neg allowed]
    exact warns_tooManyTokens held (by omega)

/-- There are too many words of up to fourteen letters if the letters are two. -/
theorem long_words_warn :
    (holding .default).state = some .default ∧ "aba" ≠ "" ∧
      Lexicon.readLength (.str " +14 ") = .ok 14 ∧ Number.hasText (14 : Nat) = true ∧
      ∃ answer after,
        (holding .default).run (Request.generateTokens (.str "aba") (.str " +14 ") false).settle =
          (.ok answer, after) ∧
        Warns .default (Lexicon.wordCount 2 14) answer after := by
  have given : "aba" ≠ "" := by decide
  have read : Lexicon.readLength (.str " +14 ") = .ok 14 := by decide +kernel
  have short : Number.hasText (14 : Nat) = true := by
    have small : 14 < 10 ^ 2 := by decide
    exact (Number.hasText_iff _).mpr (small.trans_le (Number.pow_le_tooLarge (by decide)))
  have held : (holding .default).state = some .default := rfl
  obtain ⟨answer, after, ran, settled⟩ := generate_settles held given read short false
  have two : (String.ofList "aba".toList.eraseDups).length = 2 := by decide
  have large : ¬ (Lexicon.wordCount 2 14 ≤ 10000 ∨ false = true) := by decide +kernel
  simp only [two, if_neg large] at settled
  exact ⟨held, given, read, short, answer, after, ran, settled⟩

end Session
end Wordbook
