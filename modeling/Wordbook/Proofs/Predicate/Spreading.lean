import Mathlib.Data.List.TakeWhile
import Wordbook.Proofs.Predicate.Margins

/-!
# Lexemes of texts with margins

A lexeme is cut off a text and off the same text with margins alike: no lexeme but a string passes a
line break, and what is cut off the two is the same unless it passes one.
-/

namespace Wordbook
namespace Text

/-- How two texts may end that are read alike before their ends: neither goes on in its line, and
the second does not end before the first. -/
structure EndLines (fore aft : List Char) : Prop where
  foreEnds : fore = [] ∨ fore = ['\n']
  aftEnds : aft = [] ∨ ∃ rest, aft = '\n' :: rest
  longer : aft = [] → fore = []

theorem EndLines.foreLine
    {fore aft : List Char}
    (ends : EndLines fore aft) :
    fore = [] ∨ ∃ others, fore = '\n' :: others :=
  ends.foreEnds.imp id fun same => ⟨[], same⟩

/-- A text stands on one line. -/
def Unbroken (chars : List Char) : Prop := ∀ char ∈ chars, isLineBreak char = false

instance (chars : List Char) : Decidable (Unbroken chars) :=
  List.decidableBAll (fun char => isLineBreak char = false) chars

/-- A character at which reading does not go on with a lexeme, or which no lexeme reads. -/
theorem isLineBreak_iff (char : Char) :
    isLineBreak char = true ↔
      char.toNat ∈ [10, 11, 12, 13, 28, 29, 30, 133, 8232, 8233] := by
  simp [isLineBreak]
  omega

namespace Spread

variable {fore aft rest spread : List Char} {char : Char}

/-- What a spread text looks like behind its first character. -/
theorem exists_of_cons
    (ends : EndLines fore aft)
    (whole : Spread fore aft (char :: rest) spread)
    (inside : char ≠ '\n') :
    ∃ gap others, spread = char :: (gap ++ others) ∧ Spread fore aft rest others ∧ Spaces gap ∧
      (gap = [] ∨ isLineBreak char = true) := by
  cases whole with
  | ended =>
      obtain empty | single := ends.foreEnds
      · exact absurd empty (List.cons_ne_nil _ _)
      · exact absurd (List.cons.inj single).1 inside
  | kept char others => exact ⟨[], _, rfl, others, spaces_nil, .inl rfl⟩
  | margined char gap breaks spaces others => exact ⟨gap, _, rfl, others, spaces, .inr breaks⟩

/-- What a spread text looks like behind a first character that ends no line. -/
theorem exists_of_solid
    (ends : EndLines fore aft)
    (whole : Spread fore aft (char :: rest) spread)
    (solid : isLineBreak char = false) :
    ∃ others, spread = char :: others ∧ Spread fore aft rest others := by
  have inside : char ≠ '\n' := fun same => absurd solid (by rw [same]; decide)
  obtain ⟨gap, others, rfl, behind, -, shape⟩ := exists_of_cons ends whole inside
  obtain rfl | breaks := shape
  · exact ⟨others, rfl, behind⟩
  · exact absurd breaks (by rw [solid]; decide)

/-- Both texts start alike, or both end their line. -/
theorem head_cases
    (whole : Spread fore aft rest spread) :
    (rest = fore ∧ spread = aft) ∨
      ∃ char others gap spread', rest = char :: others ∧ spread = char :: (gap ++ spread') ∧
        Spread fore aft others spread' ∧ Spaces gap ∧ (gap = [] ∨ isLineBreak char = true) := by
  cases whole with
  | ended => exact .inl ⟨rfl, rfl⟩
  | kept char others => exact .inr ⟨char, _, [], _, rfl, rfl, others, spaces_nil, .inl rfl⟩
  | margined char gap breaks spaces others =>
      exact .inr ⟨char, _, gap, _, rfl, rfl, others, spaces, .inr breaks⟩

/-- A test that line feeds do not pass is passed by the starts of both texts or by neither. -/
theorem any_head
    (ends : EndLines fore aft)
    (whole : Spread fore aft rest spread)
    (test : Char → Bool)
    (failed : test '\n' = false) :
    rest.head?.any test = spread.head?.any test := by
  obtain ⟨rfl, rfl⟩ | ⟨char, others, gap, spread', rfl, rfl, -⟩ := head_cases whole
  · have first : rest.head?.any test = false := by
      obtain rfl | rfl := ends.foreEnds
      · rfl
      · exact failed
    have second : spread.head?.any test = false := by
      obtain rfl | ⟨others, rfl⟩ := ends.aftEnds
      · rfl
      · exact failed
    rw [first, second]
  · rfl

end Spread

/-- Two readings of texts that are spread alike cut the same text off, or both fail. -/
inductive CutAlike (fore aft : List Char) (rest spread : List Char) :
    Option (List Char) → Option (List Char) → Prop
  | missed : CutAlike fore aft rest spread none none
  | found
      {after after' : List Char}
      (taken : List Char)
      (first : rest = taken ++ after)
      (second : spread = taken ++ after')
      (behind : Spread fore aft after after') :
      CutAlike fore aft rest spread (some after) (some after')

namespace CutAlike

variable {fore aft rest spread : List Char} {result result' : Option (List Char)}

/-- A reading behind a first character. -/
theorem cons
    (char : Char)
    (alike : CutAlike fore aft rest spread result result') :
    CutAlike fore aft (char :: rest) (char :: spread) result result' := by
  cases alike with
  | missed => exact .missed
  | found taken first second behind =>
      exact .found (char :: taken) (by rw [first, List.cons_append])
        (by rw [second, List.cons_append]) behind

/-- One reading after another. -/
theorem bind
    {next : List Char → Option (List Char)}
    (alike : CutAlike fore aft rest spread result result')
    (others : ∀ after after', Spread fore aft after after' →
      CutAlike fore aft after after' (next after) (next after')) :
    CutAlike fore aft rest spread (result.bind next) (result'.bind next) := by
  cases alike with
  | missed => exact .missed
  | @found after after' taken first second behind =>
      have alike := others after after' behind
      rw [Option.bind_some, Option.bind_some]
      generalize next after = one, next after' = other at alike
      cases alike with
      | missed => exact .missed
      | @found last last' more third fourth end_ =>
          exact .found (taken ++ more) (by rw [first, third, List.append_assoc])
            (by rw [second, fourth, List.append_assoc]) end_

/-- What is taken is the same where a reading depends on what was taken before. -/
theorem bind_taken
    (alike : CutAlike fore aft rest spread result result')
    {next : List Char → List Char → Option (List Char)}
    (others : ∀ taken after after', Spread fore aft after after' →
      CutAlike fore aft after after' (next taken after) (next taken after')) :
    CutAlike fore aft rest spread
      (result.bind fun after => next (rest.take (rest.length - after.length)) after)
      (result'.bind fun after => next (spread.take (spread.length - after.length)) after) := by
  cases alike with
  | missed => exact .missed
  | @found after after' taken first second behind =>
      have front : rest.take (rest.length - after.length) = taken := by simp [first]
      have front' : spread.take (spread.length - after'.length) = taken := by simp [second]
      rw [Option.bind_some, Option.bind_some, front, front']
      have step : CutAlike fore aft rest spread (some after) (some after') :=
        .found taken first second behind
      exact step.bind fun one other both => others taken one other both

/-- Nothing is read. -/
theorem stay
    (whole : Spread fore aft rest spread) :
    CutAlike fore aft rest spread (some rest) (some spread) :=
  .found [] rfl rfl whole

end CutAlike
end Text

namespace Predicate
namespace Lexeme

open Text

/-- A class of characters has no line break in it. -/
def Solid (test : Char → Bool) : Prop := ∀ char, test char = true → isLineBreak char = false

theorem Solid.lineFeed
    {test : Char → Bool}
    (solid : Solid test) :
    test '\n' = false := by
  cases passed : test '\n' with
  | false => rfl
  | true => exact absurd (solid '\n' passed) (by decide)

variable {fore aft rest spread : List Char}

theorem completesWord_spread
    (ends : EndLines fore aft)
    (whole : Spread fore aft rest spread)
    {word : List Char}
    (solid : Unbroken word) :
    completesWord word rest = completesWord word spread := by
  induction word generalizing rest spread with
  | nil => exact congrArg (!·) (Spread.any_head ends whole continuesName (by decide))
  | cons letter word inductionHypothesis =>
      have here : isLineBreak letter = false := solid letter List.mem_cons_self
      have feed : (letter == '\n') = false :=
        beq_eq_false_iff_ne.mpr fun same => absurd here (by rw [same]; decide)
      obtain ⟨rfl, rfl⟩ | ⟨char, others, gap, spread', rfl, rfl, behind, -, shape⟩ :=
        Spread.head_cases whole
      · have first : completesWord (letter :: word) rest = false := by
          obtain rfl | rfl := ends.foreEnds
          · rfl
          · rw [completesWord, feed, Bool.false_and]
        have second : completesWord (letter :: word) spread = false := by
          obtain rfl | ⟨others, rfl⟩ := ends.aftEnds
          · rfl
          · rw [completesWord, feed, Bool.false_and]
        rw [first, second]
      · rw [completesWord, completesWord]
        cases same : letter == char with
        | false => rfl
        | true =>
            obtain rfl | breaks := shape
            · rw [Bool.true_and, Bool.true_and, List.nil_append]
              exact inductionHypothesis behind fun char member =>
                solid char (List.mem_cons_of_mem _ member)
            · rw [eq_of_beq same, breaks] at here
              exact absurd here (by decide)

theorem numberEnds_of_letter
    {char : Char}
    (letter : continuesName char = true)
    (breaks : isLineBreak char = true)
    (after : List Char) :
    numberEnds (char :: after) = false := by
  have apart : ∀ other, isLineBreak other = false → char ≠ other := fun other solid same =>
    absurd breaks (by rw [same, solid]; decide)
  simp only [numberEnds, letter, Bool.not_true, Bool.false_or]
  split
  · exact absurd rfl (apart 'a' (by decide))
  · exact absurd rfl (apart 'e' (by decide))
  · exact absurd rfl (apart 'f' (by decide))
  · exact absurd rfl (apart 'i' (by decide))
  · exact absurd rfl (apart 'o' (by decide))
  · exact absurd rfl (apart 'n' (by decide))
  · rfl

theorem numberEnds_lineFeed (after : List Char) : numberEnds ('\n' :: after) = true := rfl

theorem numberEnds_spread
    (ends : EndLines fore aft)
    (whole : Spread fore aft rest spread) :
    numberEnds rest = numberEnds spread := by
  obtain ⟨rfl, rfl⟩ | ⟨char, others, gap, spread', rfl, rfl, behind, -, shape⟩ :=
    Spread.head_cases whole
  · have first : numberEnds rest = true := by
      obtain rfl | rfl := ends.foreEnds
      · rfl
      · exact numberEnds_lineFeed []
    have second : numberEnds spread = true := by
      obtain rfl | ⟨others, rfl⟩ := ends.aftEnds
      · rfl
      · exact numberEnds_lineFeed others
    rw [first, second]
  · obtain rfl | breaks := shape
    · rw [List.nil_append]
      have word : ∀ word : List Char, Unbroken word →
          completesWord word others = completesWord word spread' := fun word solid =>
        completesWord_spread ends behind solid
      have head : others.head?.any (fun next => next == 'f' || next == 'n' || next == 's') =
          spread'.head?.any fun next => next == 'f' || next == 'n' || next == 's' :=
        Spread.any_head ends behind _ (by decide)
      simp only [numberEnds]
      split
      · rw [word ['n', 'd'] (by decide)]
      · rw [word ['l', 's', 'e'] (by decide)]
      · rw [word ['o', 'r'] (by decide)]
      · rw [head]
      · rw [word ['r'] (by decide)]
      · rw [word ['o', 't'] (by decide)]
      · rfl
    · cases letter : continuesName char with
      | true => rw [numberEnds_of_letter letter breaks, numberEnds_of_letter letter breaks]
      | false => simp only [numberEnds, letter, Bool.not_false, Bool.true_or]

theorem afterDigits?_of_no_digit
    {digit : Char → Bool}
    {char : Char}
    (other : digit char = false)
    (after : List Char) :
    afterDigits? digit (char :: after) = none := by
  cases after with
  | nil => rw [afterDigits?, other, if_neg Bool.false_ne_true]
  | cons next after => rw [afterDigits?, other, Bool.not_false, if_pos rfl]

theorem afterDigits?_of_end
    {digit : Char → Bool}
    {char : Char}
    (first : digit char = true)
    (feed : digit '\n' = false)
    {after : List Char}
    (ends : after = [] ∨ ∃ others, after = '\n' :: others) :
    afterDigits? digit (char :: after) = some after := by
  obtain rfl | ⟨others, rfl⟩ := ends
  · rw [afterDigits?, if_pos first]
  · rw [afterDigits?, first, Bool.not_true, if_neg Bool.false_ne_true, if_neg (by decide), feed,
      if_neg Bool.false_ne_true]

/-- Digits are read alike. -/
theorem afterDigits?_spread
    (ends : EndLines fore aft)
    (whole : Spread fore aft rest spread)
    {digit : Char → Bool}
    (solid : Solid digit) :
    CutAlike fore aft rest spread (afterDigits? digit rest) (afterDigits? digit spread) := by
  induction length : rest.length using Nat.strongRecOn generalizing rest spread with
  | ind size inductionHypothesis =>
      obtain ⟨rfl, rfl⟩ | ⟨char, others, gap, spread', rfl, rfl, behind, -, shape⟩ :=
        Spread.head_cases whole
      · have first : afterDigits? digit rest = none := by
          obtain rfl | rfl := ends.foreEnds
          · rfl
          · exact afterDigits?_of_no_digit solid.lineFeed []
        have second : afterDigits? digit spread = none := by
          obtain rfl | ⟨others, rfl⟩ := ends.aftEnds
          · rfl
          · exact afterDigits?_of_no_digit solid.lineFeed others
        rw [first, second]
        exact .missed
      · cases first : digit char with
        | false =>
            rw [afterDigits?_of_no_digit first, afterDigits?_of_no_digit first]
            exact .missed
        | true =>
            have here := solid char first
            obtain rfl | breaks := shape
            swap
            · exact absurd breaks (by rw [here]; decide)
            rw [List.nil_append]
            obtain ⟨rfl, rfl⟩ | ⟨next, more, gap, spread, rfl, rfl, beyond, -, shape⟩ :=
              Spread.head_cases behind
            · rw [afterDigits?_of_end first solid.lineFeed ends.foreLine,
                afterDigits?_of_end first solid.lineFeed ends.aftEnds]
              exact .found [char] rfl rfl behind
            · rw [afterDigits?, afterDigits?, first, Bool.not_true, if_neg Bool.false_ne_true,
                if_neg Bool.false_ne_true]
              by_cases mark : (next == '_') = true
              · obtain rfl | breaks := shape
                · rw [if_pos mark, if_pos mark, List.nil_append]
                  have rest := inductionHypothesis more.length
                    (by rw [← length]; simp only [List.length_cons]; omega) beyond rfl
                  exact (rest.cons next).cons char
                · exact absurd breaks (by rw [eq_of_beq mark]; decide)
              · rw [if_neg mark, if_neg mark]
                cases second : digit next with
                | true =>
                    obtain rfl | breaks := shape
                    · rw [if_pos rfl, if_pos rfl]
                      have rest := inductionHypothesis (next :: more).length
                        (by rw [← length]; simp only [List.length_cons]; omega) behind rfl
                      exact rest.cons char
                    · exact absurd breaks (by rw [solid next second]; decide)
                | false =>
                    rw [if_neg Bool.false_ne_true, if_neg Bool.false_ne_true]
                    exact .found [char] rfl rfl behind

/-- A spread text behind a first character that is no line break. -/
theorem eq_of_solid
    {char : Char}
    {gap : List Char}
    (shape : gap = [] ∨ isLineBreak char = true)
    (solid : isLineBreak char = false) :
    gap = [] :=
  shape.resolve_right fun breaks => absurd breaks (by rw [solid]; decide)

theorem solid_isDigit : Solid isDigit := by
  intro char digit
  have range : 48 ≤ char.toNat ∧ char.toNat ≤ 57 := by simpa [isDigit] using digit
  have code : ¬ isLineBreak char = true := by
    rw [isLineBreak_iff]
    simp only [List.mem_cons, List.not_mem_nil, or_false]
    omega
  exact Bool.eq_false_iff.mpr code

theorem solid_isHexDigit : Solid isHexDigit := by
  intro char digit
  have range : 48 ≤ char.toNat ∧ char.toNat ≤ 102 := by
    simp [isHexDigit, isDigit] at digit
    omega
  have code : ¬ isLineBreak char = true := by
    rw [isLineBreak_iff]
    simp only [List.mem_cons, List.not_mem_nil, or_false]
    omega
  exact Bool.eq_false_iff.mpr code

theorem solid_of_eq (first second : Char) (plain : Unbroken [first, second]) :
    Solid fun char => char == first || char == second := by
  intro char one
  obtain same | same : char = first ∨ char = second := by simpa using one
  · exact plain char (by rw [same]; simp)
  · exact plain char (by rw [same]; simp)

/-- A number that ends here ends in both texts. -/
theorem finished_spread
    (ends : EndLines fore aft)
    (whole : Spread fore aft rest spread) :
    CutAlike fore aft rest spread (if numberEnds rest then some rest else none)
      (if numberEnds spread then some spread else none) := by
  rw [numberEnds_spread ends whole]
  cases numberEnds spread with
  | true => exact .stay whole
  | false => exact .missed

theorem afterUnit?_cons
    (char : Char)
    (others : List Char) :
    afterUnit? (char :: others) =
      if char == 'j' || char == 'J' then
        if numberEnds others then some others else none
      else if numberEnds (char :: others) then some (char :: others) else none := rfl

theorem afterUnit?_of_end
    {chars : List Char}
    (ends : chars = [] ∨ ∃ others, chars = '\n' :: others) :
    afterUnit? chars = some chars := by
  obtain rfl | ⟨others, rfl⟩ := ends
  · rfl
  · rfl

theorem afterUnit?_spread
    (ends : EndLines fore aft)
    (whole : Spread fore aft rest spread) :
    CutAlike fore aft rest spread (afterUnit? rest) (afterUnit? spread) := by
  obtain ⟨rfl, rfl⟩ | ⟨char, others, gap, spread', rfl, rfl, behind, -, shape⟩ :=
    Spread.head_cases whole
  · rw [afterUnit?_of_end ends.foreLine, afterUnit?_of_end ends.aftEnds]
    exact .stay whole
  · rw [afterUnit?_cons, afterUnit?_cons]
    by_cases mark : (char == 'j' || char == 'J') = true
    · obtain rfl := eq_of_solid shape (solid_of_eq 'j' 'J' (by decide) char mark)
      rw [if_pos mark, if_pos mark]
      exact (finished_spread ends behind).cons char
    · rw [if_neg mark, if_neg mark]
      exact finished_spread ends whole

theorem afterTail?_of_end
    {chars : List Char}
    (ends : chars = [] ∨ ∃ others, chars = '\n' :: others) :
    afterTail? chars = some chars := by
  obtain rfl | ⟨others, rfl⟩ := ends
  · rfl
  · rfl

theorem afterTail?_cons
    (mark : Char)
    (others : List Char) :
    afterTail? (mark :: others) =
      if mark == 'e' || mark == 'E' then
        if others.head?.any fun sign => sign == '+' || sign == '-' then
          (afterDigits? isDigit (others.drop 1)).bind afterUnit?
        else if others.head?.any isDigit then (afterDigits? isDigit others).bind afterUnit?
        else if numberEnds (mark :: others) then some (mark :: others) else none
      else afterUnit? (mark :: others) := by
  cases others with
  | nil => rfl
  | cons sign digits => rfl

/-- Digits with what may follow them are read alike. -/
theorem afterDigits?_bind_spread
    (ends : EndLines fore aft)
    (whole : Spread fore aft rest spread)
    {next : List Char → Option (List Char)}
    (others : ∀ after after', Spread fore aft after after' →
      CutAlike fore aft after after' (next after) (next after')) :
    CutAlike fore aft rest spread ((afterDigits? isDigit rest).bind next)
      ((afterDigits? isDigit spread).bind next) :=
  (afterDigits?_spread ends whole solid_isDigit).bind others

theorem afterTail?_spread
    (ends : EndLines fore aft)
    (whole : Spread fore aft rest spread) :
    CutAlike fore aft rest spread (afterTail? rest) (afterTail? spread) := by
  have unit : ∀ after after', Spread fore aft after after' →
      CutAlike fore aft after after' (afterUnit? after) (afterUnit? after') :=
    fun after after' => afterUnit?_spread ends
  obtain ⟨rfl, rfl⟩ | ⟨mark, others, gap, spread', rfl, rfl, behind, -, shape⟩ :=
    Spread.head_cases whole
  · rw [afterTail?_of_end ends.foreLine, afterTail?_of_end ends.aftEnds]
    exact .stay whole
  · rw [afterTail?_cons, afterTail?_cons]
    by_cases exponent : (mark == 'e' || mark == 'E') = true
    · obtain rfl := eq_of_solid shape (solid_of_eq 'e' 'E' (by decide) mark exponent)
      have signed := Spread.any_head ends behind (fun sign => sign == '+' || sign == '-') (by decide)
      have digits := Spread.any_head ends behind isDigit (by decide)
      rw [if_pos exponent, if_pos exponent, List.nil_append, signed, digits]
      by_cases sign : (spread'.head?.any fun sign => sign == '+' || sign == '-') = true
      · rw [if_pos sign, if_pos sign]
        rw [sign] at signed
        cases others with
        | nil => exact absurd signed (by decide)
        | cons first others =>
            have solid := solid_of_eq '+' '-' (by decide) first (by simpa using signed)
            obtain ⟨spread, rfl, beyond⟩ := Spread.exists_of_solid ends behind solid
            exact ((afterDigits?_bind_spread ends beyond unit).cons first).cons mark
      · rw [if_neg sign, if_neg sign]
        cases spread'.head?.any isDigit with
        | true =>
            rw [if_pos rfl, if_pos rfl]
            exact (afterDigits?_bind_spread ends behind unit).cons mark
        | false =>
            rw [if_neg Bool.false_ne_true, if_neg Bool.false_ne_true]
            exact finished_spread ends whole
    · rw [if_neg exponent, if_neg exponent]
      exact afterUnit?_spread ends whole

theorem afterFraction?_eq
    (chars : List Char) :
    afterFraction? chars =
      if chars.head?.any isDigit then (afterDigits? isDigit chars).bind afterTail?
      else afterTail? chars := by
  cases chars with
  | nil => rfl
  | cons digit others => rfl

theorem afterFraction?_spread
    (ends : EndLines fore aft)
    (whole : Spread fore aft rest spread) :
    CutAlike fore aft rest spread (afterFraction? rest) (afterFraction? spread) := by
  rw [afterFraction?_eq, afterFraction?_eq, Spread.any_head ends whole isDigit (by decide)]
  cases spread.head?.any isDigit with
  | true =>
      rw [if_pos rfl, if_pos rfl]
      exact afterDigits?_bind_spread ends whole fun after after' => afterTail?_spread ends
  | false =>
      rw [if_neg Bool.false_ne_true, if_neg Bool.false_ne_true]
      exact afterTail?_spread ends whole

theorem afterWhole?_cons
    (point : Char)
    (fraction : List Char) :
    afterWhole? (point :: fraction) =
      if point == '.' then afterFraction? fraction else afterTail? (point :: fraction) := rfl

theorem afterWhole?_spread
    (ends : EndLines fore aft)
    (whole : Spread fore aft rest spread) :
    CutAlike fore aft rest spread (afterWhole? rest) (afterWhole? spread) := by
  obtain ⟨rfl, rfl⟩ | ⟨point, others, gap, spread', rfl, rfl, behind, -, shape⟩ :=
    Spread.head_cases whole
  · have stays : ∀ chars : List Char, (chars = [] ∨ ∃ others, chars = '\n' :: others) →
        afterWhole? chars = some chars := by
      rintro chars (rfl | ⟨others, rfl⟩)
      · rfl
      · rfl
    rw [stays rest ends.foreLine, stays spread ends.aftEnds]
    exact .stay whole
  · rw [afterWhole?_cons, afterWhole?_cons]
    by_cases dot : (point == '.') = true
    · obtain rfl := eq_of_solid shape (by rw [eq_of_beq dot]; decide)
      rw [if_pos dot, if_pos dot]
      exact (afterFraction?_spread ends behind).cons point
    · rw [if_neg dot, if_neg dot]
      exact afterTail?_spread ends whole

theorem afterMarkedDigits?_eq
    (digit : Char → Bool)
    (chars : List Char) :
    afterMarkedDigits? digit chars =
      afterDigits? digit (if chars.head?.any (· == '_') then chars.drop 1 else chars) := by
  cases chars with
  | nil => rfl
  | cons char others =>
      by_cases mark : char = '_'
      · subst mark
        rfl
      · rw [afterMarkedDigits?]
        · simp [mark]
        · exact fun rest same => mark (List.cons.inj same).1

theorem afterBased?_spread
    (ends : EndLines fore aft)
    (whole : Spread fore aft rest spread)
    {digit : Char → Bool}
    (solid : Solid digit) :
    CutAlike fore aft rest spread (afterBased? digit rest) (afterBased? digit spread) := by
  have digits : CutAlike fore aft rest spread (afterMarkedDigits? digit rest)
      (afterMarkedDigits? digit spread) := by
    have marked := Spread.any_head ends whole (· == '_') (by decide)
    rw [afterMarkedDigits?_eq, afterMarkedDigits?_eq, marked]
    by_cases mark : (spread.head?.any (· == '_')) = true
    · rw [if_pos mark, if_pos mark]
      rw [mark] at marked
      cases rest with
      | nil => exact absurd marked (by decide)
      | cons first rest =>
          have under : first = '_' := by simpa using marked
          obtain ⟨spread, rfl, beyond⟩ :=
            Spread.exists_of_solid ends whole (by rw [under]; decide)
          exact (afterDigits?_spread ends beyond solid).cons first
    · rw [if_neg mark, if_neg mark]
      exact afterDigits?_spread ends whole solid
  refine digits.bind fun after after' behind => ?_
  rw [Spread.any_head ends behind isDigit (by decide), numberEnds_spread ends behind]
  cases after'.head?.any isDigit || !numberEnds after' with
  | true => exact .missed
  | false => exact .stay behind

/-- A reading that takes nothing takes nothing from either text. -/
theorem any_length_eq
    {result result' : Option (List Char)}
    (alike : CutAlike fore aft rest spread result result') :
    result.any (fun others => others.length == rest.length) =
      result'.any fun others => others.length == spread.length := by
  cases alike with
  | missed => rfl
  | found taken first second behind => simp [first, second]

theorem afterZeros?_cons
    (digits : List Char)
    (next : Char)
    (fraction : List Char) :
    afterZeros? digits (next :: fraction) =
      if next == '.' then afterFraction? fraction
      else if next == 'e' || next == 'E' || next == 'j' || next == 'J' then
        if hasLeadingZero digits && (next == 'e' || next == 'E') &&
            (afterTail? (next :: fraction)).any
              (fun others => others.length == (next :: fraction).length) then none
        else afterTail? (next :: fraction)
      else if hasLeadingZero digits then none
      else if numberEnds (next :: fraction) then some (next :: fraction) else none := rfl

theorem afterZeros?_of_end
    {chars : List Char}
    (digits : List Char)
    (ends : chars = [] ∨ ∃ others, chars = '\n' :: others) :
    afterZeros? digits chars = if hasLeadingZero digits then none else some chars := by
  obtain rfl | ⟨others, rfl⟩ := ends
  · rfl
  · rfl

theorem afterZeros?_spread
    (ends : EndLines fore aft)
    (digits : List Char)
    (whole : Spread fore aft rest spread) :
    CutAlike fore aft rest spread (afterZeros? digits rest) (afterZeros? digits spread) := by
  obtain ⟨rfl, rfl⟩ | ⟨next, others, gap, spread', rfl, rfl, behind, -, shape⟩ :=
    Spread.head_cases whole
  · rw [afterZeros?_of_end digits ends.foreLine, afterZeros?_of_end digits ends.aftEnds]
    cases hasLeadingZero digits with
    | true => exact .missed
    | false => exact .stay whole
  · have tail := afterTail?_spread ends whole
    rw [afterZeros?_cons, afterZeros?_cons, any_length_eq tail]
    by_cases dot : (next == '.') = true
    · obtain rfl := eq_of_solid shape (by rw [eq_of_beq dot]; decide)
      rw [if_pos dot, if_pos dot]
      exact (afterFraction?_spread ends behind).cons next
    · rw [if_neg dot, if_neg dot]
      split
      · split
        · exact .missed
        · exact tail
      · split
        · exact .missed
        · exact finished_spread ends whole

theorem afterZero?_cons
    (mark : Char)
    (digits : List Char) :
    afterZero? (mark :: digits) =
      if mark == 'x' || mark == 'X' then afterBased? isHexDigit digits
      else if mark == 'o' || mark == 'O' then
        afterBased? (fun char => 48 ≤ char.toNat && char.toNat ≤ 55) digits
      else if mark == 'b' || mark == 'B' then
        afterBased? (fun char => char == '0' || char == '1') digits
      else
        (afterDigits? isDigit ('0' :: mark :: digits)).bind fun after =>
          afterZeros? (('0' :: mark :: digits).take (('0' :: mark :: digits).length - after.length))
            after := rfl

theorem afterZero?_of_end
    {chars : List Char}
    (ends : chars = [] ∨ ∃ others, chars = '\n' :: others) :
    afterZero? chars = some chars := by
  obtain rfl | ⟨others, rfl⟩ := ends
  · rfl
  · have digits : afterDigits? isDigit ('0' :: '\n' :: others) = some ('\n' :: others) :=
      afterDigits?_of_end (by decide) (by decide) (.inr ⟨others, rfl⟩)
    rw [afterZero?_cons, if_neg (by decide), if_neg (by decide), if_neg (by decide), digits,
      Option.bind_some, afterZeros?_of_end _ (.inr ⟨others, rfl⟩), List.length_cons,
      Nat.add_sub_cancel_left]
    rfl

theorem solid_octal : Solid fun char => 48 ≤ char.toNat && char.toNat ≤ 55 := by
  intro char digit
  have range : 48 ≤ char.toNat ∧ char.toNat ≤ 55 := by simpa using digit
  exact solid_isDigit char (by simp [isDigit]; omega)

theorem afterZero?_spread
    (ends : EndLines fore aft)
    (whole : Spread fore aft rest spread) :
    CutAlike fore aft ('0' :: rest) ('0' :: spread) (afterZero? rest) (afterZero? spread) := by
  obtain ⟨rfl, rfl⟩ | ⟨mark, others, gap, spread', rfl, rfl, behind, -, shape⟩ :=
    Spread.head_cases whole
  · rw [afterZero?_of_end ends.foreLine, afterZero?_of_end ends.aftEnds]
    exact .found ['0'] rfl rfl whole
  · rw [afterZero?_cons, afterZero?_cons]
    -- A letter that marks a base is no line break, so that the digits follow it in both texts.
    have based : ∀ {digit : Char → Bool}, Solid digit → isLineBreak mark = false →
        CutAlike fore aft ('0' :: mark :: others) ('0' :: mark :: (gap ++ spread'))
          (afterBased? digit others) (afterBased? digit (gap ++ spread')) := by
      intro digit solid plain
      obtain rfl := eq_of_solid shape plain
      exact ((afterBased?_spread ends behind solid).cons mark).cons '0'
    by_cases sixteen : (mark == 'x' || mark == 'X') = true
    · rw [if_pos sixteen, if_pos sixteen]
      exact based solid_isHexDigit (solid_of_eq 'x' 'X' (by decide) mark sixteen)
    by_cases eight : (mark == 'o' || mark == 'O') = true
    · rw [if_neg sixteen, if_neg sixteen, if_pos eight, if_pos eight]
      exact based solid_octal (solid_of_eq 'o' 'O' (by decide) mark eight)
    by_cases two : (mark == 'b' || mark == 'B') = true
    · rw [if_neg sixteen, if_neg sixteen, if_neg eight, if_neg eight, if_pos two, if_pos two]
      exact based (solid_of_eq '0' '1' (by decide)) (solid_of_eq 'b' 'B' (by decide) mark two)
    rw [if_neg sixteen, if_neg sixteen, if_neg eight, if_neg eight, if_neg two, if_neg two]
    exact (afterDigits?_spread ends (.kept '0' whole) solid_isDigit).bind_taken
      fun taken after after' => afterZeros?_spread ends taken

theorem afterNumber?_cons
    (first : Char)
    (others : List Char) :
    afterNumber? (first :: others) =
      if first == '0' then afterZero? others
      else if first == '.' then afterFraction? others
      else afterDecimal? (first :: others) := rfl

/-- Numbers are read alike. -/
theorem afterNumber?_spread
    {first : Char}
    (ends : EndLines fore aft)
    (whole : Spread fore aft (first :: rest) (first :: spread))
    (solid : isLineBreak first = false) :
    CutAlike fore aft (first :: rest) (first :: spread) (afterNumber? (first :: rest))
      (afterNumber? (first :: spread)) := by
  obtain ⟨spread', same, behind⟩ := Spread.exists_of_solid ends whole solid
  obtain rfl : spread = spread' := (List.cons.inj same).2
  rw [afterNumber?_cons, afterNumber?_cons]
  by_cases zero : (first == '0') = true
  · rw [if_pos zero, if_pos zero, eq_of_beq zero]
    exact afterZero?_spread ends behind
  by_cases point : (first == '.') = true
  · rw [if_neg zero, if_neg zero, if_pos point, if_pos point]
    exact (afterFraction?_spread ends behind).cons first
  rw [if_neg zero, if_neg zero, if_neg point, if_neg point]
  exact afterDigits?_bind_spread ends whole fun after after' => afterWhole?_spread ends

end Lexeme
end Predicate
end Wordbook
