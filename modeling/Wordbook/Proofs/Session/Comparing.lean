import Wordbook.Proofs.Predicate.BuiltIn
import Wordbook.Proofs.Session.Relations
import Wordbook.Proofs.Session.Vocabulary
import Wordbook.Proofs.Text.Blank

/-!
# Comparing tokens

A comparison applies the relation that is found under the identifier read from its reference.  By a
built-in relation it succeeds on any two texts that are not blank, and its result is whether the
relation holds of them.  Blank texts are refused, so the tokens of a vocabulary can be compared with
each other as far as they are not made of blank letters only.
-/

namespace Wordbook

/-! ## States with the built-in relations -/

/-- A relation is the one that a state finds under its identifier. -/
def State.Finds (state : State) (relation : Relation) : Prop :=
  state.find? relation.id = some relation

/-- A state holds the relations of a fresh engine as they are, and finds each of them. -/
def State.HoldsDefaults (state : State) : Prop :=
  ∀ relation ∈ State.default.relations, state.Finds relation

instance {state : State} {relation : Relation} : Decidable (state.Finds relation) :=
  inferInstanceAs (Decidable (_ = _))

instance {state : State} : Decidable state.HoldsDefaults :=
  inferInstanceAs (Decidable (∀ _ ∈ _, _))

/-- Where identifiers are distinct, the relations that are found are those that are there. -/
theorem State.finds_iff_mem
    {state : State}
    (distinct : state.relationIds.Nodup)
    {relation : Relation} :
    state.Finds relation ↔ relation ∈ state.relations := by
  constructor
  · exact List.mem_of_find?_eq_some
  · intro present
    obtain ⟨before, found, behind, stands⟩ :=
      Session.exists_stands distinct (List.mem_map_of_mem present)
    have same : relation = found := by
      by_contra other
      rw [stands.whole, List.mem_append, List.mem_cons] at present
      refine stands.alone relation ?_ rfl
      rw [List.mem_append]
      tauto
    rw [State.Finds, stands.find?_eq, same]

theorem State.HoldsDefaults.finds_builtIn
    {state : State}
    (keeps : state.HoldsDefaults)
    (builtIn : BuiltIn) :
    state.Finds builtIn.relation := by
  apply keeps
  rw [BuiltIn.relations_default]
  exact List.mem_map_of_mem (by cases builtIn <;> decide)

theorem BuiltIn.exists_of_mem_default
    {relation : Relation}
    (present : relation ∈ State.default.relations) :
    ∃ builtIn : BuiltIn, builtIn.relation = relation := by
  rw [BuiltIn.relations_default] at present
  obtain ⟨builtIn, -, same⟩ := List.mem_map.mp present
  exact ⟨builtIn, same⟩

theorem BuiltIn.idOfText?_id (builtIn : BuiltIn) :
    Relation.idOfText? (.int builtIn.relation.id) = some builtIn.relation.id := by
  cases builtIn <;> decide +kernel

/-- The tokens over an alphabet are not blank exactly when no letter is. -/
theorem Lexicon.tokens_given_iff
    {symbols : String}
    (given : symbols ≠ "")
    (distinct : symbols.toList.Nodup)
    {length : Nat}
    (positive : 0 < length) :
    (∀ token ∈ tokens symbols length, Text.allBlank token = false) ↔
      ∀ letter ∈ symbols.toList, Text.isBlank letter = false := by
  constructor
  · intro tokensGiven letter present
    have isToken : String.ofList [letter] ∈ tokens symbols length := by
      rw [mem_tokens_iff given distinct, String.toList_ofList]
      refine ⟨?_, ?_, ?_⟩
      · simpa [IsOver] using present
      · simp
      · rwa [String.length_ofList]
    simpa [Text.allBlank] using tokensGiven _ isToken
  · intro lettersGiven token isToken
    obtain ⟨isOver, nonempty, -⟩ := (mem_tokens_iff given distinct length token).mp isToken
    obtain ⟨letter, rest, whole⟩ : ∃ letter rest, token.toList = letter :: rest :=
      List.exists_cons_of_length_pos (by rw [String.length_toList]; omega)
    have first := lettersGiven letter (isOver letter (whole ▸ List.mem_cons_self))
    rw [Text.allBlank, whole, List.all_cons, first, Bool.false_and]

namespace Session

variable {session after : Session} {state : State} {first second : String} {reference : Json}

/-- Apply a relation to two tokens. -/
def apply (relation : Relation) (tokenA tokenB : Json) : Act Answer := do
  let verdict ← permit (Predicate.Verdict.ofBody relation.definition tokenA tokenB)
  return { Answer.bare true with
    result := some verdict.result
    tokenA := some verdict.tokenA
    tokenB := some verdict.tokenB
    subject := some (.name relation.name) }

/-- A comparison with nothing missing applies the relation that is found under the identifier read
from its reference. -/
theorem run_compare_of_given
    (held : session.state = some state)
    {tokenA tokenB : Json}
    (givenA : Relation.isMissing tokenA = false)
    (givenB : Relation.isMissing tokenB = false)
    (given : Relation.isMissing reference = false) :
    session.run (compare tokenA tokenB reference) =
      match Relation.soughtId reference with
      | .error breach => (.error (.breach breach), session)
      | .ok target =>
          match target.bind state.find? with
          | none => (.error (.issue .relationNotFound), session)
          | some relation => session.run (apply relation tokenA tokenB) := by
  rw [compare, run_bind, run_requireState held]
  simp only [givenA, givenB, given, Bool.false_eq_true, if_false, run_bind, run_permit]
  cases Relation.soughtId reference with
  | error breach => rfl
  | ok target =>
      simp only [mapError_ok]
      cases target.bind state.find? with
      | none => rfl
      | some relation => simp only [apply, run_bind, run_permit]

theorem run_compare_of_found
    (held : session.state = some state)
    {tokenA tokenB : Json}
    (givenA : Relation.isMissing tokenA = false)
    (givenB : Relation.isMissing tokenB = false)
    {relation : Relation}
    (found : (Relation.idOfText? reference).bind state.find? = some relation) :
    session.run (compare tokenA tokenB reference) = session.run (apply relation tokenA tokenB) := by
  obtain ⟨id, read, -⟩ := Option.bind_eq_some_iff.mp found
  rw [run_compare_of_given held givenA givenB (Relation.not_isMissing_of_idOfText? read),
    Relation.soughtId_eq_ok_iff.mpr read, ← read]
  simp only [found]

/-! ## Comparisons of two texts -/

/-- How a comparison of two texts that are not blank ends. -/
theorem run_compare
    (held : session.state = some state)
    (firstGiven : Text.allBlank first = false)
    (secondGiven : Text.allBlank second = false)
    {builtIn : BuiltIn}
    (found : state.Finds builtIn.relation)
    (read : Relation.idOfText? reference = some builtIn.relation.id) :
    ∃ leftMark rightMark,
      session.run (compare (.str first) (.str second) reference) =
        (.ok { Answer.bare true with
          result := some ⟨.bool (decide (builtIn.Holds first second)), #[]⟩
          tokenA := some ⟨.text first leftMark, #[]⟩
          tokenB := some ⟨.text second rightMark, #[]⟩
          subject := some (.name builtIn.relation.name) }, session) := by
  obtain ⟨leftMark, rightMark, verdict⟩ := builtIn.exists_ofBody first second
  have chosen : (Relation.idOfText? reference).bind state.find? = some builtIn.relation := by
    rw [read, Option.bind_some, found]
  refine ⟨leftMark, rightMark, ?_⟩
  rw [run_compare_of_found held ((Relation.isMissing_str first).trans firstGiven)
    ((Relation.isMissing_str second).trans secondGiven) chosen, apply, run_bind, run_permit, verdict]
  rfl

/-- A comparison with a blank text is refused, and the first one that is blank is told. -/
theorem run_compare_of_blank
    (held : session.state = some state)
    (blank : Text.allBlank first = true ∨ Text.allBlank second = true) :
    session.run (compare (.str first) (.str second) reference) =
      (.error (.issue (.missingToken (if Text.allBlank first then .left else .right))),
        session) := by
  rw [compare, run_bind, run_requireState held]
  by_cases firstBlank : Text.allBlank first = true
  · simp only [Relation.isMissing_str, firstBlank, if_true]
    rfl
  · have secondBlank := blank.resolve_left firstBlank
    simp only [Relation.isMissing_str, firstBlank, secondBlank, if_true]
    rfl

/-- A comparison of two texts succeeds, and its result is a truth value. -/
def Decides
    (session : Session)
    (first second : String)
    (reference : Json)
    (found : Bool) : Prop :=
  ∃ answer heap,
    session.run (compare (.str first) (.str second) reference) = (.ok answer, session) ∧
      answer.success = true ∧ answer.result = some ⟨.bool found, heap⟩

/-- Nothing is decided about a blank text. -/
theorem not_decides_of_blank
    (held : session.state = some state)
    (blank : Text.allBlank first = true ∨ Text.allBlank second = true)
    (found : Bool) :
    ¬ session.Decides first second reference found := by
  rintro ⟨answer, heap, ran, -⟩
  rw [run_compare_of_blank held blank] at ran
  cases ran

theorem decides_of_finds
    (held : session.state = some state)
    {builtIn : BuiltIn}
    (found : state.Finds builtIn.relation)
    (read : Relation.idOfText? reference = some builtIn.relation.id)
    (firstGiven : Text.allBlank first = false)
    (secondGiven : Text.allBlank second = false) :
    session.Decides first second reference (decide (builtIn.Holds first second)) := by
  obtain ⟨leftMark, rightMark, ran⟩ := run_compare held firstGiven secondGiven found read
  exact ⟨_, #[], ran, rfl, rfl⟩

/-- The result of a comparison by a built-in relation is whether the relation holds, for any two
texts that are not blank. -/
theorem compare_decides
    (held : session.state = some state)
    (keeps : state.HoldsDefaults)
    (builtIn : BuiltIn)
    (read : Relation.idOfText? reference = some builtIn.relation.id)
    (firstGiven : Text.allBlank first = false)
    (secondGiven : Text.allBlank second = false) :
    session.Decides first second reference (decide (builtIn.Holds first second)) :=
  decides_of_finds held (keeps.finds_builtIn builtIn) read firstGiven secondGiven

/-- Blanks at the ends of a token count: a letter and a line end are looked for as they are. -/
theorem padded_compare_decides :
    (holding .default).state = some .default ∧ State.default.HoldsDefaults ∧
      Relation.idOfText? (.str " 1678886400003 ") = some BuiltIn.contains.relation.id ∧
      Text.allBlank "a\n" = false ∧ Text.allBlank " a\nb" = false ∧
      (holding .default).Decides "a\n" " a\nb" (.str " 1678886400003 ") true := by
  have keeps : State.default.HoldsDefaults := by decide
  have read : Relation.idOfText? (.str " 1678886400003 ") = some BuiltIn.contains.relation.id := by
    decide +kernel
  have firstGiven : Text.allBlank "a\n" = false := by decide
  have secondGiven : Text.allBlank " a\nb" = false := by decide
  have within : decide (BuiltIn.contains.Holds "a\n" " a\nb") = true := by decide
  exact ⟨rfl, keeps, read, firstGiven, secondGiven,
    within ▸ compare_decides rfl keeps .contains read firstGiven secondGiven⟩

/-! ## Comparisons of generated tokens -/

/-- A relation of a fresh engine decides about two texts exactly when neither is blank. -/
theorem decides_default_iff
    (held : session.state = some state)
    (keeps : state.HoldsDefaults)
    {relation : Relation}
    (isDefault : relation ∈ State.default.relations) :
    (∃ found, session.Decides first second (.int relation.id) found) ↔
      Text.allBlank first = false ∧ Text.allBlank second = false := by
  obtain ⟨builtIn, rfl⟩ := BuiltIn.exists_of_mem_default isDefault
  constructor
  · rintro ⟨found, decides⟩
    by_contra blank
    rw [not_and_or, Bool.not_eq_false, Bool.not_eq_false] at blank
    exact not_decides_of_blank held blank found decides
  · rintro ⟨firstGiven, secondGiven⟩
    exact ⟨_, decides_of_finds held (keeps.finds_builtIn builtIn) builtIn.idOfText?_id firstGiven
      secondGiven⟩

/-- A generation that succeeds leaves the tokens over its alphabet in the state. -/
theorem exists_vocabulary
    (held : session.state = some state)
    {alphabet maxLength : Json}
    {force : Bool}
    {answer : Answer}
    (ran : session.run (generate alphabet maxLength force) = (.ok answer, after)) :
    ∃ lexicon : Lexicon, Lexicon.readAlphabet alphabet = .ok lexicon.alphabet ∧
      after.state = some { state with
        lexicon := lexicon, tokens := Lexicon.tokens lexicon.alphabet lexicon.maxLength } := by
  unfold generate at ran
  simp only [run_bind_eq_ok_iff, run_requireState held, run_require, Prod.mk.injEq,
    mapError_eq_ok_iff] at ran
  obtain ⟨_, _, ⟨⟨⟩, rfl⟩, symbols, _, ⟨readSymbols, rfl⟩, length, _, ⟨readLength, rfl⟩, ran⟩ := ran
  split at ran
  · cases ran
  · simp only [run_bind_eq_ok_iff, run_require, Prod.mk.injEq, mapError_eq_ok_iff] at ran
    obtain ⟨lexicon, _, ⟨made, rfl⟩, _, _, ⟨⟨⟩, rfl⟩, ran⟩ := ran
    obtain ⟨sameSymbols, sameLength⟩ := Lexicon.parts_of_make made
    cases ran
    refine ⟨lexicon, ?_, ?_⟩
    · rw [readSymbols, sameSymbols]
    · rw [sameSymbols, sameLength]

/-- Which tokens of a state can be compared with each other by the relations of a fresh engine:
all that are not blank, and so all tokens if no letter is blank. -/
structure ComparesGiven (session : Session) (vocabulary : State) : Prop where
  pair : ∀ first ∈ vocabulary.tokens, ∀ second ∈ vocabulary.tokens,
    ∀ relation ∈ State.default.relations,
      (∃ found, session.Decides first second (.int relation.id) found) ↔
        Text.allBlank first = false ∧ Text.allBlank second = false
  whole : (∀ first ∈ vocabulary.tokens, ∀ second ∈ vocabulary.tokens,
    ∀ relation ∈ State.default.relations,
      ∃ found, session.Decides first second (.int relation.id) found) ↔
        ∀ letter ∈ vocabulary.lexicon.alphabet.toList, Text.isBlank letter = false

/-- Two tokens of a generated vocabulary are compared unless one is made of blank letters only. -/
theorem generated_compares_iff
    (held : session.state = some state)
    (keeps : state.HoldsDefaults)
    {alphabet maxLength : Json}
    {force : Bool}
    {answer : Answer}
    (ran : session.run (generate alphabet maxLength force) = (.ok answer, after)) :
    ∃ vocabulary, after.state = some vocabulary ∧
      Lexicon.readAlphabet alphabet = .ok vocabulary.lexicon.alphabet ∧
      after.ComparesGiven vocabulary := by
  obtain ⟨lexicon, read, left⟩ := exists_vocabulary held ran
  refine ⟨_, left, read, ?_⟩
  -- The relations, and with them what is found, are those from before.
  have pair (first second : String) {relation : Relation}
      (isDefault : relation ∈ State.default.relations) :
      (∃ found, after.Decides first second (.int relation.id) found) ↔
        Text.allBlank first = false ∧ Text.allBlank second = false :=
    decides_default_iff left keeps isDefault
  refine ⟨fun first _ second _ relation => pair first second, ?_⟩
  rw [← Lexicon.tokens_given_iff lexicon.alphabet_ne (Lexicon.nodup_of_readAlphabet read)
    lexicon.maxLength_pos]
  constructor
  · intro compared token isToken
    have isDefault : BuiltIn.equals.relation ∈ State.default.relations := List.mem_cons_self
    exact ((pair token token isDefault).mp (compared token isToken token isToken _ isDefault)).1
  · intro tokensGiven first isFirst second isSecond relation isDefault
    exact (pair first second isDefault).mpr ⟨tokensGiven first isFirst, tokensGiven second isSecond⟩

/-- Of the tokens over a letter and a blank all but those of blanks can be compared. -/
theorem spaced_compares :
    (holding .default).state = some .default ∧ State.default.HoldsDefaults ∧
      ∃ answer after,
        (holding .default).run (generate (.str "a ") (.int 2) false) = (.ok answer, after) ∧
        ∃ vocabulary, after.state = some vocabulary ∧
          Lexicon.readAlphabet (.str "a ") = .ok vocabulary.lexicon.alphabet ∧
          after.ComparesGiven vocabulary := by
  have keeps : State.default.HoldsDefaults := by decide
  obtain ⟨answer, after, ran⟩ : ∃ answer after,
      (holding .default).run (generate (.str "a ") (.int 2) false) = (.ok answer, after) :=
    ⟨_, _, rfl⟩
  exact ⟨rfl, keeps, answer, after, ran, generated_compares_iff rfl keeps ran⟩

/-- The only token over a blank is generated and cannot be compared with itself. -/
theorem blank_token_not_compared :
    State.default.HoldsDefaults ∧
      ∃ answer after vocabulary,
        (holding .default).run (generate (.str " ") (.int 1) false) = (.ok answer, after) ∧
        after.state = some vocabulary ∧ vocabulary.tokens = [" "] ∧
        after.run (compare (.str " ") (.str " ") (.int BuiltIn.equals.relation.id)) =
          (.error (.issue (.missingToken .left)), after) ∧
        ¬ ∃ found, after.Decides " " " " (.int BuiltIn.equals.relation.id) found := by
  have keeps : State.default.HoldsDefaults := by decide
  have made : ∃ answer after vocabulary,
      (holding .default).run (generate (.str " ") (.int 1) false) = (.ok answer, after) ∧
        after.state = some vocabulary ∧ vocabulary.tokens = [" "] :=
    ⟨_, _, _, rfl, rfl, by decide +kernel⟩
  obtain ⟨answer, after, vocabulary, ran, left, only⟩ := made
  have blank : Text.allBlank " " = true := by decide
  refine ⟨keeps, answer, after, vocabulary, ran, left, only, ?_, ?_⟩
  · exact run_compare_of_blank left (.inl blank)
  · rintro ⟨found, decides⟩
    exact not_decides_of_blank left (.inl blank) found decides

end Session
end Wordbook
