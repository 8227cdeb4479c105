import Wordbook.Proofs.Predicate.Lines.Cutting
import Wordbook.Proofs.Predicate.Lines.Statements

/-!
# Texts are parsed within their lines

The strings of a text give trees that start on its lines, fields included, whose expressions are
texts of their own that go on with the count of the lines.  With the lexemes and the grammar this
settles whole texts: the trees of a text start on its lines, and it is refused at one of them.
-/

namespace Wordbook
namespace Predicate

open Lexeme (laterLines)

namespace Literal

@[simp] theorem countLines_nil : countLines [] = 0 := rfl

@[simp] theorem countLines_cons (char : Char) (chars : List Char) :
    countLines (char :: chars) = countLines chars + if char == '\n' then 1 else 0 :=
  List.count_cons

@[simp] theorem countLines_append (first second : List Char) :
    countLines (first ++ second) = countLines first + countLines second :=
  List.count_append

@[simp] theorem countLines_reverse (chars : List Char) :
    countLines chars.reverse = countLines chars :=
  List.count_reverse

theorem countLines_take_add_drop (count : Nat) (chars : List Char) :
    countLines (chars.take count) + countLines (chars.drop count) = countLines chars := by
  rw [← countLines_append, List.take_append_drop]

/-- What stands between the quotes of a string has only lines that follow where it starts. -/
theorem countLines_written (text : String) :
    countLines (written text).body ≤ laterLines text.toList := by
  have inner (width : Nat) (positive : 0 < width) (quoted : List Char) :
      ((quoted.drop width).take (quoted.length - 2 * width)).Sublist quoted.dropLast := by
    by_cases short : quoted.length ≤ 2 * width
    · rw [Nat.sub_eq_zero_of_le short, List.take_zero]
      exact List.nil_sublist _
    · rw [List.take_drop, List.dropLast_eq_take]
      refine (List.drop_sublist _ _).trans (List.take_sublist_take_left ?_)
      omega
  have outer (letters : List Char) : laterLines (text.toList.drop letters.length) ≤
      laterLines text.toList :=
    Lexeme.laterLines_le_of_suffix (List.drop_suffix _ _)
  unfold written
  dsimp only
  refine ((inner _ ?_ _).count_le _).trans (outer _)
  split
  · split
    · decide
    · decide
  · decide

/-- Reading up to the next brace loses no line feed. -/
theorem countLines_of_literalText
    {raw top doubled : Bool}
    {taken chars piece rest : List Char}
    {fuel : Nat}
    (read : literalText raw top taken fuel chars = some (piece, rest, doubled)) :
    countLines piece + countLines rest ≤ countLines taken + countLines chars := by
  have ended {front behind : List Char} {flag : Bool}
      (read : some (front.reverse, behind, flag) = some (piece, rest, doubled)) :
      countLines piece + countLines rest = countLines front + countLines behind := by
    cases read
    rw [countLines_reverse]
  have atBrace {front behind : List Char} {brace : Char}
      (read : (if top && behind.head? == some brace then
          some ((brace :: front).reverse, behind.drop 1, true)
        else if top && brace == '\x7d' then none
        else some (front.reverse, brace :: behind, false)) = some (piece, rest, doubled)) :
      countLines piece + countLines rest ≤ countLines front + countLines (brace :: behind) := by
    split at read
    · have counted := ended read
      have fewer : countLines (behind.drop 1) ≤ countLines behind :=
        (List.drop_sublist _ _).count_le _
      simp only [countLines_cons] at counted ⊢
      omega
    · split at read
      · cases read
      · exact (ended read).le
  fun_induction literalText raw top taken fuel chars with
  | case1 => cases read
  | case2 => exact (ended read).le
  | case3 =>
      have counted := ended read
      simp only [countLines_cons, countLines_nil] at counted ⊢
      omega
  | case4 taken fuel char _ letter _ name inside after inductionHypothesis =>
      have counted := inductionHypothesis read
      have whole : countLines (name.take (inside.length + 1)) + countLines after =
          countLines name :=
        countLines_take_add_drop _ _
      simp only [countLines_append, countLines_reverse, countLines_cons] at counted ⊢
      omega
  | case5 taken fuel char _ letter _ next after _ inductionHypothesis =>
      have counted := inductionHypothesis read
      simp only [countLines_cons] at counted ⊢
      omega
  | case6 =>
      have counted := ended read
      simp only [countLines_cons, countLines_nil] at counted ⊢
      omega
  | case7 taken fuel char _ _ letter others =>
      have counted := atBrace read
      simp only [countLines_cons] at counted ⊢
      omega
  | case8 taken fuel char _ letter others _ _ inductionHypothesis =>
      have counted := inductionHypothesis read
      simp only [countLines_cons] at counted ⊢
      omega
  | case9 => exact atBrace read
  | case10 taken fuel char _ _ _ inductionHypothesis =>
      have counted := inductionHypothesis read
      simp only [countLines_cons] at counted ⊢
      omega

/-- Finding the end of a field's expression loses no line feed. -/
theorem countLines_of_fieldText
    {opened taken chars : List Char}
    {quote : Option (Char × Nat)}
    {fuel : Nat}
    {found : FieldText}
    (read : fieldText opened quote taken fuel chars = some found) :
    countLines found.expression + countLines found.rest ≤ countLines taken + countLines chars := by
  fun_induction fieldText opened quote taken fuel chars
  case case3 =>
    cases read
    rw [countLines_reverse]
  case case5 taken _ char _ mark _ isMark _ second third others both inductionHypothesis =>
    have counted := inductionHypothesis read
    obtain ⟨first, last⟩ := Bool.and_eq_true_iff.mp both
    rw [eq_of_beq isMark, eq_of_beq first, eq_of_beq last]
    simp only [countLines_cons] at counted ⊢
    omega
  case case10 taken _ char _ _ second third others both inductionHypothesis =>
    have counted := inductionHypothesis read
    obtain ⟨first, last⟩ := Bool.and_eq_true_iff.mp both
    rw [eq_of_beq first, eq_of_beq last]
    simp only [countLines_cons] at counted ⊢
    omega
  case case16 taken _ char rest _ _ _ _ _ _ _ inductionHypothesis =>
    have counted := inductionHypothesis read
    have fewer : countLines (rest.drop 1) ≤ countLines rest := (List.drop_sublist _ _).count_le _
    have solid : ('=' == '\n') = false := rfl
    simp only [countLines_cons, solid, Bool.false_eq_true, if_false] at counted ⊢
    omega
  case case18 =>
    cases read
    rw [countLines_reverse]
  -- In all other cases one character is taken, or there is no end.
  all_goals
    first
      | cases read
      | next inductionHypothesis =>
          have counted := inductionHypothesis read
          simp only [countLines_cons] at counted ⊢
          omega

theorem countLines_of_conversion
    {chars rest : List Char}
    {mark : Nat}
    (read : conversion chars = some (mark, rest)) :
    countLines rest ≤ countLines chars := by
  have suffix : rest <:+ chars := by
    unfold conversion at read
    split at read
    · split at read
      · cases read
        exact ⟨[_, _], rfl⟩
      · cases read
    · cases read
    · cases read
      exact List.suffix_refl _
  exact suffix.sublist.count_le _

theorem laterLines_parenthesized (chars : List Char) :
    laterLines ('(' :: chars ++ [')']) = countLines chars := by
  rw [laterLines, List.dropLast_concat]
  exact List.count_cons_of_ne (by decide)

/-- Text that is no literal is blamed where reading has got to. -/
theorem within_meaning
    (last : Nat)
    (raw : Bool)
    (chars : List Char) :
    Reads (fun _ => True) (LiteralFault.Within last) (meaning raw chars) := by
  unfold meaning
  split
  · trivial
  · split
    · trivial
    · trivial

/-- A parser of fields keeps to the first lines. -/
def FieldParser.StaysWithin (last : Nat) (parse : FieldParser) : Prop :=
  ∀ line chars, line + laterLines chars ≤ last →
    Reads (Lined.Within last) (LiteralFault.Within last) (parse line chars)

variable {parse : FieldParser} {raw : Bool} {last start : Nat}

theorem within_flush
    {gathered : Gathered}
    (starts : start ≤ last)
    (inside : Lined.Within last gathered.values) :
    Lined.Within last (gathered.flush start) := by
  unfold Gathered.flush
  split
  · exact inside
  · simp [starts, inside]

/-- What is gathered of a string starts on the first lines, and the lines are counted on. -/
def GathersWithin (last : Nat) : Except LiteralFault (Gathered × Nat × List Char) → Prop :=
  Reads (fun found => Lined.Within last found.1.values ∧ found.2.1 + countLines found.2.2 ≤ last)
    (LiteralFault.Within last)

/-- The tree of a field starts on the first lines, and the lines are counted on. -/
def FieldWithin (last : Nat) : Except LiteralFault (List Char × Node × Nat × List Char) → Prop :=
  Reads (fun found => Lined.Within last found.2.1 ∧ found.2.2.1 + countLines found.2.2.2 ≤ last)
    (LiteralFault.Within last)

theorem gathersWithin_gather_succ
    {fuel : Nat}
    (starts : start ≤ last)
    (gathers : ∀ level line gathered chars, line + countLines chars ≤ last →
      Lined.Within last gathered.values →
      GathersWithin last (gather parse raw level start fuel line gathered chars))
    (fields : ∀ level line inside, line + countLines inside ≤ last →
      FieldWithin last (field parse raw level start fuel line inside))
    (level line : Nat)
    (gathered : Gathered)
    (chars : List Char)
    (counted : line + countLines chars ≤ last)
    (inside : Lined.Within last gathered.values) :
    GathersWithin last (gather parse raw level start (fuel + 1) line gathered chars) := by
  unfold gather
  split
  · trivial
  · next piece rest doubled read =>
      have passed := countLines_of_literalText read
      rw [countLines_nil, Nat.zero_add] at passed
      have counted : line + countLines piece + countLines rest ≤ last := by omega
      have meant := within_meaning last raw piece
      split
      · next fault refused =>
          rw [refused] at meant
          exact meant
      · dsimp only
        split
        · exact gathers _ _ _ _ counted inside
        · split
          · next within =>
              have read := fields level _ _ (by simpa using counted)
              split
              · next fault refused =>
                  rw [refused] at read
                  exact read
              · next shown node lineAfter after found =>
                  rw [found] at read
                  refine gathers _ _ _ _ read.2 ?_
                  exact within_cons_iff.mpr ⟨read.1, within_flush starts inside⟩
          · exact ⟨inside, counted⟩

/-- The text of a field that is shown, and what follows it. -/
def shownText (found : FieldText) : List Char × List Char :=
  match found.rest with
  | '=' :: after =>
      (found.expression ++ '=' :: after.takeWhile isFieldSpace,
        after.drop (after.takeWhile isFieldSpace).length)
  | after => ([], after)

/-- The line behind the text of a field that is shown, or behind its expression. -/
def lineShown (line : Nat) (expression shown : List Char) : Nat :=
  line + countLines (if shown.isEmpty then expression else shown)

/-- What a field is read to behind its expression, whose tree is `value`. -/
def fieldEnd
    (parse : FieldParser)
    (raw : Bool)
    (level start fuel line : Nat)
    (value : Node)
    (shown chars : List Char) : Except LiteralFault (List Char × Node × Nat × List Char) :=
  match conversion chars with
  | none => .error .here
  | some (mark, afterMark) =>
      match afterMark with
      | ':' :: spec =>
          if spec.isEmpty then .error .here
          else
            match gather parse raw (level + 1) start fuel line ⟨[], []⟩ spec with
            | .error fault => .error fault
            | .ok (format, lineAfter, after) =>
                match after with
                | '\x7d' :: others =>
                    .ok (shown, .mk .formattedValue start (.counts [mark])
                      [value, .plain .joinedStr start (format.flush start).reverse], lineAfter,
                      others)
                | _ => .error .here
      | '\x7d' :: others =>
          .ok (shown, .mk .formattedValue start
            (.counts [if !shown.isEmpty && mark == 0 then 'r'.toNat else mark]) [value], line,
            others)
      | _ => .error .here

theorem lineShown_add (found : FieldText) (line : Nat) :
    lineShown line found.expression (shownText found).1 + countLines (shownText found).2 =
      line + (countLines found.expression + countLines found.rest) := by
  unfold lineShown shownText
  split
  · next after starts =>
      have whole := countLines_take_add_drop (after.takeWhile isFieldSpace).length after
      rw [← List.prefix_iff_eq_take.mp (List.takeWhile_prefix _)] at whole
      rw [starts]
      simp
      omega
  · simp
    omega

theorem fieldWithin_fieldEnd
    {fuel level line : Nat}
    {value : Node}
    {chars : List Char}
    (starts : start ≤ last)
    (gathers : ∀ level line gathered chars, line + countLines chars ≤ last →
      Lined.Within last gathered.values →
      GathersWithin last (gather parse raw level start fuel line gathered chars))
    (valued : Lined.Within last value)
    (shown : List Char)
    (counted : line + countLines chars ≤ last) :
    FieldWithin last (fieldEnd parse raw level start fuel line value shown chars) := by
  unfold fieldEnd
  split
  · trivial
  · next mark afterMark converted =>
      have behind := countLines_of_conversion converted
      split
      · next spec =>
          rw [countLines_cons] at behind
          split
          · trivial
          · have read := gathers (level + 1) line ⟨[], []⟩ spec (by omega) within_nil
            split
            · next fault refused =>
                rw [refused] at read
                exact read
            · next format lineAfter after found =>
                rw [found] at read
                obtain ⟨inside, counted⟩ := read
                split
                · next others =>
                    have pieces : Lined.Within last (format.flush start).reverse :=
                      Lined.within_subset (within_flush starts inside)
                        (List.reverse_subset.mpr (List.Subset.refl _))
                    have counted : lineAfter + countLines ('\x7d' :: others) ≤ last := counted
                    rw [countLines_cons] at counted
                    exact ⟨by simp [starts, valued, pieces], by dsimp only; omega⟩
                · trivial
      · next others =>
          rw [countLines_cons] at behind
          exact ⟨by simp [starts, valued], by dsimp only; omega⟩
      · trivial

theorem fieldWithin_field_succ
    {fuel : Nat}
    (keeps : parse.StaysWithin last)
    (starts : start ≤ last)
    (gathers : ∀ level line gathered chars, line + countLines chars ≤ last →
      Lined.Within last gathered.values →
      GathersWithin last (gather parse raw level start fuel line gathered chars))
    (level line : Nat)
    (inside : List Char)
    (counted : line + countLines inside ≤ last) :
    FieldWithin last (field parse raw level start (fuel + 1) line inside) := by
  unfold field
  split
  · trivial
  · split
    · trivial
    · next found read =>
        have passed := countLines_of_fieldText read
        rw [countLines_nil, Nat.zero_add] at passed
        split
        · trivial
        · have value := keeps line ('(' :: found.expression ++ [')'])
            (by rw [laterLines_parenthesized]; omega)
          split
          · next fault refused =>
              rw [refused] at value
              exact value
          · next node known =>
              rw [known] at value
              have behind := lineShown_add found line
              exact fieldWithin_fieldEnd starts gathers value (shownText found).1
                (show lineShown line found.expression (shownText found).1 +
                  countLines (shownText found).2 ≤ last by omega)

/-- Strings are gathered and fields are read within the first lines. -/
theorem within_gather_and_field
    (raw : Bool)
    (keeps : parse.StaysWithin last)
    (starts : start ≤ last)
    (fuel : Nat) :
    (∀ level line gathered chars, line + countLines chars ≤ last →
      Lined.Within last gathered.values →
      GathersWithin last (gather parse raw level start fuel line gathered chars)) ∧
    ∀ level line inside, line + countLines inside ≤ last →
      FieldWithin last (field parse raw level start fuel line inside) := by
  induction fuel with
  | zero =>
      constructor
      · intro level line gathered chars _ _
        unfold gather
        trivial
      · intro level line inside _
        unfold field
        trivial
  | succ fuel inductionHypothesis =>
      obtain ⟨gathers, fields⟩ := inductionHypothesis
      exact ⟨gathersWithin_gather_succ starts gathers fields,
        fieldWithin_field_succ keeps starts gathers⟩

/-- The values that adjacent strings have given start on the first lines. -/
def Joined.Within (last : Nat) : Joined → Prop
  | .text _ gathered => Lined.Within last gathered.values
  | _ => True

/-- A string with fields goes on with what was gathered before it. -/
theorem within_addFields
    {gathered : Gathered}
    {lexeme : Lexeme}
    (keeps : parse.StaysWithin last)
    (starts : start ≤ last)
    (inside : Lined.Within last gathered.values)
    (counted : lexeme.line + countLines (written lexeme.text).body ≤ last) :
    Reads (Joined.Within last) (LiteralFault.Within last)
      (match gather parse (written lexeme.text).marks.raw 0 start
          ((written lexeme.text).body.length + 2) lexeme.line gathered
          (written lexeme.text).body with
        | .error fault => .error fault
        | .ok (after, _, rest) => if rest.isEmpty then .ok (.text true after) else .error .here) := by
  have read := (within_gather_and_field (written lexeme.text).marks.raw keeps starts
    ((written lexeme.text).body.length + 2)).1 0 _ _ _ counted inside
  split
  · next fault refused =>
      rw [refused] at read
      exact read
  · next after line rest found =>
      rw [found] at read
      split
      · exact read.1
      · trivial

theorem within_addString
    {joined : Joined}
    {lexeme : Lexeme}
    (keeps : parse.StaysWithin last)
    (starts : start ≤ last)
    (inJoined : joined.Within last)
    (ends : lexeme.EndsWithin last) :
    Reads (Joined.Within last) (LiteralFault.Within last) (addString parse start joined lexeme) := by
  have counted : lexeme.line + countLines (written lexeme.text).body ≤ last :=
    (Nat.add_le_add_left (countLines_written lexeme.text) _).trans ends
  have meant := within_meaning last (written lexeme.text).marks.raw (written lexeme.text).body
  unfold addString
  dsimp only
  split
  · split
    · exact (Nat.le_add_right _ _).trans counted
    · split
      · trivial
      · trivial
      · trivial
      · trivial
  · cases joined with
    | bytes value =>
        split
        · trivial
        · split
          · next fault refused =>
              rw [refused] at meant
              exact meant
          · trivial
    | nothing =>
        split
        · exact within_addFields keeps starts within_nil counted
        · split
          · next fault refused =>
              rw [refused] at meant
              exact meant
          · exact within_nil
    | text formatted gathered =>
        split
        · exact within_addFields keeps starts inJoined counted
        · split
          · next fault refused =>
              rw [refused] at meant
              exact meant
          · exact inJoined

theorem within_addStrings
    {joined : Joined}
    {lexemes : List Lexeme}
    (keeps : parse.StaysWithin last)
    (starts : start ≤ last)
    (inJoined : joined.Within last)
    (each : ∀ lexeme ∈ lexemes, lexeme.EndsWithin last) :
    Reads (Joined.Within last) (LiteralFault.Within last)
      (lexemes.foldlM (addString parse start) joined) := by
  induction lexemes generalizing joined with
  | nil => exact inJoined
  | cons lexeme lexemes inductionHypothesis =>
      obtain ⟨first, others⟩ := List.forall_mem_cons.mp each
      have added := within_addString keeps starts inJoined first
      rw [List.foldlM_cons]
      cases step : addString parse start joined lexeme with
      | error fault =>
          rw [step] at added
          exact added
      | ok next =>
          rw [step] at added
          exact inductionHypothesis added others

/-- The tree of adjacent strings starts on the first lines. -/
theorem within_ofStrings
    {lexemes : List Lexeme}
    (keeps : parse.StaysWithin last)
    (each : ∀ lexeme ∈ lexemes, lexeme.EndsWithin last) :
    Reads (Lined.Within last) (LiteralFault.Within last) (ofStrings parse lexemes) := by
  have starts : (lexemes.head?.map Lexeme.line).getD 0 ≤ last := by
    cases lexemes with
    | nil => exact Nat.zero_le _
    | cons lexeme lexemes => exact (Nat.le_add_right _ _).trans (each lexeme List.mem_cons_self)
  have joined := within_addStrings keeps starts (show Joined.Within last .nothing from trivial) each
  unfold ofStrings
  dsimp only
  split
  · next fault refused =>
      rw [refused] at joined
      exact joined
  · trivial
  · exact Node.within_constant_iff.mpr starts
  · next gathered found =>
      rw [found] at joined
      have parts : Lined.Within last
          (gathered.flush ((lexemes.head?.map Lexeme.line).getD 0)).reverse :=
        Lined.within_subset (within_flush starts joined)
          (List.reverse_subset.mpr (List.Subset.refl _))
      exact Node.within_plain_iff.mpr ⟨starts, parts⟩
  · exact Node.within_constant_iff.mpr starts

end Literal

/-! ## Texts -/

namespace Source

variable {last : Nat} {source : Source}

theorem within_start (source : Source) (strict : Bool) : (source.start strict).Within last := by
  intro mark entries present entry member
  have there : (Array.replicate (source.lexemes.size + 1) ([] : List Remembered))[mark]? =
      some entries := present
  rw [Array.getElem?_replicate] at there
  split at there
  · obtain rfl := Option.some.inj there
    cases member
  · cases there

theorem refusal_le
    {line : Nat}
    (seen : Nat)
    (inSource : source.Within last)
    (inside : line ≤ last) :
    source.refusal line seen ≤ last := by
  have known := inSource.fault
  unfold refusal
  split
  · exact inside
  · next fault given =>
      have reported := known fault given
      split
      · exact reported.line
      · split
        · next openLine isOpen =>
            split
            · exact reported.openLine openLine isOpen
            · exact inside
        · exact inside

theorem within_refuse
    {fault : ParseFault}
    (inSource : source.Within last)
    (inFault : fault.Within last) :
    (source.refuse fault).Within last := by
  unfold refuse
  split
  · next line seen =>
      rintro _ ⟨⟩
      exact refusal_le seen inSource (inFault line rfl)
  · exact inFault

theorem within_general
    (inSource : source.Within last)
    (first second : Nat) :
    (parse.general source first second).Within last := by
  have here (seen : Nat) : source.lineOf seen ≤ last := Parser.StaysWithin.line_getD_le inSource _
  unfold parse.general
  dsimp only
  split
  · rintro _ ⟨⟩
    exact here second
  · rintro _ ⟨⟩
    exact refusal_le _ inSource (here first)

/-- The trees of a text start on its lines, and it is refused at one of them. -/
theorem within_parse
    (inSource : source.Within last)
    (goal : Grammar.Goal) :
    Reads (Lined.Within last) (ParseFault.Within last) (source.parse goal) := by
  have run (strict : Bool) : (goal.parser source (source.start strict)).Within last :=
    Grammar.Goal.parser_staysWithin goal source _ inSource (within_start source strict)
  have loose := run false
  have strict := run true
  unfold parse
  split
  · next trees after matched =>
      rw [matched] at loose
      exact loose.1
  · next fault refused =>
      rw [refused] at loose
      exact within_refuse inSource loose
  · split
    · next fault refused =>
        rw [refused] at strict
        exact within_refuse inSource strict
    · exact within_general inSource _ _
    · exact within_general inSource _ _

end Source

theorem mem_of_mem_stringsFrom
    {lexemes : Array Lexeme}
    {count place : Nat}
    {lexeme : Lexeme}
    (member : lexeme ∈ stringsFrom lexemes count place) :
    lexeme ∈ lexemes := by
  fun_induction stringsFrom lexemes count place with
  | case1 => cases member
  | case2 count place other found _ inductionHypothesis =>
      rcases List.mem_cons.mp member with rfl | later
      · exact Array.mem_of_getElem? found
      · exact inductionHypothesis later
  | case3 => cases member
  | case4 => cases member

/-- The lexemes and strings of a text are on its lines. -/
theorem Source.within_ofText
    {last line : Nat}
    {parse : Literal.FieldParser}
    {chars : List Char}
    (positive : 1 ≤ last)
    (keeps : parse.StaysWithin last)
    (inside : line + laterLines chars ≤ last) :
    (Source.ofText parse line chars).Within last := by
  obtain ⟨each, fault⟩ := Lexeme.within_cut inside
  have ends : ∀ lexeme ∈ (Lexeme.cut line chars).1.toArray, lexeme.EndsWithin last :=
    fun lexeme member => each lexeme (List.mem_toArray.mp member)
  exact {
    positive := positive
    lexemes := fun lexeme member => (Nat.le_add_right _ _).trans (ends lexeme member)
    fault := fault
    strings := fun mark => Literal.within_ofStrings keeps fun lexeme member =>
      ends lexeme (mem_of_mem_stringsFrom member) }

/-- A text that starts on a line gives trees on the lines from there on that it has, or is refused at
one of the lines up to its last one. -/
theorem within_parseText
    {last line : Nat}
    {chars : List Char}
    (positive : 1 ≤ last)
    (depth : Nat)
    (goal : Grammar.Goal)
    (inside : line + laterLines chars ≤ last) :
    Reads (Lined.Within last) (ParseFault.Within last) (parseText depth goal line chars) := by
  induction depth generalizing goal line chars with
  | zero => exact fun _ told => nomatch told
  | succ depth inductionHypothesis =>
      rw [parseText]
      refine Source.within_parse (Source.within_ofText positive ?_ inside) goal
      intro fieldLine fieldChars inside
      have read := inductionHypothesis .field inside
      dsimp only
      split
      · next node found =>
          rw [found] at read
          exact (within_cons_iff.mp read).1
      · trivial
      · next fault found =>
          rw [found] at read
          split
          · next faultLine told => exact read faultLine told
          · trivial

/-- The trees of a whole text start on its lines, and it is refused at one of them. -/
theorem within_parse (goal : Grammar.Goal) (chars : List Char) :
    Reads (Lined.Within (1 + laterLines chars)) (ParseFault.Within (1 + laterLines chars))
      (parse goal chars) :=
  within_parseText (Nat.le_add_right 1 _) fieldDepth goal (Nat.le_refl _)

end Predicate
end Wordbook
