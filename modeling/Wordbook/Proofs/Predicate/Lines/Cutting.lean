import Wordbook.Proofs.Predicate.Lines.Parsing
import Wordbook.Proofs.Predicate.Spelling

/-!
# Lexemes stand on the lines of their text

Cutting a text keeps count of its lines: where a text is cut at a place on some line, the lines that
follow in what is left of it are lines of the text.  So every lexeme ends on a line of the text, and
a fault in cutting is reported at one.
-/

namespace Wordbook
namespace Predicate
namespace Lexeme

/-- How many lines of a text follow its first one: a line feed at its end opens none. -/
def laterLines (chars : List Char) : Nat := chars.dropLast.count '\n'

theorem laterLines_cons_of_ne {char : Char} (rest : List Char) (other : char ≠ '\n') :
    laterLines (char :: rest) = laterLines rest := by
  cases rest with
  | nil => rfl
  | cons next rest => rw [laterLines, List.dropLast_cons_cons, List.count_cons_of_ne other, laterLines]

theorem laterLines_lineFeed {rest : List Char} (more : rest ≠ []) :
    laterLines ('\n' :: rest) = laterLines rest + 1 := by
  rw [laterLines, List.dropLast_cons_of_ne_nil more, List.count_cons_self, laterLines]

/-- The lines from a line feed on are counted from the line after it. -/
theorem lineAfter_add (line : Nat) (rest : List Char) :
    lineAfter line rest + laterLines rest = line + laterLines ('\n' :: rest) := by
  cases rest with
  | nil => rfl
  | cons next rest =>
      rw [laterLines_lineFeed (List.cons_ne_nil _ _), lineAfter, List.isEmpty_cons,
        if_neg Bool.false_ne_true]
      omega

theorem laterLines_le_of_sublist {part chars : List Char} (sublist : part.Sublist chars) :
    laterLines part ≤ laterLines chars := by
  induction sublist with
  | slnil => exact Nat.le_refl _
  | @cons part chars char sublist inductionHypothesis =>
      refine inductionHypothesis.trans ?_
      cases chars with
      | nil => exact Nat.zero_le _
      | cons next chars => exact List.count_le_count_cons
  | @cons_cons part chars char sublist inductionHypothesis =>
      cases part with
      | nil => exact Nat.zero_le _
      | cons next part =>
          have more : chars ≠ [] := fun none => by
            rw [none] at sublist
            cases sublist
          by_cases feed : char = '\n'
          · rw [feed, laterLines_lineFeed (List.cons_ne_nil _ _), laterLines_lineFeed more]
            exact Nat.succ_le_succ inductionHypothesis
          · rw [laterLines_cons_of_ne _ feed, laterLines_cons_of_ne _ feed]
            exact inductionHypothesis

theorem laterLines_le_of_suffix {rest chars : List Char} (suffix : rest <:+ chars) :
    laterLines rest ≤ laterLines chars :=
  laterLines_le_of_sublist suffix.sublist

/-! ## Strings -/

/-- A line feed is passed, or a character that is none. -/
theorem passed_add
    (passed : Nat)
    (char : Char)
    {rest : List Char}
    (more : rest ≠ []) :
    (if char == '\n' then passed + 1 else passed) + laterLines rest =
      passed + laterLines (char :: rest) := by
  split
  · next feed =>
      rw [eq_of_beq feed, laterLines_lineFeed more]
      omega
  · next other => rw [laterLines_cons_of_ne rest fun same => other (by rw [same]; rfl)]

theorem drop_cons_sub
    {taken length : Nat}
    (char : Char)
    (chars : List Char)
    (further : taken + 1 ≤ length) :
    (char :: chars).drop (length - taken) = chars.drop (length - (taken + 1)) := by
  obtain ⟨rest, rfl⟩ := Nat.exists_eq_add_of_le further
  have first : taken + 1 + rest - taken = rest + 1 := by omega
  have second : taken + 1 + rest - (taken + 1) = rest := by omega
  rw [first, second, List.drop_succ_cons]

section StringBody

variable {quote : Char} {size run taken passed length lines : Nat} {chars : List Char}

/-- A string that is not at its end has something left. -/
theorem ne_nil_of_stringBody
    (width : size ≠ 0)
    (found : stringBody quote size 0 taken passed chars = some (length, lines)) :
    chars ≠ [] := by
  rintro rfl
  have start : (0 == size) = false := beq_eq_false_iff_ne.mpr width.symm
  rw [stringBody.eq_def] at found
  simp only [start, Bool.false_eq_true, if_false] at found
  cases found

/-- Where the rest of a string ends, the lines that it passed and those that follow are lines that
followed before. -/
theorem passed_add_of_stringBody
    (width : size ≠ 0)
    (found : stringBody quote size run taken passed chars = some (length, lines)) :
    taken ≤ length ∧
      lines + laterLines (chars.drop (length - taken)) ≤ passed + laterLines chars := by
  fun_induction stringBody quote size run taken passed chars with
  | case1 run taken passed chars closed =>
      obtain ⟨rfl, rfl⟩ := Prod.mk.inj (Option.some.inj found)
      rw [Nat.sub_self, List.drop_zero]
      exact ⟨Nat.le_refl _, Nat.le_refl _⟩
  | case2 => cases found
  | case3 => cases found
  | case4 run taken passed _ char rest _ _ inductionHypothesis =>
      obtain ⟨further, counted⟩ := inductionHypothesis found
      rw [drop_cons_sub char rest further]
      have suffix := laterLines_le_of_suffix (List.suffix_cons char rest)
      omega
  | case5 => cases found
  | case6 run taken passed _ char _ _ backslash escaped rest inductionHypothesis =>
      obtain ⟨further, counted⟩ := inductionHypothesis found
      rw [passed_add passed escaped (ne_nil_of_stringBody width found)] at counted
      rw [drop_cons_sub char _ (by omega), drop_cons_sub escaped rest further,
        show taken + 1 + 1 = taken + 2 from rfl]
      have suffix := laterLines_le_of_suffix (List.suffix_cons char (escaped :: rest))
      omega
  | case7 run taken passed _ char rest _ _ _ inductionHypothesis =>
      obtain ⟨further, counted⟩ := inductionHypothesis found
      rw [passed_add passed char (ne_nil_of_stringBody width found)] at counted
      rw [drop_cons_sub char rest further]
      exact ⟨by omega, counted⟩

end StringBody

/-- The lines that a string passes and those behind it are lines that follow where it starts. -/
theorem passed_add_of_stringLength?
    {chars : List Char}
    {length lines : Nat}
    (found : stringLength? chars = some (length, lines)) :
    lines + laterLines (chars.drop length) ≤ laterLines chars := by
  have suffix (count : Nat) : laterLines (chars.drop count) ≤ laterLines chars :=
    laterLines_le_of_suffix (List.drop_suffix _ _)
  have short : some (2, 0) = some (length, lines) →
      lines + laterLines (chars.drop length) ≤ laterLines chars := by
    rintro ⟨⟩
    rw [Nat.zero_add]
    exact suffix 2
  have long {size : Nat} (front : List Char) {body : List Char} (width : size ≠ 0)
      (whole : chars = front ++ body)
      (found : stringBody (chars.headD ' ') size 0 front.length 0 body = some (length, lines)) :
      lines + laterLines (chars.drop length) ≤ laterLines chars := by
    obtain ⟨further, counted⟩ := passed_add_of_stringBody width found
    have rest : chars.drop length = body.drop (length - front.length) := by
      rw [whole, List.drop_append, List.drop_eq_nil_of_le further, List.nil_append]
    have behind : laterLines body ≤ laterLines chars :=
      laterLines_le_of_suffix ⟨front, whole.symm⟩
    rw [rest]
    omega
  unfold stringLength? at found
  split at found
  · cases found
  · next quote rest =>
      split at found
      · next second third others =>
          split at found
          · exact long [quote, second, third] (by decide) rfl found
          · split at found
            · exact short found
            · exact long [quote] (by decide) rfl found
      · next second =>
          split at found
          · exact short found
          · cases found
      · cases found

/-! ## Pieces -/

/-- A piece has no more lines than the text it is cut from, and where it ends the lines are counted
on. -/
structure Piece.Counts (chars : List Char) (piece : Piece) : Prop where
  text : laterLines piece.text.toList ≤ laterLines chars
  rest : piece.passed + laterLines piece.rest ≤ laterLines chars

/-- A piece that passes no line and is cut off in front. -/
theorem Piece.counts_of_append
    {chars front : List Char}
    {piece : Piece}
    (text : piece.text = String.ofList front)
    (rest : piece.rest <:+ chars)
    (isFront : front <+: chars)
    (passed : piece.passed = 0) :
    piece.Counts chars where
  text := by
    rw [text, String.toList_ofList]
    exact laterLines_le_of_sublist isFront.sublist
  rest := by
    rw [passed, Nat.zero_add]
    exact laterLines_le_of_suffix rest

theorem counts_of_string?
    {letters : Nat}
    {chars : List Char}
    {piece : Piece}
    (cut : string? letters chars = some piece) :
    piece.Counts chars := by
  unfold string? at cut
  split at cut
  · cases cut
  · next length passed found =>
      obtain rfl := Option.some.inj cut
      have counted := passed_add_of_stringLength? found
      have behind : laterLines (chars.drop letters) ≤ laterLines chars :=
        laterLines_le_of_suffix (List.drop_suffix _ _)
      rw [List.drop_drop] at counted
      refine ⟨?_, counted.trans behind⟩
      rw [String.toList_ofList]
      exact laterLines_le_of_sublist (List.take_sublist _ _)

/-- What is left behind a number is the end of the text. -/
theorem suffix_of_afterNumber?
    {char : Char}
    {chars after : List Char}
    (starts : (isDigit char || (char == '.' && chars.head?.any isDigit)) = true)
    (found : afterNumber? (char :: chars) = some after) :
    after <:+ char :: chars := by
  have solid : Text.isLineBreak char = false := by
    rcases Bool.or_eq_true_iff.mp starts with digit | point
    · exact solid_isDigit char digit
    · rw [eq_of_beq (Bool.and_eq_true_iff.mp point).1]
      decide
  have itself : Text.Spread [] [] (char :: chars) (char :: chars) := by
    have nothing : Text.Spread [] [] [] [] := .ended
    have kept := nothing.append_kept (char :: chars)
    rwa [List.append_nil] at kept
  have alike := afterNumber?_spread ⟨.inl rfl, .inl rfl, fun _ => rfl⟩ itself solid
  rw [found] at alike
  cases alike with
  | found taken first second behind => exact ⟨taken, first.symm⟩

theorem exists_operatorText_eq (chars : List Char) :
    ∃ count, operatorText chars = String.ofList (chars.take count) := by
  simp only [operatorText]
  split
  · exact ⟨3, rfl⟩
  · split
    · exact ⟨2, rfl⟩
    · exact ⟨1, rfl⟩

theorem counts_of_piece?
    {chars : List Char}
    {piece : Piece}
    (cut : piece? chars = some piece) :
    piece.Counts chars := by
  unfold piece? at cut
  split at cut
  · cases cut
  · next char after =>
      split at cut
      · split at cut
        · exact counts_of_string? cut
        · simp only [word?] at cut
          split at cut
          · cases cut
          · obtain rfl := Option.some.inj cut
            exact Piece.counts_of_append rfl (List.dropWhile_suffix _) (List.takeWhile_prefix _) rfl
      · split at cut
        · next number =>
            unfold number? at cut
            split at cut
            · cases cut
            · next after found =>
                obtain rfl := Option.some.inj cut
                exact Piece.counts_of_append rfl (suffix_of_afterNumber? number found)
                  (List.take_prefix _ _) rfl
        · split at cut
          · exact counts_of_string? cut
          · simp only [operator?] at cut
            split at cut
            · obtain rfl := Option.some.inj cut
              obtain ⟨count, text⟩ := exists_operatorText_eq (char :: after)
              exact Piece.counts_of_append text (List.drop_suffix _ _) (List.take_prefix _ _) rfl
            · cases cut

/-- A lexeme ends on one of the first lines. -/
def EndsWithin (last : Nat) (lexeme : Lexeme) : Prop :=
  lexeme.line + laterLines lexeme.text.toList ≤ last

end Lexeme

/-! ## Steps -/

/-- What is left of a text at a place ends on one of the first lines, and the open brackets stand on
them. -/
structure Scan.Within (last : Nat) (scan : Scan) : Prop where
  rest : scan.line + Lexeme.laterLines scan.rest ≤ last
  brackets : ∀ bracket ∈ scan.brackets, bracket.2 ≤ last

namespace Scan

variable {last : Nat} {scan : Scan}

theorem Within.line_le (inScan : scan.Within last) : scan.line ≤ last :=
  (Nat.le_add_right _ _).trans inScan.rest

section Faults

variable (line : scan.line ≤ last) (brackets : ∀ bracket ∈ scan.brackets, bracket.2 ≤ last)

include brackets

theorem openLine_le : ∀ line ∈ scan.openLine, line ≤ last := by
  intro line isLine
  obtain ⟨bracket, isFirst, rfl⟩ := Option.map_eq_some_iff.mp isLine
  exact brackets bracket (List.mem_of_head? isFirst)

include line

theorem within_report : scan.report.Within last := ⟨line, openLine_le brackets⟩

theorem within_notice : scan.notice.Within last := ⟨line, openLine_le brackets⟩

/-- A text that ends too early is reported where it ends or at the bracket that is open. -/
theorem within_ended : scan.ended.Within last := by
  refine ⟨?_, openLine_le brackets⟩
  unfold Scan.ended
  cases opened : scan.openLine with
  | none => exact line
  | some line => exact openLine_le brackets line opened

end Faults

end Scan

namespace Lexeme

/-- What a step gives ends on the first lines, and what it leaves does so too. -/
def Step.Within (last : Nat) : Step → Prop
  | .lexemes found after => (∀ lexeme ∈ found, lexeme.EndsWithin last) ∧ after.Within last
  | .finished found => ∀ lexeme ∈ found, lexeme.EndsWithin last
  | .fault reason => reason.Within last

variable {last : Nat} {scan : Scan}

/-- Measuring the blanks at the start of a line keeps count of the lines it passes. -/
theorem within_measure
    {fault ended : Nat → LexFault}
    {column plain continued line : Nat}
    {rest : List Char}
    (faulty : ∀ line ≤ last, (fault line).Within last)
    (short : ∀ line ≤ last, (ended line).Within last)
    (inside : line + laterLines rest ≤ last) :
    Reads (fun margin => margin.line + laterLines margin.rest ≤ last) (LexFault.Within last)
      (measure fault ended column plain continued line rest) := by
  have behind {char : Char} {rest : List Char} {line : Nat}
      (inside : line + laterLines (char :: rest) ≤ last) : line + laterLines rest ≤ last :=
    (Nat.add_le_add_left (laterLines_le_of_suffix (List.suffix_cons char rest)) line).trans inside
  fun_induction measure fault ended column plain continued line rest with
  | case1 => exact inside
  | case2 _ _ _ _ _ _ _ inductionHypothesis => exact inductionHypothesis (behind inside)
  | case3 _ _ _ _ _ _ _ _ inductionHypothesis => exact inductionHypothesis (behind inside)
  | case4 _ _ _ _ _ _ _ _ _ inductionHypothesis => exact inductionHypothesis (behind inside)
  | case5 => exact short _ ((Nat.le_add_right _ _).trans inside)
  | case6 _ _ _ line char _ _ _ _ next others inductionHypothesis =>
      have counted := behind inside
      rw [laterLines_lineFeed (List.cons_ne_nil _ _)] at counted
      exact inductionHypothesis (by omega)
  | case7 => exact faulty _ ((Nat.le_add_right _ _).trans inside)
  | case8 => exact inside

/-- Marks of a line stand on it, and what is wrong with its indentation is noticed there. -/
theorem within_indentation
    (column plain : Nat)
    (inScan : scan.Within last) :
    Reads (fun found => ∀ mark ∈ found.1, mark.EndsWithin last) (LexFault.Within last)
      (indentation scan column plain) := by
  have marked (kind : LexemeKind) : EndsWithin last ⟨kind, "", scan.line, 0⟩ := inScan.line_le
  have nothing : ∀ mark ∈ ([] : List Lexeme), mark.EndsWithin last :=
    fun _ member => absurd member List.not_mem_nil
  have noticed := Scan.within_notice inScan.line_le inScan.brackets
  unfold indentation
  split
  · exact nothing
  · split
    · split
      · exact nothing
      · exact noticed
    · split
      · split
        · exact noticed
        · split
          · exact noticed
          · intro mark member
            rw [List.mem_singleton.mp member]
            exact marked _
      · dsimp only
        split
        · split
          · intro mark member
            rw [(List.mem_replicate.mp member).2]
            exact marked _
          · exact noticed
        · exact noticed

/-- Brackets are opened at the line of a place. -/
theorem within_of_bracketsAfter?
    {symbol : String}
    {brackets : List (Char × Nat)}
    (inScan : scan.Within last)
    (changed : bracketsAfter? scan symbol = some brackets) :
    ∀ bracket ∈ brackets, bracket.2 ≤ last := by
  have opened (mark : Char) :
      (if scan.brackets.length ≥ bracketLimit then none
        else some ((mark, scan.line) :: scan.brackets)) = some brackets →
      ∀ bracket ∈ brackets, bracket.2 ≤ last := by
    intro changed
    split at changed
    · cases changed
    · obtain rfl := Option.some.inj changed
      exact List.forall_mem_cons.mpr ⟨inScan.line_le, inScan.brackets⟩
  unfold bracketsAfter? at changed
  split at changed
  · exact opened _ changed
  · split at changed
    · exact opened _ changed
    · split at changed
      · exact opened _ changed
      · split at changed
        · split at changed
          · cases changed
          · next before =>
              split at changed
              · obtain rfl := Option.some.inj changed
                have others := inScan.brackets
                rw [before] at others
                exact (List.forall_mem_cons.mp others).2
              · cases changed
        · obtain rfl := Option.some.inj changed
          exact inScan.brackets

theorem eq_lineFeed_of_dropWhile
    {chars rest : List Char}
    {char : Char}
    (behind : chars.dropWhile (· != '\n') = char :: rest) :
    char = '\n' := by
  have isHead : char ∈ (chars.dropWhile (· != '\n')).head? := by
    rw [behind]
    rfl
  simpa using not_of_mem_head_dropWhile isHead

/-- The start of a line keeps to the first lines. -/
theorem within_lineStart (inScan : scan.Within last) : (lineStart scan).Within last := by
  have none : ∀ lexeme ∈ ([] : List Lexeme), lexeme.EndsWithin last :=
    fun _ member => absurd member List.not_mem_nil
  have measured : Reads (fun margin => margin.line + laterLines margin.rest ≤ last)
      (LexFault.Within last) (measure (fun line => Scan.notice { scan with line := line })
        (fun line => Scan.ended { scan with line := line }) 0 0 0 scan.line scan.rest) :=
    within_measure
      (fun _ inside => Scan.within_notice inside inScan.brackets)
      (fun _ inside => Scan.within_ended inside inScan.brackets) inScan.rest
  unfold lineStart
  dsimp only
  split
  · next fault found =>
      rw [found] at measured
      exact measured
  · next margin found =>
      rw [found] at measured
      have counted : margin.line + laterLines margin.rest ≤ last := measured
      -- What is left of the text on a line that has been read to its end.
      have onward {rest : List Char}
          (inside : margin.line + laterLines ('\n' :: rest) ≤ last) :
          Scan.Within last ⟨rest, lineAfter margin.line rest, scan.indents, scan.brackets, true⟩ :=
        ⟨(lineAfter_add _ _).trans_le inside, inScan.brackets⟩
      split
      · next comment start =>
          have passed : laterLines (margin.rest.dropWhile (· != '\n')) ≤ laterLines margin.rest :=
            laterLines_le_of_suffix (List.dropWhile_suffix _)
          split
          · exact ⟨none, ⟨(Nat.le_add_right _ _).trans counted, inScan.brackets⟩⟩
          · next feed after behind =>
              rw [behind, eq_lineFeed_of_dropWhile behind] at passed
              exact ⟨none, onward ((Nat.add_le_add_left passed _).trans counted)⟩
      · next after start =>
          rw [start] at counted
          exact ⟨none, onward counted⟩
      · have inHere : Scan.Within last
            { scan with rest := margin.rest, line := margin.line, atLineStart := false } :=
          ⟨counted, inScan.brackets⟩
        split
        · exact ⟨none, inHere⟩
        · have indented := within_indentation
            (if margin.continued == 0 then margin.column else margin.continued)
            (if margin.continued == 0 then margin.plain else margin.continued) inHere
          split
          · next fault same =>
              rw [same] at indented
              exact indented
          · next marks indents same =>
              rw [same] at indented
              exact ⟨indented, ⟨counted, inScan.brackets⟩⟩

/-- Cutting a piece off keeps to the first lines. -/
theorem within_pieceStep (inScan : scan.Within last) : (pieceStep scan).Within last := by
  unfold pieceStep
  split
  · exact Scan.within_report inScan.line_le inScan.brackets
  · next piece cut =>
      have counts := counts_of_piece? cut
      have inside := inScan.rest
      dsimp only
      split
      · exact Scan.within_report inScan.line_le inScan.brackets
      · next brackets changed =>
          have opened : ∀ bracket ∈ brackets, bracket.2 ≤ last := by
            split at changed
            · exact within_of_bracketsAfter? inScan changed
            · exact Option.some.inj changed ▸ inScan.brackets
          refine ⟨?_, ?_, opened⟩
          · intro lexeme member
            rw [List.mem_singleton.mp member]
            exact (Nat.add_le_add_left counts.text _).trans inside
          · have rest := counts.rest
            dsimp only
            omega

/-- A step inside a line keeps to the first lines. -/
theorem within_step (inScan : scan.Within last) : (step scan).Within last := by
  have none : ∀ lexeme ∈ ([] : List Lexeme), lexeme.EndsWithin last :=
    fun _ member => absurd member List.not_mem_nil
  have ended (kind : LexemeKind) :
      ∀ lexeme ∈ [(⟨kind, "", scan.line, 0⟩ : Lexeme)], lexeme.EndsWithin last := by
    intro lexeme member
    rw [List.mem_singleton.mp member]
    exact inScan.line_le
  -- Blanks and a comment are passed over, which end no line.
  obtain ⟨rest, shape, suffix⟩ : ∃ rest,
      (if (scan.rest.dropWhile isGap).head? == some '#' then
        (scan.rest.dropWhile isGap).dropWhile (· != '\n') else scan.rest.dropWhile isGap) = rest ∧
      rest <:+ scan.rest := by
    refine ⟨_, rfl, ?_⟩
    split
    · exact (List.dropWhile_suffix _).trans (List.dropWhile_suffix _)
    · exact List.dropWhile_suffix _
  have inside : scan.line + laterLines rest ≤ last :=
    (Nat.add_le_add_left (laterLines_le_of_suffix suffix) _).trans inScan.rest
  unfold step
  simp only [shape]
  cases rest with
  | nil =>
      dsimp only
      split
      · exact ended _
      · exact Scan.within_ended inScan.line_le inScan.brackets
  | cons char after =>
      dsimp only
      split
      · next feed =>
          rw [eq_of_beq feed, ← lineAfter_add] at inside
          split
          · exact ⟨ended _, inside, inScan.brackets⟩
          · exact ⟨none, inside, inScan.brackets⟩
      · split
        · split
          · exact Scan.within_ended inScan.line_le inScan.brackets
          · next next notLast =>
              have behind := laterLines_le_of_suffix (List.suffix_cons char ('\n' :: next))
              have more : next ≠ [] := fun nothing => notLast (by rw [nothing])
              rw [laterLines_lineFeed more] at behind
              refine ⟨none, ?_, inScan.brackets⟩
              dsimp only
              omega
          · exact Scan.within_notice inScan.line_le inScan.brackets
        · exact within_pieceStep ⟨inside, inScan.brackets⟩

/-- Cutting a text from a place on keeps to the first lines. -/
theorem within_cutFrom
    (fuel : Nat)
    {found : List Lexeme}
    (inScan : scan.Within last)
    (before : ∀ lexeme ∈ found, lexeme.EndsWithin last) :
    (∀ lexeme ∈ (cutFrom fuel scan found).1, lexeme.EndsWithin last) ∧
      ∀ fault ∈ (cutFrom fuel scan found).2, fault.Within last := by
  have reversed {lexemes : List Lexeme} (each : ∀ lexeme ∈ lexemes, lexeme.EndsWithin last) :
      ∀ lexeme ∈ lexemes.reverse, lexeme.EndsWithin last :=
    fun lexeme member => each lexeme (List.mem_reverse.mp member)
  have noFault : ∀ fault ∈ (none : Option LexFault), fault.Within last :=
    fun fault member => absurd member (Option.not_mem_none fault)
  induction fuel generalizing scan found with
  | zero => exact ⟨reversed before, noFault⟩
  | succ fuel inductionHypothesis =>
      have kept : (if scan.atLineStart then lineStart scan else step scan).Within last := by
        split
        · exact within_lineStart inScan
        · exact within_step inScan
      rw [cutFrom]
      generalize (if scan.atLineStart then lineStart scan else step scan) = result at kept ⊢
      cases result with
      | lexemes more after =>
          exact inductionHypothesis kept.2
            (List.forall_mem_append.mpr ⟨reversed kept.1, before⟩)
      | finished more =>
          exact ⟨reversed (List.forall_mem_append.mpr ⟨reversed kept, before⟩), noFault⟩
      | fault reason =>
          refine ⟨reversed before, ?_⟩
          rintro _ ⟨⟩
          exact kept

/-- All lexemes of a text end on its lines, and a fault in cutting it is reported on one of them. -/
theorem within_cut
    {line : Nat}
    {chars : List Char}
    (inside : line + laterLines chars ≤ last) :
    (∀ lexeme ∈ (cut line chars).1, lexeme.EndsWithin last) ∧
      ∀ fault ∈ (cut line chars).2, fault.Within last :=
  within_cutFrom _ ⟨inside, fun _ member => absurd member List.not_mem_nil⟩
    fun _ member => absurd member List.not_mem_nil

end Lexeme
end Predicate
end Wordbook
