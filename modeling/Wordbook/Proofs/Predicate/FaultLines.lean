import Wordbook.Predicate.Verdict
import Wordbook.Proofs.Number.DecimalText
import Wordbook.Proofs.Predicate.Lines.Programs
import Wordbook.Proofs.Predicate.Lines.Texts
import Wordbook.Proofs.Predicate.Margins

/-!
# Lines of refused bodies

A body that is refused with the number of a line is refused at a line of the text that it was put
into, counted from the start of the function.  The words for the refusal take one line off, that of
the header: in a body of statements this leaves a line of the body, in an expression it does not.
-/

namespace Wordbook
namespace Text

theorem count_lineFeed_of_spaces {gap : List Char} (spaces : Spaces gap) : gap.count '\n' = 0 :=
  List.count_eq_zero.mpr fun member => absurd (spaces '\n' member) (by decide)

/-- Margins add no lines. -/
theorem Spread.count_lineFeed {chars spread : List Char} (whole : Spread [] [] chars spread) :
    spread.count '\n' = chars.count '\n' := by
  induction whole with
  | ended => rfl
  | kept char others inductionHypothesis =>
      rw [List.count_cons, List.count_cons, inductionHypothesis]
  | margined char gap breaks spaces others inductionHypothesis =>
      rw [List.count_cons, List.count_append, count_lineFeed_of_spaces spaces, Nat.zero_add,
        List.count_cons, inductionHypothesis]

end Text

namespace Predicate
namespace Lexeme

/-- Two texts put together have no more line ends than they have alone: a carriage return that ends
the first and a line feed that starts the second become one. -/
theorem count_plainLines_append_le (chars rest : List Char) :
    (plainLines (chars ++ rest)).count '\n' ≤
      (plainLines chars).count '\n' + (plainLines rest).count '\n' := by
  induction chars using plainLines.induct with
  | case1 => exact Nat.le_of_eq (Nat.zero_add _).symm
  | case2 chars inductionHypothesis =>
      rw [List.cons_append, List.cons_append, plainLines.eq_2, plainLines.eq_2,
        List.count_cons_self, List.count_cons_self]
      omega
  | case3 chars alone inductionHypothesis =>
      rw [plainLines.eq_3 _ alone, List.count_cons_self, List.cons_append]
      by_cases joined : ∃ behind, chars ++ rest = '\n' :: behind
      · obtain ⟨behind, starts⟩ := joined
        cases chars with
        | nil =>
            rw [List.nil_append] at starts
            rw [List.nil_append, starts, plainLines.eq_2,
              plainLines.eq_4 '\n' behind (fun _ same => absurd same (by decide)) (by decide),
              List.count_cons_self]
            omega
        | cons next chars => exact absurd (by rw [(List.cons.inj starts).1]) (alone chars)
      · rw [plainLines.eq_3 _ fun behind starts => joined ⟨behind, starts⟩, List.count_cons_self]
        omega
  | case4 chars char alone other inductionHypothesis =>
      rw [List.cons_append, plainLines.eq_4 _ _ alone other,
        plainLines.eq_4 _ _ (fun _ same => absurd same other) other, List.count_cons,
        List.count_cons]
      omega

theorem count_plainLines_append
    {chars : List Char}
    (rest : List Char)
    (solid : ∀ char ∈ chars, char ≠ '\r') :
    (plainLines (chars ++ rest)).count '\n' =
      chars.count '\n' + (plainLines rest).count '\n' := by
  rw [plainLines_append rest solid, List.count_append]

/-- A text that a line feed ends still ends in one when its lines are made plain. -/
theorem exists_plainLines_append_lineFeed (chars : List Char) :
    ∃ fore, plainLines (chars ++ ['\n']) = fore ++ ['\n'] := by
  induction chars using plainLines.induct with
  | case1 => exact ⟨[], rfl⟩
  | case2 chars inductionHypothesis =>
      obtain ⟨fore, same⟩ := inductionHypothesis
      exact ⟨'\n' :: fore, by rw [List.cons_append, List.cons_append, plainLines.eq_2, same]; rfl⟩
  | case3 chars alone inductionHypothesis =>
      cases chars with
      | nil => exact ⟨[], rfl⟩
      | cons next chars =>
          obtain ⟨fore, same⟩ := inductionHypothesis
          have apart : ∀ behind, next :: (chars ++ ['\n']) = '\n' :: behind → False :=
            fun _ starts => alone chars (by rw [(List.cons.inj starts).1])
          exact ⟨'\n' :: fore, by
            rw [List.cons_append, List.cons_append, plainLines.eq_3 _ apart, ← List.cons_append,
              same]
            rfl⟩
  | case4 chars char alone other inductionHypothesis =>
      obtain ⟨fore, same⟩ := inductionHypothesis
      exact ⟨_ :: fore, by
        rw [List.cons_append, plainLines.eq_4 _ _ (fun _ same => absurd same other) other, same]
        rfl⟩

end Lexeme

/-! ## Words that name a line -/

/-- The words for a line, which a reason stands before. -/
def lineNote (reason : String) (number : Nat) : String :=
  reason ++ "(line " ++ toString number ++ ")"

theorem toList_lineNote (reason : String) (number : Nat) :
    (lineNote reason number).toList =
      (reason ++ "(line").toList ++ ' ' :: (Nat.toDigits 10 number ++ [')']) := by
  have words : "(line ".toList = "(line".toList ++ [' '] := by decide
  have close : ")".toList = [')'] := by decide
  have digits : (toString number).toList = Nat.toDigits 10 number := Nat.toList_repr
  rw [lineNote, String.toList_append, String.toList_append, String.toList_append, words, close,
    digits, String.toList_append]
  simp only [List.append_assoc, List.cons_append, List.nil_append]

/-- What follows the last occurrence of a character is told by the text. -/
theorem eq_of_append_cons_eq
    {mark : Char}
    {fore aft first second : List Char}
    (same : fore ++ mark :: first = aft ++ mark :: second)
    (noneFirst : mark ∉ first)
    (noneSecond : mark ∉ second) :
    first = second := by
  obtain ⟨between, -, behind⟩ | ⟨between, -, behind⟩ := List.append_eq_append_iff.mp same
  · cases between with
    | nil => exact (List.cons.inj behind).2
    | cons char between =>
        refine absurd ?_ noneFirst
        rw [(List.cons.inj behind).2]
        exact List.mem_append_right _ List.mem_cons_self
  · cases between with
    | nil => exact (List.cons.inj behind).2.symm
    | cons char between =>
        refine absurd ?_ noneSecond
        rw [(List.cons.inj behind).2]
        exact List.mem_append_right _ List.mem_cons_self

theorem space_notMem_digits (number : Nat) : ' ' ∉ Nat.toDigits 10 number ++ [')'] := by
  intro member
  rcases List.mem_append.mp member with digit | close
  · exact absurd (Number.isPlainDigit_of_mem_toDigits number digit) (by decide)
  · exact absurd (List.mem_singleton.mp close) (by decide)

/-- The words for a line tell which one it is. -/
theorem lineNote_inj
    {reason reason' : String}
    {number number' : Nat}
    (same : lineNote reason number = lineNote reason' number') :
    number = number' := by
  have chars := congrArg String.toList same
  rw [toList_lineNote, toList_lineNote] at chars
  have digits := eq_of_append_cons_eq chars (space_notMem_digits number) (space_notMem_digits number')
  rw [← Number.ofDigits_toDigits number, ← Number.ofDigits_toDigits number',
    List.append_cancel_right digits]

theorem Refusal.message_unreadable {line : Nat} (later : 1 < line) :
    (unreadable (some line)).message = lineNote "<syntax error> " (line - 1) := by
  have words : "<syntax error>" ++ " (line " = "<syntax error> " ++ "(line " := by decide
  have grouped : ∀ fore aft digits close : String,
      fore ++ (aft ++ digits ++ close) = fore ++ aft ++ digits ++ close := by
    intro fore aft digits close
    simp only [String.append_assoc]
  calc (unreadable (some line)).message
      = "<syntax error>" ++ (" (line " ++ toString (line - 1) ++ ")") :=
        congrArg ("<syntax error>" ++ ·) (if_pos later)
    _ = "<syntax error>" ++ " (line " ++ toString (line - 1) ++ ")" := grouped _ _ _ _
    _ = lineNote "<syntax error> " (line - 1) :=
        congrArg (· ++ toString (line - 1) ++ ")") words

theorem getLast?_toList_append
    {text : String}
    (front : String)
    (more : text.toList ≠ []) :
    (front ++ text).toList.getLast? = text.toList.getLast? := by
  rw [String.toList_append, List.getLast?_append_of_ne_nil _ more]

theorem Violation.getLast?_message (found : Violation) :
    found.message.toList.getLast? ≠ some ')' := by
  cases found <;> rw [message, getLast?_toList_append _ (by decide)] <;> decide

/-- Only a body that is refused at a line after the first one is told which line that is. -/
theorem Refusal.eq_of_message
    {refusal : Refusal}
    {reason : String}
    {number : Nat}
    (told : refusal.message = lineNote reason number) :
    1 ≤ number ∧ refusal = .unreadable (some (number + 1)) := by
  have closes : refusal.message.toList.getLast? = some ')' := by
    rw [told, lineNote, getLast?_toList_append _ (by decide)]
    decide
  cases refusal with
  | unreadable line? =>
      cases line? with
      | none => exact absurd closes (by decide)
      | some line =>
          by_cases later : 1 < line
          · rw [message_unreadable later] at told
            have same := lineNote_inj told
            refine ⟨by omega, ?_⟩
            rw [← same, Nat.sub_add_cancel (by omega)]
          · have plain : (unreadable (some line)).message = "<syntax error>" ++ "" :=
              congrArg ("<syntax error>" ++ ·) (if_neg later)
            rw [plain] at closes
            exact absurd closes (by decide)
  | violation found => exact absurd closes found.getLast?_message
  | outside => exact absurd closes (by decide)
  | nullByte => exact absurd closes (by decide)
  | tooHighToBuild => exact absurd closes (by decide)
  | tooHighToCompile => exact absurd closes (by decide)

namespace Definition

open Lexeme

/-! ## The lines of the text that a body is put into -/

/-- The text of a function has one line more than its body, that of the header; the line feed that
follows the body opens none. -/
theorem laterLines_around_le (body : List Char) :
    laterLines (plainLines (around body)) ≤ (plainLines body).count '\n' + 1 := by
  have margins : Text.Spaces margin := Text.spaces_replicate 4
  have plainOpening : ∀ char ∈ opening.toList, char ≠ '\r' :=
    fun char member same => absurd (same ▸ member) (by decide)
  obtain ⟨gap, spread, spaces, same, -, plain⟩ := spread_indent margins (body ++ ['\n'])
  have whole : (plainLines (around body)).count '\n' =
      opening.toList.count '\n' + (plainLines (body ++ ['\n'])).count '\n' := by
    rw [around, List.append_assoc, Text.indent_append_lineEnd, same,
      plainLines_append _ plainOpening, plainLines_append_spaces spaces, List.count_append,
      List.count_append, Text.count_lineFeed_of_spaces spaces, plain.count_lineFeed, Nat.zero_add]
  have header : opening.toList.count '\n' = 1 := by decide
  have ended := count_plainLines_append_le body ['\n']
  have lastEnd : (plainLines ['\n']).count '\n' = 1 := rfl
  obtain ⟨fore, ends⟩ := exists_plainLines_append_lineFeed (opening.toList ++ Text.indent margin body)
  have text : plainLines (around body) = fore ++ ['\n'] := ends
  rw [text, List.count_append, List.count_singleton_self] at whole
  rw [text, laterLines, List.dropLast_concat]
  omega

/-- An expression that is given back stands between two lines more. -/
theorem count_plainLines_giving_le (body : List Char) :
    (plainLines (giving body)).count '\n' ≤ (plainLines body).count '\n' + 2 := by
  have plain : ∀ char ∈ "return (\n".toList, char ≠ '\r' :=
    fun char member same => absurd (same ▸ member) (by decide)
  have parts : giving body = "return (\n".toList ++ (body ++ "\n)".toList) :=
    List.append_assoc _ _ _
  have whole := count_plainLines_append (body ++ "\n)".toList) plain
  have behind := count_plainLines_append_le body "\n)".toList
  have first : "return (\n".toList.count '\n' = 1 := by decide
  have last : (plainLines "\n)".toList).count '\n' = 1 := by decide
  rw [← parts, first] at whole
  rw [last] at behind
  omega

/-! ## Lines at which a body is refused -/

/-- If a fault is reported with the number of a line, then it is one of the first lines. -/
def CompileFault.Within (last : Nat) (fault : CompileFault) : Prop :=
  ∀ line, fault = .refused (.unreadable (some line)) → line ≤ last

section Reading

variable {last : Nat} {nodes : List Node}

theorem reads_built (inside : Lined.Within last nodes) :
    Reads (Lined.Within last) (CompileFault.Within last) (built nodes) := by
  unfold built
  split
  · rintro line ⟨⟩
  · exact inside

/-- A body is not refused at a line before it is put into a text. -/
theorem wrapped_ne_unreadable (body : List Char) (line : Nat) :
    wrapped body ≠ .error (.refused (.unreadable (some line))) := by
  unfold wrapped expression?
  split
  · rintro ⟨⟩
  · split
    · next nodes parsed =>
        unfold built
        split
        · rintro ⟨⟩
        · cases nodes <;> rintro ⟨⟩
    · rintro ⟨⟩
    · rintro ⟨⟩

theorem reads_module (text : List Char) :
    Reads (Lined.Within (1 + laterLines (plainLines text)))
      (CompileFault.Within (1 + laterLines (plainLines text))) (module text) := by
  have read := within_parse .statements (plainLines text)
  unfold module
  split
  · next nodes parsed =>
      rw [parsed] at read
      exact reads_built read
  · next fault parsed =>
      rw [parsed] at read
      intro line same
      unfold ParseFault.asCompileFault at same
      split at same
      · next found told =>
          cases same
          exact read line told
      · cases same

theorem reads_statements (inside : Lined.Within last nodes) :
    Reads (Lined.Within last) (CompileFault.Within last) (statements nodes) := by
  unfold statements
  split
  · have parts := Node.within_parts (within_cons_iff.mp inside).1
    exact (within_cons_iff.mp parts).2
  · rintro line ⟨⟩

/-- A body that was put into a text is refused at one of its lines, if it is refused at a line. -/
theorem reads_compile
    {body text : List Char}
    (wraps : wrapped body = .ok text) :
    Reads (fun _ => True) (CompileFault.Within (1 + laterLines (plainLines text)))
      (compile body) := by
  have found : trees body = module text >>= statements := by
    rw [trees, wraps]
    rfl
  rw [compile, found]
  refine .bind (.bind (reads_module text) fun _ => reads_statements)
    fun nodes inside => ?_
  split
  · rintro line ⟨⟩
  · dsimp only
    split
    · rintro line ⟨⟩
    · split
      · trivial
      · next line refused =>
          rintro _ ⟨⟩
          exact Program.le_of_ofNodes inside refused

end Reading

theorem line_le_of_compile
    {body : List Char}
    {line : Nat}
    (refused : compile body = .error (.refused (.unreadable (some line)))) :
    line ≤ (plainLines body).count '\n' + 4 ∧
      (expression? body = .ok none → line ≤ (plainLines body).count '\n' + 2) := by
  cases wraps : wrapped body with
  | error fault =>
      have early : compile body = .error fault := by
        rw [compile, trees, wraps]
        rfl
      obtain rfl := Except.error.inj (early.symm.trans refused)
      exact absurd wraps (wrapped_ne_unreadable body line)
  | ok text =>
      have read := reads_compile wraps
      rw [refused] at read
      have inText : line ≤ 1 + laterLines (plainLines text) := read line rfl
      rw [wrapped] at wraps
      cases found : expression? body with
      | error fault =>
          rw [found] at wraps
          cases wraps
      | ok tree =>
          rw [found] at wraps
          cases tree with
          | none =>
              cases wraps
              have lines := laterLines_around_le body
              exact ⟨by omega, fun _ => by omega⟩
          | some tree =>
              cases wraps
              have lines := laterLines_around_le (giving body)
              have given := count_plainLines_giving_le body
              exact ⟨by omega, fun same => nomatch same⟩

/-- How many lines a body has: one more than line ends. -/
def lineCount (body : String) : Nat := (Lexeme.plainLines body.toList).count '\n' + 1

/-- Whether a compilation is refused for a given reason. -/
def isRefusedFor (refusal : Refusal) : Except CompileFault (List Statement) → Bool
  | .error (.refused found) => found = refusal
  | _ => false

theorem check_of_isRefusedFor
    {body : String}
    {refusal : Refusal}
    (refused : isRefusedFor refusal (compile body.toList) = true) :
    check body = .error (.issue (.invalidDefinition refusal.message)) := by
  rw [check]
  unfold isRefusedFor at refused
  split at refused
  · next found compiled =>
      rw [compiled, ← of_decide_eq_true refused]
      rfl
  · cases refused

theorem exists_refusal_of_check
    {body text : String}
    (refused : check body = .error (.issue (.invalidDefinition text))) :
    ∃ refusal, compile body.toList = .error (.refused refusal) ∧ refusal.message = text := by
  rw [check] at refused
  cases compiled : compile body.toList with
  | ok program =>
      rw [compiled] at refused
      cases refused
  | error fault =>
      rw [compiled] at refused
      cases fault with
      | tooDeep => cases refused
      | refused refusal =>
          cases refused
          exact ⟨refusal, rfl, rfl⟩

/-- A refused body of statements is told one of its lines, if it is told a line: the header of the
function is taken off.  Before an expression stands one line more, which is not. -/
theorem reported_line_le
    {body reason : String}
    {number : Nat}
    (refused : check body = .error (.issue (.invalidDefinition (lineNote reason number)))) :
    1 ≤ number ∧ number ≤ lineCount body + 2 ∧
      (expression? body.toList = .ok none → number ≤ lineCount body) := by
  obtain ⟨refusal, faulty, told⟩ := exists_refusal_of_check refused
  obtain ⟨positive, rfl⟩ := Refusal.eq_of_message told
  obtain ⟨every, statements⟩ := line_le_of_compile faulty
  rw [lineCount]
  refine ⟨positive, by omega, fun other => ?_⟩
  have inside := statements other
  omega

/-- Two statements, the second of which only the compiler objects to. -/
def strayBreak : String := "pass\nbreak"

/-- A fault in the second of two lines is reported there. -/
theorem strayBreak_reported :
    check strayBreak = .error (.issue (.invalidDefinition (lineNote "<syntax error> " 2))) ∧
      expression? strayBreak.toList = .ok none ∧ lineCount strayBreak = 2 ∧
      (1 ≤ 2 ∧ 2 ≤ lineCount strayBreak + 2 ∧
        (expression? strayBreak.toList = .ok none → 2 ≤ lineCount strayBreak)) := by
  have compiled : isRefusedFor (.unreadable (some 3)) (compile strayBreak.toList) = true := by
    decide +kernel
  have refused :
      check strayBreak = .error (.issue (.invalidDefinition (lineNote "<syntax error> " 2))) := by
    rw [check_of_isRefusedFor compiled, Refusal.message_unreadable (by decide)]
  have other : (match expression? strayBreak.toList with
      | .ok none => true
      | _ => false) = true := by decide +kernel
  refine ⟨refused, ?_, by decide, reported_line_le refused⟩
  split at other
  · next same => exact same
  · cases other

/-- A call of one line that names an argument twice, which no parser but the compiler objects to. -/
def repeatedKeyword : String := "dict(a=1, a=2)"

/-- An expression stands two lines below the start of the function, but one is taken off. -/
theorem repeatedKeyword_reported_below :
    lineCount repeatedKeyword = 1 ∧
      check repeatedKeyword = .error (.issue (.invalidDefinition "<syntax error> (line 2)")) := by
  have compiled : isRefusedFor (.unreadable (some 3)) (compile repeatedKeyword.toList) = true := by
    decide +kernel
  exact ⟨by decide, check_of_isRefusedFor compiled⟩

end Definition
end Predicate
end Wordbook
