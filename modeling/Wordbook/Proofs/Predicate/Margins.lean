import Mathlib.Data.List.Basic
import Wordbook.Predicate.Lexeme
import Wordbook.Text.Lines

/-!
# Texts with margins

Indenting a text puts spaces behind some of its line breaks and changes nothing else.  What the two
texts have in common is a relation between them, which also lets them end differently.
-/

namespace Wordbook
namespace Text

/-- A text has no character but spaces. -/
def Spaces (chars : List Char) : Prop := ∀ char ∈ chars, char = ' '

theorem spaces_replicate (count : Nat) : Spaces (List.replicate count ' ') :=
  fun _ member => (List.mem_replicate.mp member).2

theorem spaces_nil : Spaces [] := fun _ member => absurd member List.not_mem_nil

/-- The second text is the first with spaces put behind some of its line breaks; where the first has
`fore` left, the second has `aft` left. -/
inductive Spread (fore aft : List Char) : List Char → List Char → Prop
  | ended : Spread fore aft fore aft
  | kept
      {rest spread : List Char}
      (char : Char)
      (others : Spread fore aft rest spread) :
      Spread fore aft (char :: rest) (char :: spread)
  | margined
      {rest spread : List Char}
      (char : Char)
      (gap : List Char)
      (breaks : isLineBreak char = true)
      (spaces : Spaces gap)
      (others : Spread fore aft rest spread) :
      Spread fore aft (char :: rest) (char :: (gap ++ spread))

namespace Spread

variable {fore aft : List Char}

theorem append_kept
    {rest spread : List Char}
    (chars : List Char)
    (others : Spread fore aft rest spread) :
    Spread fore aft (chars ++ rest) (chars ++ spread) := by
  induction chars with
  | nil => exact others
  | cons char chars inductionHypothesis => exact .kept char inductionHypothesis

end Spread

/-- A line with its end, behind a margin if it is not blank throughout. -/
def indented (margin : List Char) (entry : List Char × List Char) : List Char :=
  if entry.1.all isBlank then entry.1 ++ entry.2 else margin ++ entry.1 ++ entry.2

theorem indented_eq
    {margin : List Char}
    (spaces : Spaces margin)
    (line ending : List Char) :
    ∃ gap, Spaces gap ∧ indented margin (line, ending) = gap ++ (line ++ ending) := by
  by_cases blank : line.all isBlank = true
  · exact ⟨[], spaces_nil, by simp [indented, blank]⟩
  · exact ⟨margin, spaces, by simp [indented, blank]⟩

/-- A line end that follows a text can as well be indented with it. -/
theorem indent_append_lineEnd (margin chars : List Char) :
    indent margin chars ++ ['\n'] = indent margin (chars ++ ['\n']) := by
  have general : ∀ line rest : List Char,
      (cutLines line rest).flatMap (indented margin) ++ ['\n'] =
        (cutLines line (rest ++ ['\n'])).flatMap (indented margin) := by
    intro line rest
    induction line, rest using cutLines.induct with
    | case1 line empty =>
        rw [List.isEmpty_iff.mp empty]
        rfl
    | case2 line more =>
        have cut : cutLines line [] = [(line.reverse, [])] := by
          rw [cutLines.eq_1, if_neg more]
        have cutAfter : cutLines line ['\n'] = [(line.reverse, ['\n'])] := rfl
        rw [cut, List.nil_append, cutAfter]
        by_cases blank : line.reverse.all isBlank = true
        · simp [indented, blank]
        · simp [indented, blank]
    | case3 line rest inductionHypothesis =>
        rw [List.cons_append, List.cons_append, cutLines.eq_2, cutLines.eq_2, List.flatMap_cons,
          List.append_assoc, inductionHypothesis, List.flatMap_cons]
    | case4 line char rest alone breaks inductionHypothesis =>
        by_cases pair : char = '\r' ∧ rest = []
        · obtain ⟨rfl, rfl⟩ := pair
          have cut : cutLines line ['\r'] = [(line.reverse, ['\r'])] := rfl
          have cutAfter : cutLines line ['\r', '\n'] = [(line.reverse, ['\r', '\n'])] := rfl
          rw [cut, List.singleton_append, cutAfter]
          by_cases blank : line.reverse.all isBlank = true
          · simp [indented, blank]
          · simp [indented, blank]
        · have aloneAfter : ∀ others, char = '\r' → rest ++ ['\n'] = '\n' :: others → False := by
            intro others return_ same
            cases rest with
            | nil => exact pair ⟨return_, rfl⟩
            | cons next rest =>
                have first : next = '\n' := (List.cons.inj same).1
                exact alone rest return_ (by rw [first])
          rw [List.cons_append, cutLines.eq_3 _ _ _ alone, cutLines.eq_3 _ _ _ aloneAfter,
            if_pos breaks, if_pos breaks, List.flatMap_cons, List.append_assoc,
            inductionHypothesis, List.flatMap_cons]
    | case5 line char rest alone solid inductionHypothesis =>
        have aloneAfter : ∀ others, char = '\r' → rest ++ ['\n'] = '\n' :: others → False := by
          intro others return_ same
          exact solid (by rw [return_]; decide)
        rw [List.cons_append, cutLines.eq_3 _ _ _ alone, cutLines.eq_3 _ _ _ aloneAfter,
          if_neg solid, if_neg solid, inductionHypothesis]
  exact general [] chars

end Text

namespace Predicate
namespace Lexeme

open Text

/-- A text without carriage returns at its start keeps that start when its lines are made plain. -/
theorem plainLines_append
    {chars : List Char}
    (rest : List Char)
    (solid : ∀ char ∈ chars, char ≠ '\r') :
    plainLines (chars ++ rest) = chars ++ plainLines rest := by
  induction chars with
  | nil => rfl
  | cons char chars inductionHypothesis =>
      have plain : char ≠ '\r' := solid char List.mem_cons_self
      have others := inductionHypothesis fun char member => solid char (List.mem_cons_of_mem _ member)
      rw [List.cons_append, plainLines.eq_4, others, List.cons_append]
      · exact fun rest same => absurd same plain
      · exact plain

theorem plainLines_append_spaces
    {gap : List Char}
    (spaces : Spaces gap)
    (rest : List Char) :
    plainLines (gap ++ rest) = gap ++ plainLines rest :=
  plainLines_append rest fun char member => by
    rw [spaces char member]
    decide

/-- What indenting does to a text that stands behind the beginning of a line. -/
theorem spread_cutLines
    {margin : List Char}
    (marginSpaces : Spaces margin)
    (line rest : List Char) :
    ∃ gap spread, Spaces gap ∧
      (cutLines line rest).flatMap (indented margin) = gap ++ (line.reverse ++ spread) ∧
      spread.head? = rest.head? ∧ Spread [] [] rest spread ∧
      Spread [] [] (plainLines rest) (plainLines spread) := by
  induction line, rest using cutLines.induct with
  | case1 line empty =>
      rw [List.isEmpty_iff.mp empty]
      exact ⟨[], [], spaces_nil, rfl, rfl, .ended, .ended⟩
  | case2 line more =>
      obtain ⟨gap, spaces, same⟩ := indented_eq marginSpaces line.reverse []
      refine ⟨gap, [], spaces, ?_, rfl, .ended, .ended⟩
      rw [cutLines.eq_1, if_neg more, List.flatMap_cons, List.flatMap_nil, List.append_nil, same]
  | case3 line rest inductionHypothesis =>
      obtain ⟨gap, spaces, same⟩ := indented_eq marginSpaces line.reverse ['\r', '\n']
      obtain ⟨behind, spread, spacesBehind, others, -, raw, plain⟩ := inductionHypothesis
      refine ⟨gap, '\r' :: '\n' :: (behind ++ spread), spaces, ?_, rfl, ?_, ?_⟩
      · rw [cutLines.eq_2, List.flatMap_cons, same, others]
        simp
      · exact .kept '\r' (.margined '\n' behind (by decide) spacesBehind raw)
      · rw [plainLines.eq_2, plainLines.eq_2, plainLines_append_spaces spacesBehind]
        exact .margined '\n' behind (by decide) spacesBehind plain
  | case4 line char rest alone breaks inductionHypothesis =>
      obtain ⟨gap, spaces, same⟩ := indented_eq marginSpaces line.reverse [char]
      obtain ⟨behind, spread, spacesBehind, others, head, raw, plain⟩ := inductionHypothesis
      refine ⟨gap, char :: (behind ++ spread), spaces, ?_, rfl, ?_, ?_⟩
      · rw [cutLines.eq_3 _ _ _ alone, if_pos breaks, List.flatMap_cons, same, others]
        simp
      · exact .margined char behind breaks spacesBehind raw
      · -- The spread text starts like the text, so that a carriage return stays alone in both.
        have aloneBehind : ∀ others, char = '\r' → behind ++ spread = '\n' :: others → False := by
          intro others return_ starts
          cases behind with
          | nil =>
              have first : rest.head? = some '\n' := by
                rw [← head, ← List.nil_append spread, starts]
                rfl
              obtain ⟨others, whole⟩ := List.head?_eq_some_iff.mp first
              exact alone others return_ whole
          | cons space behind =>
              have blank := spacesBehind space List.mem_cons_self
              rw [List.cons_append, blank] at starts
              exact absurd (List.cons.inj starts).1 (by decide)
        by_cases return_ : char = '\r'
        · subst return_
          rw [plainLines.eq_3 _ fun others => alone others rfl,
            plainLines.eq_3 _ fun others => aloneBehind others rfl,
            plainLines_append_spaces spacesBehind]
          exact .margined '\n' behind (by decide) spacesBehind plain
        · rw [plainLines.eq_4 _ _ alone return_, plainLines.eq_4 _ _ aloneBehind return_,
            plainLines_append_spaces spacesBehind]
          exact .margined char behind breaks spacesBehind plain
  | case5 line char rest alone solid inductionHypothesis =>
      obtain ⟨gap, spread, spaces, others, -, raw, plain⟩ := inductionHypothesis
      have return_ : char ≠ '\r' := fun same => solid (by rw [same]; decide)
      refine ⟨gap, char :: spread, spaces, ?_, rfl, .kept char raw, ?_⟩
      · rw [cutLines.eq_3 _ _ _ alone, if_neg solid, others]
        simp
      · rw [plainLines.eq_4 _ _ alone return_,
          plainLines.eq_4 _ _ (fun others same => absurd same return_) return_]
        exact .kept char plain

/-- Indenting a text puts spaces behind some of its line breaks and perhaps before it. -/
theorem spread_indent
    {margin : List Char}
    (marginSpaces : Spaces margin)
    (chars : List Char) :
    ∃ gap spread, Spaces gap ∧ indent margin chars = gap ++ spread ∧ Spread [] [] chars spread ∧
      Spread [] [] (plainLines chars) (plainLines spread) := by
  obtain ⟨gap, spread, spaces, whole, -, raw, plain⟩ := spread_cutLines marginSpaces [] chars
  exact ⟨gap, spread, spaces, whole, raw, plain⟩

end Lexeme
end Predicate
end Wordbook
