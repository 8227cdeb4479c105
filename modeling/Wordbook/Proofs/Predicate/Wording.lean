import Wordbook.Predicate.Definition
import Wordbook.Proofs.Predicate.Spelling

/-!
# The words of texts

A text spells words: the kinds and texts of its pieces.  Margins change no word but strings that
pass a line break, and the words of a text that starts with a word or a symbol are that one and the
words of the rest.
-/

namespace Wordbook
namespace Predicate
namespace Lexeme

open Text

/-- The kind and the text of a lexeme. -/
def word (lexeme : Lexeme) : LexemeKind × String := (lexeme.kind, lexeme.text)

/-- The words of some lexemes, marks left out. -/
def words (lexemes : List Lexeme) : List (LexemeKind × String) :=
  (lexemes.filter isPiece).map word

/-- The words of a text up to its end. -/
inductive Spells : List Char → List (LexemeKind × String) → Prop
  | piece
      {rest : List Char}
      {piece : Piece}
      {spelled : List (LexemeKind × String)}
      (cut : firstPiece? rest = some piece)
      (others : Spells piece.rest spelled) :
      Spells rest ((piece.kind, piece.text) :: spelled)
  | ended
      {rest : List Char}
      (nothing : skip false rest = []) :
      Spells rest []

theorem Spells.congr
    {rest rest' : List Char}
    {spelled : List (LexemeKind × String)}
    (spells : Spells rest spelled)
    (same : skip false rest = skip false rest') :
    Spells rest' spelled := by
  cases spells with
  | piece cut others => exact .piece ((firstPiece?_congr same).symm.trans cut) others
  | ended nothing => exact .ended (same.symm.trans nothing)

/-- The lexemes of a text have its words. -/
theorem Trace.spells
    {depth : Nat}
    {rest : List Char}
    {lexemes : List Lexeme}
    (trace : Trace depth rest lexemes) :
    Spells rest (words lexemes) := by
  induction trace with
  | @piece depth rest piece lexeme lexemes cut kind text turns others inductionHypothesis =>
      rw [words, List.filter_cons_of_pos (isPiece_of_cut cut kind), List.map_cons, word, kind, text]
      exact .piece cut inductionHypothesis
  | @mark rest lexeme lexemes kind level others inductionHypothesis =>
      have plain : ¬ lexeme.isPiece = true := by
        rw [isPiece, List.contains_iff_mem]
        simp only [List.mem_cons, List.not_mem_nil, or_false] at kind ⊢
        rintro (same | same | same | same | same) <;> simp [same] at kind
      rw [words, List.filter_cons_of_neg plain]
      exact inductionHypothesis
  | @finish rest lexeme kind level ended =>
      have plain : ¬ lexeme.isPiece = true := by
        rw [isPiece, kind]
        decide
      rw [words, List.filter_cons_of_neg plain]
      exact .ended ended

end Lexeme

namespace Definition

open Lexeme Text

end Definition
end Predicate
end Wordbook
