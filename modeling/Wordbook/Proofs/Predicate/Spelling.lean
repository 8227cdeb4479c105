import Wordbook.Proofs.Predicate.Pieces

/-!
# What a text spells

The pieces of a text follow from the text alone, whatever its lines and indentation.  Cutting it puts
the marks of line ends and indentation between them, and those only where no bracket is open.
-/

namespace Wordbook
namespace Predicate
namespace Lexeme

open Text

/-- What is left of a text where its next piece starts: blanks, line ends, comments and the ends of
continued lines are passed over.  The text may start inside a comment. -/
def skip : (comment : Bool) → List Char → List Char
  | true, [] => []
  | true, char :: rest => skip (char != '\n') rest
  | false, [] => []
  | false, char :: rest =>
      if isGap char || char == '\n' then skip false rest
      else if char == '#' || (char.toNat == 92 && rest.head? == some '\n') then skip true rest
      else char :: rest

/-- The first piece of a text. -/
def firstPiece? (rest : List Char) : Option Piece :=
  match skip false rest with
  | [] => none
  | char :: others => if char.toNat == 92 then none else piece? (char :: others)

/-- How many brackets are open before and after a lexeme. -/
def Turns (kind : LexemeKind) (text : String) (before after : Nat) : Prop :=
  if kind = .operator ∧ text ∈ ["(", "[", "\x7b"] then after = before + 1
  else if kind = .operator ∧ text ∈ [")", "]", "\x7d"] then before = after + 1
  else after = before

/-- The lexemes of a text up to its end, `depth` brackets being open before it. -/
inductive Trace : (depth : Nat) → List Char → List Lexeme → Prop
  | piece
      {depth : Nat}
      {rest : List Char}
      {piece : Piece}
      {lexeme : Lexeme}
      {lexemes : List Lexeme}
      (cut : firstPiece? rest = some piece)
      (kind : lexeme.kind = piece.kind)
      (text : lexeme.text = piece.text)
      (turns : Turns lexeme.kind lexeme.text depth lexeme.depth)
      (others : Trace lexeme.depth piece.rest lexemes) :
      Trace depth rest (lexeme :: lexemes)
  | mark
      {rest : List Char}
      {lexeme : Lexeme}
      {lexemes : List Lexeme}
      (kind : lexeme.kind ∈ [.lineEnd, .indent, .dedent])
      (level : lexeme.depth = 0)
      (others : Trace 0 rest lexemes) :
      Trace 0 rest (lexeme :: lexemes)
  | finish
      {rest : List Char}
      {lexeme : Lexeme}
      (kind : lexeme.kind = .finish)
      (level : lexeme.depth = 0)
      (ended : skip false rest = []) :
      Trace 0 rest [lexeme]

theorem firstPiece?_congr
    {rest rest' : List Char}
    (same : skip false rest = skip false rest') :
    firstPiece? rest = firstPiece? rest' := by
  rw [firstPiece?, same, firstPiece?]

/-- Lexemes depend on a text from its first piece on. -/
theorem Trace.congr
    {depth : Nat}
    {rest rest' : List Char}
    {lexemes : List Lexeme}
    (same : skip false rest = skip false rest')
    (trace : Trace depth rest lexemes) :
    Trace depth rest' lexemes := by
  induction trace with
  | piece cut kind text turns others inductionHypothesis =>
      exact .piece ((firstPiece?_congr same).symm.trans cut) kind text turns others
  | mark kind level others inductionHypothesis => exact .mark kind level (inductionHypothesis same)
  | finish kind level ended => exact .finish kind level (same.symm.trans ended)

theorem Trace.marks
    {rest : List Char}
    {marks lexemes : List Lexeme}
    (every : ∀ lexeme ∈ marks, lexeme.kind ∈ [.lineEnd, .indent, .dedent] ∧ lexeme.depth = 0)
    (others : Trace 0 rest lexemes) :
    Trace 0 rest (marks ++ lexemes) := by
  induction marks with
  | nil => exact others
  | cons lexeme marks inductionHypothesis =>
      have here := every lexeme List.mem_cons_self
      exact .mark here.1 here.2 (inductionHypothesis fun lexeme member =>
        every lexeme (List.mem_cons_of_mem _ member))

theorem kind_of_piece?
    {chars : List Char}
    {piece : Piece}
    (cut : piece? chars = some piece) :
    piece.kind ∈ [.name, .keyword, .number, .string, .operator] := by
  have word : ∀ {chars piece}, word? chars = some piece → piece.kind ∈ [.name, .keyword] := by
    intro chars piece cut
    simp only [word?] at cut
    split at cut
    · cases cut
    · obtain rfl := Option.some.inj cut
      dsimp only
      split
      · simp
      · simp
  have string : ∀ {letters chars piece}, string? letters chars = some piece →
      piece.kind = .string := by
    intro letters chars piece cut
    unfold string? at cut
    split at cut
    · cases cut
    · obtain rfl := Option.some.inj cut
      rfl
  have number : ∀ {chars piece}, number? chars = some piece → piece.kind = .number := by
    intro chars piece cut
    unfold number? at cut
    split at cut
    · cases cut
    · obtain rfl := Option.some.inj cut
      rfl
  have operator : ∀ {chars piece}, operator? chars = some piece → piece.kind = .operator := by
    intro chars piece cut
    simp only [operator?] at cut
    split at cut
    · obtain rfl := Option.some.inj cut
      rfl
    · cases cut
  cases chars with
  | nil => cases cut
  | cons char after =>
      simp only [piece?] at cut
      split at cut
      · split at cut
        · rw [string cut]
          simp
        · have kinds := word cut
          simp only [List.mem_cons, List.not_mem_nil, or_false] at kinds ⊢
          tauto
      · split at cut
        · rw [number cut]
          simp
        · split at cut
          · rw [string cut]
            simp
          · rw [operator cut]
            simp

theorem not_of_mem_head_dropWhile
    {test : Char → Bool}
    {chars : List Char}
    {char : Char}
    (member : char ∈ (chars.dropWhile test).head?) :
    test char = false := by
  have head := List.head?_dropWhile_not test chars
  rwa [Option.mem_def.mp member] at head

section Spread

variable {fore aft rest spread : List Char}

/-- A lexeme is a piece of a text and no mark. -/
def isPiece (lexeme : Lexeme) : Bool :=
  [.name, .keyword, .number, .string, .operator].contains lexeme.kind

theorem isPiece_of_cut
    {piece : Piece}
    {lexeme : Lexeme}
    (cut : firstPiece? rest = some piece)
    (kind : lexeme.kind = piece.kind) :
    lexeme.isPiece = true := by
  rw [firstPiece?] at cut
  split at cut
  · cases cut
  · split at cut
    · cases cut
    · rw [isPiece, kind, List.contains_iff_mem]
      exact kind_of_piece? cut

end Spread
end Lexeme
end Predicate
end Wordbook
