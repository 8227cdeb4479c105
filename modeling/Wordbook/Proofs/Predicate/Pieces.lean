import Wordbook.Proofs.Predicate.Spreading

/-!
# Pieces of texts with margins

What is cut off a text and off the same text with margins is the same piece, unless it is a string
that passes a line break.  Other pieces never do.
-/

namespace Wordbook
namespace Predicate
namespace Lexeme

open Text

variable {fore aft rest spread : List Char}

/-- Two readings of the rest of a string, of which `taken` characters were read before. -/
inductive BodyAlike (fore aft rest spread : List Char) (taken taken' : Nat) :
    Option (Nat × Nat) → Option (Nat × Nat) → Prop
  | missed : BodyAlike fore aft rest spread taken taken' none none
  | found
      {after after' : List Char}
      (front front' : List Char)
      (passed passed' : Nat)
      (first : rest = front ++ after)
      (second : spread = front' ++ after')
      (same : Unbroken front → front' = front)
      (behind : Spread fore aft after after') :
      BodyAlike fore aft rest spread taken taken' (some (taken + front.length, passed))
        (some (taken' + front'.length, passed'))
  | unended
      (length : Nat × Nat)
      (more : aft ≠ []) :
      BodyAlike fore aft rest spread taken taken' none (some length)

/-- A reading of the rest of a string behind one more character. -/
theorem BodyAlike.cons
    {taken taken' : Nat}
    {result result' : Option (Nat × Nat)}
    {char : Char}
    {gap : List Char}
    (shape : gap = [] ∨ isLineBreak char = true)
    (alike : BodyAlike fore aft rest spread (taken + 1) (taken' + 1 + gap.length) result result') :
    BodyAlike fore aft (char :: rest) (char :: (gap ++ spread)) taken taken' result result' := by
  cases alike with
  | missed => exact .missed
  | unended length more => exact .unended length more
  | @found after after' front front' passed passed' first second same behind =>
      have length : taken + 1 + front.length = taken + (char :: front).length := by
        rw [List.length_cons]
        omega
      have length' : taken' + 1 + gap.length + front'.length =
          taken' + (char :: (gap ++ front')).length := by
        rw [List.length_cons, List.length_append]
        omega
      rw [length, length']
      refine .found (char :: front) (char :: (gap ++ front')) passed passed'
        (by rw [first, List.cons_append]) (by rw [second]; simp) ?_ behind
      intro solid
      obtain rfl := eq_of_solid shape (solid char List.mem_cons_self)
      rw [List.nil_append, same fun char member => solid char (List.mem_cons_of_mem _ member)]

end Lexeme
end Predicate
end Wordbook
