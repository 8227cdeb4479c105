import Wordbook.Proofs.Predicate.Wording

/-!
# Wrapped bodies

A body is put into the text of a function with a margin before its lines.  That the text is parsed
to its end follows from what it takes for parsers that are put together to match.
-/

namespace Wordbook
namespace Predicate
namespace Parser

variable {First Second : Type} {source : Source} {cursor after : Cursor}

end Parser

namespace Source

open Predicate.Parser

end Source
/-- The text or the bytes that a literal denotes, if it denotes either. -/
def Literal.string? : Literal → Option (String ⊕ List UInt8)
  | .text value => some (.inl value)
  | .bytes value => some (.inr value)
  | _ => none

namespace Node

mutual

/-- The texts and bytes that the literals of a tree denote. -/
def strings : Node → List (String ⊕ List UInt8)
  | mk _ _ (.literal value) parts => value.string?.toList ++ stringsOf parts
  | mk _ _ _ parts => stringsOf parts

/-- The texts and bytes that the literals of some trees denote. -/
def stringsOf : List Node → List (String ⊕ List UInt8)
  | [] => []
  | node :: nodes => strings node ++ stringsOf nodes

end

end Node

namespace Definition

open Lexeme

end Definition
end Predicate
end Wordbook
