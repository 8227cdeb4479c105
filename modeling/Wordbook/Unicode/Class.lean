import Wordbook.Unicode.IdentifierTable
import Wordbook.Unicode.LetterTable
import Wordbook.Unicode.NumberTable
import Wordbook.Unicode.PrintableTable

/-!
# Character classes

Letters, the nested classes of numerals, printable characters and the characters of identifiers.
-/

namespace Wordbook
namespace Unicode

/-- A character is a letter. -/
def isLetter (char : Char) : Bool := inRanges letterRanges char.toNat

/-- The value of a decimal digit of any script. -/
def decimalValue? (char : Char) : Option Nat :=
  (decimalZeros.find? fun first => first ≤ char.toNat && char.toNat ≤ first + 9).map fun first =>
    char.toNat - first

/-- A character is a decimal digit of some script. -/
def isDecimal (char : Char) : Bool := (decimalValue? char).isSome

/-- A character stands for one digit. -/
def isDigit (char : Char) : Bool := inRanges digitRanges char.toNat

/-- A character has a numeric value. -/
def isNumeral (char : Char) : Bool := inRanges numeralRanges char.toNat

/-- A character is a letter or has a numeric value. -/
def isLetterOrNumeral (char : Char) : Bool :=
  isLetter char || isDecimal char || isDigit char || isNumeral char

/-- A character is shown as itself inside quoted text. -/
def isPrintable (char : Char) : Bool := inRanges printableRanges char.toNat

/-- A character may open an identifier. -/
def isIdentifierStart (char : Char) : Bool := inRanges identifierStartRanges char.toNat

/-- A character may stand anywhere in an identifier. -/
def isIdentifierPart (char : Char) : Bool := inRanges identifierPartRanges char.toNat

/-- Text has the form of an identifier. -/
def isIdentifier : List Char → Bool
  | [] => false
  | char :: rest => isIdentifierStart char && rest.all isIdentifierPart

end Unicode
end Wordbook
