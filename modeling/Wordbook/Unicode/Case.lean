import Wordbook.Unicode.CaseTable
import Wordbook.Unicode.CasedTable

/-!
# Letter case

Full, language-independent case conversion.  One character may become several, and a capital sigma
becomes its final form at the end of a word when text is lowered.
-/

namespace Wordbook
namespace Unicode

/-- The code points that a case mapping, given by its expansions and shifts, makes of one. -/
def mapCode (expansions : List (Nat × List Nat)) (shifts : List Shift) (code : Nat) : List Nat :=
  match expansions.find? fun entry => entry.1 == code with
  | some entry => entry.2
  | none =>
      match shifts.find? fun shift => shift.contains code with
      | some shift => [shift.apply code]
      | none => [code]

/-- The upper-case form of a character. -/
def upperChar (char : Char) : List Char :=
  (mapCode upperExpansions upperShifts char.toNat).map Char.ofNat

/-- The lower-case form of a character, apart from the final sigma. -/
def lowerChar (char : Char) : List Char :=
  (mapCode lowerExpansions lowerShifts char.toNat).map Char.ofNat

/-- The title-case form of a character. -/
def titleChar (char : Char) : List Char :=
  (mapCode titleExpansions titleShifts char.toNat).map Char.ofNat

/-- The form of a character for comparisons that ignore case. -/
def foldChar (char : Char) : List Char :=
  (mapCode foldExpansions foldShifts char.toNat).map Char.ofNat

/-- A character has the upper-case property. -/
def isUpper (char : Char) : Bool := inStrides upperLetters char.toNat

/-- A character has the lower-case property. -/
def isLower (char : Char) : Bool := inStrides lowerLetters char.toNat

/-- A character is a title-case letter. -/
def isTitleLetter (char : Char) : Bool := inRanges titleLetters char.toNat

/-- A character has a case. -/
def isCased (char : Char) : Bool := isUpper char || isLower char || isTitleLetter char

/-- A character is passed over when looking for a neighbouring cased letter. -/
def isCaseIgnorable (char : Char) : Bool := inRanges caseIgnorable char.toNat

/-- The nearest character that is not passed over exists and is cased. -/
def meetsCased (chars : List Char) : Bool :=
  match chars.dropWhile isCaseIgnorable with
  | [] => false
  | char :: _ => isCased char

/-- Lower one character between the reversed text before it and the text after it. -/
def lowerInContext (before : List Char) (char : Char) (after : List Char) : List Char :=
  if char.toNat == 0x3a3 then
    if meetsCased before && !meetsCased after then [Char.ofNat 0x3c2] else [Char.ofNat 0x3c3]
  else lowerChar char

/-- Lower text whose reversed left context is given. -/
def lowerAfter (before : List Char) : List Char → List Char
  | [] => []
  | char :: after => lowerInContext before char after ++ lowerAfter (char :: before) after

/-- Upper-case text. -/
def upper (chars : List Char) : List Char := chars.flatMap upperChar

/-- Lower-case text. -/
def lower (chars : List Char) : List Char := lowerAfter [] chars

/-- Text folded for comparisons that ignore case. -/
def caseFold (chars : List Char) : List Char := chars.flatMap foldChar

/-- Text with its first character in title case and the rest lowered. -/
def capitalize : List Char → List Char
  | [] => []
  | char :: after => titleChar char ++ lowerAfter [char] after

/-- Title-case text whose reversed left context is given, the flag telling whether the character
before is cased. -/
def titleAfter (before : List Char) (inWord : Bool) : List Char → List Char
  | [] => []
  | char :: after =>
      (if inWord then lowerInContext before char after else titleChar char) ++
        titleAfter (char :: before) (isCased char) after

/-- Text in which every word starts in title case and goes on lowered. -/
def title (chars : List Char) : List Char := titleAfter [] false chars

/-- Text with every upper-case letter lowered and every lower-case letter raised. -/
def swapCaseAfter (before : List Char) : List Char → List Char
  | [] => []
  | char :: after =>
      (if isUpper char then lowerInContext before char after
       else if isLower char then upperChar char
       else [char]) ++ swapCaseAfter (char :: before) after

/-- Text with the two cases exchanged. -/
def swapCase (chars : List Char) : List Char := swapCaseAfter [] chars

/-- Some letter is upper case, and none is lower or title case. -/
def allUpper (chars : List Char) : Bool :=
  chars.any isUpper && chars.all fun char => !(isLower char || isTitleLetter char)

/-- Some letter is lower case, and none is upper or title case. -/
def allLower (chars : List Char) : Bool :=
  chars.any isLower && chars.all fun char => !(isUpper char || isTitleLetter char)

/-- Whether the rest of a text keeps to title case, given whether the character before is cased and
whether a cased character was seen. -/
def keepsTitle (inWord seen : Bool) : List Char → Bool
  | [] => seen
  | char :: after =>
      if isUpper char || isTitleLetter char then
        if inWord then false else keepsTitle true true after
      else if isLower char then
        if inWord then keepsTitle true true after else false
      else keepsTitle false seen after

/-- Every word starts with a capital, goes on in lower case, and there is a word. -/
def isTitle (chars : List Char) : Bool := keepsTitle false false chars

end Unicode
end Wordbook
