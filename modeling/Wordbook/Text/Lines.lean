import Wordbook.Text.Blank

/-!
# Lines

A text is cut into lines at every line boundary of the Unicode standard, a carriage return followed
by a line feed being one boundary.
-/

namespace Wordbook
namespace Text

/-- A character ends a line. -/
def isLineBreak (char : Char) : Bool :=
  let code := char.toNat
  (0xa ≤ code && code ≤ 0xd) || (0x1c ≤ code && code ≤ 0x1e) || code == 0x85 || code == 0x2028 ||
    code == 0x2029

/-- The lines of a text with their ends, `line` being the reversed beginning of the current one. -/
def cutLines (line : List Char) : List Char → List (List Char × List Char)
  | [] => if line.isEmpty then [] else [(line.reverse, [])]
  | '\r' :: '\n' :: rest => (line.reverse, ['\r', '\n']) :: cutLines [] rest
  | char :: rest =>
      if isLineBreak char then (line.reverse, [char]) :: cutLines [] rest
      else cutLines (char :: line) rest

/-- The lines of a text, each with the characters that end it. -/
def lines (chars : List Char) : List (List Char × List Char) := cutLines [] chars

/-- Text with a margin put before every line that is not blank throughout. -/
def indent (margin : List Char) (chars : List Char) : List Char :=
  (lines chars).flatMap fun (line, ending) =>
    if line.all isBlank then line ++ ending else margin ++ line ++ ending

end Text
end Wordbook
