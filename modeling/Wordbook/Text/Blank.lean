/-!
# Blank characters

The characters that trimming removes and that separate words: the separators and controls that the
Unicode standard gives the directionality of white space, and the spaces of all widths.
-/

namespace Wordbook
namespace Text

/-- A code point is blank. -/
def isBlankCode (code : Nat) : Bool :=
  (0x9 ≤ code && code ≤ 0xd) || (0x1c ≤ code && code ≤ 0x20) || code == 0x85 || code == 0xa0 ||
    code == 0x1680 || (0x2000 ≤ code && code ≤ 0x200a) || code == 0x2028 || code == 0x2029 ||
    code == 0x202f || code == 0x205f || code == 0x3000

/-- A character is blank. -/
def isBlank (char : Char) : Bool := isBlankCode char.toNat

/-- Text without the characters of a class at its end. -/
def trimEndBy (dropped : Char → Bool) (chars : List Char) : List Char :=
  (chars.reverse.dropWhile dropped).reverse

/-- Text without the characters of a class at either end. -/
def trimBy (dropped : Char → Bool) (chars : List Char) : List Char :=
  trimEndBy dropped (chars.dropWhile dropped)

/-- Text without blanks at either end. -/
def trim (text : String) : String := String.ofList (trimBy isBlank text.toList)

/-- A text has no character but blanks. -/
def allBlank (text : String) : Bool := text.toList.all isBlank

/-- Text with every run of blanks replaced by one character. -/
def collapseBlanks (separator : Char) : List Char → List Char
  | [] => []
  | [char] => [if isBlank char then separator else char]
  | char :: next :: rest =>
      if isBlank char then
        if isBlank next then collapseBlanks separator (next :: rest)
        else separator :: collapseBlanks separator (next :: rest)
      else char :: collapseBlanks separator (next :: rest)

end Text
end Wordbook
