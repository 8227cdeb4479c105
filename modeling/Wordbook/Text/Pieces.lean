/-!
# Pieces of text

Cutting a text at every character of a class, joining pieces with a separator, and filling a text up
to a width.
-/

namespace Wordbook
namespace Text

/-- The pieces between the characters of a class, empty ones included. -/
def cutAt (cuts : Char → Bool) : List Char → List (List Char)
  | [] => [[]]
  | char :: rest =>
      if cuts char then [] :: cutAt cuts rest
      else
        match cutAt cuts rest with
        | piece :: pieces => (char :: piece) :: pieces
        | [] => [[char]]

/-- Pieces with a separator between them. -/
def joinWith (separator : List Char) : List (List Char) → List Char
  | [] => []
  | [piece] => piece
  | piece :: pieces => piece ++ separator ++ joinWith separator pieces

/-- Text filled up with blanks at its end to a width. -/
def padEnd (width : Nat) (text : String) : String :=
  text ++ String.ofList (List.replicate (width - text.length) ' ')

/-- Text filled up with blanks at its start to a width. -/
def padStart (width : Nat) (text : String) : String :=
  String.ofList (List.replicate (width - text.length) ' ') ++ text

/-- One text starts with another. -/
def startsWith : List Char → List Char → Bool
  | _, [] => true
  | [], _ :: _ => false
  | char :: chars, start :: starts => char == start && startsWith chars starts

/-- One text ends with another. -/
def endsWith (chars ending : List Char) : Bool := startsWith chars.reverse ending.reverse

end Text
end Wordbook
