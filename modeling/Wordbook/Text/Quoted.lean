import Wordbook.Text.Hexadecimal
import Wordbook.Unicode.Class

/-!
# Quoted text

Text and bytes written between quotes so that every character is visible.  The quotes are single
unless the text holds single quotes and no double ones.
-/

namespace Wordbook
namespace Text

/-- The single quote. -/
def singleQuote : Char := Char.ofNat 39

/-- The double quote. -/
def doubleQuote : Char := Char.ofNat 34

/-- The backslash. -/
def backslash : Char := Char.ofNat 92

/-- The quote that needs no escape in a text, the single one if there is a choice. -/
def chooseQuote (chars : List Char) : Char :=
  if chars.contains singleQuote && !chars.contains doubleQuote then doubleQuote else singleQuote

/-- A character as it stands inside quoted text. -/
def quoteChar (quote char : Char) : List Char :=
  let code := char.toNat
  if char == quote || char == backslash then [backslash, char]
  else if code == 9 then [backslash, 't']
  else if code == 10 then [backslash, 'n']
  else if code == 13 then [backslash, 'r']
  else if 32 ≤ code && code < 127 then [char]
  else if 127 < code && Unicode.isPrintable char then [char]
  else escapedCode code

/-- Text between quotes. -/
def quoteChars (chars : List Char) : List Char :=
  let quote := chooseQuote chars
  quote :: chars.flatMap (quoteChar quote) ++ [quote]

/-- Text between quotes. -/
def quoted (text : String) : String := String.ofList (quoteChars text.toList)

/-- A byte as it stands inside quoted bytes. -/
def quoteByte (quote : Char) (byte : UInt8) : List Char :=
  let code := byte.toNat
  if code < 127 then quoteChar quote (Char.ofNat code) else backslash :: 'x' :: hexPadded 2 code

/-- Bytes between quotes after the letter `b`. -/
def quotedBytes (bytes : List UInt8) : String :=
  let quote := chooseQuote (bytes.map fun byte => Char.ofNat byte.toNat)
  String.ofList ('b' :: quote :: bytes.flatMap (quoteByte quote) ++ [quote])

end Text
end Wordbook
