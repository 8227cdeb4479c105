import Wordbook.CommandLine.Grammar
import Wordbook.Text.Pieces

/-!
# Help texts

A help text starts with the usage and goes on with sections of two columns.  Lines are at most
seventy-eight characters wide, and the second column starts at the twenty-fourth at the latest.
-/

namespace Wordbook
namespace CommandLine
namespace Help

/-- The width of a line. -/
def width : Nat := 78

/-- Where the second column starts at the latest. -/
def columnLimit : Nat := 24

/-- A row of two columns with a margin. -/
structure Row where
  margin : Nat
  title : String
  text : String

/-- A section: its title, what stands above its rows, and the rows. -/
structure Part where
  title : String
  intro : Option String
  rows : List Row

/-- Blanks. -/
def blanks (count : Nat) : String := String.ofList (List.replicate count ' ')

/-- Words on lines of a width, `line` being the current one. -/
def wrapFrom (limit : Nat) (line : String) : List String → List String
  | [] => if line.isEmpty then [] else [line]
  | word :: words =>
      if line.isEmpty then wrapFrom limit word words
      else if line.length + 1 + word.length ≤ limit then wrapFrom limit (line ++ " " ++ word) words
      else line :: wrapFrom limit word words

/-- A text on lines of a width. -/
def wrap (limit : Nat) (text : String) : List String :=
  wrapFrom limit "" ((Text.cutAt (· == ' ') text.toList).map String.ofList)

/-- Pieces of a usage on lines behind a margin; `used` is the length of the current line. -/
def layOut (margin : Nat) (used : Nat) (line : List String) : List String → List (List String)
  | [] => if line.isEmpty then [] else [line]
  | piece :: pieces =>
      if width < used + 1 + piece.length && !line.isEmpty then
        line :: layOut margin (margin + piece.length) [piece] pieces
      else layOut margin (used + 1 + piece.length) (line ++ [piece]) pieces

/-- An option in a usage. -/
def flagPiece (flag : Flag) : String :=
  let spelling := flag.spellings.headD ""
  match flag.value with
  | some value => "[" ++ spelling ++ " " ++ value ++ "]"
  | none => "[" ++ spelling ++ "]"

/-- The names of some commands between braces. -/
def choices (commands : List String) : String := "\x7b" ++ ",".intercalate commands ++ "\x7d"

/-- A place in a usage. -/
def slotPieces (commands : List String) : Slot → List String
  | .one name _ => [name]
  | .maybe name _ => ["[" ++ name ++ "]"]
  | .command => [choices commands, "..."]

/-- The usage of a program. -/
def usage (program : String) (grammar : Grammar) (commands : List String) : List String :=
  let lead := "usage: " ++ program
  let flags := grammar.flags.map flagPiece
  let places := grammar.slots.flatMap (slotPieces commands)
  let whole := " ".intercalate (lead :: flags ++ places)
  if whole.length ≤ width then [whole]
  else
    let margin := lead.length + 1
    let first := (layOut margin lead.length [] flags).map (" ".intercalate ·)
    let second := (layOut margin (margin - 1) [] places).map (" ".intercalate ·)
    match first ++ second with
    | [] => [lead]
    | line :: rest => (lead ++ " " ++ line) :: rest.map (blanks margin ++ ·)

/-- How an option is shown in a section. -/
def flagTitle (flag : Flag) : String :=
  ", ".intercalate (flag.spellings.map fun spelling =>
    match flag.value with
    | some value => spelling ++ " " ++ value
    | none => spelling)

/-- The row of an option. -/
def flagRow (flag : Flag) : Row := ⟨2, flagTitle flag, flag.help⟩

/-- The row of a place. -/
def slotRow? : Slot → Option Row
  | .one name help => some ⟨2, name, help⟩
  | .maybe name help => some ⟨2, name, help⟩
  | .command => none

/-- Where the second column starts. -/
def column (parts : List Part) : Nat :=
  let widest := (parts.flatMap Part.rows).foldl
    (fun found row => max found (row.margin + row.title.length)) 0
  min (widest + 2) columnLimit

/-- The lines of a row. -/
def rowLines (start : Nat) (row : Row) : List String :=
  let first := blanks row.margin ++ row.title
  match wrap (width - start) row.text with
  | [] => [first]
  | text :: more =>
      let others := more.map (blanks start ++ ·)
      if first.length + 2 ≤ start then (Text.padEnd start first ++ text) :: others
      else first :: (blanks start ++ text) :: others

/-- The lines of a section. -/
def partLines (start : Nat) (part : Part) : List String :=
  let intro := match part.intro with
    | some text => [blanks 2 ++ text, ""]
    | none => []
  (part.title ++ ":") :: intro ++ part.rows.flatMap (rowLines start)

/-- The parts of a help text with empty lines between them. -/
def spaced (blocks : List (List String)) : String :=
  "\n".intercalate (blocks.map ("\n".intercalate ·) |>.intersperse "") ++ "\n"

/-- The sections of the places and the options of a grammar that are not empty. -/
def parts (grammar : Grammar) : List Part :=
  [⟨"positional arguments", none, grammar.slots.filterMap slotRow?⟩,
    ⟨"options", none, grammar.flags.map flagRow⟩].filter fun part => !part.rows.isEmpty

/-- The help text of a command. -/
def ofCommand (program : String) (grammar : Grammar) : String :=
  let found := parts grammar
  spaced (usage program grammar [] :: found.map (partLines (column found)))

/-- The help text of a program with commands. -/
def ofProgram (program description : String) (grammar : Grammar)
    (commands : List (String × String)) (closing : String) : String :=
  let names := commands.map Prod.fst
  let table : Part :=
    ⟨"commands", some "Available commands",
      ⟨2, choices names, ""⟩ :: commands.map fun command => ⟨4, command.1, command.2⟩⟩
  let found := parts grammar ++ [table]
  spaced ([usage program grammar names, [description]] ++ found.map (partLines (column found)) ++
    [[closing]])

end Help
end CommandLine
end Wordbook
