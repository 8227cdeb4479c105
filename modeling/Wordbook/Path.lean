import Wordbook.Issue
import Wordbook.Json.Display
import Wordbook.Text.Blank
import Wordbook.Text.Pieces

/-!
# Paths of the file store

A path is a list of segments below a root.  Both slashes separate segments, empty segments and
single dots are dropped, and a path that climbs is refused.
-/

namespace Wordbook
namespace Path

/-- A character separates segments. -/
def isSlash (char : Char) : Bool := char.toNat == 47 || char.toNat == 92

/-- A segment that stands for its own directory. -/
def isIdle (segment : List Char) : Bool := segment.isEmpty || segment == ['.']

/-- The segments of a path, or nothing if one of them climbs. -/
def segments? (path : String) : Option (List String) :=
  let pieces := (Text.cutAt isSlash path.toList).filter fun piece => !isIdle piece
  if pieces.contains ['.', '.'] then none else some (pieces.map String.ofList)

/-- The segments of a path that any value may stand for. -/
def segments (path : Json) : Except Issue (List String) :=
  match segments? path.plain with
  | some names => .ok names
  | none => .error (.storage (.escapesRoot path.plain))

/-- The text of a path. -/
def ofSegments (names : List String) : String := "/" ++ "/".intercalate names

/-- The canonical form of a path that any value may stand for. -/
def normalize (path : Json) : Except Issue String := (segments path).map ofSegments

/-- A path below a directory; an absolute one stands for itself. -/
def join (directory path : String) : String :=
  if Text.startsWith path.toList ['/'] then path
  else if directory.isEmpty || Text.endsWith directory.toList ['/'] then directory ++ path
  else directory ++ "/" ++ path

/-- The directory that exports go to. -/
def documents : String := "/Documents"

/-- The name of an export that was given none: it tells the clock's milliseconds. -/
def defaultExportName (clock : Int) : String :=
  "token-system-" ++ Number.decimalText (clock.fdiv 1000000) ++ ".json"

end Path
end Wordbook
