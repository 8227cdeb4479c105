/-!
# JSON values

Numbers are kept apart as integers of any size and binary floating point numbers, and the members of
an object keep the order in which their names first came.
-/

namespace Wordbook

/-- A JSON value. -/
inductive Json where
  | null
  | bool (value : Bool)
  | int (value : Int)
  | float (value : Float)
  | str (value : String)
  | arr (items : List Json)
  | obj (members : List (String × Json))
deriving Inhabited

namespace Json

/-- Put a member under its name: a name already there keeps its place and gets the new value. -/
def putMember (name : String) (value : Json) : List (String × Json) → List (String × Json)
  | [] => [(name, value)]
  | member :: rest =>
      if member.1 == name then (name, value) :: rest else member :: putMember name value rest

/-- The value of a member. -/
def member? (name : String) (members : List (String × Json)) : Option Json :=
  (members.find? fun member => member.1 == name).map fun member => member.2

/-- The value of a member, null when there is none. -/
def memberOrNull (name : String) (members : List (String × Json)) : Json :=
  (member? name members).getD .null

/-- A value is null. -/
def isNull : Json → Bool
  | .null => true
  | _ => false

/-- A value counts as true: it is not null, false, zero or empty. -/
def isTruthy : Json → Bool
  | .null => false
  | .bool value => value
  | .int value => value != 0
  | .float value => !(value == 0.0)
  | .str value => !value.isEmpty
  | .arr items => !items.isEmpty
  | .obj members => !members.isEmpty

end Json
end Wordbook
