import Wordbook.Predicate.Traversal

/-!
# Arguments of calls

How the arguments of a call are matched with what a function takes: none, one, a number of them
within bounds, or parameters that can be given by name.  Each way has its own words for a call that
does not fit.
-/

namespace Wordbook
namespace Predicate

/-- The plural of a count. -/
def plural (count : Nat) : String := if count = 1 then "" else "s"

namespace Arguments

/-- No argument may be given by name to the function of a shown name. -/
def unnamed (arguments : Arguments) (shown : String) : Except Fault (List Value) :=
  if arguments.named.isEmpty then .ok arguments.positional
  else .error (.typing (shown ++ "() takes no keyword arguments"))

/-- There must be no arguments. -/
def nothing (arguments : Arguments) (shown : String) : Except Fault Unit := do
  let given ← arguments.unnamed shown
  if given.isEmpty then return ()
  else
    throw (.typing (shown ++ "() takes no arguments (" ++ toString given.length ++ " given)"))

/-- There must be one argument. -/
def single (arguments : Arguments) (shown : String) : Except Fault Value := do
  match ← arguments.unnamed shown with
  | [value] => return value
  | given =>
      throw (.typing (shown ++ "() takes exactly one argument (" ++ toString given.length ++
        " given)"))

/-- The fault of a number of arguments that is out of bounds. -/
def expected (name : String) (least most given : Nat) : Fault :=
  let wanted := if given < least then least else most
  let bound := if least = most then "" else if given < least then "at least " else "at most "
  .typing (name ++ " expected " ++ bound ++ toString wanted ++ " argument" ++ plural wanted ++
    ", got " ++ toString given)

/-- The number of arguments must be within bounds; `shown` is the full name of the function. -/
def between (arguments : Arguments) (name shown : String) (least most : Nat) :
    Except Fault (List Value) := do
  let given ← arguments.unnamed shown
  if given.length < least || most < given.length then
    throw (expected name least most given.length)
  else return given

/-- The number of arguments must be within bounds, said in other words. -/
def takes (arguments : Arguments) (name shown : String) (least most : Nat) :
    Except Fault (List Value) := do
  let given ← arguments.unnamed shown
  let count := given.length
  if count < least || most < count then
    let wanted := if count < least then least else most
    let bound := if least = most then "exactly" else if count < least then "at least" else "at most"
    throw (.typing (name ++ "() takes " ++ bound ++ " " ++ toString wanted ++ " argument" ++
      plural wanted ++ " (" ++ toString count ++ " given)"))
  else return given

/-- The value given by name for a parameter. -/
def named? (arguments : Arguments) (parameter : String) : Option Value :=
  (arguments.named.find? fun entry => entry.1 == parameter).map Prod.snd

/-- The fault of a name that no parameter has. -/
def unexpected (name parameter : String) : Fault :=
  .typing ("'" ++ parameter ++ "' is an invalid keyword argument for " ++ name ++ "()")

/-- Match arguments with parameters, the first of which cannot be given by name; so many must be
given, and so many may be given by place. -/
def bind (arguments : Arguments) (name : String) (unnamedCount : Nat) (parameters : List String)
    (least most : Nat) : Except Fault (List (Option Value)) := do
  let total := unnamedCount + parameters.length
  let given := arguments.positional.length
  let all := given + arguments.named.length
  if total < all then
    throw (.typing (name ++ "() takes at most " ++ toString total ++ " " ++
      (if given = 0 then "keyword " else "") ++ "argument" ++ plural total ++ " (" ++
      toString all ++ " given)"))
  if most < given then
    if most = 0 then throw (.typing (name ++ "() takes no positional arguments"))
    else
      throw (.typing (name ++ "() takes " ++ (if least < most then "at most" else "exactly") ++
        " " ++ toString most ++ " positional argument" ++ plural most ++ " (" ++ toString given ++
        " given)"))
  let leastUnnamed := min unnamedCount least
  if given < leastUnnamed then
    throw (.typing (name ++ "() takes " ++
      (if leastUnnamed < most then "at least" else "exactly") ++ " " ++ toString leastUnnamed ++
      " positional argument" ++ plural leastUnnamed ++ " (" ++ toString given ++ " given)"))
  let byPlace := arguments.positional.map some
  let places := (List.range total).zip (List.replicate unnamedCount "" ++ parameters)
  for (place, parameter) in places do
    if given ≤ place && place < least && (arguments.named? parameter).isNone then
      throw (.typing (name ++ "() missing required argument '" ++ parameter ++ "' (pos " ++
        toString (place + 1) ++ ")"))
  for (place, parameter) in places do
    if unnamedCount ≤ place && place < given && (arguments.named? parameter).isSome then
      throw (.typing ("argument for " ++ name ++ "() given by name ('" ++ parameter ++
        "') and position (" ++ toString (place + 1) ++ ")"))
  match arguments.named.find? fun entry => !parameters.contains entry.1 with
  | some entry => throw (unexpected name entry.1)
  | none =>
      return byPlace ++ ((places.drop given).map fun place =>
        if place.2.isEmpty then none else arguments.named? place.2)

end Arguments

/-- A value that must be an integer. -/
def integer (value : Value) : Except Fault Int :=
  match value.int? with
  | some found => .ok found
  | none => .error (.notInteger value)

/-- A value that must be an integer of a machine word. -/
def wordInteger (value : Value) : Except Fault Int := do
  let found ← integer value
  if Work.fitsWord found then return found else throw .tooLargeForWord

/-- A value that must be a small integer. -/
def smallInteger (value : Value) : Except Fault Int := do
  let found ← integer value
  if -(Int.pow 2 31) ≤ found && found < Int.pow 2 31 then return found
  else throw .tooLargeForHalfWord

/-- An argument at a place that must be text. -/
def textArgument (name : String) (place : Nat) (value : Value) : Except Fault String :=
  match value with
  | .text text _ => .ok text
  | _ =>
      .error (.typing (name ++ "() argument " ++ toString place ++ " must be str, not " ++
        (if value.typeOf == .nothing then "None" else value.label)))

end Predicate
end Wordbook
