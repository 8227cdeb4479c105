import Wordbook.Predicate.Run
import Wordbook.Predicate.Sandbox

/-!
# Names

A name belongs to the innermost scope that binds it somewhere, and has a value there from its first
assignment on.  A name that no scope binds may be that of a function or a type.
-/

namespace Wordbook
namespace Predicate

/-- The function or type of a name. -/
def builtin? (name : String) : Option Value :=
  match name with
  | "abs" => some (.function .abs)
  | "all" => some (.function .all)
  | "any" => some (.function .any)
  | "bool" => some (.type .bool)
  | "chr" => some (.function .chr)
  | "dict" => some (.type .dict)
  | "divmod" => some (.function .divmod)
  | "enumerate" => some (.type .enumeration)
  | "filter" => some (.type .filter)
  | "float" => some (.type .float)
  | "frozenset" => some (.type .frozenset)
  | "int" => some (.type .int)
  | "isinstance" => some (.function .isinstance)
  | "len" => some (.function .len)
  | "list" => some (.type .list)
  | "map" => some (.type .map)
  | "max" => some (.function .max)
  | "min" => some (.function .min)
  | "ord" => some (.function .ord)
  | "range" => some (.type .range)
  | "reversed" => some (.type .reversal)
  | "round" => some (.function .round)
  | "set" => some (.type .set)
  | "sorted" => some (.function .sorted)
  | "str" => some (.type .text)
  | "sum" => some (.function .sum)
  | "tuple" => some (.type .tuple)
  | "zip" => some (.type .zip)
  | _ => none

namespace Environment

/-- The scope that a name belongs to, and where it stands from the innermost one. -/
def scopeOf? (environment : Environment) (name : String) : Option (Scope × Place) :=
  match environment with
  | [] => none
  | scope :: outer =>
      if scope.names.contains name then some (scope, .here)
      else (outer.find? fun around => around.names.contains name).map fun found => (found, .around)

/-- The value of a name. -/
def value (environment : Environment) (name : String) : Run Value := do
  match scopeOf? environment name with
  | some (scope, place) =>
      match (← Run.bindings scope.address).find? fun binding => binding.1 == name with
      | some binding => return binding.2
      | none => Run.stop (.unbound name place)
  | none =>
      match builtin? name with
      | some found => return found
      | none => Run.stop (.unbound name .anywhere)

/-- Some bindings with a new value for a name. -/
def rebind (name : String) (value : Value) : Bindings → Bindings
  | [] => [(name, value)]
  | binding :: bindings =>
      if binding.1 == name then (name, value) :: bindings else binding :: rebind name value bindings

/-- Give a name a value in the scope that it belongs to. -/
def bind (environment : Environment) (name : String) (value : Value) : Run Unit :=
  match scopeOf? environment name with
  | some (scope, _) => Run.updateScope scope.address (rebind name value)
  | none => return ()

end Environment
end Predicate
end Wordbook
