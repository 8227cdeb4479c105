import Wordbook.Predicate.Node

/-!
# The sandbox

Which syntax a body may use: the kinds of tree, the names that are visible, and the attributes.  The
trees of each statement are looked at level by level, and the first that is not allowed is reported.
-/

namespace Wordbook
namespace Predicate

/-- The names of the two tokens in a body. -/
def parameterNames : List String := ["tokenA", "tokenB"]

/-- The names of the functions and types that a body may use. -/
def builtinNames : List String :=
  ["abs", "all", "any", "bool", "chr", "dict", "divmod", "enumerate", "filter", "float",
    "frozenset", "int", "isinstance", "len", "list", "map", "max", "min", "ord", "range",
    "reversed", "round", "set", "sorted", "str", "sum", "tuple", "zip"]

/-- The attributes that a body may use: the public operations of plain values, without those that
format a template. -/
def allowedAttributes : List String :=
  ["add", "append", "as_integer_ratio", "bit_count", "bit_length", "capitalize", "casefold",
    "center", "clear", "conjugate", "copy", "count", "denominator", "difference",
    "difference_update", "discard", "encode", "endswith", "expandtabs", "extend", "find",
    "from_bytes", "fromhex", "fromkeys", "get", "hex", "imag", "index", "insert", "intersection",
    "intersection_update", "is_integer", "isalnum", "isalpha", "isascii", "isdecimal", "isdigit",
    "isdisjoint", "isidentifier", "islower", "isnumeric", "isprintable", "isspace", "issubset",
    "issuperset", "istitle", "isupper", "items", "join", "keys", "ljust", "lower", "lstrip",
    "maketrans", "numerator", "partition", "pop", "popitem", "real", "remove", "removeprefix",
    "removesuffix", "replace", "reverse", "rfind", "rindex", "rjust", "rpartition", "rsplit",
    "rstrip", "setdefault", "sort", "split", "splitlines", "startswith", "strip", "swapcase",
    "symmetric_difference", "symmetric_difference_update", "title", "to_bytes", "translate",
    "union", "update", "upper", "values", "zfill"]

/-- The kinds of tree that a body may hold. -/
def Kind.isAllowed : Kind → Bool
  | .expression | .returning | .ifStatement | .forLoop | .breaking | .continuing | .passing => true
  | .assign | .augAssign => true
  | .boolOp | .binOp | .unaryOp | .compare | .ifExp | .call | .keyword | .attribute => true
  | .subscript | .slice | .name | .literal | .starred => true
  | .listDisplay | .tupleDisplay | .setDisplay | .dictDisplay | .joinedStr | .formattedValue => true
  | .listComp | .setComp | .dictComp | .generatorExp | .comprehension => true
  | .load | .store => true
  | .andOp | .orOp | .notOp | .invert | .uAdd | .uSub => true
  | .add | .subtract | .multiply | .divide | .floorDivide | .modulo | .power => true
  | .lShift | .rShift | .bitOr | .bitXor | .bitAnd => true
  | .equal | .notEqual | .less | .lessEqual | .greater | .greaterEqual => true
  | .isOp | .isNot | .inOp | .notIn => true
  | _ => false

namespace Node

/-- The trees on a number of levels, the upper level first. -/
def levels : Nat → List Node → List Node
  | 0, _ => []
  | count + 1, nodes => nodes ++ levels count (nodes.flatMap parts)

/-- A tree and all trees in it, level by level. -/
def walk (node : Node) : List Node := levels node.height [node]

/-- The name that a tree binds, if it is a name that is assigned to. -/
def assigned? : Node → Option String
  | mk .name _ (.name name) [mk .store _ _ _] => some name
  | _ => none

end Node

/-- What a body must not hold. -/
inductive Violation where
  | construct (kind : Kind)
  | hiddenName (name : String)
  | unknownName (name : String)
  | attribute (name : String)
deriving DecidableEq

/-- The words for a violation. -/
def Violation.message : Violation → String
  | .construct kind => kind.label ++ " is not allowed in a relation"
  | .hiddenName name => "name '" ++ name ++ "' is not allowed in a relation"
  | .unknownName name => "name '" ++ name ++ "' is not defined"
  | .attribute name => "attribute '" ++ name ++ "' is not allowed in a relation"

namespace Sandbox

/-- The trees of some statements, one statement after the other. -/
def nodes (statements : List Node) : List Node := statements.flatMap Node.walk

/-- The names that may be used besides those that are assigned. -/
def givenNames : List String := parameterNames ++ builtinNames

/-- What is wrong with a tree by itself, when some names are assigned. -/
def violation? (assigned : List String) (node : Node) : Option Violation :=
  if !node.kind.isAllowed then some (.construct node.kind)
  else
    match node.kind, node.payload with
    | .name, .name name =>
        if name.startsWith "_" then some (.hiddenName name)
        else if givenNames.contains name || assigned.contains name then none
        else some (.unknownName name)
    | .attribute, .name name =>
        if allowedAttributes.contains name then none else some (.attribute name)
    | _, _ => none

/-- The first violation in some statements. -/
def check (statements : List Node) : Option Violation :=
  let found := nodes statements
  found.findSome? (violation? (found.filterMap Node.assigned?))

end Sandbox
end Predicate
end Wordbook
