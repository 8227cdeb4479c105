import Wordbook.Predicate.Elaboration
import Wordbook.Predicate.Grammar
import Wordbook.Predicate.Sandbox
import Wordbook.Text.Lines

/-!
# Definitions

The body of a relation is an expression, or the statements of a function of two tokens.  A body is
put into the text of that function, an expression as what the function gives back; the text is
parsed, held against the rules of the sandbox, and turned into a program.
-/

namespace Wordbook
namespace Predicate

/-- Why a body is refused. -/
inductive Refusal where
  | unreadable (line : Option Nat)
  | outside
  | violation (violation : Violation)
  | nullByte
  | tooHighToBuild
  | tooHighToCompile
deriving DecidableEq

/-- The words for a refusal.  Lines are counted within the body, which stands one line below the
start of the function. -/
def Refusal.message : Refusal → String
  | .unreadable line =>
      "<syntax error>" ++
        (match line with
          | some line => if line > 1 then " (line " ++ toString (line - 1) ++ ")" else ""
          | none => "")
  | .outside => "relation body must stay inside the predicate"
  | .violation found => found.message
  | .nullByte => "source code string cannot contain null bytes"
  | .tooHighToBuild => "maximum recursion depth exceeded during ast construction"
  | .tooHighToCompile => "maximum recursion depth exceeded while traversing 'expr' node"

/-- A body is refused, or it is too deep to be parsed at all. -/
inductive CompileFault where
  | refused (refusal : Refusal)
  | tooDeep
deriving DecidableEq

/-- The fault of a compilation for one of parsing. -/
def ParseFault.asCompileFault (fault : ParseFault) : CompileFault :=
  match fault.line? with
  | some line => .refused (.unreadable (some line))
  | none => .tooDeep

namespace Definition

/-- The name of the function that a body is put into. -/
def functionName : String := "relation_predicate"

/-- The text before the body. -/
def opening : String :=
  "def " ++ functionName ++ "(" ++ ", ".intercalate parameterNames ++ "):\n"

/-- What stands before each line of a body that is not blank. -/
def margin : List Char := List.replicate 4 ' '

/-- An expression as a statement that gives its value back. -/
def giving (body : List Char) : List Char :=
  "return (\n".toList ++ body ++ "\n)".toList

/-- The text of the function with a body of statements. -/
def around (body : List Char) : List Char :=
  opening.toList ++ Text.indent margin body ++ ['\n']

/-- How many levels the tree of a text may have. -/
def buildingLimit : Nat := 2960

/-- How many levels the tree of a statement may have to be turned into a program. -/
def compilingLimit : Nat := 985

/-- Trees that are not too high to be built. -/
def built (trees : List Node) : Except CompileFault (List Node) :=
  if trees.any (Node.isHigherThan buildingLimit) then .error (.refused .tooHighToBuild)
  else .ok trees

/-- The tree of a body that is an expression, and none for one that is not. -/
def expression? (body : List Char) : Except CompileFault (Option Node) :=
  if body.contains (Char.ofNat 0) then .error (.refused .nullByte)
  else
    match parse .expression (Lexeme.plainLines body) with
    | .ok nodes => return (← built nodes).head?
    | .error .tooDeep => throw .tooDeep
    | .error _ => return none

/-- The text of the function that a body is put into. -/
def wrapped (body : List Char) : Except CompileFault (List Char) := do
  match ← expression? body with
  | some _ => return around (giving body)
  | none => return around body

/-- The trees of a text of statements. -/
def module (text : List Char) : Except CompileFault (List Node) :=
  match parse .statements (Lexeme.plainLines text) with
  | .ok nodes => built nodes
  | .error fault => throw fault.asCompileFault

/-- The statements of the only function in a text. -/
def statements : List Node → Except CompileFault (List Node)
  | [.mk .functionDef _ (.name _) (_ :: body)] => return body
  | _ => throw (.refused .outside)

/-- The statements of the function that a body is put into. -/
def trees (body : List Char) : Except CompileFault (List Node) := do
  statements (← module (← wrapped body))

/-- The program of a body. -/
def compile (body : List Char) : Except CompileFault (List Statement) := do
  let trees ← trees body
  match Sandbox.check trees with
  | some violation => throw (.refused (.violation violation))
  | none =>
      if trees.any (Node.isHigherThan compilingLimit) then throw (.refused .tooHighToCompile)
      match Program.ofNodes trees with
      | .ok program => return program
      | .error line => throw (.refused (.unreadable (some line)))

end Definition
end Predicate
end Wordbook
