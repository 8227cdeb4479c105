import Wordbook.Predicate.Sandbox
import Wordbook.Predicate.Program

/-!
# Policies for programs

A policy tells which names a program may read and assign, and which later parts its generators may
have.  A program that obeys it does so in all its parts.

A program is well scoped for some assigned names when it reads no other names than these, the two
tokens, and the functions and types that are given to every program, and when it assigns to assigned
names only.  Nothing is said about the order of reading and assigning.
-/

namespace Wordbook
namespace Predicate

/-- A policy for programs: the names that it may read and assign, and the later parts that a generator
may have. -/
structure Policy where
  reads : String → Prop
  assigns : String → Prop
  generates : List Clause → Prop

/-- A name that a program may read. -/
def Readable (assigned : String → Prop) (name : String) : Prop :=
  name ∈ parameterNames ∨ name ∈ builtinNames ∨ assigned name

/-- The policy of well scoped programs. -/
def Policy.names (assigned : String → Prop) : Policy := ⟨Readable assigned, assigned, fun _ => True⟩

mutual

/-- An expression that obeys a policy. -/
inductive Expr.Obeys (policy : Policy) : Expr → Prop
  | constant (value : Value) : Expr.Obeys policy (.constant value)
  | variable {name : String} (readable : policy.reads name) : Expr.Obeys policy (.variable name)
  | allOf {values : List Expr} (each : ∀ value ∈ values, value.Obeys policy) :
      Expr.Obeys policy (.allOf values)
  | anyOf {values : List Expr} (each : ∀ value ∈ values, value.Obeys policy) :
      Expr.Obeys policy (.anyOf values)
  | unary {op : UnaryOp} {operand : Expr} (inside : operand.Obeys policy) :
      Expr.Obeys policy (.unary op operand)
  | binary {op : BinaryOp} {left right : Expr} (first : left.Obeys policy)
      (second : right.Obeys policy) : Expr.Obeys policy (.binary op left right)
  | compare {left : Expr} {links : List Link} (first : left.Obeys policy)
      (others : ∀ link ∈ links, link.Obeys policy) : Expr.Obeys policy (.compare left links)
  | choice {test accepted refused : Expr} (decides : test.Obeys policy)
      (first : accepted.Obeys policy) (second : refused.Obeys policy) :
      Expr.Obeys policy (.choice test accepted refused)
  | call {function : Expr} {arguments : List Item} {keywords : List Keyword}
      (callee : function.Obeys policy) (plain : ∀ item ∈ arguments, item.Obeys policy)
      (named : ∀ keyword ∈ keywords, keyword.Obeys policy) :
      Expr.Obeys policy (.call function arguments keywords)
  | attribute {value : Expr} {name : String} (owner : value.Obeys policy) :
      Expr.Obeys policy (.attribute value name)
  | subscript {value index : Expr} (container : value.Obeys policy)
      (key : index.Obeys policy) : Expr.Obeys policy (.subscript value index)
  | slice {lower upper step : Option Expr} (first : ∀ value ∈ lower, value.Obeys policy)
      (second : ∀ value ∈ upper, value.Obeys policy)
      (third : ∀ value ∈ step, value.Obeys policy) : Expr.Obeys policy (.slice lower upper step)
  | list {items : List Item} (each : ∀ item ∈ items, item.Obeys policy) :
      Expr.Obeys policy (.list items)
  | tuple {items : List Item} (each : ∀ item ∈ items, item.Obeys policy) :
      Expr.Obeys policy (.tuple items)
  | set {items : List Item} (each : ∀ item ∈ items, item.Obeys policy) :
      Expr.Obeys policy (.set items)
  | dict {pairs : List Pair} (each : ∀ pair ∈ pairs, pair.Obeys policy) :
      Expr.Obeys policy (.dict pairs)
  | joined {pieces : List Expr} (each : ∀ piece ∈ pieces, piece.Obeys policy) :
      Expr.Obeys policy (.joined pieces)
  | field {value : Expr} {conversion : Conversion} {spec : Option Expr}
      (shown : value.Obeys policy) (layout : ∀ value ∈ spec, value.Obeys policy) :
      Expr.Obeys policy (.field value conversion spec)
  | comprehension {collector : Collector} {element : Expr} {value : Option Expr} {source : Expr}
      {target : Target} {tests : List Expr} {more : List Clause} (made : element.Obeys policy)
      (paired : ∀ second ∈ value, second.Obeys policy) (first : source.Obeys policy)
      (bound : target.Obeys policy) (tested : ∀ test ∈ tests, test.Obeys policy)
      (later : ∀ clause ∈ more, clause.Obeys policy)
      (allowed : collector = .generator → policy.generates more) :
      Expr.Obeys policy (.comprehension collector element value source target tests more)
  | asyncGenerator {first : Expr} {async : Bool} (source : first.Obeys policy) :
      Expr.Obeys policy (.asyncGenerator first async)

/-- A comparison that obeys a policy. -/
inductive Link.Obeys (policy : Policy) : Link → Prop
  | mk {op : CompareOp} {right : Expr} (second : right.Obeys policy) :
      Link.Obeys policy (.mk op right)

/-- An item that obeys a policy. -/
inductive Item.Obeys (policy : Policy) : Item → Prop
  | one {value : Expr} (given : value.Obeys policy) : Item.Obeys policy (.one value)
  | spread {value : Expr} (given : value.Obeys policy) : Item.Obeys policy (.spread value)

/-- A named argument that obeys a policy. -/
inductive Keyword.Obeys (policy : Policy) : Keyword → Prop
  | one {name : String} {value : Expr} (given : value.Obeys policy) :
      Keyword.Obeys policy (.one name value)
  | spread {value : Expr} (given : value.Obeys policy) : Keyword.Obeys policy (.spread value)

/-- A pair of a dictionary display that obeys a policy. -/
inductive Pair.Obeys (policy : Policy) : Pair → Prop
  | one {key value : Expr} (first : key.Obeys policy) (second : value.Obeys policy) :
      Pair.Obeys policy (.one key value)
  | spread {value : Expr} (given : value.Obeys policy) : Pair.Obeys policy (.spread value)

/-- A later part of a comprehension that obeys a policy. -/
inductive Clause.Obeys (policy : Policy) : Clause → Prop
  | mk {source : Expr} {target : Target} {tests : List Expr} (first : source.Obeys policy)
      (bound : target.Obeys policy) (tested : ∀ test ∈ tests, test.Obeys policy) :
      Clause.Obeys policy (.mk source target tests)

/-- A target that obeys a policy. -/
inductive Target.Obeys (policy : Policy) : Target → Prop
  | name {name : String} (isAssigned : policy.assigns name) : Target.Obeys policy (.name name)
  | attribute {value : Expr} {name : String} (owner : value.Obeys policy) :
      Target.Obeys policy (.attribute value name)
  | subscript {value index : Expr} (container : value.Obeys policy)
      (key : index.Obeys policy) : Target.Obeys policy (.subscript value index)
  | exactly {targets : List Target} (each : ∀ target ∈ targets, target.Obeys policy) :
      Target.Obeys policy (.exactly targets)
  | atLeast {first : List Target} {rest : Target} {last : List Target}
      (before : ∀ target ∈ first, target.Obeys policy) (between : rest.Obeys policy)
      (after : ∀ target ∈ last, target.Obeys policy) :
      Target.Obeys policy (.atLeast first rest last)

end

/-- A statement that obeys a policy. -/
inductive Statement.Obeys (policy : Policy) : Statement → Prop
  | expression {value : Expr} (given : value.Obeys policy) : Statement.Obeys policy (.expression value)
  | give {value : Option Expr} (given : ∀ found ∈ value, found.Obeys policy) :
      Statement.Obeys policy (.give value)
  | branch {test : Expr} {accepted refused : List Statement} (decides : test.Obeys policy)
      (first : ∀ statement ∈ accepted, statement.Obeys policy)
      (second : ∀ statement ∈ refused, statement.Obeys policy) :
      Statement.Obeys policy (.branch test accepted refused)
  | loop {target : Target} {source : Expr} {body after : List Statement}
      (bound : target.Obeys policy) (walked : source.Obeys policy)
      (inside : ∀ statement ∈ body, statement.Obeys policy)
      (later : ∀ statement ∈ after, statement.Obeys policy) :
      Statement.Obeys policy (.loop target source body after)
  | leave : Statement.Obeys policy .leave
  | again : Statement.Obeys policy .again
  | pass : Statement.Obeys policy .pass
  | assign {targets : List Target} {value : Expr}
      (bound : ∀ target ∈ targets, target.Obeys policy) (given : value.Obeys policy) :
      Statement.Obeys policy (.assign targets value)
  | augment {target : Target} {op : BinaryOp} {value : Expr} (bound : target.Obeys policy)
      (given : value.Obeys policy) : Statement.Obeys policy (.augment target op value)

variable {policy : Policy}

/-! ## The names that are bound -/

mutual

/-- What a target binds is assigned. -/
theorem Target.Obeys.names_assigned :
    {target : Target} → target.Obeys policy → ∀ name ∈ target.names, policy.assigns name
  | .name _, .name isAssigned, name, isName => by
      rw [Target.names, List.mem_singleton] at isName
      exact isName ▸ isAssigned
  | .attribute _ _, _, name, isName => by simp [Target.names] at isName
  | .subscript _ _, _, name, isName => by simp [Target.names] at isName
  | .exactly _, .exactly each, name, isName => namesOfTargets_assigned each name isName
  | .atLeast _ _ _, .atLeast before between after, name, isName => by
      rw [Target.names, List.mem_append, List.mem_append] at isName
      rcases isName with (isName | isName) | isName
      · exact namesOfTargets_assigned before name isName
      · exact between.names_assigned name isName
      · exact namesOfTargets_assigned after name isName

theorem namesOfTargets_assigned :
    {targets : List Target} → (∀ target ∈ targets, target.Obeys policy) →
      ∀ name ∈ namesOfTargets targets, policy.assigns name
  | [], _, name, isName => by simp [namesOfTargets] at isName
  | _ :: _, each, name, isName => by
      rw [namesOfTargets, List.mem_append] at isName
      rcases isName with isName | isName
      · exact (each _ List.mem_cons_self).names_assigned name isName
      · exact namesOfTargets_assigned (fun _ later => each _ (List.mem_cons_of_mem _ later)) name
          isName

end

theorem Clause.Obeys.names_assigned
    {clause : Clause}
    (keeps : clause.Obeys policy) :
    ∀ name ∈ clause.names, policy.assigns name := by
  cases keeps with
  | mk _ bound _ => exact bound.names_assigned

mutual

/-- What a statement binds is assigned. -/
theorem Statement.Obeys.names_assigned :
    {statement : Statement} → statement.Obeys policy → ∀ name ∈ statement.names, policy.assigns name
  | .branch _ _ _, .branch _ first second, name, isName => by
      rw [Statement.names, List.mem_append] at isName
      rcases isName with isName | isName
      · exact namesOfStatements_assigned first name isName
      · exact namesOfStatements_assigned second name isName
  | .loop _ _ _ _, .loop bound _ inside later, name, isName => by
      rw [Statement.names, List.mem_append, List.mem_append] at isName
      rcases isName with (isName | isName) | isName
      · exact bound.names_assigned name isName
      · exact namesOfStatements_assigned inside name isName
      · exact namesOfStatements_assigned later name isName
  | .assign _ _, .assign bound _, name, isName => namesOfTargets_assigned bound name isName
  | .augment _ _ _, .augment bound _, name, isName => bound.names_assigned name isName
  | .expression _, _, name, isName => by simp [Statement.names] at isName
  | .give _, _, name, isName => by simp [Statement.names] at isName
  | .leave, _, name, isName => by simp [Statement.names] at isName
  | .again, _, name, isName => by simp [Statement.names] at isName
  | .pass, _, name, isName => by simp [Statement.names] at isName

theorem namesOfStatements_assigned :
    {statements : List Statement} → (∀ statement ∈ statements, statement.Obeys policy) →
      ∀ name ∈ namesOfStatements statements, policy.assigns name
  | [], _, name, isName => by simp [namesOfStatements] at isName
  | _ :: _, each, name, isName => by
      rw [namesOfStatements, List.mem_append] at isName
      rcases isName with isName | isName
      · exact (each _ List.mem_cons_self).names_assigned name isName
      · exact namesOfStatements_assigned (fun _ later => each _ (List.mem_cons_of_mem _ later)) name
          isName

end

end Predicate
end Wordbook
