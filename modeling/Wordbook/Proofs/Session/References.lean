import Wordbook.Proofs.Relation.Spelling
import Wordbook.Proofs.Session.Comparing

/-!
# The row that a reference leads to

Comparing, deleting and changing read the identifier of a relation in different places, and find the
same row by it.  Which row that is depends on the identifiers of the rows only: a request is about the
row at a place if it acts on that row whatever the names and the bodies are.
-/

namespace Wordbook

/-! ## Rows told apart by their places -/

/-- A state with rows under some identifiers, named and given bodies by their places. -/
def State.ofRows (ids : List Int) (name body : Nat → String) : State :=
  { State.default with
    relations := ids.mapIdx fun place id => ⟨id, name place, body place⟩ }

namespace State

variable {ids : List Int} {name body : Nat → String} {place : Nat}

end State

/-! ## Bodies told apart by their faults -/

namespace Predicate

/-- The fault of a body that is refused. -/
def Definition.fault? (body : String) : Option CompileFault :=
  match compile body.toList with
  | .ok _ => none
  | .error fault => some fault

end Predicate

namespace Session

variable {session : Session} {state : State} {ids : List Int} {reference : Json} {place : Nat}

/-! ## Acting on the row at a place -/

/-- The place of the first row that a reference leads to, among rows with some identifiers. -/
def place? (ids : List Int) (reference : Json) : Option Nat :=
  (Relation.idOfText? reference).bind ids.idxOf?

/-- The first relation with an identifier stands at a place, behind others. -/
structure StandsAt
    (relations : List Relation)
    (id : Int)
    (place : Nat)
    (before : List Relation)
    (found : Relation)
    (behind : List Relation) : Prop where
  whole : relations = before ++ found :: behind
  identified : found.id = id
  passed : ∀ other ∈ before, other.id ≠ id
  length_eq : before.length = place

namespace StandsAt

variable {relations before behind : List Relation} {id : Int} {found : Relation}

theorem find?_eq (stands : StandsAt state.relations id place before found behind) :
    state.find? id = some found :=
  find?_append stands.whole stands.passed stands.identified

theorem removeFirst_eq (stands : StandsAt relations id place before found behind) :
    removeFirst id relations = relations.eraseIdx place := by
  rw [stands.whole, removeFirst_append stands.passed stands.identified, ← stands.length_eq,
    List.eraseIdx_append_of_length_le (Nat.le_refl _), Nat.sub_self]
  rfl

theorem replaceFirst_eq
    (stands : StandsAt relations id place before found behind)
    {changed : Relation}
    (same : changed.id = id) :
    replaceFirst changed relations = relations.set place changed := by
  subst same
  rw [stands.whole, replaceFirst_append stands.passed stands.identified, ← stands.length_eq,
    List.set_append_right _ _ (Nat.le_refl _), Nat.sub_self]
  rfl

end StandsAt

section Changes

variable {name definition : Json} {normal body : String}

end Changes

end Session
end Wordbook
