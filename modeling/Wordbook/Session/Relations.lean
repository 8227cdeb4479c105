import Wordbook.Session.Basic

/-!
# Changing and applying relations

Relations are added at the end, changed in place and deleted.  A comparison finds a relation by its
identifier and applies its predicate to two tokens.
-/

namespace Wordbook
namespace Session

/-- Another relation than the one with an identifier has a name. -/
def isNameTaken (state : State) (name : String) (except : Option Int) : Bool :=
  state.relations.any fun relation => relation.name == name && some relation.id != except

/-- Relations with the first one of an identifier replaced. -/
def replaceFirst (changed : Relation) : List Relation → List Relation
  | [] => []
  | relation :: relations =>
      if relation.id == changed.id then changed :: relations
      else relation :: replaceFirst changed relations

/-- Relations without the first one of an identifier. -/
def removeFirst (id : Int) : List Relation → List Relation
  | [] => []
  | relation :: relations =>
      if relation.id == id then relations else relation :: removeFirst id relations

/-- Change the relation with an identifier. -/
def revise (state : State) (id : Json) (name body : String) : Act Answer := do
  let target ← permit (Relation.takeId id)
  match state.find? target with
  | none => refuse .relationNotFound
  | some _ =>
      if isNameTaken state name (some target) then refuse .duplicateName
      else
        let relation : Relation := ⟨target, name, body⟩
        replaceState { state with relations := replaceFirst relation state.relations }
        return { Answer.done "Relation updated" with subject := some (.relation relation) }

/-- Add a relation under a new identifier. -/
def append (state : State) (name body : String) : Act Answer := do
  if isNameTaken state name none then refuse .duplicateName
  else
    let session ← get
    let id := Relation.newId session.clock session.lastIssued state.relationIds
    let relation : Relation := ⟨id, name, body⟩
    set { session with lastIssued := id }
    replaceState { state with relations := state.relations ++ [relation] }
    return { Answer.done "Relation added" with subject := some (.relation relation) }

/-- Add a relation, or change the one with an identifier if one is given. -/
def upsert (name definition id : Json) : Act Answer := do
  let state ← requireState
  let normalized ← permit (Relation.normalizeName name)
  let body ← permit (Relation.requireDefinition definition)
  permit (Predicate.Definition.check body)
  if Relation.isMissing id then append state normalized body
  else revise state id normalized body

/-- Delete the relation with an identifier. -/
def delete (id : Json) : Act Answer := do
  let state ← requireState
  let target ← permit (Relation.takeId id)
  match state.find? target with
  | none => refuse .relationNotFound
  | some relation =>
      replaceState { state with relations := removeFirst target state.relations }
      return { Answer.done ("Relation " ++ relation.name ++ " deleted") with
        subject := some (.relation relation) }

/-- Apply the relation with an identifier to two tokens. -/
def compare (tokenA tokenB relationId : Json) : Act Answer := do
  let state ← requireState
  if Relation.isMissing tokenA then refuse (.missingToken .left)
  else if Relation.isMissing tokenB then refuse (.missingToken .right)
  else if Relation.isMissing relationId then refuse .missingRelation
  else
    let target ← permit ((Relation.soughtId relationId).mapError .breach)
    match target.bind state.find? with
    | none => refuse .relationNotFound
    | some relation =>
        let verdict ← permit (Predicate.Verdict.ofBody relation.definition tokenA tokenB)
        return { Answer.bare true with
          result := some verdict.result
          tokenA := some verdict.tokenA
          tokenB := some verdict.tokenB
          subject := some (.name relation.name) }

end Session
end Wordbook
