import Wordbook.Proofs.Number.DecimalText
import Wordbook.Proofs.Session.Relations
import Wordbook.Proofs.Session.Workflows

/-!
# Editing a relation

The workflow that edits a relation hands its identifier on to the request that adds or changes one.
So it changes the one row that has the identifier, and adds a row when none is given.  With the
defaults for the name and the body it changes nothing.
-/

namespace Wordbook

/-! ## Rows -/

/-- One relation of a state gets another name and another body, and nothing else changes. -/
def State.Retouches (state changed : State) : Prop :=
  ∃ before relation behind name body, state.relations = before ++ relation :: behind ∧
    changed =
      { state with
        relations := before ++ { relation with name := name, definition := body } :: behind }

/-- What becomes of the rows when at most one relation is changed. -/
structure KeepsRows (before after : Option State) : Prop where
  ids : after.map State.relationIds = before.map State.relationIds
  row : after = before ∨
    ∃ state changed, before = some state ∧ after = some changed ∧ state.Retouches changed

/-- One relation was added behind the others, and nothing else changed. -/
def AppendsRow (before after : Option State) : Prop :=
  ∃ state relation, before = some state ∧
    after = some { state with relations := state.relations ++ [relation] }

theorem KeepsRows.refl (state : Option State) : KeepsRows state state := ⟨rfl, .inl rfl⟩

theorem AppendsRow.not_keepsRows
    {before after : Option State}
    (appends : AppendsRow before after) :
    ¬ KeepsRows before after := by
  obtain ⟨state, relation, rfl, rfl⟩ := appends
  intro keeps
  have same := congrArg (Option.map List.length) keeps.ids
  simp [State.relationIds] at same

namespace Session

variable {session : Session} {state : State}

/-- Replacing a relation that is there changes one row. -/
theorem retouches_replaceFirst
    {changed : Relation}
    (used : changed.id ∈ state.relationIds) :
    state.Retouches { state with relations := replaceFirst changed state.relations } := by
  obtain ⟨before, found, behind, whole, identified, passed⟩ := exists_first used
  refine ⟨before, found, behind, changed.name, changed.definition, whole, ?_⟩
  rw [whole, replaceFirst_append passed identified, identified]

/-- What an upsert that succeeds does to the rows. -/
def Upserted (id : Json) (before after : Option State) : Prop :=
  if Relation.isMissing id = true then AppendsRow before after else KeepsRows before after

theorem upserted_of_run
    {after : Session}
    {name definition id : Json}
    {answer : Answer}
    (ran : session.run (upsert name definition id) = (.ok answer, after)) :
    Upserted id session.state after.state := by
  obtain ⟨state, normal, body, held, -, -, -, ran⟩ := run_upsert_eq_ok_iff.mp ran
  rw [held, Upserted]
  split
  case isTrue missing =>
    rw [if_pos missing] at ran
    obtain ⟨-, fresh, -, reached⟩ := state_of_run_append ran
    exact ⟨state, _, rfl, reached⟩
  case isFalse given =>
    rw [if_neg given] at ran
    obtain ⟨target, -, used, -, reached⟩ := state_of_run_revise ran
    rw [reached]
    refine ⟨?_, .inr ⟨state, _, rfl, rfl, retouches_replaceFirst used⟩⟩
    exact congrArg some (map_id_replaceFirst _ _)

theorem upsert_upserts (state : Option State) (name definition id : Json) :
    Ensures (HasState state) (upsert name definition id)
      (fun answer found _ => answer.success = true ∧ Upserted id state found) (HasState state) := by
  intro session met
  have cleanly := FailsCleanly.upsert name definition id state
  rcases ran : session.run (upsert name definition id) with ⟨_ | answer, after⟩
  · exact cleanly.of_error met ran
  · cases met
    exact ⟨cleanly.of_ok rfl ran, upserted_of_run ran⟩

end Session

namespace Workflow

open Session

/-- A workflow ran to its end and reported success. -/
inductive Succeeds : Except Failure (Option Answer) → Prop
  | answer {answer : Answer} (success : answer.success = true) : Succeeds (.ok (some answer))

theorem succeeds_some_iff (answer : Answer) :
    Succeeds (.ok (some answer)) ↔ answer.success = true :=
  ⟨fun | .answer success => success, .answer⟩

instance : DecidablePred Succeeds
  | .error _ => isFalse nofun
  | .ok none => isFalse nofun
  | .ok (some answer) => decidable_of_iff _ (succeeds_some_iff answer).symm

/-- What editing a relation does to the rows is told by its outcome. -/
theorem editRelation_upserts (session : Session) (id name definition : Json) :
    if Succeeds (session.run (editRelation id name definition)).1 then
      Upserted id session.state (session.run (editRelation id name definition)).2.state
    else (session.run (editRelation id name definition)).2.state = session.state := by
  have settled (name body : Json) :
      Ensures (HasState session.state) (Request.upsertRelation name body id).settle
        (bySuccess (fun found _ => Upserted id session.state found) (HasState session.state))
        (HasState session.state) :=
    Ensures.settle (upsert_upserts session.state name body id)
  have ensured := editRelation_ensures (fun _ _ met => met) settled name definition
  rcases ran : session.run (editRelation id name definition) with ⟨_ | _ | answer, after⟩
  · rw [if_neg nofun]
    exact ensured.of_error rfl ran
  · rw [if_neg nofun]
    exact ensured.of_ok rfl ran
  · have reached : bySuccess _ _ answer after.state after.stores := ensured.of_ok rfl ran
    unfold bySuccess at reached
    by_cases success : answer.success = true
    · rw [if_pos success] at reached
      rwa [if_pos (.answer success)]
    · rw [if_neg success] at reached
      rwa [if_neg (mt (succeeds_some_iff answer).mp success)]

/-- Editing a relation keeps the rows, but for one that it adds when it succeeds without an
identifier. -/
theorem editRelation_rows_iff (session : Session) (id name definition : Json) :
    let ended := session.run (editRelation id name definition)
    (KeepsRows session.state ended.2.state ↔
      ¬ (Relation.isMissing id = true ∧ Succeeds ended.1)) ∧
      (AppendsRow session.state ended.2.state ↔
        Relation.isMissing id = true ∧ Succeeds ended.1) := by
  intro ended
  have reached := editRelation_upserts session id name definition
  have appends (adds : Relation.isMissing id = true ∧ Succeeds ended.1) :
      AppendsRow session.state ended.2.state := by
    rwa [if_pos adds.2, Upserted, if_pos adds.1] at reached
  have keeps (spares : ¬ (Relation.isMissing id = true ∧ Succeeds ended.1)) :
      KeepsRows session.state ended.2.state := by
    by_cases succeeds : Succeeds ended.1
    · rwa [if_pos succeeds, Upserted, if_neg fun missing => spares ⟨missing, succeeds⟩] at reached
    · rw [if_neg succeeds] at reached
      rw [reached]
      exact .refl session.state
  refine ⟨⟨fun kept adds => (appends adds).not_keepsRows kept, keeps⟩, fun added => ?_, appends⟩
  exact Classical.not_not.mp fun spares => added.not_keepsRows (keeps spares)

/-- Without an identifier a relation is added to those of the default state. -/
theorem nameless_edit_adds :
    let ended := (holding .default).run
      (editRelation .null (.str "is one") (.str "tokenA == tokenB"))
    Relation.isMissing .null = true ∧ Succeeds ended.1 ∧
      ended.2.state.map State.relationIds ≠ (holding .default).state.map State.relationIds := by
  decide +kernel

end Workflow
end Wordbook
