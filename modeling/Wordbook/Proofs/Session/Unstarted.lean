import Wordbook.Proofs.Session.Footprint
import Wordbook.Proofs.Session.Runs

/-!
# Sessions that were not started

As long as there is no state, the instructions that work on one are refused before anything else is
looked at, and nothing changes.  Importing alone does not ask for a state: an import that reads a
snapshot starts the session.  So a run without a start stays without a state, and its stores stay as
they were, exactly as long as no import reads a snapshot.
-/

namespace Wordbook

namespace Instruction

/-- An instruction works on the state. -/
def WorksOnState (instruction : Instruction) : Prop :=
  instruction ∈ [saveState, generateTokens, upsertRelation, deleteRelation, compareTokens,
    importState, exportState]

instance (instruction : Instruction) : Decidable instruction.WorksOnState :=
  inferInstanceAs (Decidable (_ ∈ _))

/-- What an instruction needs a state for. -/
def need : Instruction → Need
  | .saveState => .save
  | .exportState => .exporting
  | _ => .work

end Instruction

namespace Session

variable {session : Session} {instruction : Instruction}

/-! ## Single instructions -/

theorem run_requireState_of_unstarted (unstarted : session.state = none) :
    session.run requireState = (.error (.issue (.noState .work)), session) := by
  rw [requireState, run_bind, run_get]
  simp only [unstarted]
  rfl

/-- Without a state the instructions that work on one are refused, importing apart, and leave the
session exactly as it was. -/
theorem run_perform_of_unstarted
    (unstarted : session.state = none)
    (works : instruction.WorksOnState)
    (noImport : instruction ≠ .importState)
    (members : List (String × Json)) :
    session.run (Request.ofParameters instruction members).perform =
      (.error (.issue (.noState instruction.need)), session) := by
  have needsState {Result : Type} (next : State → Act Result) :
      session.run (requireState >>= next) = (.error (.issue (.noState .work)), session) := by
    rw [run_bind, run_requireState_of_unstarted unstarted]
  cases instruction with
  | generateTokens | upsertRelation | deleteRelation | compareTokens => exact needsState _
  | saveState =>
      rw [Request.ofParameters, Request.perform, save, run_bind, run_get]
      simp only [unstarted]
      rfl
  | exportState =>
      rw [Request.ofParameters, Request.perform, exportTo, run_bind, run_get]
      simp only [unstarted]
      rfl
  | importState => exact absurd rfl noImport
  | initState | notify | confirm | prompt => exact absurd works (by decide)

/-- An instruction is refused for want of a state in every session without one, and changes
nothing. -/
def RefusesUnstarted (instruction : Instruction) : Prop :=
  ∀ (session : Session) (code parameters : Json) (members : List (String × Json)),
    session.state = none →
      Instruction.ofCode code = .ok (some instruction) →
        Request.parameters parameters = .ok members →
          session.run (dispatch code parameters) =
            (.ok (.ofIssue (.noState instruction.need)), session)

theorem refusesUnstarted
    (works : instruction.WorksOnState)
    (noImport : instruction ≠ .importState) :
    RefusesUnstarted instruction := by
  intro session code parameters members unstarted named given
  rw [run_dispatch]
  simp only [named, given]
  rw [run_settle, run_perform_of_unstarted unstarted works noImport]

/-! ## Steps -/

/-- A step starts the session. -/
def Step.Starts : Step → Prop
  | .dispatch _ code _ => Instruction.ofCode code = .ok (some .initState)
  | .restart _ _ => False

/-- A step is an import that reads a snapshot. -/
def Imports (session : Session) : Step → Prop
  | .dispatch clock code parameters =>
      ∃ members imported after, Instruction.ofCode code = .ok (some .importState) ∧
        Request.parameters parameters = .ok members ∧
        run { session with clock := clock } (readImport (Json.memberOrNull "path" members)) =
          (.ok imported, after)
  | .restart _ _ => False

/-- An import that reads no snapshot leaves the stores alone. -/
theorem importFrom_stores_of_unread
    {read : Session}
    {path : Json}
    {failure : Failure}
    (unread : session.run (readImport path) = (.error failure, read)) :
    (session.run (importFrom path)).2.stores = session.stores := by
  have left := (LeavesStores.ofKeeps fun _ => readImport_keeps path).run_stores session
  rw [unread] at left
  rw [importFrom, run_bind, unread]
  exact left

/-- Without a state a dispatch changes neither the state nor the stores if it neither starts the
session nor imports a snapshot. -/
theorem dispatch_untouched
    (unstarted : session.state = none)
    {code parameters : Json}
    (noStart : Instruction.ofCode code ≠ .ok (some .initState))
    (noImport : ∀ members imported after,
      Instruction.ofCode code = .ok (some .importState) →
        Request.parameters parameters = .ok members →
          session.run (readImport (Json.memberOrNull "path" members)) ≠ (.ok imported, after)) :
    IsAt none session.stores (session.run (dispatch code parameters)).2.state
      (session.run (dispatch code parameters)).2.stores := by
  have stays : IsAt none session.stores session.state session.stores := ⟨unstarted, rfl⟩
  rw [run_dispatch]
  cases named : Instruction.ofCode code with
  | error breach => exact stays
  | ok instruction? =>
    cases instruction? with
    | none => exact stays
    | some instruction =>
      cases given : Request.parameters parameters with
      | error breach => exact stays
      | ok members =>
        dsimp only
        rw [run_settle_state]
        by_cases works : instruction.WorksOnState ∧ instruction ≠ .importState
        · rw [run_perform_of_unstarted unstarted works.1 works.2]
          exact stays
        cases instruction with
        | initState => exact absurd named noStart
        | importState =>
            rcases ran : session.run (readImport (Json.memberOrNull "path" members)) with
              ⟨failure | imported, read⟩
            · exact ⟨(importFrom_of_unread ran).trans unstarted, importFrom_stores_of_unread ran⟩
            · exact absurd ran (noImport members imported read named given)
        | notify | confirm | prompt =>
            exact ⟨((perform_leavesState members (by decide)).run_state session).trans unstarted,
              (perform_leavesStores members (by decide)).run_stores session⟩
        | saveState | generateTokens | upsertRelation | deleteRelation | compareTokens
        | exportState => exact absurd ⟨by decide, by decide⟩ works

/-- A step that neither starts the session nor imports a snapshot leaves it without a state, and the
stores as they are. -/
theorem take_untouched
    (unstarted : session.state = none)
    {step : Step}
    (noStart : ¬ step.Starts)
    (noImport : ¬ session.Imports step) :
    IsAt none session.stores (session.take step).state (session.take step).stores := by
  cases step with
  | dispatch clock code parameters =>
      have timed : Session.state { session with clock := clock } = none := unstarted
      exact dispatch_untouched timed noStart fun members imported after named given ran =>
        noImport ⟨members, imported, after, named, given, ran⟩
  | restart presenter lastIssued => exact ⟨rfl, rfl⟩

/-- An import that reads a snapshot leaves a state. -/
theorem state_take_of_imports
    {step : Step}
    (imports : session.Imports step) :
    (session.take step).state ≠ none := by
  cases step with
  | dispatch clock code parameters =>
      obtain ⟨members, imported, after, named, given, ran⟩ := imports
      rw [take, run_dispatch]
      simp only [named, given]
      rw [run_settle_state]
      exact ne_of_eq_of_ne (importFrom_of_read ran) (Option.some_ne_none imported)
  | restart => exact imports.elim

/-! ## Runs -/

theorem takeAll_append_singleton (session : Session) (steps : List Step) (step : Step) :
    session.takeAll (steps ++ [step]) = (session.takeAll steps).take step := by
  rw [takeAll, List.foldl_append]
  rfl

/-- The session never gets a state and its stores never change on the way through some steps. -/
def StaysUnstarted (session : Session) (steps : List Step) : Prop :=
  ∀ before, before <+: steps →
    IsAt none session.stores (session.takeAll before).state (session.takeAll before).stores

/-- A run without a start stays without a state, and leaves the stores alone throughout, exactly when
none of its imports reads a snapshot. -/
theorem staysUnstarted_iff
    (unstarted : session.state = none)
    {steps : List Step}
    (noStart : ∀ step ∈ steps, ¬ step.Starts) :
    session.StaysUnstarted steps ↔
      ∀ before step, before ++ [step] <+: steps → ¬ (session.takeAll before).Imports step := by
  constructor
  · intro stays before step within imports
    have left := (stays _ within).1
    rw [takeAll_append_singleton] at left
    exact state_take_of_imports imports left
  · intro noImport before within
    induction before using List.reverseRecOn with
    | nil => exact ⟨unstarted, rfl⟩
    | append_singleton before step inductionHypothesis =>
        obtain ⟨none, same⟩ := inductionHypothesis ((List.prefix_append before [step]).trans within)
        have inside : step ∈ steps := within.subset (List.mem_append_right before List.mem_cons_self)
        have left := take_untouched none (noStart step inside) (noImport before step within)
        rwa [takeAll_append_singleton, ← same]

/-! ## Imports -/

/-- A session without a state, beside a snapshot in a file. -/
def unstartedBeside : Session :=
  let snapshot :=
    "\x7b\"lexicon\":\x7b\"alphabet\":\"a\",\"maxLength\":1\x7d,\"generatedTokens\":[]," ++
      "\"relationDefinitions\":[]\x7d"
  fresh (.memory [] [("/a.json", Encoding.encodeUtf8 snapshot.toList)]) .silent 0

/-- The import of that snapshot. -/
def importBeside : Act Answer := dispatch (.int 304) (.obj [("path", .str "/a.json")])

theorem importBeside_succeeds : ¬ Failed (unstartedBeside.run importBeside).1 := by decide +kernel

/-- Of the instructions that work on the state only importing is not refused without one.  A run
without a start stays without a state and leaves the stores alone throughout exactly when none of its
imports reads a snapshot. -/
theorem unstarted_iff
    (works : instruction.WorksOnState)
    (unstarted : session.state = none)
    {steps : List Step}
    (noStart : ∀ step ∈ steps, ¬ step.Starts) :
    (RefusesUnstarted instruction ↔ instruction ≠ .importState) ∧
      (session.StaysUnstarted steps ↔
        ∀ before step, before ++ [step] <+: steps → ¬ (session.takeAll before).Imports step) := by
  refine ⟨⟨?_, refusesUnstarted works⟩, staysUnstarted_iff unstarted noStart⟩
  rintro refuses rfl
  have refused := refuses unstartedBeside (.int 304) (.obj [("path", .str "/a.json")]) _ rfl rfl rfl
  have succeeds := importBeside_succeeds
  rw [importBeside, refused] at succeeds
  exact succeeds (.answer rfl)

/-- A deletion and an attempt to save, with a restart between them, leave a session without a
state. -/
theorem deletion_stays_unstarted :
    let steps : List Step :=
      [.dispatch 0 (.int 302) (.obj [("id", .int 5)]), .restart .silent 0,
        .dispatch 0 (.int 101) .null]
    Instruction.deleteRelation.WorksOnState ∧ RefusesUnstarted .deleteRelation ∧
      (fresh .empty .silent 0).state = none ∧ (∀ step ∈ steps, ¬ step.Starts) ∧
      (fresh .empty .silent 0).StaysUnstarted steps := by
  intro steps
  have works : Instruction.deleteRelation.WorksOnState := by decide
  have noStart : ∀ step ∈ steps, ¬ step.Starts := by
    simp only [steps, List.forall_mem_cons]
    exact ⟨nofun, nofun, nofun, nofun⟩
  have noImport (session : Session) : ∀ step ∈ steps, ¬ session.Imports step := by
    simp only [steps, List.forall_mem_cons]
    exact ⟨nofun, nofun, nofun, nofun⟩
  have unstarted : (fresh .empty .silent 0).state = none := rfl
  obtain ⟨refuses, stays⟩ := unstarted_iff works unstarted noStart
  refine ⟨works, refuses.mpr (by decide), unstarted, noStart, ?_⟩
  exact stays.mpr fun before step within =>
    noImport _ step (within.subset (List.mem_append_right before List.mem_cons_self))

/-- The import succeeds without a state, and leaves one, in the session and in the stores. -/
theorem unstarted_import_starts :
    unstartedBeside.state = none ∧ Instruction.importState.WorksOnState ∧
      Instruction.ofCode (.int 304) = .ok (some .importState) ∧
      ¬ Failed (unstartedBeside.run importBeside).1 ∧
      (unstartedBeside.run importBeside).2.state ≠ none ∧
      (unstartedBeside.run importBeside).2.stores.getKey stateKey ≠
        unstartedBeside.stores.getKey stateKey :=
  ⟨rfl, by decide, rfl, importBeside_succeeds, by decide +kernel, by decide +kernel⟩

end Session
end Wordbook
