import Wordbook.Proofs.Relation.Issuing
import Wordbook.Proofs.Session.Relations
import Wordbook.Proofs.Session.Runs

/-!
# Identifiers that a session issues

Adding a relation issues an identifier, and nothing else does.  So the identifiers that a session
issues in the course of any dispatches are issued in turn: they increase, whatever the clock reads
and whichever relations are deleted in between.
-/

namespace Wordbook
namespace Session

variable {Result Next : Type}

/-! ## Actions that issue nothing -/

/-- Whatever comes of an action, the identifier that was issued last is the one from before. -/
def IssuesNone (act : Act Result) : Prop :=
  ∀ session : Session, (session.run act).2.lastIssued = session.lastIssued

namespace IssuesNone

protected theorem pure (result : Result) : IssuesNone (pure result) := fun _ => rfl

protected theorem throw (failure : Failure) : IssuesNone (throw failure : Act Result) :=
  fun _ => rfl

protected theorem bind
    {act : Act Result}
    {next : Result → Act Next}
    (first : IssuesNone act)
    (second : ∀ result, IssuesNone (next result)) :
    IssuesNone (act >>= next) := by
  intro session
  have kept := first session
  rw [run_bind]
  rcases ran : session.run act with ⟨failure | result, after⟩
  · rwa [ran] at kept
  · rw [ran] at kept
    exact (second result after).trans kept

protected theorem tryCatch
    {act : Act Result}
    {handler : Failure → Act Result}
    (first : IssuesNone act)
    (second : ∀ failure, IssuesNone (handler failure)) :
    IssuesNone (tryCatch act handler) := by
  intro session
  have kept := first session
  rw [run_tryCatch]
  rcases ran : session.run act with ⟨failure | result, after⟩
  · rw [ran] at kept
    exact (second failure after).trans kept
  · rwa [ran] at kept

protected theorem get : IssuesNone get := fun _ => rfl

protected theorem permit (checked : Except Failure Result) : IssuesNone (permit checked) :=
  fun _ => by rw [run_permit]

protected theorem require (checked : Except Issue Result) : IssuesNone (require checked) :=
  fun _ => by rw [run_require]

protected theorem requireState : IssuesNone requireState := by
  refine .bind .get fun session => ?_
  cases session.state with
  | none => exact .throw _
  | some state => exact .pure state

protected theorem replaceState (state : State) : IssuesNone (replaceState state) := fun _ => rfl

protected theorem consult
    (call : Call)
    (read : Stores → Except Failure Result) :
    IssuesNone (consult call read) :=
  fun _ => by rw [run_consult]

protected theorem record
    (call : Call)
    (write : Stores → Stores × Except Failure Unit) :
    IssuesNone (record call write) := by
  intro session
  rw [run_record]
  cases session.failing call session.calls <;> rfl

/-- A dialog changes the presenter, the events and the count of calls only. -/
protected theorem confirm (text : String) : IssuesNone (confirm text) := by
  intro session
  rw [Session.confirm, run_bind, run_get]
  change (run _ (set _ >>= _)).2.lastIssued = _
  rw [run_bind, run_set]
  refine (IssuesNone.bind (fun between => ?_) fun _ => .pure _) _
  rw [run_announce]

protected theorem prompt (text default : Json) : IssuesNone (prompt text default) :=
  fun _ => by rw [run_prompt, asked]

/-! ## Requests that issue nothing -/

theorem keepState (state : State) : IssuesNone (keepState state) :=
  .bind (.permit _) fun _ => .record _ _

theorem writeState (path : Json) (state : State) : IssuesNone (writeState path state) :=
  .bind (.permit _) fun _ => .record _ _

theorem findStored (path : Json) (restore : Bool) : IssuesNone (findStored path restore) := by
  unfold Session.findStored
  split
  · exact .bind (.consult _ _) fun _ => .pure _
  · split
    · exact .bind (.consult _ _) fun _ => .pure _
    · exact .pure _

theorem load (path : Json) (restore : Bool) : IssuesNone (load path restore) := by
  refine .bind (findStored path restore) fun found => ?_
  split
  · exact .bind (.permit _) fun _ => .pure _
  · exact .pure _

theorem start (path : Json) (restore : Bool) : IssuesNone (start path restore) := by
  have loaded : IssuesNone
      (tryCatch (some <$> Session.load path restore) fun failure =>
        if isSurvivable failure then return none else throw failure) := by
    rw [map_eq_pure_bind]
    refine .tryCatch (.bind (load path restore) fun _ => .pure _) fun failure => ?_
    split
    · exact .pure _
    · exact .throw _
  refine .bind loaded fun found => ?_
  split
  · exact .bind (.replaceState _) fun _ => .pure _
  · exact .bind (.replaceState _) fun _ => .pure _
  · exact .bind (.replaceState _) fun _ => .pure _

theorem generate (alphabet maxLength : Json) (force : Bool) :
    IssuesNone (generate alphabet maxLength force) := by
  refine .bind .requireState fun state => ?_
  refine .bind (.require _) fun symbols => .bind (.require _) fun length => ?_
  rcases Lexicon.count symbols.length length (some Lexicon.threshold) with ⟨count, exact⟩
  dsimp only
  split
  · exact .throw _
  · exact .bind (.require _) fun lexicon => .bind (.replaceState _) fun _ => .pure _

theorem revise
    (state : State)
    (id : Json)
    (name body : String) :
    IssuesNone (revise state id name body) := by
  refine .bind (.permit _) fun target => ?_
  split
  · exact .throw _
  · split
    · exact .throw _
    · exact .bind (.replaceState _) fun _ => .pure _

theorem delete (id : Json) : IssuesNone (delete id) := by
  refine .bind .requireState fun state => .bind (.permit _) fun target => ?_
  split
  · exact .throw _
  · exact .bind (.replaceState _) fun _ => .pure _

theorem compare (tokenA tokenB relationId : Json) :
    IssuesNone (compare tokenA tokenB relationId) := by
  refine .bind .requireState fun state => ?_
  split
  · exact .throw _
  split
  · exact .throw _
  split
  · exact .throw _
  refine .bind (.permit _) fun target => ?_
  split
  · exact .throw _
  · exact .bind (.permit _) fun verdict => .pure _

theorem save (path : Json) : IssuesNone (save path) := by
  refine .bind .get fun session => ?_
  split
  · exact .throw _
  · refine .bind (keepState _) fun _ => ?_
    split
    · exact .bind (writeState _ _) fun _ => .pure _
    · exact .pure _

theorem exportTo (name : Json) (force : Bool) : IssuesNone (exportTo name force) := by
  refine .bind .get fun session => ?_
  split
  · exact .throw _
  · refine .bind .get fun _ => .bind (.permit _) fun path => .bind (.consult _ _) fun taken => ?_
    split
    · exact .throw _
    · exact .bind (writeState _ _) fun _ => .pure _

theorem readImport (path : Json) : IssuesNone (readImport path) := by
  unfold Session.readImport
  split
  · exact .throw _
  · refine .bind (.consult _ _) fun present => ?_
    cases present with
    | false => exact .throw _
    | true =>
        refine .bind (.consult _ _) fun bytes => ?_
        split
        · exact .throw _
        · exact .permit _

theorem importFrom (path : Json) : IssuesNone (importFrom path) :=
  .bind (readImport path) fun state => .bind (.replaceState state) fun _ =>
    .bind (keepState state) fun _ => .pure _

/-- No request issues an identifier but one that adds or changes a relation. -/
theorem perform
    (request : Request)
    (noUpsert : ∀ name definition id, request ≠ .upsertRelation name definition id) :
    IssuesNone request.perform := by
  cases request with
  | initState path restore => exact start path restore
  | saveState path => exact save path
  | generateTokens alphabet maxLength force => exact generate alphabet maxLength force
  | upsertRelation name definition id => exact absurd rfl (noUpsert name definition id)
  | deleteRelation id => exact delete id
  | compareTokens tokenA tokenB relationId => exact compare tokenA tokenB relationId
  | importState path => exact importFrom path
  | exportState fileName force => exact exportTo fileName force
  | notify title message => exact fun _ => rfl
  | confirm title message => exact .bind (.confirm _) fun _ => .pure _
  | prompt title default => exact .bind (.prompt _ _) fun _ => .pure _

end IssuesNone

/-! ## Dispatches -/

/-- On the way from one session to another no identifier was issued, or one was: for the clock and
the relations of the session, and to a relation that was added behind the others. -/
inductive Issues (session after : Session) : Prop
  | none (same : after.lastIssued = session.lastIssued)
  | one
      {state : State}
      {relation : Relation}
      (held : session.state = some state)
      (answers : Relation.Answers session.lastIssued ⟨session.clock, state.relationIds⟩ relation.id)
      (noted : after.lastIssued = relation.id)
      (added : after.state = some { state with relations := state.relations ++ [relation] })

theorem append_issues
    {session : Session}
    {state : State}
    (held : session.state = some state)
    (name body : String) :
    session.Issues (session.run (append state name body)).2 := by
  rw [run_append]
  split
  · exact .none rfl
  · exact .one held (.newId session.lastIssued ⟨session.clock, state.relationIds⟩) rfl rfl

/-- A check issues nothing, whether it passes or not. -/
theorem permit_issues
    {session : Session}
    (checked : Except Failure Result)
    {next : Result → Act Next}
    (passed : ∀ result, session.Issues (session.run (next result)).2) :
    session.Issues (session.run (permit checked >>= next)).2 := by
  rw [run_bind, run_permit]
  cases checked with
  | error failure => exact .none rfl
  | ok result => exact passed result

theorem upsert_issues (session : Session) (name definition id : Json) :
    session.Issues (session.run (upsert name definition id)).2 := by
  obtain stateless | ⟨state, held⟩ := Option.eq_none_or_eq_some session.state
  · rw [upsert, run_bind, requireState, run_bind, run_get]
    simp only [stateless]
    exact .none rfl
  · rw [upsert, run_bind, run_requireState held]
    refine permit_issues _ fun normalized => permit_issues _ fun body => permit_issues _ fun _ => ?_
    split
    · exact append_issues held normalized body
    · exact .none (IssuesNone.revise state id normalized body session)

/-- A dispatch issues one identifier at most. -/
theorem dispatch_issues (session : Session) (code parameters : Json) :
    session.Issues (session.run (dispatch code parameters)).2 := by
  rw [run_dispatch]
  cases Instruction.ofCode code with
  | error breach => exact .none rfl
  | ok instruction? =>
    cases instruction? with
    | none => exact .none rfl
    | some instruction =>
      cases Request.parameters parameters with
      | error breach => exact .none rfl
      | ok members =>
        dsimp only
        rw [run_settle_state]
        by_cases upserts : instruction = .upsertRelation
        · subst upserts
          exact upsert_issues session _ _ _
        · refine .none (IssuesNone.perform _ (fun name definition id => ?_) session)
          cases instruction <;> simp_all [Request.ofParameters]

/-! ## Runs -/

/-- The identifiers that a session issues in the course of some steps. -/
def issuedIn (session : Session) : List Step → List Int
  | [] => []
  | step :: steps =>
      let after := session.take step
      if after.lastIssued = session.lastIssued then after.issuedIn steps
      else after.lastIssued :: after.issuedIn steps

/-- In the course of any dispatches a session issues its identifiers in turn, for some demands. -/
theorem exists_issuedIn
    (session : Session)
    {steps : List Step}
    (dispatches : ∀ step ∈ steps, ∃ clock code parameters, step = .dispatch clock code parameters) :
    ∃ demands, session.issuedIn steps = Relation.issue session.lastIssued demands := by
  induction steps generalizing session with
  | nil => exact ⟨[], rfl⟩
  | cons step steps inductionHypothesis =>
      rw [List.forall_mem_cons] at dispatches
      obtain ⟨⟨clock, code, parameters, rfl⟩, later⟩ := dispatches
      set after := session.take (.dispatch clock code parameters) with taken
      obtain ⟨demands, onward⟩ := inductionHypothesis after later
      have issues : Issues { session with clock := clock } after :=
        dispatch_issues { session with clock := clock } code parameters
      rw [issuedIn, ← taken]
      cases issues with
      | none same =>
          have unchanged : after.lastIssued = session.lastIssued := same
          rw [if_pos unchanged, onward, unchanged]
          exact ⟨demands, rfl⟩
      | one held answers noted added =>
          have greater : session.lastIssued < after.lastIssued := noted ▸ answers.before_lt
          rw [if_neg (Int.ne_of_gt greater), onward]
          rw [noted, answers.eq_newId]
          exact ⟨⟨clock, _⟩ :: demands, rfl⟩

/-- In the course of any dispatches no identifier is issued a second time, not even one whose
relation was deleted: they increase. -/
theorem issuedIn_increasing
    (session : Session)
    {steps : List Step}
    (dispatches : ∀ step ∈ steps, ∃ clock code parameters, step = .dispatch clock code parameters) :
    (session.lastIssued :: session.issuedIn steps).Pairwise (· < ·) := by
  obtain ⟨demands, issued⟩ := exists_issuedIn session dispatches
  rw [issued]
  exact Relation.issue_increasing session.lastIssued demands

end Session
end Wordbook
