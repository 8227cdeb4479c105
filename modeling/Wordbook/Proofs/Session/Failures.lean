import Wordbook.Proofs.Outcome
import Wordbook.Proofs.Session.Actions
import Wordbook.Session.Dispatch

/-!
# What failures leave behind

A request other than a start that fails leaves the state of the session as it was, with one
exception: an import whose snapshot was read has replaced the state before it keeps it, so that a
store that cannot be written leaves the imported state in place.
-/

namespace Wordbook
namespace Session

variable {Result : Type}

/-- Reading a snapshot that is to be imported changes nothing. -/
theorem readImport_keeps
    {condition : Condition}
    (path : Json) :
    Keeps condition (readImport path) := by
  unfold readImport
  split
  · exact Keeps.throw
  · refine Keeps.bind Keeps.consult fun present => ?_
    cases present with
    | false => exact Keeps.throw
    | true =>
        refine Keeps.bind Keeps.consult fun bytes => ?_
        split
        · exact Keeps.throw
        · exact Keeps.permit

/-- A comparison changes nothing. -/
theorem compare_keeps
    {condition : Condition}
    (tokenA tokenB relationId : Json) :
    Keeps condition (compare tokenA tokenB relationId) := by
  refine Keeps.bind Keeps.requireState fun state => ?_
  split
  · exact Keeps.throw
  split
  · exact Keeps.throw
  split
  · exact Keeps.throw
  refine Keeps.bind Keeps.permit fun target => ?_
  split
  · exact Keeps.throw
  · exact Keeps.bind Keeps.permit fun verdict => Keeps.pure

/-! ## Actions that leave the state alone -/

/-- The state of the session is the given one. -/
def HasState (state : Option State) : Condition := fun found _ => found = state

/-- Whatever comes of an action, the state is the one from before. -/
def LeavesState (act : Act Result) : Prop := ∀ state, Keeps (HasState state) act

namespace LeavesState

theorem run_state
    {act : Act Result}
    (leaves : LeavesState act)
    (session : Session) :
    (session.run act).2.state = session.state :=
  (leaves session.state).after rfl

theorem refuse (issue : Issue) : LeavesState (refuse issue : Act Result) :=
  fun _ => Keeps.throw

theorem setKey (key : String) (bytes : List UInt8) : LeavesState (setKey key bytes) :=
  fun _ => Keeps.record fun _ _ met => met

theorem storeFile (path : Json) (bytes : List UInt8) : LeavesState (storeFile path bytes) :=
  fun _ => Keeps.record fun _ _ met => met

theorem keepState (state : State) : LeavesState (keepState state) := by
  intro held
  unfold Session.keepState
  exact Keeps.bind Keeps.permit fun bytes => setKey stateKey bytes held

theorem writeState (path : Json) (state : State) : LeavesState (writeState path state) := by
  intro held
  unfold Session.writeState
  exact Keeps.bind Keeps.permit fun bytes => storeFile path bytes held

theorem readImport (path : Json) : LeavesState (readImport path) :=
  fun _ => readImport_keeps path

end LeavesState

/-! ## Requests that fail cleanly -/

/-- An action that answers at all answers with success, and one that fails leaves the state
alone. -/
def FailsCleanly (act : Act Answer) : Prop :=
  ∀ state, Ensures (HasState state) act (fun answer _ _ => answer.success = true) (HasState state)

namespace FailsCleanly

theorem pure
    {answer : Answer}
    (success : answer.success = true) :
    FailsCleanly (pure answer) :=
  fun _ => Ensures.pure fun _ _ _ => success

theorem throw (failure : Failure) : FailsCleanly (throw failure) :=
  fun _ => Ensures.throw fun _ _ met => met

theorem refuse (issue : Issue) : FailsCleanly (refuse issue) :=
  throw (.issue issue)

/-- What is done before the state may change. -/
theorem afterLeaving
    {act : Act Result}
    {next : Result → Act Answer}
    (first : LeavesState act)
    (second : ∀ result, FailsCleanly (next result)) :
    FailsCleanly (act >>= next) :=
  fun state => Ensures.bind (first state) fun result => second result state

/-- The state changes last: nothing fails after that. -/
theorem replaceState
    (state : State)
    {answer : Answer}
    (success : answer.success = true) :
    FailsCleanly (replaceState state >>= fun _ => Pure.pure answer) := by
  intro held session _
  rw [run_bind, run_replaceState]
  exact success

theorem generate (alphabet maxLength : Json) (force : Bool) :
    FailsCleanly (generate alphabet maxLength force) := by
  refine afterLeaving (fun _ => Keeps.requireState) fun state => ?_
  refine afterLeaving (fun _ => Keeps.require) fun symbols => ?_
  refine afterLeaving (fun _ => Keeps.require) fun length => ?_
  rcases Lexicon.count symbols.length length (some Lexicon.threshold) with ⟨count, exact⟩
  dsimp only
  split
  · exact throw _
  · exact afterLeaving (fun _ => Keeps.require) fun lexicon => replaceState _ rfl

theorem append (state : State) (name body : String) : FailsCleanly (append state name body) := by
  unfold Session.append
  split
  · exact refuse _
  · intro held
    -- The identifier that was issued is noted while the state is still the one from before.
    exact Ensures.note (fun _ => rfl) (fun _ => rfl) fun session => replaceState _ rfl held

theorem revise
    (state : State)
    (id : Json)
    (name body : String) :
    FailsCleanly (revise state id name body) := by
  refine afterLeaving (fun _ => Keeps.permit) fun target => ?_
  split
  · exact refuse _
  · split
    · exact refuse _
    · exact replaceState _ rfl

theorem upsert (name definition id : Json) : FailsCleanly (upsert name definition id) := by
  refine afterLeaving (fun _ => Keeps.requireState) fun state => ?_
  refine afterLeaving (fun _ => Keeps.permit) fun normalized => ?_
  refine afterLeaving (fun _ => Keeps.permit) fun body => ?_
  refine afterLeaving (fun _ => Keeps.permit) fun _ => ?_
  split
  · exact append state normalized body
  · exact revise state id normalized body

theorem delete (id : Json) : FailsCleanly (delete id) := by
  refine afterLeaving (fun _ => Keeps.requireState) fun state => ?_
  refine afterLeaving (fun _ => Keeps.permit) fun target => ?_
  split
  · exact refuse _
  · exact replaceState _ rfl

theorem compare (tokenA tokenB relationId : Json) :
    FailsCleanly (compare tokenA tokenB relationId) := by
  refine afterLeaving (fun _ => Keeps.requireState) fun state => ?_
  split
  · exact refuse _
  split
  · exact refuse _
  split
  · exact refuse _
  refine afterLeaving (fun _ => Keeps.permit) fun target => ?_
  split
  · exact refuse _
  · exact afterLeaving (fun _ => Keeps.permit) fun verdict => pure rfl

theorem save (path : Json) : FailsCleanly (save path) := by
  refine afterLeaving (fun _ => Keeps.get) fun session => ?_
  split
  · exact refuse _
  · refine afterLeaving (LeavesState.keepState _) fun _ => ?_
    split
    · exact afterLeaving (LeavesState.writeState _ _) fun _ => pure rfl
    · exact pure rfl

theorem exportTo (name : Json) (force : Bool) : FailsCleanly (exportTo name force) := by
  refine afterLeaving (fun _ => Keeps.get) fun session => ?_
  split
  · exact refuse _
  · refine afterLeaving (fun _ => Keeps.get) fun session => ?_
    refine afterLeaving (fun _ => Keeps.permit) fun path => ?_
    refine afterLeaving (fun _ => Keeps.consult) fun taken => ?_
    split
    · exact refuse _
    · exact afterLeaving (LeavesState.writeState _ _) fun _ => pure rfl

/-- Every request but a start and an import fails cleanly. -/
theorem perform
    (request : Request)
    (noStart : ∀ path restore, request ≠ .initState path restore)
    (noImport : ∀ path, request ≠ .importState path) :
    FailsCleanly request.perform := by
  cases request with
  | initState path restore => exact absurd rfl (noStart path restore)
  | saveState path => exact save path
  | generateTokens alphabet maxLength force => exact generate alphabet maxLength force
  | upsertRelation name definition id => exact upsert name definition id
  | deleteRelation id => exact delete id
  | compareTokens tokenA tokenB relationId => exact compare tokenA tokenB relationId
  | importState path => exact absurd rfl (noImport path)
  | exportState fileName force => exact exportTo fileName force
  | notify title message => exact afterLeaving (fun _ => Keeps.notify) fun _ => pure rfl
  | confirm title message => exact afterLeaving (fun _ => Keeps.confirm) fun _ => pure rfl
  | prompt title default => exact afterLeaving (fun _ => Keeps.prompt) fun _ => pure rfl

theorem ofParameters
    {instruction : Instruction}
    (noStart : instruction ≠ .initState)
    (noImport : instruction ≠ .importState)
    (members : List (String × Json)) :
    FailsCleanly (Request.ofParameters instruction members).perform := by
  cases instruction with
  | initState => exact absurd rfl noStart
  | importState => exact absurd rfl noImport
  | _ => exact perform _ nofun nofun

end FailsCleanly

/-! ## Failed outcomes -/

/-- The outcome of a request is a failure, or an answer that tells of one. -/
inductive Failed : Except Failure Answer → Prop
  | failure (failure : Failure) : Failed (.error failure)
  | answer {answer : Answer} (fails : answer.success = false) : Failed (.ok answer)

theorem failed_ok_iff (answer : Answer) : Failed (.ok answer) ↔ answer.success = false :=
  ⟨fun | .answer fails => fails, .answer⟩

instance : DecidablePred Failed
  | .ok answer => decidable_of_iff _ (failed_ok_iff answer).symm
  | .error failure => isTrue (.failure failure)

/-- A settled request answers an issue, and lets every other failure pass. -/
theorem run_settle (session : Session) (request : Request) :
    session.run request.settle =
      match session.run request.perform with
      | (.error (.issue issue), after) => (.ok (.ofIssue issue), after)
      | (outcome, after) => (outcome, after) := by
  rw [Request.settle, run_tryCatch]
  rcases session.run request.perform with ⟨(issue | breach) | answer, after⟩ <;> rfl

/-- A request is settled in the session that performing it leaves. -/
theorem run_settle_state
    (session : Session)
    (request : Request) :
    (session.run request.settle).2 = (session.run request.perform).2 := by
  rw [run_settle]
  rcases session.run request.perform with ⟨(issue | breach) | answer, after⟩ <;> rfl

/-- A dispatch settles the request that is named, and answers a code that names none, if the code
can be shown. -/
theorem run_dispatch
    (session : Session)
    (code parameters : Json) :
    session.run (dispatch code parameters) =
      match Instruction.ofCode code with
      | .error breach => (.error (.breach breach), session)
      | .ok none => ((code.written.mapError .breach).map .unknownInstruction, session)
      | .ok (some instruction) =>
          match Request.parameters parameters with
          | .error breach => (.error (.breach breach), session)
          | .ok members => session.run (Request.ofParameters instruction members).settle := by
  rw [dispatch, run_bind, run_permit]
  cases Instruction.ofCode code with
  | error breach => rfl
  | ok instruction? =>
    cases instruction? with
    | none =>
      simp only [mapError_ok, run_bind, run_permit]
      cases code.written <;> rfl
    | some instruction =>
      simp only [mapError_ok, run_bind, run_permit]
      cases Request.parameters parameters <;> rfl

/-- A settled request has failed only if performing it has. -/
theorem failed_of_failed_settle
    {session : Session}
    {request : Request}
    (failed : Failed (session.run request.settle).1) :
    Failed (session.run request.perform).1 := by
  rw [run_settle] at failed
  rcases ran : session.run request.perform with ⟨failure | answer, after⟩
  · exact .failure failure
  · rwa [ran] at failed

theorem FailsCleanly.settle_leaves_state
    {request : Request}
    (cleanly : FailsCleanly request.perform)
    {session : Session}
    (failed : Failed (session.run request.settle).1) :
    (session.run request.settle).2.state = session.state := by
  have performed := failed_of_failed_settle failed
  rw [run_settle_state]
  rcases ran : session.run request.perform with ⟨failure | answer, after⟩
  · exact (cleanly session.state).of_error rfl ran
  · have success : answer.success = true := (cleanly session.state).of_ok rfl ran
    rw [ran, failed_ok_iff, success] at performed
    exact absurd performed (by decide)

/-! ## Imports -/

/-- An import that cannot read a snapshot leaves the state alone. -/
theorem importFrom_of_unread
    {session read : Session}
    {path : Json}
    {failure : Failure}
    (unread : session.run (readImport path) = (.error failure, read)) :
    (session.run (importFrom path)).2.state = session.state := by
  have left := (LeavesState.readImport path).run_state session
  rw [unread] at left
  rw [importFrom, run_bind, unread]
  exact left

/-- An import that has read a snapshot leaves the state of the snapshot, kept or not. -/
theorem importFrom_of_read
    {session read : Session}
    {path : Json}
    {imported : State}
    (taken : session.run (readImport path) = (.ok imported, read)) :
    (session.run (importFrom path)).2.state = some imported := by
  have left := (LeavesState.keepState imported).run_state { read with state := some imported }
  simp only [importFrom, run_bind, taken, run_replaceState]
  rcases ran : run { read with state := some imported } (keepState imported) with ⟨_ | _, after⟩
  · rwa [ran] at left
  · rwa [ran] at left

theorem import_leaves_state_iff
    (session : Session)
    (path : Json) :
    (session.run (Request.importState path).settle).2.state = session.state ↔
      ∀ imported read, session.run (readImport path) = (.ok imported, read) →
        session.state = some imported := by
  rw [run_settle_state, Request.perform]
  rcases ran : session.run (readImport path) with ⟨failure | imported, read⟩
  · simp [importFrom_of_unread ran]
  · rw [importFrom_of_read ran, eq_comm]
    exact ⟨fun same _ _ taken => by cases taken; exact same, fun same => same imported read rfl⟩

/-- A dispatch of anything but a start that fails leaves the state as it was, unless it is an import
whose snapshot was read; then the state is that of the snapshot. -/
theorem failed_dispatch_leaves_state_iff
    (session : Session)
    (code parameters : Json)
    (noStart : Instruction.ofCode code ≠ .ok (some .initState))
    (failed : Failed (session.run (dispatch code parameters)).1) :
    (session.run (dispatch code parameters)).2.state = session.state ↔
      ∀ members imported read,
        Instruction.ofCode code = .ok (some .importState) →
        Request.parameters parameters = .ok members →
        session.run (readImport (Json.memberOrNull "path" members)) = (.ok imported, read) →
        session.state = some imported := by
  rw [run_dispatch] at failed ⊢
  cases named : Instruction.ofCode code with
  | error breach => simp
  | ok instruction? =>
    cases instruction? with
    | none => simp
    | some instruction =>
      simp only [named] at failed ⊢
      cases given : Request.parameters parameters with
      | error breach => simp
      | ok members =>
        simp only [given] at failed ⊢
        by_cases imports : instruction = .importState
        · subst imports
          refine (import_leaves_state_iff session (Json.memberOrNull "path" members)).trans ?_
          constructor
          · rintro same _ imported read _ ⟨⟩ taken
            exact same imported read taken
          · exact fun same imported read taken => same members imported read rfl rfl taken
        · have started : instruction ≠ .initState := by
            rintro rfl
            exact noStart named
          have cleanly := FailsCleanly.ofParameters started imports members
          simp [imports, cleanly.settle_leaves_state failed]

/-- A session with a state, a snapshot of another one in a file, and a key store that cannot be
written. -/
def unkept : Session :=
  let snapshot :=
    "\x7b\"lexicon\":\x7b\"alphabet\":\"a\",\"maxLength\":1\x7d,\"generatedTokens\":[]," ++
      "\"relationDefinitions\":[]\x7d"
  { fresh (.memory [] [("/a.json", Encoding.encodeUtf8 snapshot.toList)]) .silent 0 with
    state := some .default
    failing := fun call _ =>
      if call = .setKey then some (.issue (.storage (.given "disk full"))) else none }

/-- The parameters of an import from that file. -/
def unkeptImport : Json := .obj [("path", .str "/a.json")]

theorem unkept_failed_dispatch :
    Instruction.ofCode (.int 304) ≠ .ok (some .initState) ∧
      Failed (unkept.run (dispatch (.int 304) unkeptImport)).1 ∧
      ((unkept.run (dispatch (.int 304) unkeptImport)).2.state = unkept.state ↔
        ∀ members imported read,
          Instruction.ofCode (.int 304) = .ok (some .importState) →
          Request.parameters unkeptImport = .ok members →
          unkept.run (readImport (Json.memberOrNull "path" members)) = (.ok imported, read) →
          unkept.state = some imported) := by
  have noStart : Instruction.ofCode (.int 304) ≠ .ok (some .initState) := nofun
  have failed : Failed (unkept.run (dispatch (.int 304) unkeptImport)).1 := by decide +kernel
  exact ⟨noStart, failed, failed_dispatch_leaves_state_iff unkept _ _ noStart failed⟩

/-- Not every failure leaves the state as it was: an import that is not kept replaces it. -/
theorem unkept_import_replaces_state :
    Instruction.ofCode (.int 304) ≠ .ok (some .initState) ∧
      Failed (unkept.run (dispatch (.int 304) unkeptImport)).1 ∧
      (unkept.run (dispatch (.int 304) unkeptImport)).2.state ≠ unkept.state :=
  ⟨nofun, by decide +kernel, by decide +kernel⟩

end Session
end Wordbook
