import Wordbook.Proofs.Json.Limits
import Wordbook.Proofs.Session.Failures

/-!
# Starting

A start makes up for stores that cannot be read and for snapshots that are malformed.  The snapshots
that it does not make up for are those whose text has an integer of too many digits or is nested too
deep: these fail a start, and nothing else does.
-/

namespace Wordbook

/-- The text of a snapshot has an integer of too many digits, or containers nested too deep. -/
def Snapshot.Overflows (content : List UInt8) : Prop :=
  ∃ chars, Encoding.decodeAnnounced content = .ok chars ∧
    ((∃ count, Json.read chars = .error (.tooManyDigits count)) ∨
      Json.read chars = .error .tooDeep)

/-- A text that overflows has more digits in a row or more opening brackets than the limits. -/
theorem Snapshot.Overflows.exceeds
    {content : List UInt8}
    (overflows : Snapshot.Overflows content) :
    ∃ chars, Encoding.decodeAnnounced content = .ok chars ∧
      ((∃ count, Number.digitLimit < count ∧ Json.HasDigits chars count) ∨
        Json.nestingLimit < chars.countP Json.isOpening) := by
  obtain ⟨chars, text, ⟨count, overflow⟩ | overflow⟩ := overflows
  · exact ⟨chars, text, .inl ⟨count, Json.hasDigits_of_read_tooManyDigits overflow⟩⟩
  · exact ⟨chars, text, .inr (Json.nestingLimit_lt_of_read_tooDeep overflow)⟩

namespace Session

/-- A snapshot that is read has no text that overflows. -/
theorem not_overflows_of_decode
    {content : List UInt8}
    {state : State}
    (decoded : Snapshot.decode content = .ok state) :
    ¬ Snapshot.Overflows content := by
  rintro ⟨chars, text, ⟨count, overflow⟩ | overflow⟩ <;>
    simp [Snapshot.decode, text, overflow] at decoded

/-- Of the failures to read a snapshot, loading does not make up for those of texts that
overflow. -/
theorem isSurvivable_decode_iff
    {content : List UInt8}
    {failure : Failure}
    (undecoded : Snapshot.decode content = .error failure) :
    isSurvivable failure = true ↔ ¬ Snapshot.Overflows content := by
  unfold Snapshot.decode at undecoded
  unfold Snapshot.Overflows
  split at undecoded
  case h_1 fault unreadable =>
    cases undecoded
    simp [unreadable, isSurvivable]
  case h_2 chars text =>
    split at undecoded
    case h_1 value valid =>
      cases checked : Snapshot.ofJson value with
      | ok state => simp [checked] at undecoded
      | error issue =>
          simp only [checked, mapError_error, Except.error.injEq] at undecoded
          simp [← undecoded, text, valid, isSurvivable]
    case h_2 count overflow =>
      cases undecoded
      simp [text, overflow, isSurvivable]
    case h_3 overflow =>
      cases undecoded
      simp [text, overflow, isSurvivable]
    case h_4 reason remaining malformed =>
      cases undecoded
      simp [text, malformed, isSurvivable]

/-! ## Reading calls -/

/-- Every failure that an outcome may be is one that a start makes up for. -/
def FailsMildly {Result : Type} (outcome : Except Failure Result) : Prop :=
  ∀ failure, outcome = .error failure → isSurvivable failure = true

namespace FailsMildly

variable {Result Next : Type}

theorem ok (result : Result) : FailsMildly (.ok result) := nofun

theorem issue (checked : Except Issue Result) : FailsMildly (checked.mapError .issue) := by
  cases checked with
  | ok result => exact ok result
  | error issue => rintro _ ⟨⟩; rfl

theorem bind
    {outcome : Except Failure Result}
    {next : Result → Except Failure Next}
    (first : FailsMildly outcome)
    (second : ∀ result, FailsMildly (next result)) :
    FailsMildly (outcome >>= next) := by
  cases outcome with
  | ok result => exact second result
  | error failure => rintro _ ⟨⟩; exact first failure rfl

theorem run_bind
    {session : Session}
    {act : Act Result}
    {next : Result → Act Next}
    (first : FailsMildly (session.run act).1)
    (second : ∀ result after, FailsMildly (run after (next result)).1) :
    FailsMildly (session.run (act >>= next)).1 := by
  rw [Session.run_bind]
  rcases ran : session.run act with ⟨failure | result, after⟩
  · rw [ran] at first
    rintro _ ⟨⟩
    exact first failure rfl
  · exact second result after

theorem getKey (stores : Stores) (key : String) : FailsMildly (stores.getKey key) := by
  cases stores with
  | memory keys files => exact ok _
  | onDisk disk =>
      refine bind (issue _) fun location => ?_
      split
      · exact ok _
      · exact ok _
      · rintro _ ⟨⟩; rfl

theorem look (disk : Disk) (location : Location) : FailsMildly (DiskFiles.look disk location) := by
  unfold DiskFiles.look
  cases disk.look location with
  | ok entry => exact ok _
  | error cause => rintro _ ⟨⟩; rfl

theorem locationOf (path : Json) : FailsMildly (DiskFiles.locationOf path) := by
  unfold DiskFiles.locationOf
  split
  · exact ok _
  · rintro _ ⟨⟩; rfl

theorem loadFile (stores : Stores) (path : Json) : FailsMildly (stores.loadFile path) := by
  cases stores with
  | memory keys files => exact issue _
  | onDisk disk =>
      refine bind (locationOf path) fun location => bind (look disk location) fun there? => ?_
      split
      · exact ok _
      · exact ok _

end FailsMildly

/-- The calls that read fail, if they do, only in ways that a start makes up for. -/
def ReadsFailMildly (session : Session) : Prop :=
  ∀ call ∈ [Call.getKey, Call.loadFile], ∀ count failure,
    session.failing call count = some failure → isSurvivable failure = true

theorem failsMildly_consult
    {Result : Type}
    {session : Session}
    (mild : session.ReadsFailMildly)
    {call : Call}
    (reading : call ∈ [Call.getKey, Call.loadFile])
    {read : Stores → Except Failure Result}
    (readMildly : ∀ stores, FailsMildly (read stores)) :
    FailsMildly (session.run (consult call read)).1 := by
  refine FailsMildly.run_bind ?_ fun _ after => FailsMildly.run_bind (.ok after) fun _ _ => ?_
  · rw [run_announce]
    cases failing : session.failing call session.calls with
    | some failure =>
        rintro _ ⟨⟩
        exact mild call reading _ _ failing
    | none => exact .ok ()
  · rw [run_permit]
    exact readMildly _

theorem failsMildly_findStored
    {session : Session}
    (mild : session.ReadsFailMildly)
    (path : Json)
    (restore : Bool) :
    FailsMildly (session.run (findStored path restore)).1 := by
  unfold findStored
  split
  · refine FailsMildly.run_bind (failsMildly_consult mild ?_ fun stores => ?_) fun _ _ => .ok _
    · simp
    · exact FailsMildly.loadFile stores path
  · split
    · refine FailsMildly.run_bind (failsMildly_consult mild ?_ fun stores => ?_) fun _ _ => .ok _
      · simp
      · exact FailsMildly.getKey stores stateKey
    · exact FailsMildly.ok _

/-! ## Starts -/

theorem run_load (session : Session) (path : Json) (restore : Bool) :
    session.run (load path restore) =
      match session.run (findStored path restore) with
      | (.ok (some content, message), after) =>
          ((Snapshot.decode content).map fun state => some (state, message), after)
      | (.ok (none, _), after) => (.ok none, after)
      | (.error failure, after) => (.error failure, after) := by
  rw [load, run_bind]
  rcases session.run (findStored path restore) with ⟨_ | ⟨_ | content, message⟩, after⟩
  · rfl
  · rfl
  · simp only [run_bind, run_permit]
    cases Snapshot.decode content <;> rfl

/-- A start ends with the state that was loaded, or with the default one. -/
theorem run_start (session : Session) (path : Json) (restore : Bool) :
    session.run (start path restore) =
      match session.run (load path restore) with
      | (.ok (some (state, message)), after) =>
          (.ok (.done message), { after with state := some state })
      | (.ok none, after) =>
          (.ok (.done "New state initialized with defaults"),
            { after with state := some .default })
      | (.error failure, after) =>
          if isSurvivable failure then
            (.ok (.done "Error occurred, initialized with defaults"),
              { after with state := some .default })
          else (.error failure, after) := by
  rw [start, run_bind, run_tryCatch, map_eq_pure_bind, run_bind]
  rcases session.run (load path restore) with ⟨failure | _ | ⟨state, message⟩, after⟩
  · cases survivable : isSurvivable failure with
    | true =>
        simp only [survivable, if_true]
        rfl
    | false => simp [survivable]
  · rfl
  · rfl

theorem not_failed_done (message : String) : ¬ Failed (.ok (.done message)) := by
  simp [failed_ok_iff, Answer.done, Answer.bare]

/-- A start succeeds and leaves a state exactly when the snapshot that it finds, if it finds one,
does not overflow. -/
theorem start_succeeds_iff
    (session : Session)
    (path : Json)
    (restore : Bool)
    (mild : session.ReadsFailMildly) :
    (¬ Failed (session.run (start path restore)).1 ∧
        (session.run (start path restore)).2.state.isSome) ↔
      ∀ content message found,
        session.run (findStored path restore) = (.ok (some content, message), found) →
        ¬ Snapshot.Overflows content := by
  have mildly := failsMildly_findStored mild path restore
  rw [run_start, run_load]
  rcases ran : session.run (findStored path restore) with ⟨failure | ⟨_ | content, message⟩, found⟩
  · rw [ran] at mildly
    simp only [mildly failure rfl, if_true]
    exact iff_of_true ⟨not_failed_done _, rfl⟩ nofun
  · exact iff_of_true ⟨not_failed_done _, rfl⟩ nofun
  · dsimp only
    cases decoded : Snapshot.decode content with
    | ok state =>
        refine iff_of_true ⟨not_failed_done _, rfl⟩ ?_
        rintro _ _ _ ⟨⟩
        exact not_overflows_of_decode decoded
    | error failure =>
        have survives := isSurvivable_decode_iff decoded
        by_cases fits : Snapshot.Overflows content
        · have lost : isSurvivable failure = false := by simpa [fits] using survives
          simp only [Except.map, lost]
          refine iff_of_false (fun started => started.1 (.failure failure)) fun none => ?_
          exact none content message found rfl fits
        · simp only [Except.map, survives.mpr fits, if_true]
          refine iff_of_true ⟨not_failed_done _, rfl⟩ ?_
          rintro _ _ _ ⟨⟩
          exact fits

/-- A session without a state, and bytes under the key of the state. -/
def stored (bytes : List UInt8) : Session :=
  fresh (.memory [(stateKey, bytes)] []) .silent 0

theorem stored_readsFailMildly (bytes : List UInt8) : (stored bytes).ReadsFailMildly := nofun

/-- A session whose stored snapshot ends in the middle of a member. -/
def truncated : Session := stored (Encoding.encodeUtf8 "\x7b\"lexicon\": ".toList)

theorem truncated_start_succeeds :
    truncated.ReadsFailMildly ∧
      ((¬ Failed (truncated.run (start .null true)).1 ∧
          (truncated.run (start .null true)).2.state.isSome) ↔
        ∀ content message found,
          truncated.run (findStored .null true) = (.ok (some content, message), found) →
          ¬ Snapshot.Overflows content) :=
  ⟨stored_readsFailMildly _, start_succeeds_iff truncated .null true (stored_readsFailMildly _)⟩

/-- A start fails on a snapshot of 4301 digits, and leaves no state. -/
theorem overlong_start_fails :
    (stored (List.replicate 4301 49)).ReadsFailMildly ∧
      Failed ((stored (List.replicate 4301 49)).run (start .null true)).1 ∧
      ((stored (List.replicate 4301 49)).run (start .null true)).2.state = none :=
  ⟨stored_readsFailMildly _, by decide +kernel, by decide +kernel⟩

end Session
end Wordbook
