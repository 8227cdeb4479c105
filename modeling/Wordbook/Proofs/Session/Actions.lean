import Wordbook.Session.Basic

/-!
# What actions ensure

An action ensures a condition when every run of it from a session that meets the condition before
ends in one that meets the condition after, or, when the run fails, the condition for failures.
Conditions speak of the state and the stores only: calls, dialogs and the clock leave them alone.
-/

namespace Wordbook
namespace Session

variable {Result Next : Type}

/-- What an action gives on a session, and the session after it. -/
def run (session : Session) (act : Act Result) : Except Failure Result × Session :=
  (act.run.run session).run

/-- A session over blank stores that holds a state. -/
def holding (state : State) : Session := { fresh .empty .silent 0 with state := some state }

/-! ## Runs -/

@[simp] theorem run_pure (session : Session) (result : Result) :
    session.run (pure result) = (.ok result, session) := rfl

@[simp] theorem run_throw (session : Session) (failure : Failure) :
    session.run (throw failure : Act Result) = (.error failure, session) := rfl

theorem run_bind
    (session : Session)
    (act : Act Result)
    (next : Result → Act Next) :
    session.run (act >>= next) =
      match session.run act with
      | (.ok result, after) => after.run (next result)
      | (.error failure, after) => (.error failure, after) := by
  change (match session.run act with
    | (outcome, after) => (ExceptT.bindCont next outcome after).run) = _
  rcases session.run act with ⟨_ | _, after⟩ <;> rfl

theorem run_tryCatch
    (session : Session)
    (act : Act Result)
    (handler : Failure → Act Result) :
    session.run (tryCatch act handler) =
      match session.run act with
      | (.ok result, after) => (.ok result, after)
      | (.error failure, after) => after.run (handler failure) := by
  have run_act : StateT.run (ExceptT.run act) session = session.run act := rfl
  rw [run, ExceptT.run_tryCatch, StateT.run_bind, run_act]
  rcases session.run act with ⟨_ | _, after⟩ <;> rfl

@[simp] theorem run_get (session : Session) :
    session.run get = (.ok session, session) := rfl

@[simp] theorem run_set (session changed : Session) :
    session.run (set changed : Act PUnit) = (.ok ⟨⟩, changed) := rfl

@[simp] theorem run_replaceState (session : Session) (state : State) :
    session.run (replaceState state) = (.ok (), { session with state := some state }) := rfl

@[simp] theorem run_permit (session : Session) (checked : Except Failure Result) :
    session.run (permit checked) = (checked, session) := by
  cases checked <;> rfl

@[simp] theorem run_require (session : Session) (checked : Except Issue Result) :
    session.run (require checked) = (checked.mapError .issue, session) := by
  cases checked <;> rfl

theorem run_requireState
    {session : Session}
    {state : State}
    (held : session.state = some state) :
    session.run requireState = (.ok state, session) := by
  rw [requireState, run_bind, run_get]
  simp only [held, run_pure]

theorem run_announce (session : Session) (call : Call) :
    session.run (announce call) =
      (match session.failing call session.calls with
        | some failure => .error failure
        | none => .ok (), { session with calls := session.calls + 1 }) := by
  rw [announce, run_bind, run_get]
  change run _ (set _ >>= _) = _
  rw [run_bind, run_set]
  cases session.failing call session.calls <;> rfl

theorem run_consult
    (session : Session)
    (call : Call)
    (read : Stores → Except Failure Result) :
    session.run (consult call read) =
      (match session.failing call session.calls with
        | some failure => .error failure
        | none => read session.stores, { session with calls := session.calls + 1 }) := by
  rw [consult, run_bind, run_announce]
  cases session.failing call session.calls with
  | some failure => rfl
  | none => simp only [run_bind, run_get, run_permit]

theorem run_record
    (session : Session)
    (call : Call)
    (write : Stores → Stores × Except Failure Unit) :
    session.run (record call write) =
      match session.failing call session.calls with
      | some failure => (.error failure, { session with calls := session.calls + 1 })
      | none =>
          ((write session.stores).2,
            { session with calls := session.calls + 1, stores := (write session.stores).1 }) := by
  rw [record, run_bind, run_announce]
  cases session.failing call session.calls with
  | some failure => rfl
  | none => rcases wrote : write session.stores with ⟨stores, _ | _⟩ <;>
      simp only [run_bind, run_get, wrote] <;> rfl

/-- The session after a question was asked. -/
def asked (session : Session) (text default : Json) : Session :=
  { session with
    presenter := (session.presenter.prompt text default).1
    events := session.events ++ (session.presenter.prompt text default).2.1
    calls := session.calls + 1 }

theorem run_prompt (session : Session) (text default : Json) :
    session.run (prompt text default) =
      (match session.failing .prompt session.calls with
        | some failure => .error failure
        | none => .ok (session.presenter.prompt text default).2.2, session.asked text default) := by
  rw [prompt, run_bind, run_get]
  change run _ (set _ >>= _) = _
  rw [run_bind, run_set]
  dsimp only
  rw [run_bind, run_announce]
  cases session.failing .prompt session.calls <;> rfl

/-! ## Runs that succeed -/

theorem run_bind_eq_ok_iff
    {session left : Session}
    {act : Act Result}
    {next : Result → Act Next}
    {result : Next} :
    session.run (act >>= next) = (.ok result, left) ↔
      ∃ given between, session.run act = (.ok given, between) ∧
        between.run (next given) = (.ok result, left) := by
  rw [run_bind]
  rcases session.run act with ⟨failure | given, between⟩
  · simp
  · refine ⟨fun ran => ⟨given, between, rfl, ran⟩, ?_⟩
    rintro ⟨_, _, ⟨⟩, ran⟩
    exact ran

theorem run_permit_eq_ok_iff
    {session left : Session}
    {checked : Except Failure Result}
    {result : Result} :
    session.run (permit checked) = (.ok result, left) ↔ checked = .ok result ∧ session = left := by
  rw [run_permit, Prod.mk.injEq]

theorem run_requireState_eq_ok_iff {session left : Session} {state : State} :
    session.run requireState = (.ok state, left) ↔
      session.state = some state ∧ session = left := by
  cases held : session.state with
  | some found => rw [run_requireState held, Prod.mk.injEq, Except.ok.injEq, Option.some.injEq]
  | none =>
      have refused : session.run requireState = (.error (.issue (.noState .work)), session) := by
        rw [requireState, run_bind, run_get]
        simp only [held]
        rfl
      rw [refused]
      simp

theorem run_consult_eq_ok_iff
    {session left : Session}
    {call : Call}
    {read : Stores → Except Failure Result}
    {result : Result} :
    session.run (consult call read) = (.ok result, left) ↔
      session.failing call session.calls = none ∧ read session.stores = .ok result ∧
        { session with calls := session.calls + 1 } = left := by
  rw [run_consult, Prod.mk.injEq]
  cases session.failing call session.calls <;> simp

theorem run_record_eq_ok_iff
    {session left : Session}
    {call : Call}
    {write : Stores → Stores × Except Failure Unit} :
    session.run (record call write) = (.ok (), left) ↔
      session.failing call session.calls = none ∧ (write session.stores).2 = .ok () ∧
        { session with calls := session.calls + 1, stores := (write session.stores).1 } = left := by
  rw [run_record]
  cases session.failing call session.calls <;> simp

/-! ## Conditions -/

/-- A condition on the state, if there is one, and the stores. -/
abbrev Condition := Option State → Stores → Prop

/-- Runs from the condition before end in the one after, or fail in the one for failures. -/
def Ensures
    (before : Condition)
    (act : Act Result)
    (after : Result → Condition)
    (failed : Condition) : Prop :=
  ∀ session : Session, before session.state session.stores →
    match session.run act with
    | (.ok result, left) => after result left.state left.stores
    | (.error _, left) => failed left.state left.stores

namespace Ensures

variable {before : Condition} {after : Result → Condition} {failed : Condition}

theorem of_ok
    {act : Act Result}
    (ensured : Ensures before act after failed)
    {session left : Session}
    {result : Result}
    (met : before session.state session.stores)
    (ran : session.run act = (.ok result, left)) :
    after result left.state left.stores := by
  have reached := ensured session met
  rwa [ran] at reached

theorem of_error
    {act : Act Result}
    (ensured : Ensures before act after failed)
    {session left : Session}
    {failure : Failure}
    (met : before session.state session.stores)
    (ran : session.run act = (.error failure, left)) :
    failed left.state left.stores := by
  have reached := ensured session met
  rwa [ran] at reached

protected theorem pure {result : Result} (holds : ∀ state stores, before state stores →
    after result state stores) :
    Ensures before (pure result) after failed :=
  fun _ met => holds _ _ met

protected theorem throw
    {failure : Failure}
    (holds : ∀ state stores, before state stores → failed state stores) :
    Ensures before (throw failure) after failed :=
  fun _ met => holds _ _ met

protected theorem bind
    {act : Act Result}
    {next : Result → Act Next}
    {last : Next → Condition}
    (first : Ensures before act after failed)
    (second : ∀ result, Ensures (after result) (next result) last failed) :
    Ensures before (act >>= next) last failed := by
  intro session met
  rw [run_bind]
  rcases ran : session.run act with ⟨_ | result, left⟩
  · exact first.of_error met ran
  · exact second result left (first.of_ok met ran)

protected theorem tryCatch
    {act : Act Result}
    {handler : Failure → Act Result}
    {caught : Condition}
    (first : Ensures before act after caught)
    (second : ∀ failure, Ensures caught (handler failure) after failed) :
    Ensures before (tryCatch act handler) after failed := by
  intro session met
  rw [run_tryCatch]
  rcases ran : session.run act with ⟨failure | _, left⟩
  · exact second failure left (first.of_error met ran)
  · exact first.of_ok met ran

theorem weaken
    {act : Act Result}
    {stronger : Condition}
    {sooner : Result → Condition}
    {unmet : Condition}
    (ensured : Ensures before act sooner unmet)
    (enter : ∀ state stores, stronger state stores → before state stores)
    (leave : ∀ result state stores, sooner result state stores → after result state stores)
    (fail : ∀ state stores, unmet state stores → failed state stores) :
    Ensures stronger act after failed := by
  intro session met
  rcases ran : session.run act with ⟨_ | result, left⟩
  · exact fail _ _ (ensured.of_error (enter _ _ met) ran)
  · exact leave _ _ _ (ensured.of_ok (enter _ _ met) ran)

protected theorem set
    {changed : Session}
    {reached : Condition}
    (holds : ∀ state stores, before state stores → reached changed.state changed.stores) :
    Ensures before (set changed) (fun _ => reached) failed :=
  fun _ met => holds _ _ met

protected theorem replaceState
    {state : State}
    {reached : Condition}
    (holds : ∀ found stores, before found stores → reached (some state) stores) :
    Ensures before (replaceState state) (fun _ => reached) failed :=
  fun _ met => holds _ _ met

/-- A session that is looked at is the one that the conditions speak of. -/
protected theorem get :
    Ensures before get
      (fun session state stores =>
        before state stores ∧ session.state = state ∧ session.stores = stores) failed :=
  fun _ met => ⟨met, rfl, rfl⟩

/-- What is noted beside the state and the stores changes no condition. -/
protected theorem note
    {noted : Session → Session}
    {next : Session → Act Result}
    (sameState : ∀ session, (noted session).state = session.state)
    (sameStores : ∀ session, (noted session).stores = session.stores)
    (onward : ∀ session, Ensures before (next session) after failed) :
    Ensures before (get >>= fun session => set (noted session) >>= fun _ => next session)
      after failed := by
  refine Ensures.bind Ensures.get fun session => ?_
  refine Ensures.bind (Ensures.set fun state stores met => ?_) fun _ => onward session
  obtain ⟨met, rfl, rfl⟩ := met
  rwa [sameState, sameStores]

/-- A write ensures what the stores that it leaves meet; one that is not made leaves them alone. -/
protected theorem record
    {call : Call}
    {write : Stores → Stores × Except Failure Unit}
    {reached : Condition}
    (unmade : ∀ state stores, before state stores → failed state stores)
    (written : ∀ state stores changed, before state stores → write stores = (changed, .ok ()) →
      reached state changed)
    (unwritten : ∀ state stores changed failure, before state stores →
      write stores = (changed, .error failure) → failed state changed) :
    Ensures before (record call write) (fun _ => reached) failed := by
  intro session met
  rw [run_record]
  cases session.failing call session.calls with
  | some failure => exact unmade _ _ met
  | none =>
      rcases wrote : write session.stores with ⟨changed, failure | _⟩
      · exact unwritten _ _ _ _ met wrote
      · exact written _ _ _ met wrote

/-- What was read is what the stores told. -/
protected theorem consult
    {call : Call}
    {read : Stores → Except Failure Result} :
    Ensures before (consult call read)
      (fun result state stores => before state stores ∧ read stores = .ok result) before := by
  intro session met
  rw [run_consult]
  cases session.failing call session.calls with
  | some failure => exact met
  | none =>
      dsimp only
      cases told : read session.stores with
      | ok result => exact ⟨met, told⟩
      | error failure => exact met

end Ensures

/-! ## Conditions that are kept -/

/-- A condition that holds before an action holds after it, whatever comes of the action. -/
def Keeps (condition : Condition) (act : Act Result) : Prop :=
  Ensures condition act (fun _ => condition) condition

/-- An action keeps a condition, and what it gives is good. -/
def Yields (condition : Condition) (act : Act Result) (good : Result → Prop) : Prop :=
  Ensures condition act (fun result state stores => condition state stores ∧ good result) condition

namespace Keeps

variable {condition : Condition}

theorem after
    {act : Act Result}
    (kept : Keeps condition act)
    {session : Session}
    (met : condition session.state session.stores) :
    condition (session.run act).2.state (session.run act).2.stores := by
  rcases ran : session.run act with ⟨_ | _, left⟩
  · exact kept.of_error met ran
  · exact kept.of_ok met ran

/-- Nothing is asked of what is kept. -/
protected theorem trivially (act : Act Result) : Keeps (fun _ _ => True) act := by
  intro session _
  rcases session.run act with ⟨failure | result, after⟩ <;> trivial

protected theorem pure {result : Result} : Keeps condition (pure result) :=
  Ensures.pure fun _ _ met => met

protected theorem throw {failure : Failure} : Keeps condition (throw failure : Act Result) :=
  Ensures.throw fun _ _ met => met

protected theorem bind
    {act : Act Result}
    {next : Result → Act Next}
    (first : Keeps condition act)
    (second : ∀ result, Keeps condition (next result)) :
    Keeps condition (act >>= next) :=
  Ensures.bind first second

/-- What follows may rely on a good result. -/
theorem bindYields
    {act : Act Result}
    {next : Result → Act Next}
    {good : Result → Prop}
    (first : Yields condition act good)
    (second : ∀ result, good result → Keeps condition (next result)) :
    Keeps condition (act >>= next) :=
  Ensures.bind first fun result session met => second result met.2 session met.1

protected theorem get : Keeps condition get :=
  fun _ met => met

protected theorem permit {checked : Except Failure Result} : Keeps condition (permit checked) := by
  cases checked with
  | ok result => exact Keeps.pure
  | error failure => exact Keeps.throw

protected theorem require {checked : Except Issue Result} : Keeps condition (require checked) := by
  cases checked with
  | ok result => exact Keeps.pure
  | error issue => exact Keeps.throw

protected theorem requireState : Keeps condition requireState := by
  refine Keeps.bind Keeps.get fun session => ?_
  cases session.state with
  | none => exact Keeps.throw
  | some state => exact Keeps.pure

protected theorem announce {call : Call} : Keeps condition (announce call) := by
  intro session met
  rw [run_announce]
  cases session.failing call session.calls <;> exact met

protected theorem consult
    {call : Call}
    {read : Stores → Except Failure Result} :
    Keeps condition (consult call read) :=
  Keeps.bind Keeps.announce fun _ => Keeps.bind Keeps.get fun _ => Keeps.permit

/-- Writing keeps what the write itself keeps. -/
protected theorem record
    {call : Call}
    {write : Stores → Stores × Except Failure Unit}
    (written : ∀ state stores, condition state stores → condition state (write stores).1) :
    Keeps condition (record call write) := by
  refine Keeps.bind Keeps.announce fun _ => Ensures.bind Ensures.get fun session => ?_
  refine Ensures.bind (Ensures.set fun state stores met => ?_) fun _ => Keeps.permit
  obtain ⟨met, rfl, rfl⟩ := met
  exact written _ _ met

protected theorem notify {text : String} : Keeps condition (notify text) :=
  fun _ met => met

protected theorem confirm {text : String} : Keeps condition (confirm text) := by
  refine Ensures.note (fun _ => rfl) (fun _ => rfl) fun session => ?_
  exact Keeps.bind Keeps.announce fun _ => Keeps.pure

protected theorem prompt {text default : Json} : Keeps condition (prompt text default) := by
  refine Ensures.note (fun _ => rfl) (fun _ => rfl) fun session => ?_
  exact Keeps.bind Keeps.announce fun _ => Keeps.pure

end Keeps

namespace Yields

variable {condition : Condition} {good : Result → Prop}

protected theorem pure
    {result : Result}
    (isGood : good result) :
    Yields condition (pure result) good :=
  Ensures.pure fun _ _ met => ⟨met, isGood⟩

protected theorem throw {failure : Failure} : Yields condition (throw failure) good :=
  Ensures.throw fun _ _ met => met

protected theorem bind
    {act : Act Result}
    {next : Result → Act Next}
    {goal : Next → Prop}
    (first : Yields condition act good)
    (second : ∀ result, good result → Yields condition (next result) goal) :
    Yields condition (act >>= next) goal :=
  Ensures.bind first fun result session met => second result met.2 session met.1

protected theorem map
    {act : Act Result}
    {goal : Next → Prop}
    (yields : Yields condition act good)
    {change : Result → Next}
    (changed : ∀ result, good result → goal (change result)) :
    Yields condition (change <$> act) goal := by
  rw [map_eq_pure_bind]
  exact Yields.bind yields fun result isGood => Yields.pure (changed result isGood)

protected theorem tryCatch
    {act : Act Result}
    {handler : Failure → Act Result}
    (first : Yields condition act good)
    (second : ∀ failure, Yields condition (handler failure) good) :
    Yields condition (tryCatch act handler) good :=
  Ensures.tryCatch first second

protected theorem permit {checked : Except Failure Result} :
    Yields condition (permit checked) (checked = .ok ·) := by
  cases checked with
  | ok result => exact Yields.pure rfl
  | error failure => exact Yields.throw

protected theorem require {checked : Except Issue Result} :
    Yields condition (require checked) (checked = .ok ·) := by
  cases checked with
  | ok result => exact Yields.pure rfl
  | error issue => exact Yields.throw

/-- What is known of a session that is looked at follows from the condition. -/
protected theorem get
    {seen : Session → Prop}
    (sees : ∀ session : Session, condition session.state session.stores → seen session) :
    Yields condition get seen :=
  fun session met => ⟨met, sees session met⟩

protected theorem requireState
    {sound : State → Prop}
    (holds : ∀ state stores, condition (some state) stores → sound state) :
    Yields condition requireState sound := by
  have seen : Yields condition get
      fun session => ∀ state, session.state = some state → sound state :=
    Yields.get fun session met state held => holds state _ (held ▸ met)
  refine Yields.bind seen fun session sees => ?_
  cases held : session.state with
  | none => exact Yields.throw
  | some state => exact Yields.pure (sees state held)

/-- What is read from the stores is as good as the condition on the stores makes it. -/
protected theorem consult
    {call : Call}
    {read : Stores → Except Failure Result}
    (reads : ∀ state stores result, condition state stores → read stores = .ok result →
      good result) :
    Yields condition (consult call read) good := by
  refine Ensures.bind Keeps.announce fun _ => ?_
  have seen : Yields condition get
      fun session => ∀ result, read session.stores = .ok result → good result :=
    Yields.get fun session met result => reads _ _ result met
  refine Yields.bind seen fun session sees => ?_
  exact Yields.permit.weaken (fun _ _ met => met)
    (fun result _ _ met => ⟨met.1, sees result met.2⟩) fun _ _ met => met

end Yields

end Session
end Wordbook
