import Mathlib.Logic.Relation
import Wordbook.Proofs.Session.Frames

/-!
# What a run leads through

A session moves by work of its own and by dialogs: what it shows grows at the end, and the presenter
changes with the questions that are put to it and with nothing else.  Every run leads from the
session that it starts in to the one that it ends in by such moves, so what a run asked can be told
from where it leads through.
-/

namespace Wordbook
namespace Session

variable {Result Next : Type}

/-- One move of a session: work beside the dialogs, a notification, or a question. -/
inductive Move : Session → Session → Prop
  | work
      {session after : Session}
      (samePresenter : after.presenter = session.presenter)
      (sameEvents : after.events = session.events)
      (sameFailing : after.failing = session.failing)
      (counted : session.calls ≤ after.calls) :
      Move session after
  | notify (session : Session) (text : String) :
      Move session (session.run (Session.notify text)).2
  | confirm (session : Session) (text : String) :
      Move session (session.run (Session.confirm text)).2
  | prompt (session : Session) (text default : Json) :
      Move session (session.run (Session.prompt text default)).2

/-- Moves lead from one session to another. -/
def Reaches : Session → Session → Prop := Relation.ReflTransGen Move

/-- Every run of an action leads from where it starts to where it ends. -/
def Leads (act : Act Result) : Prop := ∀ session : Session, session.Reaches (session.run act).2

theorem Move.reaches {session after : Session} (move : Move session after) :
    session.Reaches after :=
  Relation.ReflTransGen.single move

/-- Work beside the dialogs leads from one session to another. -/
theorem Reaches.work
    {session after : Session}
    (samePresenter : after.presenter = session.presenter)
    (sameEvents : after.events = session.events)
    (sameFailing : after.failing = session.failing)
    (counted : session.calls ≤ after.calls) :
    session.Reaches after :=
  (Move.work samePresenter sameEvents sameFailing counted).reaches

theorem Reaches.trans {session between after : Session} (first : session.Reaches between)
    (second : between.Reaches after) : session.Reaches after :=
  Relation.ReflTransGen.trans first second

namespace Leads

protected theorem pure (result : Result) : Leads (pure result) :=
  fun _ => Relation.ReflTransGen.refl

protected theorem throw (failure : Failure) : Leads (throw failure : Act Result) :=
  fun _ => Relation.ReflTransGen.refl

protected theorem bind
    {act : Act Result}
    {next : Result → Act Next}
    (first : Leads act)
    (second : ∀ result, Leads (next result)) :
    Leads (act >>= next) := by
  intro session
  have led := first session
  rw [run_bind]
  rcases ran : session.run act with ⟨failure | result, after⟩
  · rwa [ran] at led
  · rw [ran] at led
    exact led.trans (second result after)

protected theorem tryCatch
    {act : Act Result}
    {handler : Failure → Act Result}
    (first : Leads act)
    (second : ∀ failure, Leads (handler failure)) :
    Leads (tryCatch act handler) := by
  intro session
  have led := first session
  rw [run_tryCatch]
  rcases ran : session.run act with ⟨failure | result, after⟩
  · rw [ran] at led
    exact led.trans (second failure after)
  · rwa [ran] at led

protected theorem get : Leads get := fun _ => Relation.ReflTransGen.refl

protected theorem permit (checked : Except Failure Result) : Leads (permit checked) := by
  cases checked with
  | ok result => exact Leads.pure result
  | error failure => exact Leads.throw failure

protected theorem require (checked : Except Issue Result) : Leads (require checked) := by
  cases checked with
  | ok result => exact Leads.pure result
  | error issue => exact Leads.throw _

protected theorem requireState : Leads requireState := by
  refine Leads.bind Leads.get fun session => ?_
  cases session.state with
  | none => exact Leads.throw _
  | some state => exact Leads.pure state

protected theorem replaceState (state : State) : Leads (replaceState state) :=
  fun _ => Reaches.work rfl rfl rfl (Nat.le_refl _)

protected theorem announce (call : Call) : Leads (announce call) := by
  intro session
  rw [run_announce]
  exact Reaches.work rfl rfl rfl (Nat.le_succ _)

protected theorem consult
    (call : Call)
    (read : Stores → Except Failure Result) :
    Leads (consult call read) :=
  Leads.bind (Leads.announce call) fun _ => Leads.bind Leads.get fun _ => Leads.permit _

protected theorem record
    (call : Call)
    (write : Stores → Stores × Except Failure Unit) :
    Leads (record call write) := by
  refine Leads.bind (Leads.announce call) fun _ session => ?_
  rw [run_bind, run_get]
  dsimp only
  rcases write session.stores with ⟨stores, failure | _⟩
  · exact Reaches.work rfl rfl rfl (Nat.le_refl _)
  · exact Reaches.work rfl rfl rfl (Nat.le_refl _)

protected theorem notify (text : String) : Leads (notify text) :=
  fun session => (Move.notify session text).reaches

protected theorem confirm (text : String) : Leads (confirm text) :=
  fun session => (Move.confirm session text).reaches

protected theorem prompt (text default : Json) : Leads (prompt text default) :=
  fun session => (Move.prompt session text default).reaches

/-! ## Requests -/

theorem settle {request : Request} (performed : Leads request.perform) : Leads request.settle := by
  refine Leads.tryCatch performed fun failure => ?_
  cases failure with
  | issue issue => exact Leads.pure _
  | breach breach => exact Leads.throw _

theorem generate (alphabet maxLength : Json) (force : Bool) :
    Leads (generate alphabet maxLength force) := by
  refine Leads.bind Leads.requireState fun state => ?_
  refine Leads.bind (Leads.require _) fun symbols => Leads.bind (Leads.require _) fun length => ?_
  rcases Lexicon.count symbols.length length (some Lexicon.threshold) with ⟨count, exact⟩
  dsimp only
  split
  · exact Leads.throw _
  · refine Leads.bind (Leads.require _) fun lexicon => ?_
    exact Leads.bind (Leads.replaceState _) fun _ => Leads.pure _

theorem delete (id : Json) : Leads (delete id) := by
  refine Leads.bind Leads.requireState fun state => Leads.bind (Leads.permit _) fun target => ?_
  split
  · exact Leads.throw _
  · exact Leads.bind (Leads.replaceState _) fun _ => Leads.pure _

theorem keepState (state : State) : Leads (keepState state) :=
  Leads.bind (Leads.permit _) fun _ => Leads.record _ _

theorem writeState (path : Json) (state : State) : Leads (writeState path state) :=
  Leads.bind (Leads.permit _) fun _ => Leads.record _ _

theorem save (path : Json) : Leads (save path) := by
  refine Leads.bind Leads.get fun session => ?_
  split
  · exact Leads.throw _
  · refine Leads.bind (keepState _) fun _ => ?_
    split
    · exact Leads.bind (writeState _ _) fun _ => Leads.pure _
    · exact Leads.pure _

theorem exportTo (name : Json) (force : Bool) : Leads (exportTo name force) := by
  refine Leads.bind Leads.get fun session => ?_
  split
  · exact Leads.throw _
  · refine Leads.bind Leads.get fun _ => Leads.bind (Leads.permit _) fun path => ?_
    refine Leads.bind (Leads.consult _ _) fun taken => ?_
    split
    · exact Leads.throw _
    · exact Leads.bind (writeState _ _) fun _ => Leads.pure _

/-- Starting afresh reads nothing. -/
theorem startAfresh : Leads (start .null false) :=
  fun _ => Reaches.work rfl rfl rfl (Nat.le_refl _)

/-! ## Workflows -/

theorem workflowNotify (title : String) (message : Option String) :
    Leads (Workflow.notify title message) := by
  refine Leads.bind (settle ?_) fun _ => Leads.pure _
  exact Leads.bind (Leads.notify _) fun _ => Leads.pure _

theorem report (answer : Answer) (title : String) : Leads (Workflow.report answer title) :=
  Leads.bind (workflowNotify _ _) fun _ => Leads.pure _

/-- A request whose answer is reported. -/
theorem reported
    (request : Request)
    (performed : Leads request.perform)
    (title : String) :
    Leads (request.settle >>= fun answer => Workflow.report answer title) :=
  Leads.bind (settle performed) fun _ => report _ _

theorem orPrompt (value : Json) (title default : String) :
    Leads (Workflow.orPrompt value title default) := by
  unfold Workflow.orPrompt
  split
  · have asked : Leads (Request.prompt (.str title) (.str default)).perform :=
      Leads.bind (Leads.prompt _ _) fun _ => Leads.pure _
    refine Leads.bind (settle asked) fun answer => ?_
    split
    · exact Leads.pure _
    · exact Leads.pure _
  · exact Leads.pure _

end Leads

/-! ## Confirmed runs -/

/-- On the way from one session to another a question under a title was asked, and the answer was to
go on. -/
def Confirms (title : String) (session after : Session) : Prop :=
  ∃ message asked answered, session.Reaches asked ∧
    asked.run (Workflow.confirm title message) = (.ok true, answered) ∧ answered.Reaches after

theorem Confirms.from_earlier
    {title : String}
    {earlier session after : Session}
    (led : earlier.Reaches session)
    (confirms : Confirms title session after) :
    Confirms title earlier after := by
  obtain ⟨message, asked, answered, before, agreed, behind⟩ := confirms
  exact ⟨message, asked, answered, led.trans before, agreed, behind⟩

/-- An action that has to be confirmed was confirmed, or nothing was done. -/
theorem confirmed_or_untouched
    {act : Act (Option Answer)}
    {title message : String}
    {session after : Session}
    {outcome : Except Failure (Option Answer)}
    (led : Leads act)
    (ran : session.run
      (Workflow.confirm title message >>= fun yes => if yes = true then act else pure none) =
        (outcome, after)) :
    Confirms title session after ∨
      (after.state = session.state ∧ after.stores = session.stores ∧
        ∀ answer, outcome ≠ .ok (some answer)) := by
  have kept : Keeps (IsAt session.state session.stores) (Workflow.confirm title message) :=
    Workflow.confirm_keeps title message
  have here : IsAt session.state session.stores session.state session.stores := ⟨rfl, rfl⟩
  rw [run_bind] at ran
  rcases asked : session.run (Workflow.confirm title message) with ⟨failure | yes, answered⟩
  · rw [asked] at ran
    cases ran
    obtain ⟨sameState, sameStores⟩ := kept.of_error here asked
    exact .inr ⟨sameState, sameStores, by simp⟩
  · rw [asked] at ran
    dsimp only at ran
    cases yes with
    | true =>
        rw [if_pos rfl] at ran
        refine .inl ⟨message, session, answered, Relation.ReflTransGen.refl, asked, ?_⟩
        have onward := led answered
        rwa [ran] at onward
    | false =>
        rw [if_neg Bool.false_ne_true] at ran
        cases ran
        obtain ⟨sameState, sameStores⟩ := kept.of_ok here asked
        exact .inr ⟨sameState, sameStores, by simp⟩

/-- How a first attempt that was not confirmed ended: it failed, or its answer was reported, or it
asked to be confirmed and that was declined. -/
inductive EndsUnconfirmed
    (attempt : Act Answer)
    (asks : Answer → Bool)
    (session after : Session) : Except Failure (Option Answer) → Prop
  | failed
      {failure : Failure}
      (ran : session.run attempt = (.error failure, after)) :
      EndsUnconfirmed attempt asks session after (.error failure)
  | answered
      {first : Answer}
      {between : Session}
      (ran : session.run attempt = (.ok first, between))
      (sameState : after.state = between.state)
      (sameStores : after.stores = between.stores) :
      EndsUnconfirmed attempt asks session after (.ok (some first))
  | declined
      {first : Answer}
      {between : Session}
      {outcome : Except Failure (Option Answer)}
      (ran : session.run attempt = (.ok first, between))
      (asked : asks first = true)
      (sameState : after.state = between.state)
      (sameStores : after.stores = between.stores)
      (unanswered : ∀ answer, outcome ≠ .ok (some answer)) :
      EndsUnconfirmed attempt asks session after outcome

/-- Such a run keeps what the attempt keeps. -/
theorem EndsUnconfirmed.keeps
    {attempt : Act Answer}
    {asks : Answer → Bool}
    {session after : Session}
    {outcome : Except Failure (Option Answer)}
    {condition : Condition}
    (ended : EndsUnconfirmed attempt asks session after outcome)
    (kept : Keeps condition attempt)
    (met : condition session.state session.stores) :
    condition after.state after.stores := by
  cases ended with
  | failed ran => exact kept.of_error met ran
  | answered ran sameState sameStores =>
      rw [sameState, sameStores]
      exact kept.of_ok met ran
  | declined ran asked sameState sameStores unanswered =>
      rw [sameState, sameStores]
      exact kept.of_ok met ran

/-- An action that is tried first and asks to be confirmed before it is tried again. -/
theorem confirmed_or_first
    {attempt : Act Answer}
    {asks : Answer → Bool}
    {message : Answer → String}
    {title shown : String}
    {retry : Act (Option Answer)}
    {session after : Session}
    {outcome : Except Failure (Option Answer)}
    (leads : Leads attempt)
    (retryLeads : Leads retry)
    (ran : session.run
      (attempt >>= fun first =>
        if asks first = true then
          Workflow.confirm title (message first) >>= fun yes =>
            if yes = true then retry else pure none
        else Workflow.report first shown) = (outcome, after)) :
    Confirms title session after ∨ EndsUnconfirmed attempt asks session after outcome := by
  have led := leads session
  rw [run_bind] at ran
  rcases attempted : session.run attempt with ⟨failure | first, between⟩
  · rw [attempted] at ran
    cases ran
    exact .inr (.failed attempted)
  · rw [attempted] at ran led
    dsimp only at ran
    split at ran
    · case isTrue asked =>
        rcases confirmed_or_untouched retryLeads ran with confirms | ⟨sameState, sameStores, none⟩
        · exact .inl (confirms.from_earlier led)
        · exact .inr (.declined attempted asked sameState sameStores none)
    · obtain ⟨text, reported⟩ := Workflow.run_report between first shown
      rw [reported] at ran
      cases ran
      exact .inr (.answered attempted rfl rfl)

end Session
end Wordbook
