import Wordbook.Proofs.Session.Actions
import Wordbook.Session.Workflow

/-!
# What workflows ensure

A workflow that is cancelled leaves what its dialogs leave, which is everything that conditions
speak of; one that is not ends with the answer of its last request, which is reported.  So what a
workflow ensures follows from what its requests do.
-/

namespace Wordbook

variable {Result Next : Type}

namespace Session

variable {before failed : Condition} {after : Answer → Condition}

namespace Ensures

/-- What is ensured in the end may be weakened. -/
theorem relax
    {act : Act Result}
    {sooner later : Result → Condition}
    {unmet : Condition}
    (ensured : Ensures before act sooner unmet)
    (leave : ∀ result state stores, sooner result state stores → later result state stores)
    (fail : ∀ state stores, unmet state stores → failed state stores) :
    Ensures before act later failed :=
  ensured.weaken (fun _ _ met => met) leave fail

/-- Every action ensures what always holds. -/
protected theorem trivial (act : Act Result) :
    Ensures before act (fun _ _ _ => True) fun _ _ => True := by
  intro session _
  rcases session.run act with ⟨_ | _, left⟩ <;> exact True.intro

/-- What keeps a condition may come first. -/
theorem afterKeeping
    {act : Act Result}
    {next : Result → Act Next}
    {last : Next → Condition}
    (fails : ∀ state stores, before state stores → failed state stores)
    (first : Keeps before act)
    (second : ∀ result, Ensures before (next result) last failed) :
    Ensures before (act >>= next) last failed :=
  Ensures.bind (first.relax (fun _ _ _ met => met) fails) second

/-- Two things that an action ensures are ensured together. -/
protected theorem and
    {act : Act Result}
    {otherBefore otherFailed : Condition}
    {firstAfter secondAfter : Result → Condition}
    (first : Ensures before act firstAfter failed)
    (second : Ensures otherBefore act secondAfter otherFailed) :
    Ensures (fun state stores => before state stores ∧ otherBefore state stores) act
      (fun result state stores => firstAfter result state stores ∧ secondAfter result state stores)
      (fun state stores => failed state stores ∧ otherFailed state stores) := by
  intro session met
  rcases ran : session.run act with ⟨_ | result, left⟩
  · exact ⟨first.of_error met.1 ran, second.of_error met.2 ran⟩
  · exact ⟨first.of_ok met.1 ran, second.of_ok met.2 ran⟩

end Ensures

/-! ## Settled requests -/

/-- One condition for answers that tell of success, and one for those that tell of a failure. -/
def bySuccess (succeeded failed : Condition) (answer : Answer) : Condition :=
  if answer.success = true then succeeded else failed

theorem bySuccess_mono
    {succeeded unmet wider laxer : Condition}
    (succeeds : ∀ state stores, succeeded state stores → wider state stores)
    (fails : ∀ state stores, unmet state stores → laxer state stores) :
    ∀ answer state stores, bySuccess succeeded unmet answer state stores →
      bySuccess wider laxer answer state stores := by
  intro answer
  unfold bySuccess
  split
  · exact succeeds
  · exact fails

/-- A request that answers with success only is settled with an answer that tells what came of
it. -/
theorem Ensures.settle
    {request : Request}
    {succeeded : Condition}
    (performed : Ensures before request.perform
      (fun answer state stores => answer.success = true ∧ succeeded state stores) failed) :
    Ensures before request.settle (bySuccess succeeded failed) failed := by
  have answered : Ensures before request.perform (bySuccess succeeded failed) failed := by
    refine performed.relax (fun answer state stores met => ?_) fun _ _ met => met
    rw [bySuccess, if_pos met.1]
    exact met.2
  refine Ensures.tryCatch answered fun failure => ?_
  cases failure with
  | issue issue =>
      refine Ensures.pure fun state stores met => ?_
      have told : (Answer.ofIssue issue).success = false := by cases issue <;> rfl
      rwa [bySuccess, told, if_neg Bool.false_ne_true]
  | breach breach => exact Ensures.throw fun _ _ met => met

theorem Keeps.settle
    {condition : Condition}
    {request : Request}
    (kept : Keeps condition request.perform) :
    Keeps condition request.settle := by
  refine Ensures.tryCatch kept fun failure => ?_
  cases failure with
  | issue issue => exact Keeps.pure
  | breach breach => exact Keeps.throw

end Session

namespace Workflow

open Session

variable {condition before failed : Condition} {after : Answer → Condition}

/-! ## Dialogs and reports -/

theorem notify_keeps (title : String) (message : Option String) :
    Keeps condition (notify title message) :=
  Keeps.bind (Keeps.settle (Keeps.bind Keeps.notify fun _ => Keeps.pure)) fun _ => Keeps.pure

theorem confirm_keeps (title message : String) : Keeps condition (confirm title message) :=
  Keeps.bind (Keeps.settle (Keeps.bind Keeps.confirm fun _ => Keeps.pure)) fun _ => Keeps.pure

theorem prompt_keeps (title default : String) : Keeps condition (prompt title default) := by
  refine Keeps.bind (Keeps.settle (Keeps.bind Keeps.prompt fun _ => Keeps.pure)) fun answer => ?_
  split
  · exact Keeps.pure
  · exact Keeps.pure

theorem orPrompt_keeps (value : Json) (title default : String) :
    Keeps condition (orPrompt value title default) := by
  unfold orPrompt
  split
  · exact prompt_keeps title default
  · exact Keeps.pure

/-- A report shows a text and gives the answer back. -/
theorem run_report (session : Session) (answer : Answer) (title : String) :
    ∃ text, session.run (report answer title) =
      (.ok (some answer), (session.run (Session.notify text)).2) :=
  ⟨_, rfl⟩

/-- What held before a workflow that was cancelled, and what holds for the answer of one that was
not. -/
def orCancelled (before : Condition) (after : Answer → Condition) : Option Answer → Condition
  | none => before
  | some answer => after answer

theorem orCancelled_mono
    {later : Answer → Condition}
    (follows : ∀ answer state stores, after answer state stores → later answer state stores) :
    ∀ found state stores, orCancelled before after found state stores →
      orCancelled before later found state stores
  | none, _, _, met => met
  | some answer, state, stores, met => follows answer state stores met

theorem keeps_of_orCancelled
    {act : Act (Option Answer)}
    (ensured : Ensures condition act (orCancelled condition fun _ => condition) condition) :
    Keeps condition act := by
  refine ensured.relax (fun answer _ _ met => ?_) fun _ _ met => met
  cases answer <;> exact met

theorem report_ensures (answer : Answer) (title : String) :
    Ensures (after answer) (report answer title) (orCancelled before after) failed := by
  intro session met
  obtain ⟨text, ran⟩ := run_report session answer title
  rw [ran]
  exact met

/-- The answer of a request is reported. -/
theorem reported_ensures
    {request : Request}
    (settled : Ensures before request.settle after failed)
    (title : String) :
    Ensures before (request.settle >>= fun answer => report answer title)
      (orCancelled before after) failed :=
  settled.bind fun answer => report_ensures answer title

/-- An action that has to be confirmed is cancelled without that. -/
theorem confirmed_ensures
    {act : Act (Option Answer)}
    (fails : ∀ state stores, before state stores → failed state stores)
    (title message : String)
    (ensured : Ensures before act (orCancelled before after) failed) :
    Ensures before (confirm title message >>= fun yes => if yes = true then act else pure none)
      (orCancelled before after) failed := by
  refine Ensures.afterKeeping fails (confirm_keeps title message) fun yes => ?_
  cases yes with
  | true => exact ensured
  | false => exact Ensures.pure fun _ _ met => met

/-- An action that needs a value is cancelled when none is given. -/
theorem prompted_ensures
    {act : Json → Act (Option Answer)}
    (fails : ∀ state stores, before state stores → failed state stores)
    (value : Json)
    (title default : String)
    (ensured : ∀ given, Ensures before (act given) (orCancelled before after) failed) :
    Ensures before
      (orPrompt value title default >>= fun given? =>
        match given? with
        | none => pure none
        | some given => act given)
      (orCancelled before after) failed := by
  refine Ensures.afterKeeping fails (orPrompt_keeps value title default) fun given? => ?_
  cases given? with
  | none => exact Ensures.pure fun _ _ met => met
  | some given => exact ensured given

/-! ## Workflows -/

theorem addRelation_ensures
    (fails : ∀ state stores, before state stores → failed state stores)
    (settled : ∀ name body,
      Ensures before (Request.upsertRelation name body .null).settle after failed)
    (name definition : Json) :
    Ensures before (addRelation name definition) (orCancelled before after) failed := by
  refine prompted_ensures fails name _ _ fun givenName => ?_
  refine prompted_ensures fails definition _ _ fun body => ?_
  exact reported_ensures (settled givenName body) "Success"

theorem editRelation_ensures
    (fails : ∀ state stores, before state stores → failed state stores)
    {id : Json}
    (settled : ∀ name body,
      Ensures before (Request.upsertRelation name body id).settle after failed)
    (name definition : Json) :
    Ensures before (editRelation id name definition) (orCancelled before after) failed := by
  refine Ensures.afterKeeping fails Keeps.get fun session => ?_
  refine Ensures.afterKeeping fails Keeps.permit fun relation => ?_
  refine prompted_ensures fails name _ _ fun givenName => ?_
  refine prompted_ensures fails definition _ _ fun body => ?_
  exact reported_ensures (settled givenName body) "Success"

theorem deleteRelation_ensures
    (fails : ∀ state stores, before state stores → failed state stores)
    {id : Json}
    (settled : Ensures before (Request.deleteRelation id).settle after failed) :
    Ensures before (deleteRelation id) (orCancelled before after) failed :=
  confirmed_ensures fails _ _ (reported_ensures settled "Success")

/-- A first attempt at generating that is refused leaves what held before, so that it can be made
again. -/
theorem generate_ensures
    (fails : ∀ state stores, before state stores → failed state stores)
    {alphabet maxLength : Json}
    (settled : ∀ force,
      Ensures before (Request.generateTokens alphabet maxLength force).settle after failed)
    (refused : ∀ answer state stores, answer.success = false → after answer state stores →
      before state stores) :
    Ensures before (generate alphabet maxLength) (orCancelled before after) failed := by
  refine Ensures.bind (settled false) fun first => ?_
  split
  · case isTrue again =>
      have undone : first.success = false := by simpa using (Bool.and_eq_true_iff.mp again).1
      have retried := confirmed_ensures fails "Warning" (first.message.getD "" ++ " Continue?")
        (reported_ensures (settled true) "Success")
      exact retried.weaken (fun state stores => refused first state stores undone)
        (fun _ _ _ met => met) fun _ _ met => met
  · exact report_ensures first "Success"

/-- A first attempt at exporting that has to be confirmed leaves what held before, so that it can be
made again. -/
theorem exportState_ensures
    (fails : ∀ state stores, before state stores → failed state stores)
    (settled : ∀ name force, Ensures before (Request.exportState name force).settle after failed)
    (refused : ∀ answer state stores, answer.success = false →
      answer.requireConfirmation = some true → after answer state stores → before state stores)
    (fileName : Json) :
    Ensures before (exportState fileName) (orCancelled before after) failed := by
  refine Ensures.afterKeeping fails Keeps.get fun session => ?_
  refine prompted_ensures fails fileName _ _ fun name => ?_
  refine Ensures.bind (settled name false) fun first => ?_
  split
  · case isTrue again =>
      have undone : first.success = false := by simpa using (Bool.and_eq_true_iff.mp again).1
      have asked : first.requireConfirmation = some true := by
        have wanted := (Bool.and_eq_true_iff.mp again).2
        cases required : first.requireConfirmation with
        | none => simp [required] at wanted
        | some required => simpa [required] using wanted
      have retried := confirmed_ensures fails "File Exists"
        (pathText first ++ " already exists. Overwrite?")
        (reported_ensures (settled name true) "Exported")
      exact retried.weaken (fun state stores => refused first state stores undone asked)
        (fun _ _ _ met => met) fun _ _ met => met
  · exact report_ensures first "Exported"

theorem save_ensures
    {path : Json}
    (settled : Ensures before (Request.saveState path).settle after failed) :
    Ensures before (save path) (orCancelled before after) failed :=
  reported_ensures settled "Saved"

/-- A reset starts anew and saves that; its answer is that of the start if it was saved. -/
theorem reset_ensures
    (fails : ∀ state stores, before state stores → failed state stores)
    {started : Answer → Condition}
    (starts : Ensures before (Request.initState .null false).settle started failed)
    (saves : ∀ answer, Ensures (started answer) (Request.saveState .null).settle
      (fun saved => after (if saved.success then answer else saved)) failed) :
    Ensures before reset (orCancelled before after) failed := by
  refine confirmed_ensures fails _ _ (Ensures.bind starts fun answer => ?_)
  refine Ensures.bind (saves answer) fun saved => ?_
  cases success : saved.success with
  | true => simpa [success] using report_ensures answer "Reset"
  | false => simpa [success] using report_ensures saved "Reset"

theorem importState_ensures
    (fails : ∀ state stores, before state stores → failed state stores)
    (settled : ∀ path, Ensures before (Request.importState path).settle after failed)
    (path : Json) :
    Ensures before (importState path) (orCancelled before after) failed := by
  have imported : ∀ chosen : Option Json,
      Ensures before
        (match chosen with
          | none => pure none
          | some given => do report (← (Request.importState given).settle) "Imported")
        (orCancelled before after) failed
    | none => Ensures.pure fun _ _ met => met
    | some given => reported_ensures (settled given) "Imported"
  unfold importState
  dsimp only
  split
  · have listed : Keeps before candidates := Keeps.bind Keeps.consult fun _ => Keeps.pure
    refine Ensures.afterKeeping fails listed fun found => ?_
    split
    · refine Ensures.afterKeeping fails (notify_keeps _ _) fun _ => ?_
      exact Ensures.afterKeeping fails (prompt_keeps _ _) imported
    · exact Ensures.afterKeeping fails (prompt_keeps _ _) imported
  · exact Ensures.afterKeeping fails Keeps.pure imported

end Workflow
end Wordbook
