import Wordbook.Proofs.Predicate.Display
import Wordbook.Proofs.Session.Comparing
import Wordbook.Session.Workflow

/-!
# Announcing comparisons

The workflow that compares two tokens gives back the answer to the comparison and announces it: it
shows the name of the relation, both tokens and the result.  The comparison itself looks at none of
the values that a predicate leaves, and so it succeeds on values that cannot be shown.  There the
workflow fails, after a comparison that succeeded; wherever the values can be shown it announces.
-/

namespace Wordbook

namespace Predicate

theorem Heap.isShowable_text (heap : Heap) (text : String) (mark : Mark) :
    heap.IsShowable (.text text mark) :=
  isOk_shown_iff.mp rfl

/-- A text is showable in any case, so being written as a text asks for no less than being shown. -/
theorem Held.isOk_text_iff {held : Held} :
    held.text.isOk = true ↔ held.heap.IsShowable held.value := by
  have plain : (held.heap.plain held.value).isOk = true ↔ held.heap.IsShowable held.value := by
    rw [← Heap.isOk_shown_iff]
    cases held.value <;> rfl
  rw [← plain, text]
  split
  case h_1 shown => simp [shown]
  case h_2 fails => simp [fails, isOk_iff]
  case h_3 fails => simp [fails, isOk_iff]

end Predicate

namespace Answer

open Predicate

/-- The answer to a comparison by a relation. -/
def ofVerdict (relation : Relation) (verdict : Verdict) : Answer :=
  { bare true with
    result := some verdict.result
    tokenA := some verdict.tokenA
    tokenB := some verdict.tokenB
    subject := some (.name relation.name) }

/-- An answer tells a value as a token or as the result of a comparison. -/
def Tells (answer : Answer) (held : Held) : Prop :=
  answer.tokenA = some held ∨ answer.tokenB = some held ∨ answer.result = some held

/-- All values that an answer tells can be shown. -/
def IsTellable (answer : Answer) : Prop :=
  ∀ held, answer.Tells held → held.heap.IsShowable held.value

/-- A part of an answer in words. -/
def wording (part : Option Held) : Except Breach String := part.elim (.ok "None") Held.text

/-- A comparison in words: the relation is applied to the tokens, and comes to the result. -/
def announcement (answer : Answer) : Except Breach String := do
  let left ← wording answer.tokenA
  let right ← wording answer.tokenB
  let result ← wording answer.result
  return Workflow.subjectName answer ++ "(" ++ left ++ ", " ++ right ++ ") = " ++ result

theorem isOk_wording_iff {part : Option Held} :
    (wording part).isOk = true ↔
      ∀ held, part = some held → held.heap.IsShowable held.value := by
  cases part with
  | none => exact iff_of_true rfl nofun
  | some held => simpa [wording] using Held.isOk_text_iff

/-- A comparison is put in words exactly when all that it tells can be shown. -/
theorem isOk_announcement_iff {answer : Answer} :
    answer.announcement.isOk = true ↔ answer.IsTellable := by
  have parts : answer.announcement.isOk = true ↔
      (wording answer.tokenA).isOk = true ∧ (wording answer.tokenB).isOk = true ∧
        (wording answer.result).isOk = true := by
    simp only [announcement, isOk_bind_iff, isOk_bind_pure]
    simp only [isOk_iff, exists_and_right]
  rw [parts, isOk_wording_iff, isOk_wording_iff, isOk_wording_iff]
  constructor
  · rintro ⟨left, right, result⟩ held (isLeft | isRight | isResult)
    · exact left held isLeft
    · exact right held isRight
    · exact result held isResult
  · intro shown
    exact ⟨fun held isLeft => shown held (.inl isLeft),
      fun held isRight => shown held (.inr (.inl isRight)),
      fun held isResult => shown held (.inr (.inr isResult))⟩

end Answer

namespace Session

variable {session after : Session} {tokenA tokenB reference : Json} {answer : Answer}

/-- The session after a text was shown. -/
def noted (session : Session) (text : String) : Session :=
  { session with events := session.events ++ [session.presenter.notify text] }

/-- The parameters of a comparison. -/
def comparison (tokenA tokenB reference : Json) : Json :=
  .obj [("tokenA", tokenA), ("tokenB", tokenB), ("relationId", reference)]

theorem run_dispatch_comparison :
    session.run (dispatch (.int 303) (comparison tokenA tokenB reference)) =
      session.run (Request.compareTokens tokenA tokenB reference).settle := by
  rw [run_dispatch]
  rfl

/-- A comparison that succeeds leaves the session as it was, and tells the verdict of a relation. -/
theorem exists_verdict_of_run_compare
    (ran : session.run (compare tokenA tokenB reference) = (.ok answer, after)) :
    after = session ∧ ∃ (relation : Relation) (verdict : Predicate.Verdict),
      Predicate.Verdict.ofBody relation.definition tokenA tokenB = .ok verdict ∧
        answer = .ofVerdict relation verdict := by
  unfold compare at ran
  obtain ⟨state, _, required, ran⟩ := run_bind_eq_ok_iff.mp ran
  obtain ⟨-, rfl⟩ := run_requireState_eq_ok_iff.mp required
  split at ran
  · cases ran
  · split at ran
    · cases ran
    · split at ran
      · cases ran
      · obtain ⟨target, _, sought, ran⟩ := run_bind_eq_ok_iff.mp ran
        obtain ⟨-, rfl⟩ := run_permit_eq_ok_iff.mp sought
        split at ran
        · cases ran
        · case h_2 relation found =>
            obtain ⟨verdict, _, permitted, ran⟩ := run_bind_eq_ok_iff.mp ran
            obtain ⟨judged, rfl⟩ := run_permit_eq_ok_iff.mp permitted
            cases ran
            exact ⟨rfl, relation, verdict, judged, rfl⟩

/-- A comparison answers with the verdict of the relation that is found, whatever that tells. -/
theorem run_dispatch_of_verdict
    {state : State}
    (held : session.state = some state)
    (givenA : Relation.isMissing tokenA = false)
    (givenB : Relation.isMissing tokenB = false)
    {relation : Relation}
    (found : (Relation.idOfText? reference).bind state.find? = some relation)
    {verdict : Predicate.Verdict}
    (judged : Predicate.Verdict.ofBody relation.definition tokenA tokenB = .ok verdict) :
    session.run (dispatch (.int 303) (comparison tokenA tokenB reference)) =
      (.ok (.ofVerdict relation verdict), session) := by
  rw [run_dispatch_comparison, run_settle, Request.perform,
    run_compare_of_found held givenA givenB found, apply, run_bind, run_permit, judged]
  rfl

/-- A comparison that is settled with success was performed with success. -/
theorem run_compare_of_settled
    (ran : session.run (Request.compareTokens tokenA tokenB reference).settle =
      (.ok answer, after))
    (succeeded : answer.success = true) :
    session.run (compare tokenA tokenB reference) = (.ok answer, after) := by
  rw [run_settle, Request.perform] at ran
  split at ran
  case h_1 issue left refused =>
    cases ran
    have told : (Answer.ofIssue issue).success = false := by cases issue <;> rfl
    rw [told] at succeeded
    cases succeeded
  case h_2 performed => exact performed.trans ran

end Session

namespace Predicate

/-- The tokens of a verdict on texts are these texts, whatever the predicate does. -/
theorem Verdict.tokens_of_texts
    {body first second : String}
    {verdict : Verdict}
    (given : ofBody body (.str first) (.str second) = .ok verdict) :
    (∃ mark, verdict.tokenA.value = .text first mark) ∧
      ∃ mark, verdict.tokenB.value = .text second mark := by
  obtain ⟨leftMark, rightMark, marks, made⟩ := BuiltIn.exists_alone?_tokens first second
  unfold ofBody at given
  split at given
  case h_2 => cases given
  case h_1 program compiled =>
    rw [ofProgram, outcome, outcomeWith, Engine.perform_of_alone _ made] at given
    simp only [Outcome.andThen] at given
    split at given
    case h_1 value left right machine returned =>
      cases given
      split at returned
      · cases returned
        exact ⟨⟨leftMark, rfl⟩, rightMark, rfl⟩
      · cases returned
      · cases returned
    case h_2 => cases given
    case h_3 => cases given

end Predicate

namespace Workflow

open Session

variable {session after : Session} {tokenA tokenB reference : Json} {answer : Answer}

/-! ## The workflow -/

theorem run_notify
    (session : Session)
    {title : String}
    (titled : title ≠ "")
    (message : Option String) :
    session.run (notify title message) =
      (.ok (), session.noted (title ++ ": " ++ message.getD "")) := by
  have titleKept : Request.orText (.str title) "Notification" = .str title :=
    if_pos (by simpa [Json.isTruthy] using titled)
  have textKept : Request.orText (.str (message.getD "")) "" = .str (message.getD "") := by
    by_cases given : message.getD "" = ""
    · rw [given]
      rfl
    · exact if_pos (by simpa [Json.isTruthy] using given)
  rw [notify, run_bind, run_settle, Request.perform, run_bind, titleKept, textKept]
  rfl

theorem run_partText (session : Session) (part : Option Predicate.Held) :
    session.run (partText part) = ((Answer.wording part).mapError .breach, session) := by
  cases part with
  | none => rfl
  | some held => exact run_permit session _

/-- The workflow passes on what keeps the comparison from being answered, and shows a failure; a
success it puts in words, which may fail. -/
theorem run_compare_eq (session : Session) (tokenA tokenB reference : Json) :
    session.run (compare tokenA tokenB reference) =
      match session.run (Request.compareTokens tokenA tokenB reference).settle with
      | (.error failure, after) => (.error failure, after)
      | (.ok answer, after) =>
          if answer.success = true then
            match answer.announcement with
            | .ok text => (.ok (some answer), after.noted ("Result: " ++ text))
            | .error breach => (.error (.breach breach), after)
          else (.ok (some answer), after.noted ("Error: " ++ answer.message.getD "")) := by
  rw [compare, run_bind]
  rcases session.run (Request.compareTokens tokenA tokenB reference).settle with
    ⟨failure | answer, after⟩
  · rfl
  · dsimp only
    split
    · simp only [run_bind, run_partText, Answer.announcement]
      cases Answer.wording answer.tokenA with
      | error breach => rfl
      | ok left =>
          cases Answer.wording answer.tokenB with
          | error breach => rfl
          | ok right =>
              cases Answer.wording answer.result with
              | error breach => rfl
              | ok result =>
                  simp only [mapError_ok, run_notify after (by decide : "Result" ≠ "")]
                  rfl
    · case isFalse failed =>
        rw [report, if_neg failed, run_bind, run_notify after (by decide : "Error" ≠ "")]
        rfl

/-- The workflow gives an answer back and shows it in words; beyond that it changes nothing. -/
def Announces (session : Session) (tokenA tokenB reference : Json) (answer : Answer) : Prop :=
  ∃ text, answer.announcement = .ok text ∧
    session.run (compare tokenA tokenB reference) =
      (.ok (some answer), session.noted ("Result: " ++ text))

/-- The workflow fails, and shows nothing. -/
def Breaks (session : Session) (tokenA tokenB reference : Json) : Prop :=
  ∃ breach, session.run (compare tokenA tokenB reference) = (.error (.breach breach), session)

/-- The workflow either announces a comparison that succeeds or fails after it: it announces all
that can be shown, and nothing else.  Texts that are compared can be shown in any case, so that with
them the result decides. -/
theorem compare_announces_iff
    (ran : session.run (dispatch (.int 303) (comparison tokenA tokenB reference)) =
      (.ok answer, after))
    (succeeded : answer.success = true) :
    after = session ∧
      (Announces session tokenA tokenB reference answer ↔ answer.IsTellable) ∧
      (Breaks session tokenA tokenB reference ↔ ¬ answer.IsTellable) ∧
      ∀ first second, tokenA = .str first → tokenB = .str second →
        (answer.IsTellable ↔
          ∀ held, answer.result = some held → held.heap.IsShowable held.value) := by
  rw [run_dispatch_comparison] at ran
  obtain ⟨rfl, relation, verdict, judged, told⟩ :=
    exists_verdict_of_run_compare (run_compare_of_settled ran succeeded)
  have flow := run_compare_eq after tokenA tokenB reference
  rw [ran] at flow
  dsimp only at flow
  rw [if_pos succeeded] at flow
  refine ⟨rfl, ?_, ?_, ?_⟩
  · rw [← Answer.isOk_announcement_iff, Announces, flow]
    cases answer.announcement <;> simp [isOk_iff]
  · rw [← Answer.isOk_announcement_iff, Breaks, flow]
    cases answer.announcement <;> simp [isOk_iff]
  · rintro first second rfl rfl
    obtain ⟨⟨leftMark, left⟩, rightMark, right⟩ := Predicate.Verdict.tokens_of_texts judged
    refine ⟨fun shown held isResult => shown held (.inr (.inr isResult)),
      fun shown held tells => ?_⟩
    rcases tells with isLeft | isRight | isResult
    · obtain rfl : verdict.tokenA = held := by simpa [told, Answer.ofVerdict] using isLeft
      exact left ▸ Predicate.Heap.isShowable_text _ first leftMark
    · obtain rfl : verdict.tokenB = held := by simpa [told, Answer.ofVerdict] using isRight
      exact right ▸ Predicate.Heap.isShowable_text _ second rightMark
    · exact shown held isResult

/-! ## Values that can and that cannot be shown -/

/-- A session whose state has one relation. -/
def withOnly (relation : Relation) : Session :=
  holding { State.default with relations := [relation] }

/-- A comparison of two letters by the only relation is put in words in some way. -/
def comesTo (relation : Relation) (wording : Except Breach String) : Bool :=
  (Predicate.Verdict.ofBody relation.definition (.str "0") (.str "1")).toOption.any fun verdict =>
    decide ((Answer.ofVerdict relation verdict).announcement = wording)

theorem exists_run_of_comesTo
    {relation : Relation}
    {wording : Except Breach String}
    (identified : relation.id = 7)
    (comes : comesTo relation wording = true) :
    ∃ answer, answer.success = true ∧ answer.announcement = wording ∧
      (withOnly relation).run (dispatch (.int 303) (comparison (.str "0") (.str "1") (.int 7))) =
        (.ok answer, withOnly relation) := by
  unfold comesTo at comes
  cases judged : Predicate.Verdict.ofBody relation.definition (.str "0") (.str "1") with
  | error failure =>
      rw [judged] at comes
      cases comes
  | ok verdict =>
      rw [judged] at comes
      have read : Relation.idOfText? (.int 7) = some 7 := by decide +kernel
      refine ⟨.ofVerdict relation verdict, rfl, of_decide_eq_true comes, ?_⟩
      refine run_dispatch_of_verdict rfl (by decide) (by decide) ?_ judged
      rw [read]
      change [relation].find? (fun other => other.id == 7) = some relation
      simp [identified]

/-- Its result is a list that is an item of itself. -/
def circle : Relation := ⟨7, "CIRCLE", "x = [tokenA]\nx.append(x)\nreturn x"⟩

/-- A list within itself is cut short where it comes again, and is announced so. -/
theorem circle_announces :
    ∃ answer, answer.success = true ∧
      (withOnly circle).run (dispatch (.int 303) (comparison (.str "0") (.str "1") (.int 7))) =
        (.ok answer, withOnly circle) ∧
      (Announces (withOnly circle) (.str "0") (.str "1") (.int 7) answer ↔ answer.IsTellable) ∧
      (Breaks (withOnly circle) (.str "0") (.str "1") (.int 7) ↔ ¬ answer.IsTellable) ∧
      answer.announcement = .ok "CIRCLE(0, 1) = ['0', [...]]" ∧
      Announces (withOnly circle) (.str "0") (.str "1") (.int 7) answer := by
  have comes : comesTo circle (.ok "CIRCLE(0, 1) = ['0', [...]]") = true := by decide +kernel
  obtain ⟨answer, succeeded, told, ran⟩ := exists_run_of_comesTo rfl comes
  obtain ⟨-, announces, breaks, -⟩ := compare_announces_iff ran succeeded
  have tellable := Answer.isOk_announcement_iff.mp (isOk_iff.mpr ⟨_, told⟩)
  exact ⟨answer, succeeded, ran, announces, breaks, told, announces.mpr tellable⟩

/-- Its result is the least integer of too many digits. -/
def huge : Relation := ⟨7, "HUGE", "10 ** 4300"⟩

/-- A comparison whose result has too many digits succeeds, and the workflow fails after it. -/
theorem huge_not_announced :
    ∃ answer, answer.success = true ∧
      (withOnly huge).run (dispatch (.int 303) (comparison (.str "0") (.str "1") (.int 7))) =
        (.ok answer, withOnly huge) ∧
      (withOnly huge).run (compare (.str "0") (.str "1") (.int 7)) =
        (.error (.breach (.tooManyDigits none)), withOnly huge) ∧
      ¬ Announces (withOnly huge) (.str "0") (.str "1") (.int 7) answer := by
  have comes : comesTo huge (.error (.tooManyDigits none)) = true := by decide +kernel
  obtain ⟨answer, succeeded, told, ran⟩ := exists_run_of_comesTo rfl comes
  have settled := ran
  rw [run_dispatch_comparison] at settled
  refine ⟨answer, succeeded, ran, ?_, ?_⟩
  · rw [run_compare_eq, settled]
    dsimp only
    rw [if_pos succeeded, told]
  · rintro ⟨text, announced, -⟩
    rw [told] at announced
    cases announced

end Workflow
end Wordbook
