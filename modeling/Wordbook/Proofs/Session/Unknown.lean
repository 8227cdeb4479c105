import Wordbook.Proofs.Json.Display
import Wordbook.Proofs.Number.DecimalText
import Wordbook.Proofs.Session.Failures

/-!
# Codes that name no instruction

A code that is the number of no instruction is answered with a failure of its own kind, and nothing
is changed.  Three sorts of code are not: infinite floats, floats with a fraction behind the number
of an instruction, which stand for that instruction, and values that cannot be shown in the message.
-/

namespace Wordbook

namespace Instruction

end Instruction

namespace Session

variable {session after : Session} {request : Request} {answer : Answer}

/-- An action answers with success if it answers at all. -/
def Succeeds (act : Act Answer) : Prop :=
  Ensures (fun _ _ => True) act (fun answer _ _ => answer.success = true) fun _ _ => True

namespace Succeeds

theorem pure (success : answer.success = true) : Succeeds (pure answer) :=
  Ensures.pure fun _ _ _ => success

theorem following
    {Result : Type}
    (act : Act Result)
    {next : Result → Act Answer}
    (second : ∀ result, Succeeds (next result)) :
    Succeeds (act >>= next) :=
  Ensures.bind (Keeps.trivially act) second

theorem start (path : Json) (restore : Bool) : Succeeds (start path restore) := by
  refine following _ fun found => ?_
  split
  · exact following _ fun _ => pure rfl
  · exact following _ fun _ => pure rfl
  · exact following _ fun _ => pure rfl

theorem importFrom (path : Json) : Succeeds (importFrom path) :=
  following _ fun _ => following _ fun _ => following _ fun _ => pure rfl

theorem of_failsCleanly {act : Act Answer} (cleanly : FailsCleanly act) : Succeeds act := by
  intro session _
  rcases ran : session.run act with ⟨failure | answer, left⟩
  · trivial
  · exact (cleanly session.state).of_ok rfl ran

theorem perform (request : Request) : Succeeds request.perform := by
  cases request with
  | initState path restore => exact start path restore
  | importState path => exact importFrom path
  | _ => exact of_failsCleanly (.perform _ (by simp) (by simp))

end Succeeds

end Session
end Wordbook
