import Wordbook.Proofs.Relation

/-!
# Issued identifiers

Identifiers are issued one after the other, each at some reading of the clock and while some others
are in use.  Whatever the clock reads, an identifier is the least one that may be issued: so each of
them is greater than those before, also when these are in use no longer.
-/

namespace Wordbook
namespace Relation

/-- What an identifier is issued for: a reading of the clock, in nanoseconds, and the identifiers
that are in use. -/
structure Demand where
  clock : Int
  inUse : List Int

/-- The least number that answers a demand, were it not in use: the clock's milliseconds, but past
the identifier issued before. -/
def Demand.earliest (demand : Demand) (before : Int) : Int :=
  max (demand.clock.fdiv 1000000) (before + 1)

/-- The identifiers issued for demands one after the other, `before` being the one issued before
all of them. -/
def issue (before : Int) : List Demand → List Int
  | [] => []
  | demand :: demands =>
      let id := newId demand.clock before demand.inUse
      id :: issue id demands

/-- An identifier answers a demand: the search for it ends, and it is the least number that is early
enough and not in use. -/
structure Answers (before : Int) (demand : Demand) (id : Int) : Prop where
  ends : SearchEnds demand.inUse (demand.earliest before) id
  least : IsLeast {number : Int | demand.earliest before ≤ number ∧ number ∉ demand.inUse} id

namespace Answers

variable {before id : Int} {demand : Demand}

theorem newId (before : Int) (demand : Demand) :
    Answers before demand (newId demand.clock before demand.inUse) :=
  have ends := newId_searchEnds demand.clock before demand.inUse
  ⟨ends, ends.isLeast⟩

theorem before_lt (answers : Answers before demand id) : before < id := by
  have early := answers.least.1.1
  rw [Demand.earliest] at early
  omega

theorem eq_newId (answers : Answers before demand id) :
    id = Relation.newId demand.clock before demand.inUse :=
  have own := (Answers.newId before demand).least
  Int.le_antisymm (answers.least.2 own.1) (own.2 answers.least.1)

end Answers

variable {before : Int} {demands : List Demand}

theorem length_issue (before : Int) (demands : List Demand) :
    (issue before demands).length = demands.length := by
  induction demands generalizing before with
  | nil => rfl
  | cons demand demands inductionHypothesis =>
      rw [issue, List.length_cons, List.length_cons, inductionHypothesis]

/-- Every demand is answered after the identifier issued before it. -/
theorem issue_answers
    {place : Nat}
    {demand : Demand}
    (present : demands[place]? = some demand) :
    ∃ last id, (before :: issue before demands)[place]? = some last ∧
      (issue before demands)[place]? = some id ∧ Answers last demand id := by
  induction demands generalizing before place with
  | nil => simp at present
  | cons first demands inductionHypothesis =>
      cases place with
      | zero =>
          cases present
          exact ⟨before, _, rfl, rfl, .newId before _⟩
      | succ place => exact inductionHypothesis present

/-- Each identifier is greater than all that were issued before. -/
theorem issue_increasing (before : Int) (demands : List Demand) :
    (before :: issue before demands).Pairwise (· < ·) := by
  induction demands generalizing before with
  | nil => exact List.pairwise_singleton _ before
  | cons demand demands inductionHypothesis =>
      have later := inductionHypothesis (newId demand.clock before demand.inUse)
      have past : before < newId demand.clock before demand.inUse :=
        (Answers.newId before demand).before_lt
      rw [issue, List.pairwise_cons]
      refine ⟨fun id present => ?_, later⟩
      rcases List.mem_cons.mp present with rfl | behind
      · exact past
      · exact Int.lt_trans past ((List.pairwise_cons.mp later).1 id behind)

/-- Identifiers that are issued for demands in turn: every demand is answered by the least number
from the clock's milliseconds and the identifier before on that is not in use; so they increase, and
none of them is in use when it is issued. -/
structure IssuedInTurn (before : Int) (demands : List Demand) (ids : List Int) : Prop where
  all : ids.length = demands.length
  answers : ∀ (place : Nat) demand, demands[place]? = some demand →
    ∃ last id, (before :: ids)[place]? = some last ∧ ids[place]? = some id ∧
      Answers last demand id
  increasing : (before :: ids).Pairwise (· < ·)
  unused : ∀ (place : Nat) demand id, demands[place]? = some demand → ids[place]? = some id →
    id ∉ demand.inUse

/-- Whatever the clock reads and whatever is in use, identifiers are issued in turn. -/
theorem issue_inTurn (before : Int) (demands : List Demand) :
    IssuedInTurn before demands (issue before demands) where
  all := length_issue before demands
  answers _ _ := issue_answers
  increasing := issue_increasing before demands
  unused place demand id present issued := by
    obtain ⟨last, answer, -, answered, answers⟩ := issue_answers present
    rw [issued] at answered
    cases answered
    exact answers.least.1.2

/-- The clock goes back, and a block of numbers ahead is in use. -/
example :
    issue 0 [⟨5000000, []⟩, ⟨3000000, [6, 7, 8]⟩, ⟨20000000, [5, 9]⟩] = [5, 9, 20] := by decide

end Relation
end Wordbook
