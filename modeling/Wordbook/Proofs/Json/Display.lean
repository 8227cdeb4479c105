import Wordbook.Json.Display

/-!
# Values that can be shown in messages

A value is not shown if it is nested too deep or if an integer in it has too many digits, and for no
other reason.
-/

namespace Wordbook
namespace Json

/-- The values that stand directly in a value. -/
def parts : Json → List Json
  | .arr items => items
  | .obj members => members.map Prod.snd
  | _ => []

/-- A value has another one in it, so many levels below. -/
inductive Holds : Nat → Json → Json → Prop
  | here (value : Json) : Holds 0 value value
  | deeper
      {levels : Nat}
      {value part last : Json}
      (within : part ∈ value.parts)
      (holds : Holds levels part last) :
      Holds (levels + 1) value last

/-- No value within a value lies too deep to be shown, and all integers there have a text. -/
def IsShowable (value : Json) : Prop :=
  ∀ levels last, Holds levels value last →
    levels < displayLimit ∧ ∀ integer, last = .int integer → Number.hasText integer = true

/-- An integer that can be shown has a text. -/
theorem IsShowable.hasText
    {integer : Int}
    (showable : IsShowable (.int integer)) :
    Number.hasText integer = true :=
  (showable 0 _ (.here _)).2 integer rfl

theorem obstacleInItems?_eq_none_iff {room : Nat} {items : List Json} :
    obstacleInItems? room items = none ↔ ∀ item ∈ items, obstacle? room item = none := by
  induction items with
  | nil => simp [obstacleInItems?]
  | cons item items inductionHypothesis =>
      rw [obstacleInItems?, Option.or_eq_none_iff, inductionHypothesis, List.forall_mem_cons]

theorem obstacleInMembers?_eq_none_iff {room : Nat} {members : List (String × Json)} :
    obstacleInMembers? room members = none ↔
      ∀ member ∈ members, obstacle? room member.2 = none := by
  induction members with
  | nil => simp [obstacleInMembers?]
  | cons member members inductionHypothesis =>
      rw [obstacleInMembers?, Option.or_eq_none_iff, inductionHypothesis, List.forall_mem_cons]

/-- Nothing keeps a value from being shown if nothing keeps its parts from that one level less
deep. -/
theorem obstacle?_succ_eq_none_iff {room : Nat} {value : Json} :
    obstacle? (room + 1) value = none ↔
      (∀ integer, value = .int integer → Number.hasText integer = true) ∧
        ∀ part ∈ value.parts, obstacle? room part = none := by
  cases value with
  | int integer => simp [obstacle?, parts]
  | arr items => simp [obstacle?, parts, obstacleInItems?_eq_none_iff]
  | obj members =>
      rw [obstacle?, obstacleInMembers?_eq_none_iff, parts, List.forall_mem_map]
      simp
  | null | bool | float | str => simp [obstacle?, parts]

end Json
end Wordbook
