import Wordbook.Predicate.Display
import Wordbook.Proofs.Outcome

/-!
# Values that can be shown

Showing a value fails in two ways only: an integer in it has too many digits, or values in it are
nested too deep.  What is shown within a value is followed level by level, a container within itself
being cut short.
-/

namespace Wordbook
namespace Predicate

/-- The integers that are written in a value itself. -/
def Value.integers : Value → List Int
  | .int value _ => [value]
  | .range start stop step _ => if step = 1 then [start, stop] else [start, stop, step]
  | _ => []

theorem isOk_intChars (value : Int) : (intChars value).isOk = Number.hasText value := by
  unfold intChars Number.decimalText?
  cases Number.hasText value <;> rfl

namespace Heap

/-- A type in another one is written by its name. -/
def isNamed : Value → Bool
  | .type _ => true
  | _ => false

/-- An argument of a type is written by its name, or as three dots. -/
def isWritten : Value → Bool
  | .type _ | .ellipsis => true
  | _ => false

/-- The values that are shown in a value. -/
def parts (heap : Heap) : Value → List Value
  | .tuple items _ | .frozen items _ => items
  | .slice lower upper step => [lower, upper, step]
  | .union members _ => members.filter fun member => !isNamed member
  | .applied _ _ arguments _ =>
      arguments.filter fun argument => !isWritten argument
  | .list address => (heap.list address).toList
  | .dict address => (heap.dict address).entries.flatMap fun entry => [entry.key, entry.value]
  | .set address => (heap.set address).keys
  | .view aspect address _ => (heap.dict address).entries.map fun entry => entry.aspect aspect
  | _ => []

/-- A value is cut short where it is shown within itself. -/
def isContainer : Value → Bool
  | .tuple _ _ | .frozen _ _ | .list _ | .dict _ | .set _ | .view _ _ _ => true
  | _ => false

/-- A value and the containers that it is shown in, the innermost first. -/
abbrev Sight := List Value × Value

/-- What is shown in a value. -/
def shownIn (heap : Heap) : Sight → List Sight
  | (inside, value) =>
      if isContainer value then
        if inside.any value.same then []
        else (heap.parts value).map fun part => (value :: inside, part)
      else (heap.parts value).map fun part => (inside, part)

/-- Something is shown within a value, so many levels below it. -/
inductive Shows (heap : Heap) : Nat → Sight → Sight → Prop
  | here (sight : Sight) : Shows heap 0 sight sight
  | deeper
      {levels : Nat}
      {sight inner last : Sight}
      (within : inner ∈ heap.shownIn sight)
      (shows : Shows heap levels inner last) :
      Shows heap (levels + 1) sight last

/-- No value within a value lies so deep that it is not shown, and all integers there have a
text. -/
def IsShowable (heap : Heap) (value : Value) : Prop :=
  ∀ levels last, heap.Shows levels ([], value) last →
    levels < nestingLimit ∧ ∀ integer ∈ last.2.integers, Number.hasText integer = true

variable {heap : Heap} {inner : List Value → Value → Except Fault (List Char)}

theorem isOk_within_iff
    {inside : List Value}
    {container : Value}
    {shown : (Value → Except Fault (List Char)) → Except Fault (List Char)} :
    (within inner inside container shown).isOk = true ↔
      (inside.any container.same = false → (shown (inner (container :: inside))).isOk = true) := by
  unfold within
  cases inside.any container.same <;> simp

theorem integers_of_container
    {container : Value}
    (isContainer : Heap.isContainer container = true) :
    container.integers = [] := by
  cases container with
  | int value mark => cases isContainer
  | range start stop step mark => cases isContainer
  | _ => rfl

theorem forall_shownIn_of_container
    {inside : List Value}
    {container : Value}
    {good : Sight → Prop}
    (isContainer : Heap.isContainer container = true) :
    (∀ sight ∈ heap.shownIn (inside, container), good sight) ↔
      (inside.any container.same = false →
        ∀ part ∈ heap.parts container, good (container :: inside, part)) := by
  rw [shownIn, if_pos isContainer]
  cases inside.any container.same <;> simp

theorem forall_shownIn_of_plain
    {inside : List Value}
    {value : Value}
    {good : Sight → Prop}
    (isPlain : isContainer value = false) :
    (∀ sight ∈ heap.shownIn (inside, value), good sight) ↔
      ∀ part ∈ heap.parts value, good (inside, part) := by
  rw [shownIn, isPlain]
  simp

/-- A container is shown when what is shown in it is, or when it is cut short. -/
theorem isOk_shownWith_of_container
    {inside : List Value}
    {container : Value}
    (isContainer : Heap.isContainer container = true) :
    (heap.shownWith inner inside container).isOk = true ↔
      (inside.any container.same = false →
        ∀ part ∈ heap.parts container, (inner (container :: inside) part).isOk = true) := by
  cases container with
  | tuple items mark =>
      rcases items with _ | ⟨item, _ | ⟨second, items⟩⟩
      · simp [shownWith, parts]
      · rw [shownWith, isOk_within_iff, isOk_bind_pure]
        simp [parts]
      · simp only [shownWith, isOk_within_iff, isOk_bind_pure, isOk_mapM_iff]
        rfl
  | frozen items mark =>
      cases items with
      | nil => simp [shownWith, parts]
      | cons item items =>
          simp only [shownWith, isOk_within_iff, isOk_bind_pure, isOk_mapM_iff]
          rfl
  | list address =>
      rw [shownWith, isOk_within_iff, isOk_bind_pure, isOk_mapM_iff]
      rfl
  | dict address =>
      rw [shownWith, isOk_within_iff, isOk_bind_pure, isOk_mapM_iff]
      simp only [parts, List.forall_mem_flatMap]
      refine forall_congr' fun _ => forall₂_congr fun entry _ => ?_
      rw [isOk_bind_iff]
      simp only [isOk_bind_pure]
      simp [isOk_iff]
  | set address =>
      rw [shownWith, parts]
      split
      case h_1 none => simp [none]
      case h_2 keys =>
        rw [isOk_within_iff, isOk_bind_pure, isOk_mapM_iff]
  | view aspect address mark =>
      rw [shownWith, isOk_within_iff, isOk_bind_pure, isOk_mapM_iff]
      simp [parts]
  | _ => cases isContainer

/-- A value is shown when the integers written in it have a text and what is shown in it is. -/
theorem isOk_shownWith_iff {inside : List Value} {value : Value} :
    (heap.shownWith inner inside value).isOk = true ↔
      (∀ integer ∈ value.integers, Number.hasText integer = true) ∧
        ∀ sight ∈ heap.shownIn (inside, value), (inner sight.1 sight.2).isOk = true := by
  cases isContainer : Heap.isContainer value with
  | true =>
      rw [isOk_shownWith_of_container isContainer, forall_shownIn_of_container isContainer]
      rw [integers_of_container isContainer]
      simp
  | false =>
      rw [forall_shownIn_of_plain isContainer]
      cases value with
      | int value mark => simp [shownWith, parts, Value.integers, isOk_intChars]
      | range start stop step mark =>
          rw [shownWith]
          simp only [isOk_bind_pure, isOk_mapM_iff, isOk_intChars, parts, Value.integers]
          simp
      | slice lower upper step =>
          rw [shownWith, isOk_bind_pure, isOk_mapM_iff]
          simp [parts, Value.integers]
      | union members mark =>
          rw [shownWith, isOk_bind_pure, isOk_mapM_iff]
          simp only [Value.integers, parts, List.mem_filter, and_imp]
          simp only [List.not_mem_nil, false_implies, implies_true, true_and]
          refine forall₂_congr fun member _ => ?_
          cases member <;> simp [isNamed]
      | applied starred origin arguments mark =>
          rw [shownWith, isOk_bind_pure, isOk_mapM_iff]
          simp only [Value.integers, parts, List.mem_filter, and_imp]
          simp only [List.not_mem_nil, false_implies, implies_true, true_and]
          refine forall₂_congr fun argument _ => ?_
          cases argument <;> simp [isWritten]
      | tuple items mark => cases isContainer
      | frozen items mark => cases isContainer
      | list address => cases isContainer
      | dict address => cases isContainer
      | set address => cases isContainer
      | view aspect address mark => cases isContainer
      | _ => simp [shownWith, parts, Value.integers]

/-- A value is shown to some depth exactly when nothing within it lies deeper and all integers there
have a text. -/
theorem isOk_shownAt_iff {depth : Nat} (sight : Sight) :
    (heap.shownAt depth sight.1 sight.2).isOk = true ↔
      ∀ levels last, heap.Shows levels sight last →
        levels < depth ∧ ∀ integer ∈ last.2.integers, Number.hasText integer = true := by
  induction depth generalizing sight with
  | zero =>
      refine iff_of_false nofun fun all => ?_
      exact absurd (all 0 sight (.here sight)).1 (Nat.not_lt_zero 0)
  | succ depth inductionHypothesis =>
      rw [shownAt, isOk_shownWith_iff]
      simp only [inductionHypothesis]
      constructor
      · rintro ⟨own, within⟩ levels last shows
        cases shows with
        | here => exact ⟨Nat.succ_pos depth, own⟩
        | deeper inside shows =>
            obtain ⟨shallow, texts⟩ := within _ inside _ last shows
            exact ⟨Nat.succ_lt_succ shallow, texts⟩
      · intro all
        refine ⟨(all 0 sight (.here sight)).2, fun inner inside levels last shows => ?_⟩
        obtain ⟨shallow, texts⟩ := all (levels + 1) last (.deeper inside shows)
        exact ⟨Nat.lt_of_succ_lt_succ shallow, texts⟩

theorem isOk_shown_iff {value : Value} :
    (heap.shown value).isOk = true ↔ heap.IsShowable value :=
  isOk_shownAt_iff ([], value)

end Heap
end Predicate
end Wordbook
