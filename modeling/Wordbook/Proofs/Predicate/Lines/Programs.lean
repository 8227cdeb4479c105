import Wordbook.Proofs.Predicate.Elaboration
import Wordbook.Proofs.Predicate.Lines.Parsing

/-!
# Programs are refused on the lines of their trees

A construct that is out of place is reported at the line of a tree.  So where trees start on the
first lines of a text, the program of them is read off or refused on one of these lines.
-/

namespace Wordbook
namespace Predicate

variable {last : Nat}

/-! ## Readings -/

namespace Placed

variable {First Second : Type}

/-- A reading that fails does so on one of the first lines. -/
def FailsWithin (last : Nat) (reading : Placed First) : Prop :=
  ∀ count line, reading count = .error line → line ≤ last

namespace FailsWithin

theorem pure (result : First) : FailsWithin last (Pure.pure result : Placed First) := by
  rintro count line ⟨⟩

theorem throw
    {line : Nat}
    (inside : line ≤ last) :
    FailsWithin last (MonadExcept.throw line : Placed First) := by
  rintro count _ ⟨⟩
  exact inside

theorem bind
    {reading : Placed First}
    {next : First → Placed Second}
    (first : FailsWithin last reading)
    (second : ∀ result, FailsWithin last (next result)) :
    FailsWithin last (reading >>= next) := by
  intro count line failed
  change Except.bind (reading count) (fun found => next found.1 found.2) = .error line at failed
  cases isRead : reading count with
  | error other =>
      rw [isRead] at failed
      cases failed
      exact first count line isRead
  | ok found =>
      rw [isRead] at failed
      exact second found.1 found.2 line failed

/-- A reading and a last step that cannot fail. -/
theorem andPure
    {reading : Placed First}
    {make : First → Second}
    (first : FailsWithin last reading) :
    FailsWithin last (do return make (← reading)) :=
  first.bind fun _ => .pure _

theorem mapM
    {items : List First}
    {read : First → Placed Second}
    (each : ∀ item ∈ items, FailsWithin last (read item)) :
    FailsWithin last (items.mapM read) := by
  induction items with
  | nil =>
      rw [List.mapM_nil]
      exact .pure _
  | cons item items inductionHypothesis =>
      rw [List.mapM_cons]
      obtain ⟨first, others⟩ := List.forall_mem_cons.mp each
      exact first.bind fun _ => (inductionHypothesis others).andPure

end FailsWithin
end Placed

namespace Elaboration

open Lined (Within)
open Placed

/-- An argument that is named twice or wrongly is blamed at its own line. -/
theorem le_of_misnamed?
    {nodes : List Node}
    {line : Nat}
    (inside : Within last nodes)
    (found : misnamed? nodes = some line) :
    line ≤ last := by
  fun_induction misnamed? nodes with
  | case1 => cases found
  | case2 node nodes _ inductionHypothesis =>
      exact inductionHypothesis (within_cons_iff.mp inside).2 found
  | case3 node nodes =>
      cases found
      exact Node.line_le (within_cons_iff.mp inside).1
  | case4 node nodes name _ _ other again =>
      cases found
      exact Node.line_le ((within_cons_iff.mp inside).2 other (List.mem_of_find?_eq_some again))
  | case5 node nodes _ _ _ _ inductionHypothesis =>
      exact inductionHypothesis (within_cons_iff.mp inside).2 found

/-- Trees on the first lines are read, or refused on one of these lines. -/
structure Readers.FailWithin (last : Nat) (readers : Readers) : Prop where
  expression : ∀ inside node, Within last node → FailsWithin last (readers.expression inside node)
  target : ∀ inside node, Within last node → FailsWithin last (readers.target inside node)

namespace Readers

/-! ## Expressions and targets -/

theorem constant_failsWithin (value : Value) : FailsWithin last (constant value) := by
  intro count line failed
  unfold constant at failed
  split at failed
  all_goals cases failed

/-- What is worked out ahead cannot fail. -/
theorem folded_failsWithin (found : Option Value) (made : Expr) :
    FailsWithin last ((found.map constant).getD (return made)) := by
  cases found with
  | none => exact .pure _
  | some value => exact constant_failsWithin value

theorem unary_failsWithin (op : UnaryOp) (operand : Expr) :
    FailsWithin last (unary op operand) := by
  unfold unary
  split
  · exact folded_failsWithin _ _
  · exact .pure _

theorem binary_failsWithin (op : BinaryOp) (left right : Expr) :
    FailsWithin last (binary op left right) := by
  unfold binary
  split
  · exact .pure _
  · exact folded_failsWithin _ _
  · exact .pure _

theorem tuple_failsWithin (items : List Item) : FailsWithin last (tuple items) := by
  unfold tuple
  split
  · exact constant_failsWithin _
  · exact .pure _

theorem subscript_failsWithin (container key : Expr) :
    FailsWithin last (subscript container key) := by
  unfold subscript
  split
  · exact folded_failsWithin _ _
  · exact .pure _

variable {readers : Readers} {node : Node} {nodes : List Node}

theorem item_failsWithin
    (fail : readers.FailWithin last)
    (inside : Bool)
    (known : Within last node) :
    FailsWithin last (readers.item inside node) := by
  unfold item
  split
  · exact (fail.expression inside _ (Node.within_parts known _ List.mem_cons_self)).andPure
  · exact (fail.expression inside _ known).andPure

theorem keyword_failsWithin
    (fail : readers.FailWithin last)
    (inside : Bool)
    (known : Within last node) :
    FailsWithin last (readers.keyword inside node) := by
  unfold keyword
  split
  · exact (fail.expression inside _ (Node.within_parts known _ List.mem_cons_self)).andPure
  · exact (fail.expression inside _ (Node.within_parts known _ List.mem_cons_self)).andPure
  · exact .pure _

theorem pair_failsWithin
    {entry : Option Node × Node}
    (fail : readers.FailWithin last)
    (inside : Bool)
    (known : Within last entry) :
    FailsWithin last (readers.pair inside entry) := by
  unfold pair
  split
  · exact (fail.expression inside _ known.2).andPure
  · exact (fail.expression inside _ (within_some_iff.mp known.1)).bind fun _ =>
      (fail.expression inside _ known.2).andPure

theorem expressions_failWithin
    (fail : readers.FailWithin last)
    (inside : Bool)
    (known : Within last nodes) :
    FailsWithin last (nodes.mapM (readers.expression inside)) :=
  .mapM fun node isNode => fail.expression inside node (known node isNode)

theorem items_failWithin
    (fail : readers.FailWithin last)
    (inside : Bool)
    (known : Within last nodes) :
    FailsWithin last (nodes.mapM (readers.item inside)) :=
  .mapM fun node isNode => item_failsWithin fail inside (known node isNode)

theorem clause_failsWithin
    (fail : readers.FailWithin last)
    (known : Within last node) :
    FailsWithin last (readers.clause node) := by
  unfold clause
  split
  · next assigned source tests =>
      obtain ⟨first, others⟩ := within_cons_iff.mp (Node.within_parts known)
      obtain ⟨second, third⟩ := within_cons_iff.mp others
      exact (fail.expression true source second).bind fun _ =>
        (fail.target true assigned first).bind fun _ => (expressions_failWithin fail true third).andPure
  · exact .pure _

theorem comprehension_failsWithin
    {line : Nat}
    {elements clauses : List Node}
    (fail : readers.FailWithin last)
    (inside : Bool)
    (kind : Kind)
    (starts : line ≤ last)
    (elementsKnown : Within last elements)
    (clausesKnown : Within last clauses) :
    FailsWithin last (readers.comprehension inside kind line elements clauses) := by
  unfold comprehension
  split
  case h_2 => exact .pure _
  case h_1 counts assigned source tests more =>
    obtain ⟨firstKnown, moreKnown⟩ := within_cons_iff.mp clausesKnown
    obtain ⟨assignedKnown, others⟩ := within_cons_iff.mp (Node.within_parts firstKnown)
    obtain ⟨sourceKnown, testsKnown⟩ := within_cons_iff.mp others
    dsimp only
    split
    case isTrue => exact .throw starts
    case isFalse =>
      refine (fail.target true assigned assignedKnown).bind fun _ => ?_
      refine (expressions_failWithin fail true testsKnown).bind fun _ => ?_
      refine (FailsWithin.mapM fun node isNode =>
        clause_failsWithin fail (moreKnown node isNode)).bind fun _ => ?_
      refine (expressions_failWithin fail true elementsKnown).bind fun _ => ?_
      refine (fail.expression inside source sourceKnown).bind fun _ => ?_
      split
      · exact .pure _
      · exact .pure _

/-- The expression of a tree is read, or refused on one of the first lines. -/
theorem expressionOf_failsWithin
    (fail : readers.FailWithin last)
    (inside : Bool)
    (known : Within last node) :
    FailsWithin last (readers.expressionOf inside node) := by
  have parts := Node.within_parts known
  have starts := Node.line_le known
  unfold expressionOf
  split
  case h_1 => exact .pure _
  case h_2 => exact .pure _
  case h_3 => exact (expressions_failWithin fail inside (within_cons_iff.mp parts).2).andPure
  case h_4 =>
    exact (fail.expression inside _ (parts _ (by simp [Node.parts]))).bind fun _ =>
      unary_failsWithin _ _
  case h_5 =>
    exact (fail.expression inside _ (parts _ (by simp [Node.parts]))).bind fun _ =>
      (fail.expression inside _ (parts _ (by simp [Node.parts]))).bind fun _ =>
        binary_failsWithin _ _ _
  case h_6 left rest =>
    obtain ⟨leftKnown, restKnown⟩ := within_cons_iff.mp parts
    exact (fail.expression inside left leftKnown).bind fun _ =>
      (expressions_failWithin fail inside
        (Lined.within_subset restKnown (List.drop_subset _ _))).andPure
  case h_7 =>
    exact (fail.expression inside _ (parts _ (by simp [Node.parts]))).bind fun _ =>
      (fail.expression inside _ (parts _ (by simp [Node.parts]))).bind fun _ =>
        (fail.expression inside _ (parts _ (by simp [Node.parts]))).andPure
  case h_8 function rest =>
    obtain ⟨functionKnown, restKnown⟩ := within_cons_iff.mp parts
    have partKnown (test : Node → Bool) : Within last (rest.filter test) :=
      Lined.within_subset restKnown (List.filter_subset_self _)
    simp only [List.partition_eq_filter_filter]
    split
    case h_1 line found => exact .throw (le_of_misnamed? (partKnown _) found)
    case h_2 =>
      exact (fail.expression inside function functionKnown).bind fun _ =>
        (items_failWithin fail inside (partKnown _)).bind fun _ =>
          (FailsWithin.mapM fun node isNamed =>
            keyword_failsWithin fail inside (partKnown _ node isNamed)).andPure
  case h_9 => exact (fail.expression inside _ (parts _ List.mem_cons_self)).andPure
  case h_10 =>
    exact (fail.expression inside _ (parts _ (by simp [Node.parts]))).bind fun _ =>
      (fail.expression inside _ (parts _ (by simp [Node.parts]))).bind fun _ =>
        subscript_failsWithin _ _
  case h_11 =>
    refine (expressions_failWithin fail inside parts).bind fun _ => ?_
    split
    · exact .pure _
    · exact .pure _
  case h_12 =>
    exact (items_failWithin fail inside
      (Lined.within_subset parts (List.dropLast_subset _))).andPure
  case h_13 =>
    exact (items_failWithin fail inside
      (Lined.within_subset parts (List.dropLast_subset _))).bind fun _ => tuple_failsWithin _
  case h_14 => exact (items_failWithin fail inside parts).andPure
  case h_15 present parts' =>
    refine (FailsWithin.mapM fun entry isEntry => pair_failsWithin fail inside ?_).andPure
    obtain ⟨first, second⟩ := mem_pairs _ _ _ isEntry
    exact ⟨fun key isKey => parts key (List.mem_of_mem_take (first key isKey)),
      parts entry.2 (List.mem_of_mem_drop second)⟩
  case h_16 => exact (expressions_failWithin fail inside parts).andPure
  case h_17 =>
    obtain ⟨valueKnown, specKnown⟩ := within_cons_iff.mp parts
    exact (fail.expression inside _ valueKnown).bind fun _ =>
      (expressions_failWithin fail inside specKnown).andPure
  case h_18 =>
    obtain ⟨element, clauses⟩ := within_cons_iff.mp parts
    exact comprehension_failsWithin fail inside .listComp starts (by simp [element]) clauses
  case h_19 =>
    obtain ⟨element, clauses⟩ := within_cons_iff.mp parts
    exact comprehension_failsWithin fail inside .setComp starts (by simp [element]) clauses
  case h_20 =>
    obtain ⟨element, clauses⟩ := within_cons_iff.mp parts
    exact comprehension_failsWithin fail inside .generatorExp starts (by simp [element]) clauses
  case h_21 =>
    obtain ⟨key, others⟩ := within_cons_iff.mp parts
    obtain ⟨value, clauses⟩ := within_cons_iff.mp others
    exact comprehension_failsWithin fail inside .dictComp starts (by simp [key, value]) clauses
  case h_22 => exact .throw starts

theorem sequence_failsWithin
    (fail : readers.FailWithin last)
    (inside : Bool)
    (known : Within last nodes) :
    FailsWithin last (do return sequence (← nodes.mapM (readers.element inside))) := by
  refine (FailsWithin.mapM fun node isNode => ?_).andPure
  have nodeKnown := known node isNode
  unfold element
  split
  · exact (fail.target inside _ (Node.within_parts nodeKnown _ List.mem_cons_self)).andPure
  · exact (fail.target inside _ nodeKnown).andPure

/-- The target of a tree is read, or refused on one of the first lines. -/
theorem targetOf_failsWithin
    (fail : readers.FailWithin last)
    (inside : Bool)
    (known : Within last node) :
    FailsWithin last (readers.targetOf inside node) := by
  have parts := Node.within_parts known
  have starts := Node.line_le known
  unfold targetOf
  split
  case h_1 => exact .pure _
  case h_2 => exact (fail.expression inside _ (parts _ List.mem_cons_self)).andPure
  case h_3 =>
    exact (fail.expression inside _ (parts _ (by simp [Node.parts]))).bind fun _ =>
      (fail.expression inside _ (parts _ (by simp [Node.parts]))).andPure
  case h_4 =>
    split
    · exact .throw starts
    · exact sequence_failsWithin fail inside
        (Lined.within_subset parts (List.dropLast_subset _))
  case h_5 =>
    split
    · exact .throw starts
    · exact sequence_failsWithin fail inside
        (Lined.within_subset parts (List.dropLast_subset _))
  case h_6 => exact .throw starts

end Readers

/-- The readers at every depth fail on the first lines only. -/
theorem readers_failWithin (height : Nat) : (readers height).FailWithin last := by
  induction height with
  | zero => exact ⟨fun _ _ _ => .pure _, fun _ _ _ => .pure _⟩
  | succ height inductionHypothesis =>
      exact ⟨fun inside _ => Readers.expressionOf_failsWithin inductionHypothesis inside,
        fun inside _ => Readers.targetOf_failsWithin inductionHypothesis inside⟩

/-! ## Statements -/

variable {node : Node}

theorem expression_failsWithin (known : Within last node) :
    FailsWithin last (expression node) :=
  (readers_failWithin node.height).expression false node known

theorem target_failsWithin (known : Within last node) : FailsWithin last (target node) :=
  (readers_failWithin node.height).target false node known

theorem statementOf_failsWithin
    {read : Nat → Node → Placed Statement}
    (fail : ∀ loops node, Within last node → FailsWithin last (read loops node))
    (loops : Nat)
    (known : Within last node) :
    FailsWithin last (statementOf read loops node) := by
  have parts := Node.within_parts known
  have starts := Node.line_le known
  have block (loops : Nat) {nodes : List Node} (each : Within last nodes) :
      FailsWithin last (nodes.mapM (read loops)) :=
    .mapM fun node isNode => fail loops node (each node isNode)
  unfold statementOf
  split
  case h_1 => exact (expression_failsWithin (parts _ (by simp [Node.parts]))).andPure
  case h_2 => exact .pure _
  case h_3 => exact (expression_failsWithin (parts _ (by simp [Node.parts]))).andPure
  case h_4 count test rest =>
    obtain ⟨testKnown, restKnown⟩ := within_cons_iff.mp parts
    exact (expression_failsWithin testKnown).bind fun _ =>
      (block loops (Lined.within_subset restKnown (List.take_subset _ _))).bind fun _ =>
        (block loops (Lined.within_subset restKnown (List.drop_subset _ _))).andPure
  case h_5 line count assigned source rest =>
    obtain ⟨assignedKnown, others⟩ := within_cons_iff.mp parts
    obtain ⟨sourceKnown, restKnown⟩ := within_cons_iff.mp others
    split
    case isTrue => exact .throw starts
    case isFalse =>
      exact (expression_failsWithin sourceKnown).bind fun _ =>
        (target_failsWithin assignedKnown).bind fun _ =>
          (block _ (Lined.within_subset restKnown (List.take_subset _ _))).bind fun _ =>
            (block _ (Lined.within_subset restKnown (List.drop_subset _ _))).andPure
  case h_6 =>
    split
    · exact .throw starts
    · exact .pure _
  case h_7 =>
    split
    · exact .throw starts
    · exact .pure _
  case h_8 => exact .pure _
  case h_9 =>
    split
    case h_1 => exact .pure _
    case h_2 value isLast =>
      refine (expression_failsWithin (parts value (List.mem_of_getLast? isLast))).bind fun _ => ?_
      exact (FailsWithin.mapM fun node isNode =>
        target_failsWithin (parts node (List.dropLast_subset _ isNode))).andPure
  case h_10 =>
    exact (target_failsWithin (parts _ (by simp [Node.parts]))).bind fun _ =>
      (expression_failsWithin (parts _ (by simp [Node.parts]))).andPure
  case h_11 => exact .throw starts

theorem statement_failsWithin
    (height loops : Nat)
    (known : Within last node) :
    FailsWithin last (statement height loops node) := by
  induction height generalizing loops node with
  | zero => exact .pure _
  | succ height inductionHypothesis =>
      exact statementOf_failsWithin (fun loops _ => inductionHypothesis loops) loops known

end Elaboration

/-- A program that cannot be read off trees is refused at a line of them. -/
theorem Program.le_of_ofNodes
    {nodes : List Node}
    {line : Nat}
    (known : Lined.Within last nodes)
    (refused : Program.ofNodes nodes = .error line) :
    line ≤ last := by
  have statements : Placed.FailsWithin last
      (nodes.mapM fun node => Elaboration.statement node.height 0 node) :=
    .mapM fun node isNode => Elaboration.statement_failsWithin node.height 0 (known node isNode)
  rw [Program.ofNodes, StateT.run'] at refused
  cases isRead : (nodes.mapM fun node => Elaboration.statement node.height 0 node) 0 with
  | error other =>
      rw [isRead] at refused
      cases refused
      exact statements 0 line isRead
  | ok found =>
      rw [isRead] at refused
      cases refused

end Predicate
end Wordbook
