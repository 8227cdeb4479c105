import Wordbook.Predicate.Definition
import Wordbook.Proofs.Outcome
import Wordbook.Proofs.Predicate.Sandbox
import Wordbook.Proofs.Predicate.Scoping

/-!
# Programs keep to the names of their trees

A program that was read off trees reads and assigns only names that stand in these trees.  So the
program of trees that pass the check of the sandbox is well scoped for the names that the trees
assign.  Constants that are worked out ahead bring no names with them.
-/

namespace Wordbook
namespace Predicate

/-! ## What a reading yields -/

namespace Placed

/-- Every result of a reading has a property. -/
def Yields {Result : Type} (reading : Placed Result) (holds : Result → Prop) : Prop :=
  ∀ count result after, reading count = .ok (result, after) → holds result

namespace Yields

variable {First Second : Type} {holds : First → Prop} {later : Second → Prop}

theorem pure
    {result : First}
    (known : holds result) :
    Yields (Pure.pure result : Placed First) holds := by
  rintro count _ _ ⟨⟩
  exact known

theorem throw (line : Nat) : Yields (MonadExcept.throw line : Placed First) holds := by
  intro count result after read
  cases read

theorem bind
    {reading : Placed First}
    {next : First → Placed Second}
    (first : Yields reading holds)
    (second : ∀ result, holds result → Yields (next result) later) :
    Yields (reading >>= next) later := by
  intro count result after read
  change Except.bind (reading count) (fun found => next found.1 found.2) = .ok (result, after) at read
  cases isRead : reading count with
  | error line =>
      rw [isRead] at read
      cases read
  | ok found =>
      rw [isRead] at read
      exact second found.1 (first count found.1 found.2 isRead) found.2 result after read

/-- A reading and a last step that cannot fail. -/
theorem andPure
    {reading : Placed First}
    {make : First → Second}
    (first : Yields reading holds)
    (second : ∀ result, holds result → later (make result)) :
    Yields (do return make (← reading)) later :=
  first.bind fun result known => .pure (second result known)

theorem mapM
    {items : List First}
    {read : First → Placed Second}
    (each : ∀ item ∈ items, Yields (read item) later) :
    Yields (items.mapM read) fun results => ∀ result ∈ results, later result := by
  induction items with
  | nil =>
      rw [List.mapM_nil]
      exact .pure fun result inside => by cases inside
  | cons item items inductionHypothesis =>
      rw [List.mapM_cons]
      refine (each item List.mem_cons_self).bind fun result known => ?_
      have others := inductionHypothesis fun other inside => each other (List.mem_cons_of_mem _ inside)
      refine others.andPure fun results allKnown => ?_
      exact List.forall_mem_cons.mpr ⟨known, allKnown⟩

end Yields
end Placed

/-! ## The names in a tree -/

variable {assigned : String → Prop}

/-- The names in a tree may be read, and are assigned where it assigns to them. -/
structure Node.KeepsTo (assigned : String → Prop) (node : Node) : Prop where
  readable : ∀ line name parts, node.Holds (.mk .name line (.name name) parts) →
    Readable assigned name
  bound : ∀ found name, node.Holds found → found.assigned? = some name → assigned name

theorem Node.KeepsTo.part
    {node part : Node}
    (keeps : node.KeepsTo assigned)
    (isPart : part ∈ node.parts) :
    part.KeepsTo assigned where
  readable := fun line name parts holds => keeps.readable line name parts (.inPart isPart holds)
  bound := fun found name holds => keeps.bound found name (.inPart isPart holds)

/-- All parts of a tree keep to its names. -/
theorem Node.KeepsTo.parts
    {kind : Kind}
    {line : Nat}
    {payload : Payload}
    {parts : List Node}
    (keeps : (Node.mk kind line payload parts).KeepsTo assigned) :
    ∀ part ∈ parts, part.KeepsTo assigned :=
  fun _ isPart => keeps.part isPart

namespace Elaboration

open Placed

/-! ## Constants and displays -/

theorem lost_scoped : lost.Obeys (.names assigned) := .constant _

theorem mem_bounds
    (present : List Nat)
    (values : List Expr)
    {bound : Option Expr}
    (isBound : bound ∈ bounds present values)
    {value : Expr}
    (given : value ∈ bound) :
    value ∈ values := by
  fun_induction bounds present values with
  | case1 => cases isBound
  | case2 later values inductionHypothesis =>
      rcases List.mem_cons.mp isBound with rfl | inside
      · cases given
      · exact inductionHypothesis inside
  | case3 first later values _ inductionHypothesis =>
      rcases List.mem_cons.mp isBound with rfl | inside
      · exact List.mem_of_head? given
      · exact List.mem_of_mem_tail (inductionHypothesis inside)

theorem mem_pairs
    (present : List Nat)
    (keys values : List Node)
    {entry : Option Node × Node}
    (inside : entry ∈ pairs present keys values) :
    (∀ key ∈ entry.1, key ∈ keys) ∧ entry.2 ∈ values := by
  fun_induction pairs present keys values with
  | case1 present keys value values inductionHypothesis =>
      rcases List.mem_cons.mp inside with rfl | later
      · exact ⟨fun key given => (by cases given), List.mem_cons_self⟩
      · obtain ⟨first, second⟩ := inductionHypothesis later
        exact ⟨first, List.mem_cons_of_mem _ second⟩
  | case2 flag present key keys value values _ inductionHypothesis =>
      rcases List.mem_cons.mp inside with rfl | later
      · refine ⟨fun other given => ?_, List.mem_cons_self⟩
        cases given
        exact List.mem_cons_self
      · obtain ⟨first, second⟩ := inductionHypothesis later
        exact ⟨fun other given => List.mem_cons_of_mem _ (first other given),
          List.mem_cons_of_mem _ second⟩
  | case3 => cases inside

theorem links_scoped
    (operators : List Node)
    {values : List Expr}
    (each : ∀ value ∈ values, value.Obeys (.names assigned)) :
    ∀ link ∈ operators.zipWith (fun operator right => Link.mk (.ofKind operator.kind) right) values,
      link.Obeys (.names assigned) := by
  induction operators generalizing values with
  | nil => simp
  | cons operator operators inductionHypothesis =>
      cases values with
      | nil => simp
      | cons value values =>
          obtain ⟨first, others⟩ := List.forall_mem_cons.mp each
          exact List.forall_mem_cons.mpr ⟨.mk first, inductionHypothesis others⟩

theorem sequence_scoped
    {targets : List (Bool × Target)}
    (each : ∀ target ∈ targets, target.2.Obeys (.names assigned)) :
    (sequence targets).Obeys (.names assigned) := by
  have all : ∀ part : List (Bool × Target), part ⊆ targets →
      ∀ target ∈ part.map Prod.snd, target.Obeys (.names assigned) := by
    intro part isPart target inside
    obtain ⟨entry, present, rfl⟩ := List.mem_map.mp inside
    exact each entry (isPart present)
  dsimp only [sequence]
  split
  case h_1 => exact .exactly (all targets (List.Subset.refl _))
  case h_2 rest last found =>
    have isPart : rest :: last ⊆ targets := found ▸ List.drop_subset _ _
    exact .atLeast (all _ (List.takeWhile_subset _)) (each rest (isPart List.mem_cons_self))
      (all last fun _ inside => isPart (List.mem_cons_of_mem _ inside))

/-! ## Operations that are worked out ahead -/

theorem specOf_scoped (layout : List Char) :
    ∀ spec ∈ Folding.specOf layout, spec.Obeys (.names assigned) := by
  intro spec given
  unfold Folding.specOf at given
  split at given
  · cases given
  · cases given
    exact .constant _

theorem field?_scoped
    {value field : Expr}
    {chars rest : List Char}
    (keeps : value.Obeys (.names assigned))
    (found : Folding.field? value chars = some (field, rest)) :
    field.Obeys (.names assigned) := by
  simp only [Folding.field?, Option.bind_eq_bind, Option.bind_eq_some_iff] at found
  obtain ⟨_, -, _, -, conversion, -, made⟩ := found
  cases made
  exact .field keeps (specOf_scoped _)

theorem literalPiece_scoped (taken : List Char) :
    ∀ piece ∈ Folding.literalPiece taken, piece.Obeys (.names assigned) := by
  intro piece inside
  unfold Folding.literalPiece at inside
  split at inside
  · cases inside
  · rw [List.mem_singleton] at inside
    exact inside ▸ .constant _

theorem piecesFrom?_scoped
    (fuel : Nat)
    (taken : List Char)
    (values : List Expr)
    (chars : List Char)
    {pieces : List Expr}
    (each : ∀ value ∈ values, value.Obeys (.names assigned))
    (found : Folding.piecesFrom? fuel taken values chars = some pieces) :
    ∀ piece ∈ pieces, piece.Obeys (.names assigned) := by
  fun_induction Folding.piecesFrom? fuel taken values chars generalizing pieces with
  | case1 => cases found
  | case2 =>
      cases found
      exact literalPiece_scoped _
  | case3 => cases found
  | case4 fuel taken values rest inductionHypothesis => exact inductionHypothesis each found
  | case5 => cases found
  | case6 fuel taken value values rest notPercent inductionHypothesis =>
      simp only [Option.bind_eq_bind, Option.bind_eq_some_iff] at found
      obtain ⟨⟨field, after⟩, isField, later, others, made⟩ := found
      cases made
      obtain ⟨first, remaining⟩ := List.forall_mem_cons.mp each
      have laterScoped := inductionHypothesis after remaining others
      exact List.forall_mem_append.mpr ⟨literalPiece_scoped _,
        List.forall_mem_cons.mpr ⟨field?_scoped first isField, laterScoped⟩⟩
  | case7 fuel taken values char rest _ _ _ inductionHypothesis =>
      exact inductionHypothesis each found

theorem singles?_scoped
    {items : List Item}
    {values : List Expr}
    (each : ∀ item ∈ items, item.Obeys (.names assigned))
    (found : Folding.singles? items = some values) :
    ∀ value ∈ values, value.Obeys (.names assigned) := by
  induction items generalizing values with
  | nil =>
      cases found
      simp
  | cons item items inductionHypothesis =>
      obtain ⟨first, others⟩ := List.forall_mem_cons.mp each
      cases first with
      | spread => cases found
      | one given =>
          obtain ⟨later, isLater, rfl⟩ := Option.map_eq_some_iff.mp found
          exact List.forall_mem_cons.mpr ⟨given, inductionHypothesis others isLater⟩

/-- The text with fields that a template stands for has no names but those of its values. -/
theorem template?_scoped
    {template : Value}
    {items : List Item}
    {made : Expr}
    (each : ∀ item ∈ items, item.Obeys (.names assigned))
    (found : Folding.template? template items = some made) :
    made.Obeys (.names assigned) := by
  simp only [Folding.template?, Option.bind_eq_bind, Option.bind_eq_some_iff] at found
  obtain ⟨values, areValues, found⟩ := found
  split at found
  · obtain ⟨pieces, arePieces, made⟩ := Option.bind_eq_some_iff.mp found
    cases made
    exact .joined (piecesFrom?_scoped _ _ _ _ (singles?_scoped each areValues) arePieces)
  · cases found

/-! ## Readers of expressions -/

/-- What is read off trees that keep to their names does so too. -/
structure Readers.KeepTo (assigned : String → Prop) (readers : Readers) : Prop where
  expression : ∀ inside node, node.KeepsTo assigned →
    Yields (readers.expression inside node) (Expr.Obeys (.names assigned))
  target : ∀ inside node, node.KeepsTo assigned →
    Yields (readers.target inside node) (Target.Obeys (.names assigned))

namespace Readers

theorem constant_yields (value : Value) :
    Yields (constant value) (Expr.Obeys (.names assigned)) := by
  intro count result after read
  unfold constant at read
  split at read
  all_goals
    cases read
    exact .constant _

/-- A result that is worked out is a constant. -/
theorem folded_yields
    {found : Option Value}
    {made : Expr}
    (keeps : made.Obeys (.names assigned)) :
    Yields ((found.map constant).getD (return made)) (Expr.Obeys (.names assigned)) := by
  cases found with
  | none => exact .pure keeps
  | some value => exact constant_yields value

theorem unary_yields
    (op : UnaryOp)
    {operand : Expr}
    (keeps : operand.Obeys (.names assigned)) :
    Yields (unary op operand) (Expr.Obeys (.names assigned)) := by
  unfold unary
  split
  · exact folded_yields (.unary keeps)
  · exact .pure (.unary keeps)

theorem binary_yields
    (op : BinaryOp)
    {left right : Expr}
    (first : left.Obeys (.names assigned))
    (second : right.Obeys (.names assigned)) :
    Yields (binary op left right) (Expr.Obeys (.names assigned)) := by
  have made : (Expr.binary op left right).Obeys (.names assigned) := .binary first second
  unfold binary
  split
  case h_1 template items =>
    cases second with
    | tuple each =>
        refine .pure ?_
        cases found : Folding.template? template items with
        | none => exact made
        | some text => exact template?_scoped each found
  case h_2 => exact folded_yields made
  case h_3 => exact .pure made

theorem tuple_yields
    {items : List Item}
    (each : ∀ item ∈ items, item.Obeys (.names assigned)) :
    Yields (tuple items) (Expr.Obeys (.names assigned)) := by
  unfold tuple
  split
  · exact constant_yields _
  · exact .pure (.tuple each)

theorem subscript_yields
    {container key : Expr}
    (first : container.Obeys (.names assigned))
    (second : key.Obeys (.names assigned)) :
    Yields (subscript container key) (Expr.Obeys (.names assigned)) := by
  unfold subscript
  split
  · exact folded_yields (.subscript first second)
  · exact .pure (.subscript first second)

variable {readers : Readers}

theorem item_yields
    (keep : readers.KeepTo assigned)
    (inside : Bool)
    {node : Node}
    (keeps : node.KeepsTo assigned) :
    Yields (readers.item inside node) (Item.Obeys (.names assigned)) := by
  unfold item
  split
  case h_1 value _ =>
    have given := keeps.parts value List.mem_cons_self
    exact (keep.expression inside value given).andPure fun _ => .spread
  case h_2 => exact (keep.expression inside node keeps).andPure fun _ => .one

theorem keyword_yields
    (keep : readers.KeepTo assigned)
    (inside : Bool)
    {node : Node}
    (keeps : node.KeepsTo assigned) :
    Yields (readers.keyword inside node) (Keyword.Obeys (.names assigned)) := by
  unfold keyword
  split
  case h_1 value _ =>
    have given := keeps.parts value List.mem_cons_self
    exact (keep.expression inside value given).andPure fun _ => .one
  case h_2 value _ _ =>
    have given := keeps.parts value List.mem_cons_self
    exact (keep.expression inside value given).andPure fun _ => .spread
  case h_3 => exact .pure (.spread lost_scoped)

theorem pair_yields
    (keep : readers.KeepTo assigned)
    (inside : Bool)
    {entry : Option Node × Node}
    (first : ∀ key ∈ entry.1, key.KeepsTo assigned)
    (second : entry.2.KeepsTo assigned) :
    Yields (readers.pair inside entry) (Pair.Obeys (.names assigned)) := by
  unfold pair
  split
  case h_1 value =>
    exact (keep.expression inside value second).andPure fun _ => .spread
  case h_2 key value =>
    refine (keep.expression inside key (first key rfl)).bind fun _ keyScoped => ?_
    exact (keep.expression inside value second).andPure fun _ => .one keyScoped

/-- The expressions of some trees. -/
theorem expressions_yield
    (keep : readers.KeepTo assigned)
    (inside : Bool)
    {nodes : List Node}
    (each : ∀ node ∈ nodes, node.KeepsTo assigned) :
    Yields (nodes.mapM (readers.expression inside))
      fun found => ∀ value ∈ found, value.Obeys (.names assigned) :=
  .mapM fun node isNode => keep.expression inside node (each node isNode)

/-- The items of some trees. -/
theorem items_yield
    (keep : readers.KeepTo assigned)
    (inside : Bool)
    {nodes : List Node}
    (each : ∀ node ∈ nodes, node.KeepsTo assigned) :
    Yields (nodes.mapM (readers.item inside)) fun found =>
      ∀ item ∈ found, item.Obeys (.names assigned) :=
  .mapM fun node isNode => item_yields keep inside (each node isNode)

theorem clause_yields
    (keep : readers.KeepTo assigned)
    {node : Node}
    (keeps : node.KeepsTo assigned) :
    Yields (readers.clause node) (Clause.Obeys (.names assigned)) := by
  unfold clause
  split
  case h_1 bound source tests =>
    obtain ⟨boundKeeps, others⟩ := List.forall_mem_cons.mp keeps.parts
    obtain ⟨sourceKeeps, testsKeep⟩ := List.forall_mem_cons.mp others
    refine (keep.expression true source sourceKeeps).bind fun _ first => ?_
    refine (keep.target true bound boundKeeps).bind fun _ second => ?_
    exact (expressions_yield keep true testsKeep).andPure fun _ => .mk first second
  case h_2 =>
    refine .pure (.mk lost_scoped (.exactly ?_) ?_)
    all_goals
      intro _ inside
      cases inside

/-- A comprehension is scoped when its elements and its parts keep to their names. -/
theorem comprehension_yields
    (keep : readers.KeepTo assigned)
    (inside : Bool)
    (kind : Kind)
    (line : Nat)
    {elements clauses : List Node}
    (elementsKeep : ∀ node ∈ elements, node.KeepsTo assigned)
    (clausesKeep : ∀ node ∈ clauses, node.KeepsTo assigned) :
    Yields (readers.comprehension inside kind line elements clauses)
      (Expr.Obeys (.names assigned)) := by
  unfold comprehension
  split
  case h_2 => exact .pure lost_scoped
  case h_1 _ counts bound source tests more =>
    obtain ⟨firstKeeps, moreKeep⟩ := List.forall_mem_cons.mp clausesKeep
    obtain ⟨boundKeeps, others⟩ := List.forall_mem_cons.mp firstKeeps.parts
    obtain ⟨sourceKeeps, testsKeep⟩ := List.forall_mem_cons.mp others
    dsimp only
    split
    case isTrue => exact .throw line
    case isFalse =>
      refine (keep.target true bound boundKeeps).bind fun _ targetScoped => ?_
      refine (expressions_yield keep true testsKeep).bind fun _ testsScoped => ?_
      have later : Yields (more.mapM readers.clause)
          fun found => ∀ clause ∈ found, clause.Obeys (.names assigned) :=
        .mapM fun node isNode => clause_yields keep (moreKeep node isNode)
      refine later.bind fun _ laterScoped => ?_
      refine (expressions_yield keep true elementsKeep).bind fun found elementsScoped => ?_
      refine (keep.expression inside source sourceKeeps).bind fun _ sourceScoped => ?_
      split
      case isTrue => exact .pure (.asyncGenerator sourceScoped)
      case isFalse =>
        refine .pure (.comprehension ?_ ?_ sourceScoped targetScoped testsScoped laterScoped
          fun _ => trivial)
        · cases found with
          | nil => exact lost_scoped
          | cons first found => exact elementsScoped first List.mem_cons_self
        · intro second isSecond
          exact elementsScoped second (List.mem_of_mem_tail (List.mem_of_head? isSecond))

/-- The expression of a tree keeps to the names of the tree. -/
theorem expressionOf_yields
    (keep : readers.KeepTo assigned)
    (inside : Bool)
    {node : Node}
    (keeps : node.KeepsTo assigned) :
    Yields (readers.expressionOf inside node) (Expr.Obeys (.names assigned)) := by
  unfold expressionOf
  split
  case h_1 => exact .pure (.constant _)
  case h_2 line name parts => exact .pure (.variable (keeps.readable line name parts (.itself _)))
  case h_3 operator values =>
    obtain ⟨-, valuesKeep⟩ := List.forall_mem_cons.mp keeps.parts
    refine (expressions_yield keep inside valuesKeep).andPure fun _ each => ?_
    split
    · exact .allOf each
    · exact .anyOf each
  case h_4 operator operand =>
    have operandKeeps := keeps.parts operand (by simp)
    exact (keep.expression inside operand operandKeeps).bind fun _ known => unary_yields _ known
  case h_5 left operator right =>
    refine (keep.expression inside left (keeps.parts left (by simp))).bind fun _ first => ?_
    refine (keep.expression inside right (keeps.parts right (by simp))).bind fun _ second => ?_
    exact binary_yields _ first second
  case h_6 left rest =>
    obtain ⟨leftKeeps, restKeep⟩ := List.forall_mem_cons.mp keeps.parts
    refine (keep.expression inside left leftKeeps).bind fun _ first => ?_
    have othersKeep : ∀ node ∈ rest.drop (rest.take (rest.length / 2)).length,
        node.KeepsTo assigned := fun node isNode => restKeep node (List.mem_of_mem_drop isNode)
    exact (expressions_yield keep inside othersKeep).andPure fun _ each =>
      .compare first (links_scoped _ each)
  case h_7 test accepted refused =>
    refine (keep.expression inside test (keeps.parts test (by simp))).bind fun _ decides => ?_
    refine (keep.expression inside accepted (keeps.parts accepted (by simp))).bind fun _ first => ?_
    exact (keep.expression inside refused (keeps.parts refused (by simp))).andPure
      fun _ => .choice decides first
  case h_8 function rest =>
    obtain ⟨functionKeeps, restKeep⟩ := List.forall_mem_cons.mp keeps.parts
    have partKeeps : ∀ test : Node → Bool, ∀ node ∈ rest.filter test, node.KeepsTo assigned :=
      fun test node isPart => restKeep node (List.mem_of_mem_filter isPart)
    simp only [List.partition_eq_filter_filter]
    split
    case h_1 line _ => exact .throw line
    case h_2 =>
      refine (keep.expression inside function functionKeeps).bind fun _ callee => ?_
      refine (items_yield keep inside (partKeeps _)).bind fun _ plain => ?_
      have named : Yields ((rest.filter fun part => part.kind == .keyword).mapM
          (readers.keyword inside)) fun found =>
            ∀ keyword ∈ found, keyword.Obeys (.names assigned) :=
        .mapM fun node isNamed => keyword_yields keep inside (partKeeps _ node isNamed)
      exact named.andPure fun _ => .call callee plain
  case h_9 name value _ =>
    have valueKeeps := keeps.parts value List.mem_cons_self
    exact (keep.expression inside value valueKeeps).andPure fun _ => .attribute
  case h_10 value index _ =>
    refine (keep.expression inside value (keeps.parts value (by simp))).bind fun _ first => ?_
    refine (keep.expression inside index (keeps.parts index (by simp))).bind fun _ second => ?_
    exact subscript_yields first second
  case h_11 present parts =>
    refine (expressions_yield keep inside keeps.parts).bind fun found each => ?_
    split
    case h_1 lower upper step areBounds =>
      have eachBound : ∀ bound ∈ bounds present found, ∀ value ∈ bound,
          value.Obeys (.names assigned) :=
        fun bound isBound value given => each value (mem_bounds present found isBound given)
      rw [areBounds] at eachBound
      exact .pure (.slice (eachBound lower (by simp)) (eachBound upper (by simp))
        (eachBound step (by simp)))
    case h_2 => exact .pure lost_scoped
  case h_12 parts =>
    have items := items_yield keep inside
      fun node isNode => keeps.parts node (List.dropLast_subset _ isNode)
    exact items.andPure fun _ => .list
  case h_13 parts =>
    have items := items_yield keep inside
      fun node isNode => keeps.parts node (List.dropLast_subset _ isNode)
    exact items.bind fun _ each => tuple_yields each
  case h_14 parts => exact (items_yield keep inside keeps.parts).andPure fun _ => .set
  case h_15 present parts =>
    have found : Yields ((pairs present (parts.take (present.filter fun flag => flag != 0).length)
        (parts.drop (present.filter fun flag => flag != 0).length)).mapM (readers.pair inside))
        fun found => ∀ pair ∈ found, pair.Obeys (.names assigned) := by
      refine .mapM fun entry isEntry => ?_
      obtain ⟨first, second⟩ := mem_pairs _ _ _ isEntry
      exact pair_yields keep inside
        (fun key isKey => keeps.parts key (List.mem_of_mem_take (first key isKey)))
        (keeps.parts entry.2 (List.mem_of_mem_drop second))
    exact found.andPure fun _ => .dict
  case h_16 parts => exact (expressions_yield keep inside keeps.parts).andPure fun _ => .joined
  case h_17 code value spec =>
    obtain ⟨valueKeeps, specKeeps⟩ := List.forall_mem_cons.mp keeps.parts
    refine (keep.expression inside value valueKeeps).bind fun _ shown => ?_
    refine (expressions_yield keep inside specKeeps).andPure fun layout each => ?_
    exact .field shown fun found isFirst => each found (List.mem_of_head? isFirst)
  case h_18 line _ element clauses =>
    obtain ⟨elementKeeps, clausesKeep⟩ := List.forall_mem_cons.mp keeps.parts
    exact comprehension_yields keep inside .listComp line (by simpa using elementKeeps) clausesKeep
  case h_19 line _ element clauses =>
    obtain ⟨elementKeeps, clausesKeep⟩ := List.forall_mem_cons.mp keeps.parts
    exact comprehension_yields keep inside .setComp line (by simpa using elementKeeps) clausesKeep
  case h_20 line _ element clauses =>
    obtain ⟨elementKeeps, clausesKeep⟩ := List.forall_mem_cons.mp keeps.parts
    exact comprehension_yields keep inside .generatorExp line (by simpa using elementKeeps)
      clausesKeep
  case h_21 line _ key value clauses =>
    obtain ⟨keyKeeps, others⟩ := List.forall_mem_cons.mp keeps.parts
    obtain ⟨valueKeeps, clausesKeep⟩ := List.forall_mem_cons.mp others
    exact comprehension_yields keep inside .dictComp line (by simp [keyKeeps, valueKeeps])
      clausesKeep
  case h_22 => exact .throw _

/-- The targets of a sequence. -/
theorem sequence_yields
    (keep : readers.KeepTo assigned)
    (inside : Bool)
    {nodes : List Node}
    (each : ∀ node ∈ nodes, node.KeepsTo assigned) :
    Yields (do return sequence (← nodes.mapM (readers.element inside)))
      (Target.Obeys (.names assigned)) := by
  have elements : Yields (nodes.mapM (readers.element inside))
      fun found => ∀ target ∈ found, target.2.Obeys (.names assigned) := by
    refine .mapM fun node isNode => ?_
    unfold element
    split
    case h_1 value _ =>
      have valueKeeps := (each _ isNode).parts value List.mem_cons_self
      exact (keep.target inside value valueKeeps).andPure fun _ known => known
    case h_2 => exact (keep.target inside node (each node isNode)).andPure fun _ known => known
  exact elements.andPure fun _ => sequence_scoped

/-- The target of a tree keeps to the names of the tree. -/
theorem targetOf_yields
    (keep : readers.KeepTo assigned)
    (inside : Bool)
    {node : Node}
    (keeps : node.KeepsTo assigned) :
    Yields (readers.targetOf inside node) (Target.Obeys (.names assigned)) := by
  unfold targetOf
  split
  case h_1 line name _ _ _ => exact .pure (.name (keeps.bound _ name (.itself _) rfl))
  case h_2 name value _ =>
    have valueKeeps := keeps.parts value List.mem_cons_self
    exact (keep.expression inside value valueKeeps).andPure fun _ => .attribute
  case h_3 value index _ =>
    refine (keep.expression inside value (keeps.parts value (by simp))).bind fun _ first => ?_
    exact (keep.expression inside index (keeps.parts index (by simp))).andPure
      fun _ => .subscript first
  case h_4 line _ parts =>
    split
    · exact .throw line
    · exact sequence_yields keep inside
        fun node isNode => keeps.parts node (List.dropLast_subset _ isNode)
  case h_5 line _ parts =>
    split
    · exact .throw line
    · exact sequence_yields keep inside
        fun node isNode => keeps.parts node (List.dropLast_subset _ isNode)
  case h_6 => exact .throw _

end Readers

/-- The readers at every depth keep to the names of what they read. -/
theorem readers_keepTo (height : Nat) : (readers height).KeepTo assigned := by
  induction height with
  | zero =>
      refine ⟨fun inside node keeps => .pure lost_scoped, fun inside node keeps => .pure ?_⟩
      exact .exactly fun _ inside => by cases inside
  | succ height inductionHypothesis =>
      exact ⟨fun inside node => Readers.expressionOf_yields inductionHypothesis inside,
        fun inside node => Readers.targetOf_yields inductionHypothesis inside⟩

/-! ## Statements -/

theorem expression_yields
    {node : Node}
    (keeps : node.KeepsTo assigned) :
    Yields (expression node) (Expr.Obeys (.names assigned)) :=
  (readers_keepTo node.height).expression false node keeps

theorem target_yields
    {node : Node}
    (keeps : node.KeepsTo assigned) :
    Yields (target node) (Target.Obeys (.names assigned)) :=
  (readers_keepTo node.height).target false node keeps

theorem statementOf_yields
    {read : Nat → Node → Placed Statement}
    (keep : ∀ loops node, node.KeepsTo assigned →
      Yields (read loops node) (Statement.Obeys (.names assigned)))
    (loops : Nat)
    {node : Node}
    (keeps : node.KeepsTo assigned) :
    Yields (statementOf read loops node) (Statement.Obeys (.names assigned)) := by
  have block : ∀ loops (nodes : List Node), (∀ node ∈ nodes, node.KeepsTo assigned) →
      Yields (nodes.mapM (read loops)) fun found =>
        ∀ statement ∈ found, statement.Obeys (.names assigned) :=
    fun loops nodes each => .mapM fun node isNode => keep loops node (each node isNode)
  unfold statementOf
  split
  case h_1 value =>
    exact (expression_yields (keeps.parts value (by simp))).andPure fun _ => .expression
  case h_2 => exact .pure (.give fun _ given => by cases given)
  case h_3 value =>
    refine (expression_yields (keeps.parts value (by simp))).andPure fun _ known => .give ?_
    rintro _ ⟨⟩
    exact known
  case h_4 count test rest =>
    obtain ⟨testKeeps, restKeep⟩ := List.forall_mem_cons.mp keeps.parts
    refine (expression_yields testKeeps).bind fun _ decides => ?_
    refine (block loops (rest.take count) fun node isNode =>
      restKeep node (List.mem_of_mem_take isNode)).bind fun _ first => ?_
    exact (block loops (rest.drop count) fun node isNode =>
      restKeep node (List.mem_of_mem_drop isNode)).andPure fun _ => .branch decides first
  case h_5 line count bound source rest =>
    obtain ⟨boundKeeps, others⟩ := List.forall_mem_cons.mp keeps.parts
    obtain ⟨sourceKeeps, restKeep⟩ := List.forall_mem_cons.mp others
    split
    case isTrue => exact .throw line
    case isFalse =>
      refine (expression_yields sourceKeeps).bind fun _ walked => ?_
      refine (target_yields boundKeeps).bind fun _ isBound => ?_
      refine (block (loops + 1) (rest.take count) fun node isNode =>
        restKeep node (List.mem_of_mem_take isNode)).bind fun _ inside => ?_
      exact (block loops (rest.drop count) fun node isNode =>
        restKeep node (List.mem_of_mem_drop isNode)).andPure fun _ => .loop isBound walked inside
  case h_6 line _ _ =>
    split
    · exact .throw line
    · exact .pure .leave
  case h_7 line _ _ =>
    split
    · exact .throw line
    · exact .pure .again
  case h_8 => exact .pure .pass
  case h_9 parts =>
    split
    case h_1 => exact .pure .pass
    case h_2 value isLast =>
      have valueKeeps := keeps.parts value (List.mem_of_getLast? isLast)
      refine (expression_yields valueKeeps).bind fun _ given => ?_
      have targets : Yields (parts.dropLast.mapM target)
          fun found => ∀ target ∈ found, target.Obeys (.names assigned) :=
        .mapM fun node isNode => target_yields (keeps.parts node (List.dropLast_subset _ isNode))
      exact targets.andPure fun _ bound => .assign bound given
  case h_10 bound operator value =>
    refine (target_yields (keeps.parts bound (by simp))).bind fun _ isBound => ?_
    exact (expression_yields (keeps.parts value (by simp))).andPure fun _ => .augment isBound
  case h_11 => exact .throw _

theorem statement_yields
    (height loops : Nat)
    {node : Node}
    (keeps : node.KeepsTo assigned) :
    Yields (statement height loops node) (Statement.Obeys (.names assigned)) := by
  induction height generalizing loops node with
  | zero => exact .pure .pass
  | succ height inductionHypothesis =>
      exact statementOf_yields (fun loops node => inductionHypothesis loops) loops keeps

end Elaboration

/-! ## Programs -/

/-- The program of trees keeps to the names of the trees. -/
theorem Program.ofNodes_scoped
    {nodes : List Node}
    {program : List Statement}
    (keep : ∀ node ∈ nodes, node.KeepsTo assigned)
    (read : Program.ofNodes nodes = .ok program) :
    ∀ statement ∈ program, statement.Obeys (.names assigned) := by
  have statements : Placed.Yields
      (nodes.mapM fun node => Elaboration.statement node.height 0 node)
      fun found => ∀ statement ∈ found, statement.Obeys (.names assigned) :=
    .mapM fun node isNode => Elaboration.statement_yields node.height 0 (keep node isNode)
  rw [Program.ofNodes, StateT.run'] at read
  cases isRead : (nodes.mapM fun node => Elaboration.statement node.height 0 node) 0 with
  | error line =>
      rw [isRead] at read
      cases read
  | ok found =>
      rw [isRead] at read
      cases read
      exact statements 0 found.1 found.2 isRead

/-- A tree of a body that passes the check of the sandbox keeps to the names that the body
assigns. -/
theorem Sandbox.keepsTo_of_check
    {trees : List Node}
    (passes : Sandbox.check trees = none)
    {tree : Node}
    (isTree : tree ∈ trees) :
    tree.KeepsTo (Sandbox.Assigns trees) where
  readable := fun _ name _ holds =>
    have admits := (Sandbox.check_eq_none_iff trees).mp passes _ ⟨tree, isTree, holds⟩
    (admits.nameVisible name rfl rfl).2
  bound := fun found _ holds isName => ⟨found, ⟨tree, isTree, holds⟩, isName⟩

/-- The program of a body is well scoped for the names that the body assigns. -/
theorem Definition.compile_scoped
    {body : List Char}
    {program : List Statement}
    (compiled : Definition.compile body = .ok program) :
    ∃ trees, Definition.trees body = .ok trees ∧
      ∀ statement ∈ program, statement.Obeys (.names (Sandbox.Assigns trees)) := by
  obtain ⟨trees, areTrees, compiled⟩ := bind_eq_ok_iff.mp compiled
  refine ⟨trees, areTrees, ?_⟩
  split at compiled
  case h_1 => cases compiled
  case h_2 passes =>
    dsimp only at compiled
    split at compiled
    case isTrue => cases compiled
    case isFalse =>
      split at compiled
      case h_1 read =>
        cases compiled
        exact Program.ofNodes_scoped (fun _ isTree => Sandbox.keepsTo_of_check passes isTree) read
      case h_2 => cases compiled

end Predicate
end Wordbook
