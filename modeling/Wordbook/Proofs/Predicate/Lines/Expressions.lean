import Wordbook.Proofs.Predicate.Lines.Parsing

/-!
# Expressions stay within the lines of their text

The rules for expressions keep to the first lines of a text if the rules that they use do.
-/

namespace Wordbook
namespace Predicate

open Grammar Predicate.Parser

variable {rules : Rules} {last : Nat}

/-! ## Pieces of the grammar -/

namespace Rules.StayWithin

theorem one (given : rules.StayWithin last) (rule : Rule) :
    (Grammar.one rules rule).StaysWithin last := by
  refine .bind (given rule) fun trees inside => ?_
  split
  · exact .pure (by simpa using inside)
  · exact .miss

end Rules.StayWithin

namespace Parser.StaysWithin

variable {First Second : Type} [Lined First] [Lined Second]

theorem single
    {parser : Parser Node}
    (given : parser.StaysWithin last) :
    (Grammar.single parser).StaysWithin last :=
  .bind given fun node inside => .pure (by simp [inside])

theorem after
    {mark : Parser Second}
    {parser : Parser First}
    (first : mark.StaysWithin last)
    (second : parser.StaysWithin last) :
    (Grammar.after mark parser).StaysWithin last :=
  .optional (.seq first second)

theorem asideMark : Grammar.asideMark.StaysWithin last :=
  .bind (.optional (.kw _)) fun _ _ => .pure within_bool

end Parser.StaysWithin

mutual

theorem within_badTarget?
    (purpose : Purpose)
    (node : Node)
    (inside : Lined.Within last node) :
    Lined.Within last (badTarget? purpose node) := by
  unfold badTarget?
  split
  case h_1 => exact within_badTargets? purpose _ (Node.within_mk_iff.mp inside).2
  case h_2 => exact within_badTargets? purpose _ (Node.within_mk_iff.mp inside).2
  case h_3 =>
    split
    · exact within_some_iff.mpr inside
    · exact within_badTargets? purpose _ (Node.within_mk_iff.mp inside).2
  case h_4 =>
    split
    · split
      · next left _ _ _ _ _ =>
          have parts := (Node.within_mk_iff.mp inside).2
          split
          · exact within_badTarget? purpose left (within_cons_iff.mp parts).1
          · exact within_none
      · exact within_none
    · exact within_some_iff.mpr inside
  case h_11 => exact within_some_iff.mpr inside
  all_goals exact within_none

theorem within_badTargets?
    (purpose : Purpose)
    (nodes : List Node)
    (inside : Lined.Within last nodes) :
    Lined.Within last (badTargets? purpose nodes) := by
  unfold badTargets?
  split
  · exact within_none
  · next node nodes =>
      obtain ⟨first, others⟩ := within_cons_iff.mp inside
      have bad := within_badTarget? purpose node first
      revert bad
      cases badTarget? purpose node with
      | none => exact fun _ => within_badTargets? purpose nodes others
      | some part => exact id

end

theorem Parser.StaysWithin.refuseTarget
    (purpose : Purpose)
    {node : Node}
    (inside : Lined.Within last node) :
    (Grammar.refuseTarget purpose node).StaysWithin last := by
  have bad := within_badTarget? purpose node inside
  unfold Grammar.refuseTarget
  split
  · next part found => exact .raiseAt (Node.line_le (within_some_iff.mp (found ▸ bad)))
  · exact .miss

/-- The line of the first of some trees, or the first line. -/
theorem firstLine_le
    {nodes : List Node}
    (positive : 1 ≤ last)
    (inside : Lined.Within last nodes) :
    firstLine nodes ≤ last := by
  cases nodes with
  | nil => exact positive
  | cons node nodes => exact Node.line_le (within_cons_iff.mp inside).1

theorem within_orderArguments
    {nodes : List Node}
    (inside : Lined.Within last nodes) :
    Lined.Within last (orderArguments nodes) :=
  within_append_iff.mpr ⟨Lined.within_subset inside (List.filter_subset_self _),
    Lined.within_subset inside (List.filter_subset_self _)⟩

/-! ## Parameters -/

section Parameters

variable {style : ParameterStyle}

namespace Parser.StaysWithin

theorem parameterEnd : (Grammar.parameterEnd style).StaysWithin last :=
  .either (.seq (.op _) (.pure within_unit)) (.ahead (.op _))

theorem slashEnd : (Grammar.slashEnd style).StaysWithin last := .seq (.op _) parameterEnd

theorem commaAlone : Grammar.commaAlone.StaysWithin last := .seq (.op _) (.pure within_nil)

end Parser.StaysWithin

namespace Rules.StayWithin

theorem parameter (given : rules.StayWithin last) :
    (Grammar.parameter rules style).StaysWithin last :=
  .bind .name fun found named =>
    .ite
      (.bind (.after (.op _) (given.one _)) fun bound annotated =>
        .pure (by simp [named, annotated]))
      (.bind (.pure within_none) fun bound bare => .pure (by simp [named, bare]))

theorem starAnnotated (given : rules.StayWithin last) :
    (Grammar.starAnnotated rules).StaysWithin last :=
  .bind .name fun found named => .seq (.op _) <| .bind (given.one _) fun bound annotated =>
    .pure (by simp [named, annotated])

theorem defaultValue (given : rules.StayWithin last) :
    (Grammar.defaultValue rules style).StaysWithin last := by
  refine .either ?value (.strictly ?missing)
  case value => exact .seq (.op _) (given.one _)
  case missing =>
    exact .bind (.op _) fun mark marked =>
      .seq (.ahead (.either (.op _) (.op _))) (.raiseAt marked)

theorem bareParameter (given : rules.StayWithin last) :
    (Grammar.bareParameter rules style).StaysWithin last :=
  .bind given.parameter fun found inside => .seq .parameterEnd <| .pure (by simp [inside])

theorem defaultedParameter (given : rules.StayWithin last) :
    (Grammar.defaultedParameter rules style).StaysWithin last :=
  .bind given.parameter fun found inside => .bind given.defaultValue fun value valued =>
    .seq .parameterEnd <| .pure (by simp [inside, valued])

theorem maybeParameter (given : rules.StayWithin last) :
    (Grammar.maybeParameter rules style).StaysWithin last :=
  .bind given.parameter fun found inside => .bind (.optional given.defaultValue) fun value valued =>
    .seq .parameterEnd <| .pure (by simp [inside, valued])

theorem slashBare (given : rules.StayWithin last) :
    (Grammar.slashBare rules style).StaysWithin last :=
  .bind (.many1 given.bareParameter) fun _ inside => .seq .slashEnd <|
    .pure (within_flatten inside)

theorem slashDefaulted (given : rules.StayWithin last) :
    (Grammar.slashDefaulted rules style).StaysWithin last :=
  .bind (.many given.bareParameter) fun bare first =>
    .bind (.many1 given.defaultedParameter) fun defaulted second => .seq .slashEnd <|
      .pure (by simp [first, second])

theorem invalidDoubleStar (given : rules.StayWithin last) :
    (Grammar.invalidDoubleStar rules style).StaysWithin last := by
  refine .oneOf (.cons ?defaulted <| .cons ?parameter <| .cons ?other .nil)
  case defaulted =>
    exact .seq (.op _) <| .seq given.parameter <| .bind (.op _) fun mark marked => .raiseAt marked
  case parameter =>
    exact .seq (.op _) <| .seq given.parameter <| .seq (.op _) <|
      .bind given.parameter fun found inside => .raiseAt (Node.line_le inside)
  case other =>
    exact .seq (.op _) <| .seq given.parameter <| .seq (.op _) <|
      .bind (.oneOf (.cons (.op _) <| .cons (.op _) <| .cons (.op _) .nil)) fun mark marked =>
        .raiseAt marked

theorem doubleStar (given : rules.StayWithin last) :
    (Grammar.doubleStar rules style).StaysWithin last :=
  .either (.strictly given.invalidDoubleStar) (.seq (.op _) given.bareParameter)

theorem invalidStarParameters (given : rules.StayWithin last) :
    (Grammar.invalidStarParameters rules style).StaysWithin last := by
  refine .oneOf (.cons ?alone <| .cons ?defaulted <| .cons ?twice .nil)
  case alone =>
    exact .bind (.op _) fun mark marked =>
      .seq (.either (.op _) (.seq (.op _) (.either (.op _) (.op _)))) <|
        .ite (.raiseAt marked) .raiseHere
  case defaulted =>
    exact .seq (.op _) <| .seq given.parameter <| .bind (.op _) fun mark marked => .raiseAt marked
  case twice =>
    exact .seq (.op _) <| .seq (.either given.bareParameter .commaAlone) <|
      .seq (.many given.maybeParameter) <| .bind (.op _) fun mark marked =>
        .seq (.either given.bareParameter .commaAlone) (.raiseAt marked)

theorem starParameters (given : rules.StayWithin last) :
    (Grammar.starParameters rules style).StaysWithin last := by
  have others : StaysWithin last (do
      let keywordOnly ← many (Grammar.maybeParameter rules style)
      let double ← Parser.optional (Grammar.doubleStar rules style)
      return keywordOnly.flatten ++ double.getD []) :=
    .bind (.many given.maybeParameter) fun keywordOnly first =>
      .bind (.optional given.doubleStar) fun double second => .pure (by simp [first, second])
  refine .oneOf (.cons (.strictly given.invalidStarParameters) <| .cons ?star <|
    .cons ?annotated <| .cons ?comma <| .cons given.doubleStar .nil)
  case star =>
    exact .seq (.op _) <| .bind given.bareParameter fun star first =>
      .bind others fun more second => .pure (by simp [first, second])
  case annotated =>
    exact .ite (.seq (.op _) <| .bind given.starAnnotated fun star first =>
      .seq .parameterEnd <| .bind others fun more second => .pure (by simp [first, second])) .miss
  case comma =>
    exact .seq (.op _) <| .seq (.op _) <| .bind (.many1 given.maybeParameter) fun _ first =>
      .bind (.optional given.doubleStar) fun double second => .pure (by simp [first, second])

theorem slashAny (given : rules.StayWithin last) :
    (Grammar.slashAny rules style).StaysWithin last :=
  .either given.slashBare given.slashDefaulted

theorem invalidParameters (given : rules.StayWithin last) :
    (Grammar.invalidParameters rules style).StaysWithin last := by
  refine .oneOf (.cons ?bare <| .cons ?parentheses <| .cons ?slash <| .cons ?twoSlashes <|
    .cons ?slashLate <| .cons ?star .nil)
  case bare =>
    exact .seq (.many given.bareParameter) <|
      .seq (.either given.slashDefaulted <|
        .bind (.many1 given.defaultedParameter) fun _ inside => .pure (within_flatten inside)) <|
      .bind given.bareParameter fun bare inside => .raiseFound (within_head? inside)
  case parentheses =>
    refine .seq (.many given.bareParameter) <| .bind (.op _) fun mark marked => ?_
    have behind : StaysWithin last (do
        let _ ← Parser.optional (op ",")
        let _ ← op ")"
        raiseAt mark.line : Parser (List Node)) :=
      .seq (.optional (.op _)) <| .seq (.op _) <| .raiseAt marked
    exact .ite (.seq (.many1 given.bareParameter) behind)
      (.seq (.sepBy1 (.op _) given.parameter) behind)
  case slash => exact .bind (.op _) fun mark marked => .seq (.op _) (.raiseAt marked)
  case twoSlashes =>
    exact .seq given.slashAny <| .seq (.many given.maybeParameter) <|
      .bind (.op _) fun mark marked => .raiseAt marked
  case slashLate =>
    exact .seq (.optional given.slashAny) <| .seq (.many given.maybeParameter) <| .seq (.op _) <|
      .seq (.either .commaAlone given.bareParameter) <| .seq (.many given.maybeParameter) <|
      .bind (.op _) fun mark marked => .raiseAt marked
  case star =>
    exact .seq (.many1 given.maybeParameter) <| .seq (.op _) <|
      .bind (.op _) fun mark marked => .raiseAt marked

theorem orderedParameters (given : rules.StayWithin last) :
    (Grammar.orderedParameters rules style).StaysWithin last := by
  have bare : (many (Grammar.bareParameter rules style)).StaysWithin last :=
    .many given.bareParameter
  have defaulted : (many (Grammar.defaultedParameter rules style)).StaysWithin last :=
    .many given.defaultedParameter
  have star : (Parser.optional (Grammar.starParameters rules style)).StaysWithin last :=
    .optional given.starParameters
  refine .oneOf (.cons ?slash <| .cons ?slashDefaulted <| .cons ?bare <| .cons ?defaulted <|
    .cons given.starParameters .nil)
  case slash =>
    exact .bind given.slashBare fun _ first => .bind bare fun _ second =>
      .bind defaulted fun _ third => .bind star fun _ fourth =>
        .pure (by simp [first, second, third, fourth])
  case slashDefaulted =>
    exact .bind given.slashDefaulted fun _ first => .bind defaulted fun _ second =>
      .bind star fun _ third => .pure (by simp [first, second, third])
  case bare =>
    exact .bind (.many1 given.bareParameter) fun _ first => .bind defaulted fun _ second =>
      .bind star fun _ third => .pure (by simp [first, second, third])
  case defaulted =>
    exact .bind (.many1 given.defaultedParameter) fun _ first => .bind star fun _ second =>
      .pure (by simp [first, second])

theorem parameters (given : rules.StayWithin last) :
    (Grammar.parameters rules style).StaysWithin last :=
  .here fun line inside =>
    .bind (.optional (.either (.strictly given.invalidParameters)
      given.orderedParameters)) fun found parts => .pure (by simp [inside, parts])

end Rules.StayWithin
end Parameters

/-! ## Expressions -/

namespace Parser.StaysWithin

theorem tupleOf
    {item : Parser Node}
    (given : item.StaysWithin last) :
    (Grammar.tupleOf item).StaysWithin last :=
  .bind given fun first inside => .bind (.many (.seq (.op _) given)) fun others later =>
    .bind (.optional (.op _)) fun comma _ =>
      .ite (.pure inside) (.pure (by simp [inside, later]))

theorem starred
    {operand : Parser Node}
    (given : operand.StaysWithin last) :
    (Grammar.starred operand).StaysWithin last :=
  .bind (.op _) fun mark marked => .bind given fun value valued =>
    .pure (by simp [marked, valued])

theorem opening (symbols : List String) : (Grammar.opening symbols).StaysWithin last := .lexeme _

theorem wordValue
    (word : String)
    (value : Literal) :
    (Grammar.wordValue word value).StaysWithin last :=
  .bind (.kw _) fun mark marked => .pure (by simp [marked])

end Parser.StaysWithin

namespace Rules.StayWithin

theorem yieldExpression (given : rules.StayWithin last) :
    (Grammar.yieldExpression rules).StaysWithin last := by
  refine .either ?delegated ?plain
  case delegated =>
    exact .bind (.kw _) fun mark marked => .seq (.kw _) <| .bind (given.one _) fun value valued =>
      .pure (by simp [marked, valued])
  case plain =>
    exact .bind (.kw _) fun mark marked => .bind (.optional (given.one _)) fun value valued =>
      .pure (by simp [marked, valued])

theorem yieldOrStar (given : rules.StayWithin last) :
    (Grammar.yieldOrStar rules).StaysWithin last :=
  .either given.yieldExpression (given.one _)

theorem lambda (given : rules.StayWithin last) : (Grammar.lambda rules).StaysWithin last :=
  .bind (.kw _) fun mark marked => .bind given.parameters fun found inside => .seq (.op _) <|
    .bind (given.one _) fun body held => .pure (by simp [marked, inside, held])

theorem conditional (given : rules.StayWithin last) :
    (Grammar.conditional rules).StaysWithin last :=
  .bind (given.one _) fun chosen first => .seq (.kw _) <| .bind (given.one _) fun test second =>
    .seq (.kw _) <| .bind (given.one _) fun other third => .pure (by simp [first, second, third])

theorem plainExpression (given : rules.StayWithin last) :
    (Grammar.plainExpression rules).StaysWithin last :=
  .oneOf (.cons given.conditional <| .cons (given.one _) <| .cons given.lambda .nil)

theorem invalidExpression (given : rules.StayWithin last) :
    (Grammar.invalidExpression rules).StaysWithin last := by
  refine .either ?inARow ?oneSided
  case inARow =>
    exact .seq (.notAhead (.either (.seq .name <| .seq (.ofKind _) <| .pure within_unit)
        (.seq (.lexeme _) <| .pure within_unit))) <|
      .bind (given.one _) fun first inside => .seq (.leniently given.plainExpression) <|
        .depthBefore fun depth => .ite .miss (.raiseAt (Node.line_le inside))
  case oneSided =>
    exact .bind (given.one _) fun chosen inside => .seq (.kw _) <| .seq (given.one _) <|
      .seq (.notAhead (.either (.kw _) (.op _))) <| .raiseAt (Node.line_le inside)

theorem invalidOldStatement (given : rules.StayWithin last) :
    (Grammar.invalidOldStatement rules).StaysWithin last :=
  .bind .name fun _ named => .seq (.notAhead (.op _)) <| .seq (given.one _) <|
    .ite (.raiseAt (Node.line_le named)) .miss

theorem expression (given : rules.StayWithin last) :
    (Grammar.expression rules).StaysWithin last :=
  .oneOf (.cons (.strictly given.invalidExpression) <|
    .cons (.strictly given.invalidOldStatement) <| .cons given.conditional <|
    .cons (given.one _) <| .cons given.lambda .nil)

theorem assignmentExpression (given : rules.StayWithin last) :
    (Grammar.assignmentExpression rules).StaysWithin last :=
  .bind .name fun target named => .seq (.op _) <| .bind (given.one _) fun value valued =>
    .pure (by simp [named, valued, Node.within_setContext])

theorem invalidNamedExpression
    {display : Parser Unit}
    (given : rules.StayWithin last)
    (shown : display.StaysWithin last) :
    (Grammar.invalidNamedExpression rules display).StaysWithin last := by
  have otherEqual : StaysWithin last (Parser.notAhead (Parser.oneOf [op "=", op ":="])) :=
    .notAhead (.either (.op _) (.op _))
  refine .oneOf (.cons ?walrus <| .cons ?name <| .cons ?operand .nil)
  case walrus =>
    exact .bind (given.one _) fun target inside => .seq (.op _) <| .seq (given.one _) <|
      .raiseAt (Node.line_le inside)
  case name =>
    exact .bind .name fun target inside => .seq (.op _) <| .seq (given.one _) <|
      .seq otherEqual <| .raiseAt (Node.line_le inside)
  case operand =>
    exact .seq (.notAhead shown) <| .bind (given.one _) fun target inside => .seq (.op _) <|
      .seq (given.one _) <| .seq otherEqual <| .raiseAt (Node.line_le inside)

theorem unassigned (given : rules.StayWithin last) :
    (Grammar.unassigned rules).StaysWithin last :=
  .bind (given.one _) fun _ inside => .seq (.notAhead (.op _)) (.pure inside)

theorem namedExpression (given : rules.StayWithin last) :
    (Grammar.namedExpression rules).StaysWithin last :=
  .oneOf (.cons given.assignmentExpression <| .cons (.strictly (given.one _)) <|
    .cons given.unassigned .nil)

theorem logical
    (given : rules.StayWithin last)
    (word : String)
    (operator : Kind)
    (operand : Rule) :
    (Grammar.logical rules word operator operand).StaysWithin last :=
  .bind (given.one _) fun first inside => .bind (.many (.seq (.kw _) (given.one _)))
    fun others later => .ite (.pure inside) (.pure (by simp [inside, later]))

theorem comparisonTail (given : rules.StayWithin last) :
    (Grammar.comparisonTail rules).StaysWithin last := by
  have tail {operator : Parser Kind} (known : operator.StaysWithin last) :
      StaysWithin last (do
        let kind ← operator
        let operand ← Grammar.one rules .bitOr
        return (kind, operand)) :=
    .bind known fun kind _ => .bind (given.one _) fun operand inside =>
      .pure ⟨within_kind, inside⟩
  refine .oneOf (.cons (tail ?symbol) <| .cons (tail ?notIn) <| .cons (tail ?within) <|
    .cons (tail ?isNot) <| .cons (tail ?same) .nil)
  case symbol => exact .bind (.lexeme _) fun _ _ => .pure within_kind
  case notIn => exact .seq (.kw _) <| .seq (.kw _) (.pure within_kind)
  case within => exact .seq (.kw _) (.pure within_kind)
  case isNot => exact .seq (.kw _) <| .seq (.kw _) (.pure within_kind)
  case same => exact .seq (.kw _) (.pure within_kind)

theorem comparison (given : rules.StayWithin last) :
    (Grammar.comparison rules).StaysWithin last := by
  refine .bind (given.one _) fun left inside =>
    .bind (.many given.comparisonTail) fun tails later => .ite (.pure inside) (.pure ?_)
  have operators : Lined.Within last (tails.map fun tail => Node.leaf tail.1 left.line) := by
    intro operator member
    obtain ⟨tail, -, rfl⟩ := List.mem_map.mp member
    exact Node.within_leaf_iff.mpr (Node.line_le inside)
  have operands : Lined.Within last (tails.map fun tail => tail.2) := by
    intro operand member
    obtain ⟨tail, isOne, rfl⟩ := List.mem_map.mp member
    exact (later tail isOne).2
  simp [inside, operators, operands]

theorem inversion (given : rules.StayWithin last) :
    (Grammar.inversion rules).StaysWithin last :=
  .either
    (.bind (.kw _) fun mark marked => .bind (given.one _) fun operand inside =>
      .pure (by simp [marked, inside]))
    given.comparison

theorem leftGrouped
    (given : rules.StayWithin last)
    (level operand : Rule)
    (operators : List (String × Kind)) :
    (Grammar.leftGrouped rules level operand operators).StaysWithin last :=
  .oneOf (.append
    (.map fun entry => .bind (given.one _) fun left first => .seq (.op _) <|
      .bind (given.one _) fun right second => .pure (by simp [first, second]))
    (.cons (given.one _) .nil))

theorem power (given : rules.StayWithin last) : (Grammar.power rules).StaysWithin last := by
  refine .bind (given.one _) fun base first => .bind (.after (.op _) (given.one _))
    fun exponent second => ?_
  split
  · exact .pure (by simp [first, within_some_iff.mp second])
  · exact .pure first

theorem factor (given : rules.StayWithin last) : (Grammar.factor rules).StaysWithin last :=
  .oneOf (.append
    (.map fun entry => .bind (.op _) fun mark marked => .bind (given.one _) fun operand inside =>
      .pure (by simp [marked, inside]))
    (.cons (given.one _) .nil))

theorem awaitPrimary (given : rules.StayWithin last) :
    (Grammar.awaitPrimary rules).StaysWithin last :=
  .either
    (.bind (.kw _) fun mark marked => .bind (given.one _) fun operand inside =>
      .pure (by simp [marked, inside]))
    (given.one _)

/-! ## Comprehensions and displays -/

theorem invalidLoopTarget (given : rules.StayWithin last) :
    (Grammar.invalidLoopTarget rules).StaysWithin last :=
  .seq .asideMark <| .seq (.kw _) <| .bind (given.one _) fun _ inside =>
    .refuseTarget _ inside

theorem comprehensionClause (given : rules.StayWithin last) :
    (Grammar.comprehensionClause rules).StaysWithin last := by
  have clause {line : Nat} (aside : Bool) (inside : line ≤ last) : StaysWithin last (do
      let _ ← kw "for"
      let target ← Grammar.one rules .starTargets
      let _ ← kw "in"
      settle
      let iterated ← Grammar.one rules .disjunction
      let tests ← many (do let _ ← kw "if"; Grammar.one rules .disjunction)
      return Node.mk .comprehension line (.counts [if aside then 1 else 0])
        (target :: iterated :: tests) : Parser Node) :=
    .seq (.kw _) <| .bind (given.one _) fun target first => .seq (.kw _) <| .seq .settle <|
      .bind (given.one _) fun iterated second => .bind (.many (.seq (.kw _) (given.one _)))
        fun tests third => .pure (by simp [inside, first, second, third])
  refine .oneOf (.cons ?aside <| .cons ?plain <| .cons (.strictly ?refused) .nil)
  case aside => exact .here fun line inside => .seq (.kw _) (clause true inside)
  case plain => exact .here fun line inside => clause false inside
  case refused => exact .seq given.invalidLoopTarget .miss

theorem comprehensionClauses (given : rules.StayWithin last) :
    (Grammar.comprehensionClauses rules).StaysWithin last :=
  .many1 given.comprehensionClause

theorem starNamed (given : rules.StayWithin last) :
    (Grammar.starNamed rules).StaysWithin last :=
  .either (.starred (given.one _)) (given.one _)

theorem starNamedList (given : rules.StayWithin last) :
    (Grammar.starNamedList rules).StaysWithin last :=
  .bind (.sepBy1 (.op _) (given.one _)) fun _ inside => .seq (.optional (.op _)) (.pure inside)

theorem starredArgument (given : rules.StayWithin last) :
    (Grammar.starredArgument rules).StaysWithin last :=
  .either
    (.strictly <| .bind (.op _) fun _ marked => .seq (given.one _) <| .seq (.op _) <|
      .seq (given.one _) (.raiseAt marked))
    (.starred (given.one _))

theorem invalidComprehension (given : rules.StayWithin last) :
    (Grammar.invalidComprehension rules).StaysWithin last := by
  refine .oneOf (.cons ?starred <| .cons ?several <| .cons ?comma .nil)
  case starred =>
    exact .seq (.opening _) <| .bind given.starredArgument fun item inside =>
      .seq given.comprehensionClauses (.raiseAt (Node.line_le inside))
  case several =>
    exact .seq (.opening _) <| .bind (given.one _) fun item inside => .seq (.op _) <|
      .seq given.starNamedList <| .seq given.comprehensionClauses (.raiseAt (Node.line_le inside))
  case comma =>
    exact .seq (.opening _) <| .bind (given.one _) fun item inside => .seq (.op _) <|
      .seq given.comprehensionClauses (.raiseAt (Node.line_le inside))

theorem group (given : rules.StayWithin last) : (Grammar.group rules).StaysWithin last := by
  refine .either ?group (.strictly (.either ?starred ?doubleStarred))
  case group =>
    exact .seq (.op _) <| .bind (.either given.yieldExpression (given.one _)) fun inner inside =>
      .seq (.op _) (.pure inside)
  case starred =>
    exact .seq (.op _) <| .bind given.starredArgument fun item inside => .seq (.op _) <|
      .raiseAt (Node.line_le inside)
  case doubleStarred =>
    exact .seq (.op _) <| .bind (.op _) fun mark marked => .seq (given.one _) <| .seq (.op _) <|
      .raiseAt marked

theorem tuple (given : rules.StayWithin last) : (Grammar.tuple rules).StaysWithin last := by
  refine .bind (.op _) fun mark marked => .bind (.optional ?items) fun items inside =>
    .seq (.op _) <| .pure (by simp [marked, inside])
  exact .bind (given.one _) fun first known => .seq (.op _) <|
    .bind (.optional given.starNamedList) fun others later => .pure (by simp [known, later])

theorem list (given : rules.StayWithin last) : (Grammar.list rules).StaysWithin last :=
  .bind (.op _) fun mark marked => .bind (.optional given.starNamedList) fun items inside =>
    .seq (.op _) <| .pure (by simp [marked, inside])

theorem comprehension
    {element : Parser Node}
    (given : rules.StayWithin last)
    (kind : Kind)
    (left right : String)
    (valued : element.StaysWithin last) :
    (Grammar.comprehension rules kind left right element).StaysWithin last :=
  .either
    (.bind (.op _) fun mark marked => .bind valued fun value first =>
      .bind given.comprehensionClauses fun clauses second => .seq (.op _) <|
        .pure (by simp [marked, first, second]))
    (.strictly given.invalidComprehension)

theorem generator (given : rules.StayWithin last) :
    (Grammar.generator rules).StaysWithin last :=
  given.comprehension _ _ _ (.either given.assignmentExpression given.unassigned)

theorem setDisplay (given : rules.StayWithin last) :
    (Grammar.setDisplay rules).StaysWithin last :=
  .bind (.op _) fun mark marked => .bind given.starNamedList fun items inside =>
    .seq (.op _) <| .pure (by simp [marked, inside])

theorem keyValue (given : rules.StayWithin last) : (Grammar.keyValue rules).StaysWithin last :=
  .bind (given.one _) fun _ first => .seq (.op _) <| .bind (given.one _) fun _ second =>
    .pure ⟨first, second⟩

theorem dictEntry (given : rules.StayWithin last) :
    (Grammar.dictEntry rules).StaysWithin last :=
  .either
    (.seq (.op _) <| .bind (given.one _) fun _ inside => .pure ⟨within_none, inside⟩)
    (.bind given.keyValue fun _ inside =>
      .pure ⟨within_some_iff.mpr inside.1, inside.2⟩)

theorem invalidValue (given : rules.StayWithin last) :
    AllStayWithin last (Grammar.invalidValue rules) := by
  refine .cons ?starred <| .cons ?missing .nil
  case starred =>
    exact .seq (given.one _) <| .seq (.op _) <| .bind (.op _) fun mark marked =>
      .seq (given.one _) (.raiseAt marked)
  case missing =>
    exact .seq (given.one _) <| .bind (.op _) fun mark marked =>
      .seq (.ahead (.either (.op _) (.op _))) (.raiseAt marked)

theorem invalidDictEntries (given : rules.StayWithin last) :
    (Grammar.invalidDictEntries rules).StaysWithin last := by
  refine .oneOf (.cons (.seq (.sepBy1 (.op _) given.dictEntry) <| .seq (.op _) <|
    .oneOf (.cons ?lone given.invalidValue)) given.invalidValue)
  exact .bind (given.one _) fun key inside => .seq (.notAhead (.op _)) <|
    .raiseAt (Node.line_le inside)

theorem dict (given : rules.StayWithin last) : (Grammar.dict rules).StaysWithin last := by
  refine .either ?entries ?refused
  case entries =>
    refine .bind (.op _) fun mark marked => .bind (.optional ?found) fun entries inside =>
      .seq (.op _) <| .pure ?tree
    case found =>
      exact .bind (.sepBy1 (.op _) given.dictEntry) fun found each =>
        .seq (.optional (.op _)) (.pure each)
    case tree =>
      have each := within_getD inside
      have keys : Lined.Within last ((entries.getD []).filterMap fun pair => pair.1) := by
        intro key member
        obtain ⟨pair, isOne, same⟩ := List.mem_filterMap.mp member
        exact (each pair isOne).1 key same
      have values : Lined.Within last ((entries.getD []).map fun pair => pair.2) := by
        intro value member
        obtain ⟨pair, isOne, rfl⟩ := List.mem_map.mp member
        exact (each pair isOne).2
      simp [marked, keys, values]
  case refused =>
    exact .seq (.op _) <| .bind given.invalidDictEntries fun refused inside =>
      .seq (.op _) (.pure inside)

theorem dictComprehension (given : rules.StayWithin last) :
    (Grammar.dictComprehension rules).StaysWithin last := by
  refine .either ?plain (.strictly ?refused)
  case plain =>
    exact .bind (.op _) fun mark marked => .bind given.keyValue fun entry inside =>
      .bind given.comprehensionClauses fun clauses later => .seq (.op _) <|
        .pure (by simp [marked, inside.1, inside.2, later])
  case refused =>
    exact .seq (.op _) <| .bind (.op _) fun mark marked => .seq (given.one _) <|
      .seq given.comprehensionClauses <| .seq (.op _) (.raiseAt marked)

theorem atom (given : rules.StayWithin last) : (Grammar.atom rules).StaysWithin last := by
  refine .oneOf (.cons .name <| .cons (.wordValue _ _) <| .cons (.wordValue _ _) <|
    .cons (.wordValue _ _) <| .cons .strings <| .cons .number <| .cons ?parentheses <|
    .cons ?brackets <| .cons ?braces <| .cons ?ellipsis .nil)
  case parentheses =>
    exact .seq (.ahead (.op _)) <|
      .oneOf (.cons given.tuple <| .cons given.group <| .cons given.generator .nil)
  case brackets =>
    exact .seq (.ahead (.op _)) <| .either given.list (given.comprehension _ _ _ (given.one _))
  case braces =>
    exact .seq (.ahead (.op _)) <|
      .oneOf (.cons given.dict <| .cons given.setDisplay <| .cons given.dictComprehension <|
        .cons (given.comprehension _ _ _ (given.one _)) .nil)
  case ellipsis => exact .bind (.op _) fun mark marked => .pure (by simp [marked])

/-! ## Subscripts, attributes and calls -/

theorem slice (given : rules.StayWithin last) : (Grammar.slice rules).StaysWithin last := by
  have bound := StaysWithin.optional (given.one .expression)
  refine .either ?bounds (given.one _)
  refine .here fun line inside => .bind bound fun lower first => .seq (.op _) <|
    .bind bound fun upper second => .bind (.after (.op _) bound) fun step third => .pure ?_
  have stride : Lined.Within last step.join := by
    cases step with
    | none => exact within_none
    | some step => exact within_some_iff.mp third
  simp [inside, first, second, stride]

theorem slices (given : rules.StayWithin last) : (Grammar.slices rules).StaysWithin last := by
  refine .either ?single ?several
  case single =>
    exact .bind given.slice fun found inside => .seq (.notAhead (.op _)) (.pure inside)
  case several =>
    exact .here fun line inside =>
      .bind (.sepBy1 (.op _) (.either given.slice given.starredArgument)) fun items each =>
        .seq (.optional (.op _)) <| .pure (by simp [inside, each])

theorem argumentList (given : rules.StayWithin last) :
    (Grammar.argumentList rules).StaysWithin last :=
  .seq (.op _) <| .bind (.optional (given _)) fun _ inside => .seq (.op _) <|
    .pure (within_getD inside)

theorem trailers
    {follow : Parser Unit}
    (given : rules.StayWithin last)
    (level : Rule)
    (followed : follow.StaysWithin last) :
    AllStayWithin last (Grammar.trailers rules level follow) := by
  refine .cons ?member <| .cons ?generator <| .cons ?call <| .cons ?subscript .nil
  case member =>
    exact .bind (given.one _) fun base inside => .seq (.op _) <| .bind .name fun member _ =>
      .seq followed <| .pure (by simp [inside])
  case generator =>
    exact .bind (given.one _) fun base inside => .bind given.generator fun found later =>
      .seq followed <| .pure (by simp [callOf, inside, later])
  case call =>
    exact .bind (given.one _) fun base inside => .bind given.argumentList fun found later =>
      .seq followed <| .pure (by simp [callOf, inside, later])
  case subscript =>
    exact .bind (given.one _) fun base inside => .seq (.op _) <|
      .bind (given.one _) fun index later => .seq (.op _) <| .seq followed <|
        .pure (by simp [inside, later])

theorem primary (given : rules.StayWithin last) : (Grammar.primary rules).StaysWithin last :=
  .oneOf (.append (given.trailers _ (.pure within_unit)) (.cons given.atom .nil))

theorem invalidKeyword (given : rules.StayWithin last) :
    (Grammar.invalidKeyword rules).StaysWithin last := by
  refine .oneOf (.cons ?word <| .cons ?generator <| .cons ?target <| .cons ?doubleStar .nil)
  case word =>
    exact .bind (.oneOf (.cons (.kw _) <| .cons (.kw _) <| .cons (.kw _) .nil)) fun word marked =>
      .seq (.op _) (.raiseAt marked)
  case generator =>
    exact .bind .name fun word named => .seq (.op _) <| .seq (given.one _) <|
      .seq given.comprehensionClauses (.raiseAt (Node.line_le named))
  case target =>
    exact .seq (.notAhead (.seq .name (.op _))) <| .bind (given.one _) fun target inside =>
      .seq (.op _) (.raiseAt (Node.line_le inside))
  case doubleStar =>
    exact .bind (.op _) fun mark marked => .seq (given.one _) <| .seq (.op _) <|
      .seq (given.one _) (.raiseAt marked)

theorem keywordArgument (given : rules.StayWithin last) :
    (Grammar.keywordArgument rules).StaysWithin last :=
  .bind .name fun word named => .seq (.op _) <| .bind (given.one _) fun value valued =>
    .pure (by simp [named, valued])

theorem keywordOrStarred (given : rules.StayWithin last) :
    (Grammar.keywordOrStarred rules).StaysWithin last :=
  .oneOf (.cons (.strictly given.invalidKeyword) <| .cons given.keywordArgument <|
    .cons given.starredArgument .nil)

theorem keywordOrDouble (given : rules.StayWithin last) :
    (Grammar.keywordOrDouble rules).StaysWithin last := by
  refine .oneOf (.cons (.strictly given.invalidKeyword) <| .cons given.keywordArgument <|
    .cons ?double .nil)
  exact .bind (.op _) fun mark marked => .bind (given.one _) fun value valued =>
    .pure (by simp [marked, valued])

theorem keywordArguments (given : rules.StayWithin last) :
    (Grammar.keywordArguments rules).StaysWithin last := by
  have starred := StaysWithin.sepBy1 (.op ",") given.keywordOrStarred
  have double := StaysWithin.sepBy1 (.op ",") given.keywordOrDouble
  refine .oneOf (.cons ?both <| .cons starred <| .cons double .nil)
  exact .bind starred fun first inside => .seq (.op _) <| .bind double fun second later =>
    .pure (by simp [inside, later])

theorem placeArgument (given : rules.StayWithin last) :
    (Grammar.placeArgument rules).StaysWithin last :=
  .either given.starredArgument <|
    .bind (.either given.assignmentExpression given.unassigned) fun _ inside =>
      .seq (.notAhead (.op _)) (.pure inside)

theorem args (given : rules.StayWithin last) : (Grammar.args rules).StaysWithin last := by
  refine .either ?placed ?named
  case placed =>
    exact .bind (.sepBy1 (.op _) given.placeArgument) fun placed first =>
      .bind (.after (.op _) given.keywordArguments) fun keywords second =>
        .pure (within_orderArguments (by simp [first, second]))
  case named =>
    exact .bind given.keywordArguments fun found inside => .pure (within_orderArguments inside)

theorem invalidArguments (given : rules.StayWithin last) :
    (Grammar.invalidArguments rules).StaysWithin last := by
  refine .oneOf (.cons ?starLate <| .cons ?generatorEarly <| .cons ?namedGenerator <|
    .cons ?generatorLate <| .cons ?generatorBetween <| .cons ?placedLate .nil)
  case starLate =>
    exact .here fun line inside => .seq (given _) <| .seq (.op _) <| .seq (.op _) <|
      .raiseAt inside
  case generatorEarly =>
    exact .bind (given.one _) fun item inside => .seq given.comprehensionClauses <|
      .seq (.op _) <| .seq (.optional (.either (given _)
        (.seq (given.one _) given.comprehensionClauses))) <| .raiseAt (Node.line_le inside)
  case namedGenerator =>
    exact .bind .name fun word named => .seq (.op _) <| .seq (given.one _) <|
      .seq given.comprehensionClauses (.raiseAt (Node.line_le named))
  case generatorLate =>
    refine .bind (given _) fun found inside => .seq given.comprehensionClauses <|
      .ite .miss (.raiseFound fun node isLast => inside node ?_)
    exact (List.mem_filter.mp (List.mem_of_getLast? isLast)).1
  case generatorBetween =>
    exact .seq (given _) <| .seq (.op _) <| .bind (given.one _) fun item inside =>
      .seq given.comprehensionClauses (.raiseAt (Node.line_le inside))
  case placedLate => exact .seq (given _) <| .seq (.op _) <| .seq (given _) .raiseHere

theorem arguments (given : rules.StayWithin last) :
    (Grammar.arguments rules).StaysWithin last :=
  .either
    (.bind (given _) fun _ inside => .seq (.optional (.op _)) <| .seq (.ahead (.op _)) <|
      .pure inside)
    (.strictly given.invalidArguments)

theorem expressions (given : rules.StayWithin last) :
    (Grammar.expressions rules).StaysWithin last :=
  .tupleOf (given.one _)

end Rules.StayWithin

end Predicate
end Wordbook
