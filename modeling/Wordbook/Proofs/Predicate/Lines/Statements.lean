import Wordbook.Proofs.Predicate.Lines.Expressions

/-!
# Statements stay within the lines of their text

The rules for targets, patterns and statements keep to the first lines of a text if the rules that
they use do.  So all rules of the grammar do, and with them the parsers of whole texts.
-/

namespace Wordbook
namespace Predicate

open Grammar Predicate.Parser

variable {rules : Rules} {last : Nat}

/-! ## Targets -/

namespace Parser.StaysWithin

theorem goesOn : Grammar.goesOn.StaysWithin last :=
  .seq (.oneOf (.cons (.op _) <| .cons (.op _) <| .cons (.op _) .nil)) (.pure within_unit)

theorem nameTarget (context : Kind) : (Grammar.nameTarget context).StaysWithin last :=
  .bind .name fun _ named => .pure (Node.within_setContext _ _ named)

theorem enclosed
    {inner : Parser Node}
    (context : Kind)
    (given : inner.StaysWithin last) :
    (Grammar.enclosed inner context).StaysWithin last :=
  .seq (.op _) <| .bind given fun _ inside => .seq (.op _) <|
    .pure (Node.within_setContext _ _ inside)

theorem targetDisplay
    {items : Parser (List Node)}
    (kind context : Kind)
    (left right : String)
    (given : items.StaysWithin last) :
    (Grammar.targetDisplay kind context left right items).StaysWithin last :=
  .bind (.op _) fun mark marked => .bind (.optional given) fun found inside => .seq (.op _) <|
    .pure (by simp [marked, inside])

end Parser.StaysWithin

namespace Rules.StayWithin

theorem targetPrimary (given : rules.StayWithin last) :
    (Grammar.targetPrimary rules).StaysWithin last := by
  refine .oneOf (.append (given.trailers _ (.ahead .goesOn)) (.cons ?atom .nil))
  exact .bind given.atom fun base inside => .seq (.ahead .goesOn) (.pure inside)

theorem memberTarget (given : rules.StayWithin last) (context : Kind) :
    AllStayWithin last (Grammar.memberTarget rules context) := by
  refine .cons ?member <| .cons ?subscript .nil
  case member =>
    exact .bind (given.one _) fun base inside => .seq (.op _) <| .bind .name fun member _ =>
      .seq (.notAhead .goesOn) <| .pure (by simp [inside])
  case subscript =>
    exact .bind (given.one _) fun base inside => .seq (.op _) <|
      .bind (given.one _) fun index later => .seq (.op _) <| .seq (.notAhead .goesOn) <|
        .pure (by simp [inside, later])

theorem targetTuple (given : rules.StayWithin last) :
    (Grammar.targetTuple rules).StaysWithin last := by
  refine .either ?several ?comma
  case several =>
    exact .bind (given.one _) fun first inside =>
      .bind (.many1 (.seq (.op _) (given.one _))) fun others later =>
        .seq (.optional (.op _)) <| .pure (by simp [inside, later])
  case comma =>
    exact .bind (given.one _) fun only inside => .seq (.op _) <| .pure (by simp [inside])

theorem targetList (given : rules.StayWithin last) (item : Rule) :
    (Grammar.targetList rules item).StaysWithin last :=
  .bind (.sepBy1 (.op _) (given.one _)) fun _ inside => .seq (.optional (.op _)) (.pure inside)

theorem targetWithStar (given : rules.StayWithin last) :
    (Grammar.targetWithStar rules).StaysWithin last :=
  .oneOf (.append (given.memberTarget _) (.cons (.nameTarget _) <|
    .cons (.enclosed _ (given.one _)) <| .cons (.targetDisplay _ _ _ _ given.targetTuple) <|
    .cons (.targetDisplay _ _ _ _ (given.targetList _)) .nil))

theorem starTarget (given : rules.StayWithin last) :
    (Grammar.starTarget rules).StaysWithin last :=
  .either
    (.bind (.op _) fun mark marked => .seq (.notAhead (.op _)) <|
      .bind (given.one _) fun inner inside =>
        .pure (by simp [marked, Node.within_setContext _ _ inside]))
    (given.one _)

theorem starTargets (given : rules.StayWithin last) :
    (Grammar.starTargets rules).StaysWithin last := by
  refine .either ?single ?several
  case single =>
    exact .bind (given.one _) fun only inside => .seq (.notAhead (.op _)) (.pure inside)
  case several =>
    exact .bind (given.one _) fun first inside =>
      .bind (.many (.seq (.op _) (given.one _))) fun others later =>
        .seq (.optional (.op _)) <| .pure (by simp [inside, later])

theorem singleTarget (given : rules.StayWithin last) :
    (Grammar.singleTarget rules).StaysWithin last := by
  refine .oneOf (.append (given.memberTarget _) (.cons (.nameTarget _) <| .cons ?enclosed .nil))
  exact .seq (.op _) <| .bind (given.one _) fun found inside => .seq (.op _) (.pure inside)

theorem deleteTarget (given : rules.StayWithin last) :
    (Grammar.deleteTarget rules).StaysWithin last :=
  .oneOf (.append (given.memberTarget _) (.cons (.nameTarget _) <|
    .cons (.enclosed _ (given.one _)) <|
    .cons (.targetDisplay _ _ _ _ (given.targetList _)) <|
    .cons (.targetDisplay _ _ _ _ (given.targetList _)) .nil))

end Rules.StayWithin

/-! ## Patterns -/

namespace Parser.StaysWithin

theorem signedNumber : Grammar.signedNumber.StaysWithin last :=
  .either .number <| .bind (.op _) fun mark marked => .bind .number fun value inside =>
    .pure (by simp [marked, inside])

theorem complexNumber : Grammar.complexNumber.StaysWithin last := by
  refine .bind (.optional (.op _)) fun sign _ => .bind .number fun real first =>
    .ite (.raiseAt (Node.line_le first)) <| .bind ?operator fun operator _ =>
      .bind .number fun imaginary second => .ite (.pure ?sum) (.raiseAt (Node.line_le second))
  case operator =>
    exact .either (.seq (.op _) (.pure within_kind)) (.seq (.op _) (.pure within_kind))
  case sum =>
    have left : Lined.Within last
        (if sign.isSome then Node.unary real.line .uSub real else real) := by
      split
      · simp [first]
      · exact first
    exact Node.within_binary_iff.mpr ⟨Node.line_le left, left, second⟩

theorem wholeNumber : Grammar.wholeNumber.StaysWithin last :=
  .bind .signedNumber fun _ inside => .seq (.notAhead (.either (.op _) (.op _))) (.pure inside)

theorem patternLiteral : Grammar.patternLiteral.StaysWithin last :=
  .oneOf (.cons .wholeNumber <| .cons .complexNumber <| .cons .strings <|
    .cons (.wordValue _ _) <| .cons (.wordValue _ _) <| .cons (.wordValue _ _) .nil)

theorem captureName : Grammar.captureName.StaysWithin last :=
  .seq (.notAhead (.soft _)) <| .bind .name fun _ named =>
    .seq (.notAhead (.oneOf (.cons (.op _) <| .cons (.op _) <| .cons (.op _) .nil)))
      (.pure named)

theorem restPattern : Grammar.restPattern.StaysWithin last := .seq (.op _) .captureName

theorem starPattern : Grammar.starPattern.StaysWithin last :=
  .either
    (.bind (.op _) fun mark marked => .bind .captureName fun found _ =>
      .pure (by simp [marked]))
    (.bind (.op _) fun mark marked => .seq (.soft _) <| .pure (by simp [marked]))

end Parser.StaysWithin

namespace Rules.StayWithin

theorem nameOrAttribute (given : rules.StayWithin last) :
    (Grammar.nameOrAttribute rules).StaysWithin last :=
  .either (given.one _) .name

theorem attributeChain (given : rules.StayWithin last) :
    (Grammar.attributeChain rules).StaysWithin last :=
  .bind (given.one _) fun base inside => .seq (.op _) <| .bind .name fun member _ =>
    .pure (by simp [inside])

theorem maybeStarPattern (given : rules.StayWithin last) :
    (Grammar.maybeStarPattern rules).StaysWithin last :=
  .either (given.one _) (given.one _)

theorem patternSequence (given : rules.StayWithin last) :
    (Grammar.patternSequence rules).StaysWithin last :=
  .bind (.sepBy1 (.op _) given.maybeStarPattern) fun _ inside =>
    .seq (.optional (.op _)) (.pure inside)

theorem openSequence (given : rules.StayWithin last) :
    (Grammar.openSequence rules).StaysWithin last :=
  .bind given.maybeStarPattern fun first inside => .seq (.op _) <|
    .bind (.optional given.patternSequence) fun others later => .pure (by simp [inside, later])

theorem keyPattern (given : rules.StayWithin last) :
    (Grammar.keyPattern rules).StaysWithin last :=
  .bind (.either .patternLiteral (given.one _)) fun key first => .seq (.op _) <|
    .bind (given.one _) fun value second => .pure (by simp [first, second])

theorem mappingPattern (given : rules.StayWithin last) :
    (Grammar.mappingPattern rules).StaysWithin last := by
  have finish {mark : Lexeme} {parts : List Node} (marked : Lined.Within last mark)
      (inside : Lined.Within last parts) : StaysWithin last (do
        let _ ← Parser.optional (op ",")
        let _ ← op "\x7d"
        return Node.plain .matchMapping mark.line parts) :=
    .seq (.optional (.op _)) <| .seq (.op _) <| .pure (by simp [marked, inside])
  have items := StaysWithin.sepBy1 (.op ",") given.keyPattern
  refine .oneOf (.cons ?nothing <| .cons ?rest <| .cons ?both <| .cons ?keys .nil)
  case nothing =>
    exact .bind (.op _) fun mark marked => .seq (.op _) <| .pure (by simp [marked])
  case rest =>
    exact .bind (.op _) fun mark marked => .seq .restPattern (finish marked within_nil)
  case both =>
    exact .bind (.op _) fun mark marked => .bind items fun found inside => .seq (.op _) <|
      .seq .restPattern (finish marked (within_flatten inside))
  case keys =>
    exact .bind (.op _) fun mark marked => .bind items fun found inside =>
      finish marked (within_flatten inside)

theorem keywordPattern (given : rules.StayWithin last) :
    (Grammar.keywordPattern rules).StaysWithin last :=
  .seq .name <| .seq (.op _) (given.one _)

theorem classPattern (given : rules.StayWithin last) :
    (Grammar.classPattern rules).StaysWithin last := by
  have placed := StaysWithin.sepBy1 (.op ",") (given.one .pattern)
  have keyed := StaysWithin.sepBy1 (.op ",") given.keywordPattern
  have start : StaysWithin last (do
      let base ← Grammar.one rules .nameOrAttribute
      let _ ← op "("
      return base) :=
    .bind (given.one _) fun base inside => .seq (.op _) (.pure inside)
  have finish {base : Node} {parts : List Node} (first : Lined.Within last base)
      (inside : Lined.Within last parts) : StaysWithin last (do
        let _ ← Parser.optional (op ",")
        let _ ← op ")"
        return Node.plain .matchClass base.line (base :: parts)) :=
    .seq (.optional (.op _)) <| .seq (.op _) <| .pure (by simp [first, inside])
  refine .oneOf (.cons ?nothing <| .cons ?placed <| .cons ?keyed <| .cons ?both <|
    .cons (.strictly ?late) .nil)
  case nothing =>
    exact .bind start fun base first => .seq (.op _) <| .pure (by simp [first])
  case placed =>
    exact .bind start fun base first => .bind placed fun parts inside => finish first inside
  case keyed =>
    exact .bind start fun base first => .bind keyed fun parts inside => finish first inside
  case both =>
    exact .bind start fun base first => .bind placed fun parts inside => .seq (.op _) <|
      .bind keyed fun others later => finish first (within_append_iff.mpr ⟨inside, later⟩)
  case late =>
    exact .seq start <|
      .seq (.optional (.bind placed fun found inside => .seq (.op _) (.pure inside))) <|
      .seq keyed <| .seq (.op _) <| .bind placed fun late inside =>
        .raiseFound (within_head? inside)

theorem closedPattern (given : rules.StayWithin last) :
    (Grammar.closedPattern rules).StaysWithin last := by
  refine .oneOf (.cons ?literal <| .cons ?capture <| .cons ?wildcard <| .cons ?value <|
    .cons ?group <| .cons ?brackets <| .cons ?parentheses <| .cons given.mappingPattern <|
    .cons given.classPattern .nil)
  case literal =>
    refine .bind .patternLiteral fun value inside => .pure ?_
    have parts (whole : Bool) : Lined.Within last (if whole then [value] else []) := by
      cases whole with
      | false => exact within_nil
      | true => simp [inside]
    exact Node.within_plain_iff.mpr ⟨Node.line_le inside, parts _⟩
  case capture => exact .bind .captureName fun found named => .pure (by simp [named])
  case wildcard => exact .bind (.soft _) fun mark marked => .pure (by simp [marked])
  case value =>
    exact .bind (given.one _) fun found inside =>
      .seq (.notAhead (.oneOf (.cons (.op _) <| .cons (.op _) <| .cons (.op _) .nil))) <|
        .pure (by simp [inside])
  case group =>
    exact .seq (.op _) <| .bind (given.one _) fun found inside => .seq (.op _) (.pure inside)
  case brackets =>
    exact .bind (.op _) fun mark marked => .bind (.optional given.patternSequence)
      fun parts inside => .seq (.op _) <| .pure (by simp [marked, inside])
  case parentheses =>
    exact .bind (.op _) fun mark marked => .bind (.optional given.openSequence)
      fun parts inside => .seq (.op _) <| .pure (by simp [marked, inside])

theorem choicePattern (given : rules.StayWithin last) :
    (Grammar.choicePattern rules).StaysWithin last := by
  refine .bind (.sepBy1 (.op _) (given.one _)) fun found inside => ?_
  split
  · exact .pure (within_cons_iff.mp inside).1
  · exact .ofPositive fun positive =>
      .pure (Node.within_plain_iff.mpr ⟨firstLine_le positive inside, inside⟩)

theorem pattern (given : rules.StayWithin last) :
    (Grammar.pattern rules).StaysWithin last := by
  refine .oneOf (.cons ?named <| .cons (.strictly (.either ?wildcard ?target)) <|
    .cons given.choicePattern .nil)
  case named =>
    exact .bind given.choicePattern fun found inside => .seq (.kw _) <|
      .bind .captureName fun target _ => .pure (by simp [inside])
  case wildcard =>
    exact .seq given.choicePattern <| .seq (.kw _) <| .bind (.soft _) fun mark marked =>
      .raiseAt marked
  case target =>
    exact .seq given.choicePattern <| .seq (.kw _) <| .seq (.notAhead .name) <|
      .bind (given.one _) fun target inside => .raiseAt (Node.line_le inside)

theorem casePattern (given : rules.StayWithin last) :
    (Grammar.casePattern rules).StaysWithin last :=
  .either
    (.bind given.openSequence fun _ inside => .ofPositive fun positive =>
      .pure (Node.within_plain_iff.mpr ⟨firstLine_le positive inside, inside⟩))
    (given.one _)

end Rules.StayWithin

/-! ## Simple statements -/

namespace Parser.StaysWithin

theorem augmentedOperator : Grammar.augmentedOperator.StaysWithin last :=
  .bind (.lexeme _) fun _ _ => .pure within_kind

theorem importName : Grammar.importName.StaysWithin last :=
  .seq (.kw _) <| .seq .name <| .pure within_unit

theorem importTargets : Grammar.importTargets.StaysWithin last := by
  have items : StaysWithin last (Parser.sepBy1 (Parser.op ",") do
      let found ← Parser.name
      let _ ← Parser.optional Grammar.importName
      return Node.leaf .importAlias found.line) :=
    .sepBy1 (.op _) <| .bind .name fun found named => .seq (.optional .importName) <|
      .pure (by simp [named])
  refine .oneOf (.cons ?parentheses <| .cons ?plain <| .cons ?all <|
    .cons (.strictly ?comma) .nil)
  case parentheses =>
    exact .seq (.op _) <| .bind items fun found inside => .seq (.optional (.op _)) <|
      .seq (.op _) (.pure inside)
  case plain =>
    exact .bind items fun found inside => .seq (.notAhead (.op _)) (.pure inside)
  case all => exact .bind (.op _) fun mark marked => .pure (by simp [marked])
  case comma => exact .seq items <| .seq (.op _) <| .seq .lineEnd .raiseHere

theorem wordStatement (word : String) (kind : Kind) :
    (Grammar.wordStatement word kind).StaysWithin last :=
  .bind (.kw _) fun mark marked => .pure (by simp [marked])

theorem nameStatement (word : String) (kind : Kind) :
    (Grammar.nameStatement word kind).StaysWithin last :=
  .bind (.kw _) fun mark marked => .seq (.sepBy1 (.op _) .name) <| .pure (by simp [marked])

end Parser.StaysWithin

namespace Rules.StayWithin

theorem assignedTargets (given : rules.StayWithin last) :
    (Grammar.assignedTargets rules).StaysWithin last :=
  .bind (given.one _) fun _ inside => .seq (.op _) (.pure inside)

theorem annotatedTarget (given : rules.StayWithin last) :
    (Grammar.annotatedTarget rules).StaysWithin last := by
  refine .oneOf (.cons given.list <| .cons given.tuple <| .cons ?enclosed .nil)
  exact .seq (.op _) <| .bind (given.one _) fun found inside => .seq (.op _) (.pure inside)

theorem invalidAssignment (given : rules.StayWithin last) :
    (Grammar.invalidAssignment rules).StaysWithin last := by
  refine .oneOf (.cons ?annotated <| .cons ?several <| .cons ?expression <| .cons ?plain <|
    .cons ?yielded <| .cons ?augmented .nil)
  case annotated =>
    exact .bind (given.one _) fun target inside => .seq (.op _) <| .seq (given.one _) <|
      .raiseAt (Node.line_le inside)
  case several =>
    exact .bind (given.one _) fun target inside => .seq (.op _) <|
      .seq (.many given.starNamedList) <| .seq (.op _) <| .seq (given.one _) <|
      .raiseAt (Node.line_le inside)
  case expression =>
    exact .bind (given.one _) fun target inside => .seq (.op _) <| .seq (given.one _) <|
      .raiseAt (Node.line_le inside)
  case plain =>
    exact .seq (.many given.assignedTargets) <| .bind (given.one _) fun target inside =>
      .seq (.op _) (.refuseTarget _ inside)
  case yielded =>
    exact .seq (.many given.assignedTargets) <| .bind given.yieldExpression fun target inside =>
      .seq (.op _) (.raiseAt (Node.line_le inside))
  case augmented =>
    exact .bind (given.one _) fun target inside => .seq .augmentedOperator <|
      .seq given.yieldOrStar (.raiseAt (Node.line_le inside))

theorem assignment (given : rules.StayWithin last) :
    (Grammar.assignment rules).StaysWithin last := by
  have annotated {target : Parser Node} (known : target.StaysWithin last) : StaysWithin last (do
      let found ← target
      let _ ← op ":"
      let bound ← Grammar.one rules .expression
      let value ← after (op "=") (Grammar.yieldOrStar rules)
      return [Node.plain .annAssign found.line (found :: bound :: value.toList)]) :=
    .bind known fun found first => .seq (.op _) <| .bind (given.one _) fun bound second =>
      .bind (.after (.op _) given.yieldOrStar) fun value third =>
        .pure (by simp [first, second, third])
  refine .oneOf (.cons (annotated (.nameTarget _)) <|
    .cons (annotated (.oneOf (.cons ?enclosed (given.memberTarget _)))) <| .cons ?plain <|
    .cons ?augmented <| .cons (.strictly given.invalidAssignment) .nil)
  case enclosed =>
    exact .seq (.op _) <| .bind (given.one _) fun found inside => .seq (.op _) (.pure inside)
  case plain =>
    exact .ofPositive fun positive => .bind (.many1 given.assignedTargets) fun targets first =>
      .bind given.yieldOrStar fun value second => .seq (.notAhead (.op _)) <|
        .pure (by simp [firstLine_le positive first, first, second])
  case augmented =>
    exact .bind (given.one _) fun target first => .bind .augmentedOperator fun operator _ =>
      .seq .settle <| .bind given.yieldOrStar fun value second =>
        .pure (by simp [first, second])

theorem dottedName (given : rules.StayWithin last) :
    (Grammar.dottedName rules).StaysWithin last :=
  .either
    (.bind (given.one _) fun _ inside => .seq (.op _) <| .seq .name (.pure inside))
    .name

theorem importStatement (given : rules.StayWithin last) :
    (Grammar.importStatement rules).StaysWithin last := by
  have dots : StaysWithin last (Parser.oneOf [op ".", op "..."]) := .either (.op _) (.op _)
  refine .oneOf (.cons ?plain <| .cons ?named <| .cons ?dotted .nil)
  case plain =>
    refine .bind (.kw _) fun mark marked => .bind (.sepBy1 (.op _) ?item) fun items inside =>
      .pure (by simp [marked, inside])
    exact .bind (given.one _) fun found named => .seq (.optional .importName) <|
      .pure (by simp [named])
  case named =>
    exact .bind (.kw _) fun mark marked => .seq (.many dots) <| .seq (given.one _) <|
      .seq (.kw _) <| .bind .importTargets fun items inside => .pure (by simp [marked, inside])
  case dotted =>
    exact .bind (.kw _) fun mark marked => .seq (.many1 dots) <| .seq (.kw _) <|
      .bind .importTargets fun items inside => .pure (by simp [marked, inside])

theorem deletion (given : rules.StayWithin last) : (Grammar.deletion rules).StaysWithin last := by
  refine .either ?plain (.strictly ?refused)
  case plain =>
    exact .bind (.kw _) fun mark marked => .bind (given.targetList _) fun targets inside =>
      .seq (.ahead (.either (.op _) .lineEnd)) <| .pure (by simp [marked, inside])
  case refused =>
    exact .seq (.kw _) <| .bind (given.one _) fun target inside => .refuseTarget _ inside

theorem simpleStatement (given : rules.StayWithin last) :
    (Grammar.simpleStatement rules).StaysWithin last := by
  refine .oneOf (.cons given.assignment <| .cons ?expression <| .cons ?returned <|
    .cons ?imported <| .cons (.either ?raised (.wordStatement _ _)) <|
    .cons (.wordStatement _ _) <| .cons (.seq (.ahead (.kw _)) given.deletion) <|
    .cons ?yielded <| .cons ?asserted <| .cons (.wordStatement _ _) <|
    .cons (.wordStatement _ _) <| .cons (.nameStatement _ _) <| .cons (.nameStatement _ _) .nil)
  case expression => exact .bind (given.one _) fun value inside => .pure (by simp [inside])
  case returned =>
    exact .bind (.kw _) fun mark marked => .bind (.optional (given.one _)) fun value inside =>
      .pure (by simp [marked, inside])
  case imported => exact .seq (.ahead (.either (.kw _) (.kw _))) (.single given.importStatement)
  case raised =>
    exact .bind (.kw _) fun mark marked => .bind (given.one _) fun value first =>
      .bind (.after (.kw _) (given.one _)) fun cause second =>
        .pure (by simp [marked, first, second])
  case yielded =>
    exact .seq (.ahead (.kw _)) <| .bind given.yieldExpression fun value inside =>
      .pure (by simp [inside])
  case asserted =>
    exact .bind (.kw _) fun mark marked => .bind (given.one _) fun test first =>
      .bind (.after (.op _) (given.one _)) fun message second =>
        .pure (by simp [marked, first, second])

theorem simpleStatements (given : rules.StayWithin last) :
    (Grammar.simpleStatements rules).StaysWithin last := by
  refine .either ?single ?several
  case single =>
    exact .bind (given _) fun only inside => .seq (.notAhead (.op _)) <| .seq .lineEnd <|
      .pure inside
  case several =>
    exact .bind (.sepBy1 (.op _) (given _)) fun found inside => .seq (.optional (.op _)) <|
      .seq .lineEnd <| .pure (within_flatten inside)

end Rules.StayWithin

/-! ## Statements that hold blocks -/

namespace Parser.StaysWithin

variable {Header : Type} [Lined Header] {header : Parser Header}

theorem missingBlock : Grammar.missingBlock.StaysWithin last :=
  .seq .lineEnd (.notAhead (.ofKind _))

theorem invalidIndent (given : header.StaysWithin last) :
    (Grammar.invalidIndent header).StaysWithin last :=
  .seq given <| .seq (.op _) <| .seq .missingBlock .raiseHere

/-- Refusing a header, if nothing but that comes of it. -/
theorem invalidHeader (given : header.StaysWithin last) :
    StaysWithin last (Parser.strictly do
      let _ ← Parser.oneOf (Grammar.invalidHeader header)
      Parser.miss : Parser Node) :=
  .strictly <| .seq (.either (.seq given <| .seq .lineEnd .raiseHere) (.invalidIndent given)) .miss

end Parser.StaysWithin

namespace Rules.StayWithin

theorem block (given : rules.StayWithin last) : (Grammar.block rules).StaysWithin last := by
  refine .oneOf (.cons ?indented <| .cons (given _) <| .cons (.strictly ?missing) .nil)
  case indented =>
    exact .seq .lineEnd <| .seq (.ofKind _) <| .bind (given _) fun found inside =>
      .seq (.ofKind _) (.pure inside)
  case missing => exact .seq .missingBlock .raiseHere

theorem elseBlock (given : rules.StayWithin last) :
    (Grammar.elseBlock rules).StaysWithin last :=
  .either (.strictly (.invalidIndent (.kw _)))
    (.seq (.kw _) <| .seq (.forcedOp _) (given _))

theorem ifBranch (given : rules.StayWithin last) (word : String) :
    (Grammar.ifBranch rules word).StaysWithin last := by
  have header : StaysWithin last (do
      let mark ← kw word
      let test ← Grammar.one rules .namedExpression
      return (mark, test)) :=
    .bind (.kw _) fun mark marked => .bind (given.one _) fun test inside => .pure ⟨marked, inside⟩
  refine .oneOf (.cons (.invalidHeader header) <| .cons ?again <| .cons ?other .nil)
  case again =>
    exact .bind header fun head known => .seq (.op _) <| .bind (given _) fun body first =>
      .bind (given _) fun others second => .pure (by simp [known.1, known.2, first, second])
  case other =>
    exact .bind header fun head known => .seq (.op _) <| .bind (given _) fun body first =>
      .bind (.optional given.elseBlock) fun others second =>
        .pure (by simp [known.1, known.2, first, second])

theorem whileLoop (given : rules.StayWithin last) :
    (Grammar.whileLoop rules).StaysWithin last := by
  have header : StaysWithin last (do
      let mark ← kw "while"
      let test ← Grammar.one rules .namedExpression
      return (mark, test)) :=
    .bind (.kw _) fun mark marked => .bind (given.one _) fun test inside => .pure ⟨marked, inside⟩
  exact .either (.invalidHeader header) <|
    .bind header fun head known => .seq (.op _) <| .bind (given _) fun body first =>
      .bind (.optional given.elseBlock) fun others second =>
        .pure (by simp [known.1, known.2, first, second])

theorem forLoop (given : rules.StayWithin last) : (Grammar.forLoop rules).StaysWithin last := by
  have loop {line : Nat} (aside : Bool) (inside : line ≤ last) : StaysWithin last (do
      let _ ← kw "for"
      let target ← Grammar.one rules .starTargets
      let _ ← kw "in"
      settle
      let iterated ← Grammar.one rules .starExpressions
      let _ ← forcedOp ":"
      let body ← rules .block
      let others ← Parser.optional (Grammar.elseBlock rules)
      return Node.mk (if aside then .asyncFor else .forLoop) line (.counts [body.length])
        (target :: iterated :: body ++ others.getD []) : Parser Node) :=
    .seq (.kw _) <| .bind (given.one _) fun target first => .seq (.kw _) <| .seq .settle <|
      .bind (given.one _) fun iterated second => .seq (.forcedOp _) <|
      .bind (given _) fun body third => .bind (.optional given.elseBlock) fun others fourth =>
        .pure (by simp [inside, first, second, third, fourth])
  refine .oneOf (.cons (.invalidHeader ?header) <| .cons ?plain <| .cons ?aside <|
    .cons (.strictly (.seq given.invalidLoopTarget .miss)) .nil)
  case header =>
    exact .seq .asideMark <| .seq (.kw _) <| .seq (given.one _) <| .seq (.kw _) <|
      .seq (given.one _) (.pure within_unit)
  case plain => exact .here fun line inside => loop false inside
  case aside => exact .here fun line inside => .seq (.kw _) (loop true inside)

theorem withItem (given : rules.StayWithin last) : (Grammar.withItem rules).StaysWithin last := by
  have follows : StaysWithin last (Parser.ahead (Parser.oneOf [op ",", op ")", op ":"])) :=
    .ahead (.oneOf (.cons (.op _) <| .cons (.op _) <| .cons (.op _) .nil))
  refine .oneOf (.cons ?named <| .cons (.strictly ?refused) <| .cons ?plain .nil)
  case named =>
    exact .bind (given.one _) fun held first => .seq (.kw _) <|
      .bind (given.one _) fun target second => .seq follows <| .pure (by simp [first, second])
  case refused =>
    exact .seq (given.one _) <| .seq (.kw _) <| .bind (given.one _) fun target inside =>
      .seq follows <| .seq (.refuseTarget _ inside) .miss
  case plain => exact .bind (given.one _) fun held inside => .pure (by simp [inside])

theorem handled (given : rules.StayWithin last) : (Grammar.handled rules).StaysWithin last :=
  .bind (given.one _) fun _ inside => .seq (.optional .importName) (.pure inside)

theorem invalidHandler (given : rules.StayWithin last) :
    (Grammar.invalidHandler rules).StaysWithin last := by
  refine .oneOf (.cons ?several <| .cons ?noColon <| .cons ?alone <| .cons ?star .nil)
  case several =>
    exact .seq (.kw _) <| .seq (.optional (.op _)) <| .bind (given.one _) fun error inside =>
      .seq (.op _) <| .seq given.expressions <| .seq (.optional .importName) <| .seq (.op _) <|
      .raiseAt (Node.line_le inside)
  case noColon =>
    exact .seq (.kw _) <| .seq (.optional (.op _)) <| .seq given.handled <| .seq .lineEnd .raiseHere
  case alone => exact .seq (.kw _) <| .seq .lineEnd .raiseHere
  case star => exact .seq (.kw _) <| .seq (.op _) <| .seq (.either .lineEnd (.op _)) .raiseHere

theorem exceptBlock (given : rules.StayWithin last) :
    (Grammar.exceptBlock rules).StaysWithin last := by
  refine .oneOf (.cons (.strictly ?indent) <| .cons ?taking <| .cons ?plain <|
    .cons (.strictly (.seq given.invalidHandler .miss)) .nil)
  case indent =>
    exact .seq (.either (.invalidIndent (.seq (.kw _) given.handled)) (.invalidIndent (.kw _)))
      .miss
  case taking =>
    exact .bind (.kw _) fun mark marked => .bind given.handled fun error first =>
      .seq (.op _) <| .bind (given _) fun body second => .pure (by simp [marked, first, second])
  case plain =>
    exact .bind (.kw _) fun mark marked => .seq (.op _) <| .bind (given _) fun body inside =>
      .pure (by simp [marked, inside])

theorem exceptStarBlock (given : rules.StayWithin last) :
    (Grammar.exceptStarBlock rules).StaysWithin last := by
  have header : StaysWithin last (do
      let mark ← kw "except"
      let _ ← op "*"
      let error ← Grammar.handled rules
      return (mark, error)) :=
    .bind (.kw _) fun mark marked => .seq (.op _) <| .bind given.handled fun error inside =>
      .pure ⟨marked, inside⟩
  refine .oneOf (.cons (.strictly (.seq (.invalidIndent header) .miss)) <| .cons ?taking <|
    .cons (.strictly (.seq given.invalidHandler .miss)) .nil)
  exact .bind header fun head known => .seq (.op _) <| .bind (given _) fun body inside =>
    .pure (by simp [known.1, known.2, inside])

theorem finallyBlock (given : rules.StayWithin last) :
    (Grammar.finallyBlock rules).StaysWithin last :=
  .either (.strictly (.invalidIndent (.kw _)))
    (.seq (.kw _) <| .seq (.forcedOp _) (given _))

theorem tryBlock (given : rules.StayWithin last) : (Grammar.tryBlock rules).StaysWithin last := by
  have start : StaysWithin last (do
      let mark ← kw "try"
      let _ ← forcedOp ":"
      let body ← rules .block
      return (mark, body)) :=
    .bind (.kw _) fun mark marked => .seq (.forcedOp _) <| .bind (given _) fun body inside =>
      .pure ⟨marked, inside⟩
  have handlers (rule : Rule) : StaysWithin last (Parser.many1 (Grammar.one rules rule)) :=
    .many1 (given.one rule)
  have handling (kind : Kind) (rule : Rule) : StaysWithin last (do
      let head ← (do
        let mark ← kw "try"
        let _ ← forcedOp ":"
        let body ← rules .block
        return (mark, body) : Parser (Lexeme × List Node))
      let found ← Parser.many1 (Grammar.one rules rule)
      let others ← Parser.optional (Grammar.elseBlock rules)
      let final ← Parser.optional (Grammar.finallyBlock rules)
      return Node.plain kind head.1.line
        (head.2 ++ found ++ others.getD [] ++ final.getD [])) :=
    .bind start fun head known => .bind (handlers rule) fun found first =>
      .bind (.optional given.elseBlock) fun others second =>
      .bind (.optional given.finallyBlock) fun final third =>
        .pure (by simp [known.1, known.2, first, second, third])
  have plainTry : StaysWithin last (do
      let _ ← kw "try"
      let _ ← op ":"
      let _ ← many (rules .block)
      return ()) :=
    .seq (.kw _) <| .seq (.op _) <| .seq (.many (given _)) (.pure within_unit)
  refine .oneOf (.cons (.strictly (.seq (.oneOf (.cons (.invalidIndent (.kw _)) <|
    .cons ?alone <| .cons ?mixed .nil)) .miss)) <| .cons ?final <| .cons (handling _ _) <|
    .cons (handling _ _) .nil)
  case alone =>
    exact .seq (.kw _) <| .seq (.op _) <| .seq (given _) <|
      .seq (.notAhead (.either (.kw _) (.kw _))) .raiseHere
  case mixed =>
    exact .seq plainTry <|
      .seq (.either (.seq (handlers _) (given.one _)) (.seq (handlers _) (given.one _))) <|
      .seq (.many (given _)) .raiseHere
  case final =>
    exact .bind start fun head known => .bind given.finallyBlock fun final inside =>
      .pure (by simp [known.1, known.2, inside])

theorem withBlock (given : rules.StayWithin last) :
    (Grammar.withBlock rules).StaysWithin last := by
  have target := StaysWithin.after (.kw "as") (given.one .starTarget)
  have openHeader : StaysWithin last (do
      let _ ← Grammar.asideMark
      let _ ← kw "with"
      let _ ← Parser.sepBy1 (op ",") do
        let _ ← Grammar.one rules .expression
        let _ ← Grammar.after (kw "as") (Grammar.one rules .starTarget)
        return ()
      return ()) :=
    .seq .asideMark <| .seq (.kw _) <|
      .seq (.sepBy1 (.op _) (.seq (given.one _) <| .seq target (.pure within_unit)))
        (.pure within_unit)
  have closedHeader : StaysWithin last (do
      let _ ← Grammar.asideMark
      let _ ← kw "with"
      let _ ← op "("
      let _ ← Parser.sepBy1 (op ",") do
        let _ ← Grammar.expressions rules
        let _ ← Grammar.after (kw "as") (Grammar.one rules .starTarget)
        return ()
      let _ ← Parser.optional (op ",")
      let _ ← op ")"
      return ()) :=
    .seq .asideMark <| .seq (.kw _) <| .seq (.op _) <|
      .seq (.sepBy1 (.op _) (.seq given.expressions <| .seq target (.pure within_unit))) <|
      .seq (.optional (.op _)) <| .seq (.op _) (.pure within_unit)
  have body {line : Nat} {held : List Node} (aside : Bool) (inside : line ≤ last)
      (each : Lined.Within last held) : StaysWithin last (do
        let _ ← op ":"
        let body ← rules .block
        return Node.plain (if aside then .asyncWith else .withBlock) line (held ++ body)) :=
    .seq (.op _) <| .bind (given _) fun body later => .pure (by simp [inside, each, later])
  have items := StaysWithin.sepBy1 (.op ",") given.withItem
  refine .oneOf (.cons (.strictly ?indent) <| .cons ?closed <| .cons ?plain <|
    .cons ?asideClosed <| .cons ?aside <| .cons (.strictly ?refused) .nil)
  case indent =>
    exact .seq (.either (.invalidIndent openHeader) (.invalidIndent closedHeader)) .miss
  case closed =>
    exact .here fun line inside => .seq (.kw _) <| .seq (.op _) <| .bind items fun held each =>
      .seq (.optional (.op _)) <| .seq (.op _) (body false inside each)
  case plain =>
    exact .here fun line inside => .seq (.kw _) <| .bind items fun held each =>
      body false inside each
  case asideClosed =>
    exact .here fun line inside => .seq (.kw _) <| .seq (.kw _) <| .seq (.op _) <|
      .bind items fun held each => .seq (.optional (.op _)) <| .seq (.op _) (body true inside each)
  case aside =>
    exact .here fun line inside => .seq (.kw _) <| .seq (.kw _) <| .bind items fun held each =>
      body true inside each
  case refused =>
    exact .either (.seq openHeader <| .seq .lineEnd .raiseHere)
      (.seq closedHeader <| .seq .lineEnd .raiseHere)

theorem matchSubject (given : rules.StayWithin last) :
    (Grammar.matchSubject rules).StaysWithin last :=
  .either
    (.bind (given.one _) fun first inside => .seq (.op _) <|
      .bind (.optional given.starNamedList) fun others later => .pure (by simp [inside, later]))
    (given.one _)

theorem matchCase (given : rules.StayWithin last) :
    (Grammar.matchCase rules).StaysWithin last := by
  have header : StaysWithin last (do
      let mark ← soft "case"
      let found ← Grammar.casePattern rules
      let test ← Grammar.after (kw "if") (Grammar.one rules .namedExpression)
      return (mark, found, test)) :=
    .bind (.soft _) fun mark marked => .bind given.casePattern fun found first =>
      .bind (.after (.kw _) (given.one _)) fun test second => .pure ⟨marked, first, second⟩
  refine .either (.invalidHeader header) ?taken
  exact .bind header fun head known => .seq (.op _) <| .bind (given _) fun body inside =>
    .pure (by simp [known.1, known.2.1, known.2.2, inside])

theorem matchBlock (given : rules.StayWithin last) :
    (Grammar.matchBlock rules).StaysWithin last := by
  have header : StaysWithin last (do
      let mark ← soft "match"
      let subject ← Grammar.matchSubject rules
      return (mark, subject)) :=
    .bind (.soft _) fun mark marked => .bind given.matchSubject fun subject inside =>
      .pure ⟨marked, inside⟩
  refine .either ?taken (.invalidHeader header)
  exact .bind header fun head known => .seq (.op _) <| .seq .lineEnd <| .seq (.ofKind _) <|
    .bind (.many1 given.matchCase) fun cases inside => .seq (.ofKind _) <|
      .pure (by simp [known.1, known.2, inside])

theorem decorators (given : rules.StayWithin last) :
    (Grammar.decorators rules).StaysWithin last := by
  have decorator : StaysWithin last (do
      let _ ← op "@"
      let value ← Grammar.one rules .namedExpression
      let _ ← Parser.lineEnd
      return value) :=
    .seq (.op _) <| .bind (given.one _) fun value inside => .seq .lineEnd (.pure inside)
  exact .many decorator

theorem functionDefinition (given : rules.StayWithin last) :
    (Grammar.functionDefinition rules).StaysWithin last := by
  have result := StaysWithin.after (.op "->") (given.one .expression)
  have definition {line : Nat} {marks : List Node} (aside : Bool) (inside : line ≤ last)
      (marked : Lined.Within last marks) : StaysWithin last (do
        let _ ← kw "def"
        let found ← Parser.name
        let _ ← forcedOp "("
        let given ← Grammar.parameters rules .function
        let _ ← op ")"
        let returned ← Grammar.after (op "->") (Grammar.one rules .expression)
        let _ ← forcedOp ":"
        let body ← rules .block
        return Node.mk (if aside then .asyncFunctionDef else .functionDef) line found.payload
          (given :: body ++ marks ++ returned.toList) : Parser Node) :=
    .seq (.kw _) <| .bind .name fun found _ => .seq (.forcedOp _) <|
      .bind given.parameters fun parameters first => .seq (.op _) <|
      .bind result fun returned second => .seq (.forcedOp _) <| .bind (given _) fun body third =>
        .pure (by simp [inside, marked, first, second, third])
  refine .bind given.decorators fun marks marked => .oneOf (.cons (.strictly ?header) <|
    .cons ?plain <| .cons ?aside .nil)
  case header =>
    exact .seq (.invalidIndent (.seq .asideMark <| .seq (.kw _) <| .seq .name <| .seq (.op _) <|
      .seq given.parameters <| .seq (.op _) <| .seq result (.pure within_unit))) .miss
  case plain => exact .here fun line inside => definition false inside marked
  case aside => exact .here fun line inside => .seq (.kw _) (definition true inside marked)

theorem classDefinition (given : rules.StayWithin last) :
    (Grammar.classDefinition rules).StaysWithin last := by
  have header : StaysWithin last (do
      let mark ← kw "class"
      let found ← Parser.name
      let bases ← Parser.optional (Grammar.argumentList rules)
      return (mark, found, bases.getD []) : Parser (Lexeme × Node × List Node)) :=
    .bind (.kw _) fun mark marked => .bind .name fun found named =>
      .bind (.optional given.argumentList) fun bases inside =>
        .pure (by simp [marked, named, inside])
  refine .bind given.decorators fun marks marked => .either (.invalidHeader header) ?taken
  exact .bind header fun head known => .seq (.op _) <| .bind (given _) fun body inside =>
    .pure (by simp [known.1, known.2.2, marked, inside])

theorem compoundStatement (given : rules.StayWithin last) :
    (Grammar.compoundStatement rules).StaysWithin last := by
  have opened {marks : List (Parser Lexeme)} {statement : Parser Node}
      (started : AllStayWithin last marks) (known : statement.StaysWithin last) :
      StaysWithin last (do
        Parser.ahead (Parser.oneOf marks)
        Grammar.single statement) :=
    .seq (.ahead (.oneOf started)) (.single known)
  have one (word : String) : AllStayWithin last [kw word] := .cons (.kw word) .nil
  have aside (word : String) : AllStayWithin last [kw word, kw "async"] :=
    .cons (.kw word) <| .cons (.kw _) .nil
  exact .oneOf <|
    .cons (opened (.cons (.kw _) <| .cons (.op _) <| .cons (.kw _) .nil) given.functionDefinition) <|
    .cons (opened (one _) (given.ifBranch _)) <|
    .cons (opened (.cons (.kw _) <| .cons (.op _) .nil) given.classDefinition) <|
    .cons (opened (aside _) given.withBlock) <| .cons (opened (aside _) given.forLoop) <|
    .cons (opened (one _) given.tryBlock) <| .cons (opened (one _) given.whileLoop) <|
    .cons (.single given.matchBlock) .nil

theorem statements (given : rules.StayWithin last) :
    (Grammar.statements rules).StaysWithin last :=
  .bind (.many1 (.either given.compoundStatement (given _))) fun _ inside =>
    .pure (within_flatten inside)

/-! ## The whole grammar -/

theorem displayAhead (given : rules.StayWithin last) :
    (Grammar.displayAhead rules).StaysWithin last :=
  .seq (.oneOf (.cons given.list <| .cons given.tuple <| .cons given.generator <|
    .cons (.wordValue _ _) <| .cons (.wordValue _ _) <| .cons (.wordValue _ _) .nil))
    (.pure within_unit)

/-- Each rule keeps to the first lines if the rules that it uses do. -/
theorem body (given : rules.StayWithin last) :
    Rules.StayWithin last (Grammar.body rules) := fun rule =>
  match rule with
  | .statements => given.statements
  | .simpleStatements => given.simpleStatements
  | .simpleStatement => given.simpleStatement
  | .block => given.block
  | .elifStatement => .single (given.ifBranch _)
  | .exceptBlock => .single given.exceptBlock
  | .exceptStarBlock => .single given.exceptStarBlock
  | .expression => .single given.expression
  | .starExpressions => .single (.tupleOf (given.one _))
  | .starExpression => .single (.either (.starred (given.one _)) (given.one _))
  | .starNamed => .single given.starNamed
  | .namedExpression => .single given.namedExpression
  | .invalidNamed => .single (given.invalidNamedExpression given.displayAhead)
  | .disjunction => .single (given.logical _ _ _)
  | .conjunction => .single (given.logical _ _ _)
  | .inversion => .single given.inversion
  | .bitOr => .single (given.leftGrouped _ _ _)
  | .bitXor => .single (given.leftGrouped _ _ _)
  | .bitAnd => .single (given.leftGrouped _ _ _)
  | .shift => .single (given.leftGrouped _ _ _)
  | .sum => .single (given.leftGrouped _ _ _)
  | .term => .single (given.leftGrouped _ _ _)
  | .factor => .single given.factor
  | .power => .single given.power
  | .awaitPrimary => .single given.awaitPrimary
  | .primary => .single given.primary
  | .slices => .single given.slices
  | .arguments => given.arguments
  | .args => given.args
  | .starTargets => .single given.starTargets
  | .starTarget => .single given.starTarget
  | .targetWithStar => .single given.targetWithStar
  | .singleTarget => .single given.singleTarget
  | .targetPrimary => .single given.targetPrimary
  | .deleteTarget => .single given.deleteTarget
  | .annotatedTarget => .single given.annotatedTarget
  | .dottedName => .single given.dottedName
  | .attribute => .single given.attributeChain
  | .nameOrAttribute => .single given.nameOrAttribute
  | .pattern => .single given.pattern
  | .closedPattern => .single given.closedPattern
  | .starPattern => .single .starPattern

end Rules.StayWithin

theorem Grammar.rules_stayWithin : Grammar.rules.StayWithin last :=
  Rule.stayWithin_parsers (fun _ given => given.body) Grammar.depthLimit

theorem Grammar.Goal.parser_staysWithin (goal : Goal) : goal.parser.StaysWithin last := by
  cases goal with
  | statements =>
      exact .bind (.optional (Grammar.rules_stayWithin _)) fun found inside =>
        .seq (.ofKind _) <| .pure (within_getD inside)
  | expression =>
      exact .bind Grammar.rules_stayWithin.expressions fun found inside =>
        .seq (.many .lineEnd) <| .seq (.ofKind _) <| .pure (by simp [inside])
  | field => exact Grammar.rules_stayWithin _

end Predicate
end Wordbook
