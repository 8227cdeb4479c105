import Mathlib.Data.List.Basic
import Wordbook.Predicate.Grammar

/-!
# Parsers stay within the lines of their text

A parser gives trees all parts of which start on lines of the text that it reads, and it refuses the
text at one of these lines.  Parsers that are put together do so if their parts do, and the rules of
a grammar do so if each does as long as the rules that it uses do.
-/

namespace Wordbook
namespace Predicate

/-- A tree starts on one of the first lines of a text, and so do all its parts. -/
inductive Node.Within (last : Nat) : Node → Prop
  | mk
      {kind : Kind}
      {line : Nat}
      {payload : Payload}
      {nodes : List Node}
      (starts : line ≤ last)
      (each : ∀ node ∈ nodes, Within last node) :
      Within last (.mk kind line payload nodes)

/-- What parsers give: trees, lexemes, and what is made of them. -/
class Lined (Value : Type) where
  /-- All that a value holds stands on the first lines of a text. -/
  Within : (last : Nat) → Value → Prop

open Lined (Within)

section Values

variable {Value Other : Type} [Lined Value] [Lined Other] {last : Nat}

instance : Lined Node := ⟨Node.Within⟩

instance : Lined Lexeme := ⟨fun last lexeme => lexeme.line ≤ last⟩

instance : Lined Unit := ⟨fun _ _ => True⟩

instance : Lined Bool := ⟨fun _ _ => True⟩

instance : Lined Kind := ⟨fun _ _ => True⟩

instance : Lined (List Value) := ⟨fun last values => ∀ value ∈ values, Within last value⟩

instance : Lined (Option Value) := ⟨fun last found => ∀ value ∈ found, Within last value⟩

instance : Lined (Value × Other) := ⟨fun last pair => Within last pair.1 ∧ Within last pair.2⟩

@[simp] theorem Lexeme.line_le {lexeme : Lexeme} (inside : Within last lexeme) :
    lexeme.line ≤ last :=
  inside

@[simp] theorem within_unit : Within last () := trivial

@[simp] theorem within_bool {flag : Bool} : Within last flag := trivial

@[simp] theorem within_kind {kind : Kind} : Within last kind := trivial

@[simp] theorem within_nil : Within last ([] : List Value) :=
  fun _ member => absurd member List.not_mem_nil

@[simp] theorem within_cons_iff {first : Value} {others : List Value} :
    Within last (first :: others) ↔ Within last first ∧ Within last others :=
  List.forall_mem_cons

@[simp] theorem within_append_iff {first second : List Value} :
    Within last (first ++ second) ↔ Within last first ∧ Within last second :=
  List.forall_mem_append

@[simp] theorem within_none : Within last (none : Option Value) :=
  fun _ member => absurd member (Option.not_mem_none _)

@[simp] theorem within_some_iff {value : Value} :
    Within last (some value) ↔ Within last value := by
  constructor
  · exact fun found => found value rfl
  · rintro inside _ ⟨⟩
    exact inside

@[simp] theorem within_pair_iff {first : Value} {second : Other} :
    Within last (first, second) ↔ Within last first ∧ Within last second :=
  Iff.rfl

@[simp] theorem within_toList_iff {found : Option Value} :
    Within last found.toList ↔ Within last found := by
  cases found with
  | none => simp
  | some value => simp

/-- Nothing in place of values that were not found. -/
@[simp] theorem within_getD {found : Option (List Value)} (inside : Within last found) :
    Within last (found.getD []) := by
  cases found with
  | none => exact within_nil
  | some values => exact within_some_iff.mp inside

@[simp] theorem within_flatten {lists : List (List Value)} (inside : Within last lists) :
    Within last lists.flatten := by
  intro value member
  obtain ⟨values, isOne, member⟩ := List.mem_flatten.mp member
  exact inside values isOne value member

@[simp] theorem within_head? {values : List Value} (inside : Within last values) :
    Within last values.head? :=
  fun value first => inside value (List.mem_of_head? first)

theorem Lined.within_subset
    {values others : List Value}
    (inside : Within last values)
    (subset : others ⊆ values) :
    Within last others :=
  fun value member => inside value (subset member)

end Values

namespace Node

variable {last line : Nat} {kind : Kind} {payload : Payload} {node : Node} {nodes : List Node}

@[simp] theorem within_mk_iff :
    Lined.Within last (mk kind line payload nodes) ↔ line ≤ last ∧ Lined.Within last nodes := by
  constructor
  · rintro ⟨starts, each⟩
    exact ⟨starts, each⟩
  · exact fun ⟨starts, each⟩ => .mk starts each

@[simp] theorem within_plain_iff :
    Lined.Within last (plain kind line nodes) ↔ line ≤ last ∧ Lined.Within last nodes :=
  within_mk_iff

@[simp] theorem within_leaf_iff : Lined.Within last (leaf kind line) ↔ line ≤ last := by
  simp [leaf]

@[simp] theorem within_named_iff {name : String} :
    Lined.Within last (named line name kind) ↔ line ≤ last := by
  simp [named]

@[simp] theorem within_constant_iff {value : Literal} :
    Lined.Within last (constant line value) ↔ line ≤ last := by
  simp [constant]

@[simp] theorem within_binary_iff {left right : Node} :
    Lined.Within last (binary line left kind right) ↔
      line ≤ last ∧ Lined.Within last left ∧ Lined.Within last right := by
  simp only [binary, within_plain_iff, within_cons_iff, within_leaf_iff, within_nil, and_true]
  exact ⟨fun ⟨starts, left, _, right⟩ => ⟨starts, left, right⟩,
    fun ⟨starts, left, right⟩ => ⟨starts, left, starts, right⟩⟩

@[simp] theorem within_unary_iff :
    Lined.Within last (unary line kind node) ↔ line ≤ last ∧ Lined.Within last node := by
  simp only [unary, within_plain_iff, within_cons_iff, within_leaf_iff, within_nil, and_true]
  exact ⟨fun ⟨starts, _, operand⟩ => ⟨starts, operand⟩,
    fun ⟨starts, operand⟩ => ⟨starts, starts, operand⟩⟩

@[simp] theorem line_le (inside : Lined.Within last node) : node.line ≤ last := by
  cases inside with
  | mk starts each => exact starts

theorem within_parts (inside : Lined.Within last node) : Lined.Within last node.parts := by
  cases inside with
  | mk starts each => exact each

theorem within_withContext (inside : Lined.Within last node) :
    Lined.Within last (withContext kind node) := by
  have items := Lined.within_subset (within_parts inside) (List.dropLast_subset node.parts)
  rw [withContext, within_mk_iff, within_append_iff]
  exact ⟨line_le inside, items, by simp [line_le inside]⟩

mutual

/-- A context is put in where its tree starts. -/
theorem within_setContext
    (kind : Kind)
    (node : Node)
    (inside : Lined.Within last node) :
    Lined.Within last (setContext kind node) := by
  unfold setContext
  split
  case h_4 =>
    have starts := (within_mk_iff.mp inside).1
    exact within_mk_iff.mpr ⟨starts, by simpa using starts⟩
  case h_5 => exact within_withContext inside
  case h_6 => exact within_withContext inside
  case h_9 => exact inside
  case h_7 => exact within_mk_iff.mpr (within_mk_iff.mp inside)
  case h_8 => exact within_mk_iff.mpr (within_mk_iff.mp inside)
  all_goals
    obtain ⟨starts, parts⟩ := within_mk_iff.mp inside
    exact within_mk_iff.mpr ⟨starts, within_setContexts kind _ parts⟩

theorem within_setContexts
    (kind : Kind)
    (nodes : List Node)
    (inside : Lined.Within last nodes) :
    Lined.Within last (setContexts kind nodes) := by
  unfold setContexts
  split
  · exact within_nil
  · next first others =>
      obtain ⟨first, others⟩ := within_cons_iff.mp inside
      exact within_cons_iff.mpr
        ⟨within_setContext kind _ first, within_setContexts kind _ others⟩

end

end Node

/-! ## What parsers keep -/

/-- A reading gives a result that is as it should be, or a fault that is. -/
def Reads
    {Fault Result : Type}
    (holds : Result → Prop)
    (reported : Fault → Prop) : Except Fault Result → Prop
  | .ok result => holds result
  | .error fault => reported fault

/-- Reading on from a result keeps what it gives and what it reports. -/
theorem Reads.bind
    {Fault First Second : Type}
    {holds : First → Prop}
    {keeps : Second → Prop}
    {reported : Fault → Prop}
    {attempt : Except Fault First}
    {next : First → Except Fault Second}
    (reads : Reads holds reported attempt)
    (others : ∀ result, holds result → Reads keeps reported (next result)) :
    Reads keeps reported (attempt >>= next) := by
  cases attempt with
  | ok result => exact others result reads
  | error fault => exact reads

/-- A fault in cutting a text, and the bracket that it may be blamed on, are on the first lines. -/
structure LexFault.Within (last : Nat) (fault : LexFault) : Prop where
  line : fault.line ≤ last
  openLine : ∀ line ∈ fault.openLine, line ≤ last

/-- A fault of a literal is reported on the first lines, if it tells a line. -/
def LiteralFault.Within (last : Nat) : LiteralFault → Prop
  | .onLine line => line ≤ last
  | _ => True

/-- A text is refused at one of the first lines, if at any. -/
def ParseFault.Within (last : Nat) (fault : ParseFault) : Prop := ∀ line ∈ fault.line?, line ≤ last

/-- All lexemes of a text stand on its first lines, of which there is one, and so do the trees of
its strings and what is reported of it. -/
structure Source.Within (last : Nat) (source : Source) : Prop where
  positive : 1 ≤ last
  lexemes : ∀ lexeme ∈ source.lexemes, lexeme.line ≤ last
  fault : ∀ fault ∈ source.fault, fault.Within last
  strings : ∀ mark, Reads (Lined.Within last) (LiteralFault.Within last) (source.strings mark).1

/-- All trees that are remembered stand on the first lines. -/
def Cursor.Within (last : Nat) (cursor : Cursor) : Prop :=
  ∀ (mark : Nat) (entries : List Remembered), cursor.memory[mark]? = some entries →
    ∀ entry ∈ entries, Lined.Within last entry.trees

/-- What a parser gives, remembers or reports is on the first lines. -/
def Attempt.Within {Value : Type} [Lined Value] (last : Nat) : Attempt Value → Prop
  | .matched value cursor => Lined.Within last value ∧ cursor.Within last
  | .missed cursor => cursor.Within last
  | .failed fault => fault.Within last

namespace Parser

/-- A parser keeps to the first lines of a text if the text has no others. -/
def StaysWithin {Value : Type} [Lined Value] (last : Nat) (parser : Parser Value) : Prop :=
  ∀ source cursor, source.Within last → cursor.Within last →
    (parser source cursor).Within last

/-- All of some alternatives keep to the first lines. -/
inductive AllStayWithin {Value : Type} [Lined Value] (last : Nat) : List (Parser Value) → Prop
  | nil : AllStayWithin last []
  | cons
      {parser : Parser Value}
      {others : List (Parser Value)}
      (first : parser.StaysWithin last)
      (later : AllStayWithin last others) :
      AllStayWithin last (parser :: others)

variable {First Second : Type} [Lined First] [Lined Second] {last : Nat}

theorem AllStayWithin.append
    {alternatives others : List (Parser First)}
    (first : AllStayWithin last alternatives)
    (later : AllStayWithin last others) :
    AllStayWithin last (alternatives ++ others) := by
  induction first with
  | nil => exact later
  | cons first _ inductionHypothesis => exact .cons first inductionHypothesis

theorem AllStayWithin.map
    {Entry : Type}
    {entries : List Entry}
    {make : Entry → Parser First}
    (each : ∀ entry, (make entry).StaysWithin last) :
    AllStayWithin last (entries.map make) := by
  induction entries with
  | nil => exact .nil
  | cons entry entries inductionHypothesis => exact .cons (each entry) inductionHypothesis

namespace StaysWithin

variable {parser : Parser First} {next : First → Parser Second} {other : Parser Second}

theorem pure
    {value : First}
    (inside : Lined.Within last value) :
    StaysWithin last (Pure.pure value : Parser First) :=
  fun _ _ _ inCursor => ⟨inside, inCursor⟩

theorem bind
    (first : parser.StaysWithin last)
    (second : ∀ value, Lined.Within last value → (next value).StaysWithin last) :
    StaysWithin last (parser >>= next) := by
  intro source cursor inSource inCursor
  change (andThen parser next source cursor).Within last
  have inside := first source cursor inSource inCursor
  unfold andThen
  split
  case h_1 value after attempt =>
    rw [attempt] at inside
    exact second value inside.1 source after inSource inside.2
  case h_2 after attempt =>
    rw [attempt] at inside
    exact inside
  case h_3 fault attempt =>
    rw [attempt] at inside
    exact inside

/-- A parser, and one after it that does not look at what the first gave. -/
theorem seq
    (first : parser.StaysWithin last)
    (second : other.StaysWithin last) :
    StaysWithin last (parser >>= fun _ => other) :=
  first.bind fun _ _ => second

theorem ite
    {condition : Prop}
    [Decidable condition]
    {others : Parser First}
    (holds : parser.StaysWithin last)
    (fails : others.StaysWithin last) :
    StaysWithin last (if condition then parser else others) := by
  split
  · exact holds
  · exact fails

theorem miss : StaysWithin last (miss : Parser First) := fun _ _ _ inCursor => inCursor

theorem peek : StaysWithin last peek := by
  intro source cursor inSource inCursor
  unfold Parser.peek
  split
  · next lexeme found => exact ⟨inSource.lexemes lexeme (Array.mem_of_getElem? found), inCursor⟩
  · split
    · next fault given =>
        rintro line ⟨⟩
        exact (inSource.fault fault given).line
    · exact inCursor

theorem advance : StaysWithin last advance := fun _ _ _ inCursor => ⟨trivial, inCursor⟩

theorem lexeme (test : Lexeme → Bool) : StaysWithin last (lexeme test) :=
  .bind .peek fun _ inside => .ite (.seq .advance (.pure inside)) .miss

theorem op (symbol : String) : StaysWithin last (op symbol) := .lexeme _

theorem kw (word : String) : StaysWithin last (kw word) := .lexeme _

theorem soft (word : String) : StaysWithin last (soft word) := .lexeme _

theorem ofKind (kind : LexemeKind) : StaysWithin last (ofKind kind) := .lexeme _

theorem lineEnd : StaysWithin last lineEnd := .lexeme _

theorem raiseAt
    {line : Nat}
    (inside : line ≤ last) :
    StaysWithin last (raiseAt line : Parser First) := by
  rintro source cursor - - _ ⟨⟩
  exact inside

/-- The line of a lexeme, or the first line if there is none. -/
theorem line_getD_le
    {source : Source}
    (inSource : source.Within last)
    (place : Nat) :
    (source.lexemes[place]?.map Lexeme.line).getD 1 ≤ last := by
  cases found : source.lexemes[place]? with
  | none => exact inSource.positive
  | some lexeme => exact inSource.lexemes lexeme (Array.mem_of_getElem? found)

/-- A parser may rely on a first line, which every text has. -/
theorem ofPositive
    (given : 1 ≤ last → parser.StaysWithin last) :
    parser.StaysWithin last :=
  fun source cursor inSource inCursor =>
    given inSource.positive source cursor inSource inCursor

/-- The text is refused at a tree, or at the first line if there is none. -/
theorem raiseFound
    {found : Option Node}
    (inside : Lined.Within last found) :
    StaysWithin last (Parser.raiseAt ((found.map Node.line).getD 1) : Parser First) := by
  refine .ofPositive fun positive => .raiseAt ?_
  cases found with
  | none => exact positive
  | some node => exact Node.line_le (within_some_iff.mp inside)

theorem raiseHere : StaysWithin last (raiseHere : Parser First) := by
  rintro source cursor inSource - _ ⟨⟩
  exact line_getD_le inSource _

theorem forcedOp (symbol : String) : StaysWithin last (forcedOp symbol) :=
  .bind .peek fun _ inside => .ite (.seq .advance (.pure inside)) (.raiseAt inside)

/-- What is made of the line at the mark. -/
theorem here
    {next : Nat → Parser First}
    (second : ∀ line ≤ last, (next line).StaysWithin last) :
    StaysWithin last (Parser.here >>= next) := by
  have assoc : (Parser.here >>= next) = Parser.peek >>= fun found => next found.line := by
    funext source cursor
    change andThen (andThen Parser.peek _) next source cursor = andThen Parser.peek _ source cursor
    unfold andThen
    cases Parser.peek source cursor with
    | matched found after => rfl
    | missed after => rfl
    | failed fault => rfl
  rw [assoc]
  exact .bind .peek fun found inside => second found.line inside

/-- What is made of a depth, which is no line. -/
theorem depthBefore
    {next : Nat → Parser First}
    (second : ∀ depth, (next depth).StaysWithin last) :
    StaysWithin last (Parser.depthBefore >>= next) :=
  fun source cursor inSource inCursor => second _ source cursor inSource inCursor

theorem settle : StaysWithin last settle := fun _ _ _ inCursor => ⟨trivial, inCursor⟩

theorem strictly
    (given : parser.StaysWithin last) :
    StaysWithin last (strictly parser) := by
  intro source cursor inSource inCursor
  unfold Parser.strictly
  split
  · exact given source cursor inSource inCursor
  · exact inCursor

theorem leniently
    (given : parser.StaysWithin last) :
    StaysWithin last (leniently parser) := by
  intro source cursor inSource inCursor
  have inside := given source { cursor with strict := false } inSource inCursor
  unfold Parser.leniently
  dsimp only
  split
  all_goals
    next attempt =>
      rw [attempt] at inside
      exact inside

theorem firstOf
    {alternatives : List (Parser First)}
    (mark : Nat)
    (settled : Bool)
    (all : AllStayWithin last alternatives) :
    StaysWithin last (firstOf mark settled alternatives) := by
  induction all with
  | nil => exact fun _ _ _ inCursor => inCursor
  | @cons alternative others first _ inductionHypothesis =>
      intro source cursor inSource inCursor
      have inside := first source { cursor with mark := mark, settled := false } inSource inCursor
      unfold Parser.firstOf
      split
      case h_1 value after attempt =>
        rw [attempt] at inside
        exact inside
      case h_2 after attempt =>
        rw [attempt] at inside
        split
        · exact inside
        · exact inductionHypothesis source after inSource inside
      case h_3 fault attempt =>
        rw [attempt] at inside
        exact inside

theorem oneOf
    {alternatives : List (Parser First)}
    (all : AllStayWithin last alternatives) :
    StaysWithin last (oneOf alternatives) :=
  fun source cursor inSource inCursor => firstOf _ _ all source cursor inSource inCursor

theorem either
    {others : Parser First}
    (first : parser.StaysWithin last)
    (second : others.StaysWithin last) :
    StaysWithin last (Parser.oneOf [parser, others]) :=
  .oneOf (.cons first <| .cons second .nil)

theorem optional
    (given : parser.StaysWithin last) :
    StaysWithin last (optional parser) := by
  intro source cursor inSource inCursor
  have inside := given source cursor inSource inCursor
  unfold Parser.optional
  dsimp only
  split
  case h_1 value after attempt =>
    rw [attempt] at inside
    exact ⟨within_some_iff.mpr inside.1, inside.2⟩
  case h_2 after attempt =>
    rw [attempt] at inside
    exact ⟨within_none, inside⟩
  case h_3 fault attempt =>
    rw [attempt] at inside
    exact inside

theorem manyFrom
    (fuel : Nat)
    {found : List First}
    (given : parser.StaysWithin last)
    (sofar : Lined.Within last found) :
    StaysWithin last (manyFrom parser fuel found) := by
  have reversed {values : List First} (inside : Lined.Within last values) :
      Lined.Within last values.reverse :=
    Lined.within_subset inside (List.reverse_subset.mpr (List.Subset.refl _))
  induction fuel generalizing found with
  | zero => exact .pure (reversed sofar)
  | succ fuel inductionHypothesis =>
      intro source cursor inSource inCursor
      have inside := given source cursor inSource inCursor
      unfold Parser.manyFrom
      dsimp only
      split
      case h_1 value after attempt =>
        rw [attempt] at inside
        exact inductionHypothesis (within_cons_iff.mpr ⟨inside.1, sofar⟩) source after inSource
          inside.2
      case h_2 after attempt =>
        rw [attempt] at inside
        exact ⟨reversed sofar, inside⟩
      case h_3 fault attempt =>
        rw [attempt] at inside
        exact inside

theorem many
    (given : parser.StaysWithin last) :
    StaysWithin last (many parser) :=
  fun source cursor inSource inCursor =>
    manyFrom _ given within_nil source cursor inSource inCursor

theorem many1
    (given : parser.StaysWithin last) :
    StaysWithin last (many1 parser) :=
  .bind given fun _ first => .bind (.many given) fun _ others =>
    .pure (within_cons_iff.mpr ⟨first, others⟩)

theorem sepBy1
    {separator : Parser Second}
    (between : separator.StaysWithin last)
    (given : parser.StaysWithin last) :
    StaysWithin last (sepBy1 separator parser) :=
  .bind given fun _ first => .bind (.many (.seq between given)) fun _ others =>
    .pure (within_cons_iff.mpr ⟨first, others⟩)

theorem ahead
    (given : parser.StaysWithin last) :
    StaysWithin last (ahead parser) := by
  intro source cursor inSource inCursor
  have inside := given source cursor inSource inCursor
  unfold Parser.ahead
  dsimp only
  split
  case h_1 value after attempt =>
    rw [attempt] at inside
    exact ⟨trivial, inside.2⟩
  case h_2 after attempt =>
    rw [attempt] at inside
    exact inside
  case h_3 fault attempt =>
    rw [attempt] at inside
    exact inside

theorem notAhead
    (given : parser.StaysWithin last) :
    StaysWithin last (notAhead parser) := by
  intro source cursor inSource inCursor
  have inside := given source cursor inSource inCursor
  unfold Parser.notAhead
  dsimp only
  split
  case h_1 value after attempt =>
    rw [attempt] at inside
    exact inside.2
  case h_2 after attempt =>
    rw [attempt] at inside
    exact ⟨trivial, inside⟩
  case h_3 fault attempt =>
    rw [attempt] at inside
    exact inside

theorem name : StaysWithin last name :=
  .bind (.ofKind _) fun _ inside => .pure (Node.within_named_iff.mpr inside)

theorem number : StaysWithin last number := by
  refine .bind (.ofKind _) fun found inside => ?_
  split
  · exact .pure (Node.within_constant_iff.mpr inside)
  · exact .raiseAt inside

theorem strings : StaysWithin last strings := by
  intro source cursor inSource inCursor
  have first := StaysWithin.peek source cursor inSource inCursor
  unfold Parser.strings
  split
  case h_1 found after attempt =>
    rw [attempt] at first
    split
    · have second := StaysWithin.peek source
        { after with mark := after.mark + (source.strings after.mark).2 } inSource first.2
      dsimp only
      split
      case h_1 fault again =>
        rw [again] at second
        exact second
      case h_2 => exact first.2
      case h_3 seenNext again =>
        rw [again] at second
        have known := inSource.strings after.mark
        split
        case h_1 node tree =>
          rw [tree] at known
          exact ⟨known, second.2⟩
        case h_2 line refused =>
          rw [refused] at known
          rintro _ ⟨⟩
          exact known
        case h_3 =>
          have raised : (Parser.raiseHere : Parser Node).StaysWithin last := .raiseHere
          exact raised source _ inSource second.2
        case h_4 => exact fun _ told => nomatch told
    · exact first.2
  case h_2 after attempt =>
    rw [attempt] at first
    exact first
  case h_3 fault attempt =>
    rw [attempt] at first
    exact first

end StaysWithin
end Parser

/-! ## Rules -/

namespace Cursor

variable {last : Nat} {cursor : Cursor} {rule : Rule}

theorem within_of_recall?
    {mark : Nat}
    {entry : Remembered}
    (inCursor : cursor.Within last)
    (found : cursor.recall? rule mark = some entry) :
    Lined.Within last entry.trees := by
  obtain ⟨entries, present, isOne⟩ := Option.bind_eq_some_iff.mp found
  exact inCursor mark entries present entry (List.mem_of_find?_eq_some isOne)

theorem mem_replaceEntry
    {entry other : Remembered}
    {entries : List Remembered}
    (member : other ∈ replaceEntry entry entries) :
    other = entry ∨ other ∈ entries := by
  induction entries with
  | nil => exact .inl (List.mem_singleton.mp member)
  | cons first others inductionHypothesis =>
      unfold replaceEntry at member
      split at member
      · exact (List.mem_cons.mp member).imp_right (List.mem_cons_of_mem _)
      · rcases List.mem_cons.mp member with rfl | later
        · exact .inr List.mem_cons_self
        · exact (inductionHypothesis later).imp_right (List.mem_cons_of_mem _)

theorem within_remember
    {trees : Option (List Node)}
    (mark stop : Nat)
    (inCursor : cursor.Within last)
    (inside : Lined.Within last trees) :
    (cursor.remember rule mark trees stop).Within last := by
  intro place entries present entry member
  have there : (cursor.memory.modify mark (replaceEntry ⟨rule, trees, stop⟩))[place]? =
      some entries := present
  rw [Array.getElem?_modify] at there
  split at there
  · obtain ⟨before, isBefore, rfl⟩ := Option.map_eq_some_iff.mp there
    rcases mem_replaceEntry member with rfl | other
    · exact inside
    · exact inCursor place before isBefore entry other
  · exact inCursor place entries there entry member

end Cursor

/-- All rules keep to the first lines. -/
def Rules.StayWithin (last : Nat) (rules : Rules) : Prop := ∀ rule, (rules rule).StaysWithin last

namespace Rule

variable {last : Nat} {rule : Rule} {body : Parser (List Node)}

theorem staysWithin_remembered
    (given : body.StaysWithin last) :
    (rule.remembered body).StaysWithin last := by
  intro source cursor inSource inCursor
  unfold remembered
  dsimp only
  split
  case h_1 entry recalled =>
    have known := Cursor.within_of_recall? inCursor recalled
    split
    · next trees same => exact ⟨within_some_iff.mp (same ▸ known), inCursor⟩
    · exact inCursor
  case h_2 =>
    have inside := given source cursor inSource inCursor
    split
    case h_1 trees after attempt =>
      rw [attempt] at inside
      exact ⟨inside.1, Cursor.within_remember _ _ inside.2 (within_some_iff.mpr inside.1)⟩
    case h_2 after attempt =>
      rw [attempt] at inside
      exact Cursor.within_remember _ _ inside within_none
    case h_3 fault attempt =>
      rw [attempt] at inside
      exact inside

theorem within_finishGrowth
    {best : Option (List Node)}
    {after : Cursor}
    (bestMark : Nat)
    (known : Lined.Within last best)
    (inAfter : after.Within last) :
    (grow.finishGrowth best bestMark after).Within last := by
  unfold grow.finishGrowth
  split
  · exact ⟨within_some_iff.mp known, inAfter⟩
  · exact inAfter

/-- Every round of a growth sees what the round before gave. -/
theorem staysWithin_grow
    (given : body.StaysWithin last)
    (mark fuel : Nat)
    {best : Option (List Node)}
    (bestMark : Nat)
    (known : Lined.Within last best) :
    (rule.grow body mark fuel best bestMark).StaysWithin last := by
  induction fuel generalizing best bestMark with
  | zero => exact .miss
  | succ fuel inductionHypothesis =>
      intro source cursor inSource inCursor
      have seeded : (cursor.remember rule mark best cursor.mark).Within last :=
        Cursor.within_remember mark cursor.mark inCursor known
      have inside := given source { cursor.remember rule mark best cursor.mark with mark := mark }
        inSource seeded
      unfold grow
      dsimp only
      split
      case h_1 fault attempt =>
        rw [attempt] at inside
        exact inside
      case h_2 trees after attempt =>
        rw [attempt] at inside
        split
        · exact within_finishGrowth _ known inside.2
        · exact inductionHypothesis _ (within_some_iff.mpr inside.1) source after inSource inside.2
      case h_3 after attempt =>
        rw [attempt] at inside
        exact within_finishGrowth _ known inside

theorem staysWithin_growing
    (given : body.StaysWithin last) :
    (rule.growing body).StaysWithin last := by
  intro source cursor inSource inCursor
  unfold growing
  dsimp only
  split
  case h_1 entry recalled =>
    have known := Cursor.within_of_recall? inCursor recalled
    split
    · next trees same => exact ⟨within_some_iff.mp (same ▸ known), inCursor⟩
    · exact inCursor
  case h_2 => exact staysWithin_grow given _ _ _ within_none source cursor inSource inCursor

/-- The rules of a grammar keep to the first lines, however deep they are nested, if each does as
long as those that it uses do. -/
theorem stayWithin_parsers
    {grammar : Rules → Rules}
    (each : ∀ rules : Rules, rules.StayWithin last → (grammar rules).StayWithin last)
    (depth : Nat) :
    (parsers grammar depth).StayWithin last := by
  induction depth using Nat.strongRecOn with
  | ind depth inductionHypothesis =>
      intro rule
      cases depth with
      | zero => exact fun _ _ _ _ _ told => nomatch told
      | succ depth =>
          have body := each _ (inductionHypothesis depth (Nat.lt_succ_self depth)) rule
          unfold parsers
          split
          case h_1 => exact body
          case h_2 => exact staysWithin_remembered body
          case h_3 =>
            cases depth with
            | zero => exact fun _ _ _ _ _ told => nomatch told
            | succ lower =>
                have below : lower < lower + 1 + 1 := by omega
                exact staysWithin_growing (each _ (inductionHypothesis lower below) rule)

end Rule

end Predicate
end Wordbook
