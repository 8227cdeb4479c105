import Mathlib.Data.List.Shortlex
import Wordbook.Predicate.Sandbox

/-!
# What the sandbox refuses

A body passes the check of the sandbox exactly when no tree anywhere in its statements is one that a
body must not hold.  A body that does not pass is refused for the first such tree: statements count
in their order, and within a statement the trees of an upper level come before those of a lower one,
and those of one level in the order of the fields that lead to them.

A tree in a statement is found by the path of its fields.  The levels of a statement list its trees
in the shortlex order of their paths.
-/

namespace Wordbook
namespace Predicate

namespace Node

/-- The second tree is the first one or stands somewhere in it. -/
inductive Holds : Node → Node → Prop
  | itself (node : Node) : Holds node node
  | inPart {node part found : Node} (isPart : part ∈ node.parts) (deeper : Holds part found) :
      Holds node found

/-- The tree that a path leads to, each step of which is the place of a part. -/
def at? : List Nat → Node → Option Node
  | [], node => some node
  | index :: path, node => node.parts[index]?.bind (at? path)

/-! ## Paths -/

theorem holds_iff_exists_at? {node found : Node} :
    node.Holds found ↔ ∃ path, node.at? path = some found := by
  constructor
  · intro holds
    induction holds with
    | itself node => exact ⟨[], rfl⟩
    | inPart isPart _ inductionHypothesis =>
        obtain ⟨index, there⟩ := List.mem_iff_getElem?.mp isPart
        obtain ⟨path, leads⟩ := inductionHypothesis
        exact ⟨index :: path, by rw [at?, there, Option.bind_some, leads]⟩
  · rintro ⟨path, leads⟩
    induction path generalizing node with
    | nil =>
        cases leads
        exact .itself _
    | cons index path inductionHypothesis =>
        obtain ⟨part, there, deeper⟩ := Option.bind_eq_some_iff.mp leads
        exact .inPart (List.mem_of_getElem? there) (inductionHypothesis deeper)

theorem height_le_heights
    {part : Node}
    {parts : List Node}
    (isPart : part ∈ parts) :
    part.height ≤ heights parts := by
  induction parts with
  | nil => cases isPart
  | cons first parts inductionHypothesis =>
      rw [heights]
      rcases List.mem_cons.mp isPart with rfl | later
      · exact Nat.le_max_left _ _
      · exact (inductionHypothesis later).trans (Nat.le_max_right _ _)

theorem height_lt_of_mem_parts
    {node part : Node}
    (isPart : part ∈ node.parts) :
    part.height < node.height := by
  cases node with
  | mk kind line payload parts =>
      rw [height]
      exact Nat.lt_succ_of_le (height_le_heights isPart)

/-- A path into a tree has fewer steps than the tree has levels. -/
theorem length_lt_height
    {path : List Nat}
    {node found : Node}
    (leads : node.at? path = some found) :
    path.length < node.height := by
  induction path generalizing node with
  | nil =>
      cases node with
      | mk kind line payload parts => exact Nat.succ_pos _
  | cons index path inductionHypothesis =>
      obtain ⟨part, there, deeper⟩ := Option.bind_eq_some_iff.mp leads
      have lower := height_lt_of_mem_parts (List.mem_of_getElem? there)
      have shorter := inductionHypothesis deeper
      rw [List.length_cons]
      omega

/-! ## Levels with their paths -/

/-- The parts of a tree with the paths to them, from the path to the tree. -/
def placedParts (tree : List Nat × Node) : List (List Nat × Node) :=
  tree.2.parts.zipIdx.map fun part => (tree.1 ++ [part.2], part.1)

/-- The trees on a number of levels with the paths to them, the upper level first. -/
def placedLevels : Nat → List (List Nat × Node) → List (List Nat × Node)
  | 0, _ => []
  | count + 1, trees => trees ++ placedLevels count (trees.flatMap placedParts)

theorem map_snd_placedLevels
    (count : Nat)
    (trees : List (List Nat × Node)) :
    (placedLevels count trees).map Prod.snd = levels count (trees.map Prod.snd) := by
  induction count generalizing trees with
  | zero => rfl
  | succ count inductionHypothesis =>
      have next : (trees.flatMap placedParts).map Prod.snd = (trees.map Prod.snd).flatMap parts := by
        rw [List.map_flatMap, List.flatMap_map]
        congr 1
        funext tree
        rw [placedParts, List.map_map]
        exact List.zipIdx_map_fst 0 tree.2.parts
      rw [placedLevels, levels, List.map_append, inductionHypothesis, next]

theorem mem_placedParts
    {path : List Nat}
    {node : Node}
    {tree : List Nat × Node} :
    (path, node) ∈ placedParts tree ↔
      ∃ index, path = tree.1 ++ [index] ∧ tree.2.parts[index]? = some node := by
  simp only [placedParts, List.mem_map, Prod.mk.injEq, Prod.exists, List.mk_mem_zipIdx_iff_getElem?]
  constructor
  · rintro ⟨part, index, there, rfl, rfl⟩
    exact ⟨index, rfl, there⟩
  · rintro ⟨index, rfl, there⟩
    exact ⟨node, index, there, rfl, rfl⟩

/-- The levels hold what paths of fewer steps lead to. -/
theorem mem_placedLevels
    {count : Nat}
    {trees : List (List Nat × Node)}
    {path : List Nat}
    {node : Node} :
    (path, node) ∈ placedLevels count trees ↔
      ∃ tree ∈ trees, ∃ rest, path = tree.1 ++ rest ∧ rest.length < count ∧
        tree.2.at? rest = some node := by
  induction count generalizing trees with
  | zero => simp [placedLevels]
  | succ count inductionHypothesis =>
      rw [placedLevels, List.mem_append, inductionHypothesis]
      constructor
      · rintro (here | ⟨⟨start, part⟩, below, rest, rfl, short, leads⟩)
        · exact ⟨(path, node), here, [], by simp, Nat.succ_pos _, rfl⟩
        · obtain ⟨tree, present, isPart⟩ := List.mem_flatMap.mp below
          obtain ⟨index, rfl, there⟩ := mem_placedParts.mp isPart
          refine ⟨tree, present, index :: rest, by simp, Nat.succ_lt_succ short, ?_⟩
          rw [at?, there, Option.bind_some, leads]
      · rintro ⟨⟨start, tree⟩, present, rest, rfl, short, leads⟩
        cases rest with
        | nil =>
            cases leads
            exact .inl (by simpa using present)
        | cons index rest =>
            obtain ⟨part, there, deeper⟩ := Option.bind_eq_some_iff.mp leads
            refine .inr ⟨(start ++ [index], part), ?_, rest, by simp, Nat.lt_of_succ_lt_succ short,
              deeper⟩
            exact List.mem_flatMap.mpr ⟨_, present, mem_placedParts.mpr ⟨index, rfl, there⟩⟩

/-- Of two lists of one length the one that is less stays so, whatever follows. -/
theorem lex_append_of_length_eq
    {first second : List Nat}
    (less : List.Lex (· < ·) first second)
    (sameLength : first.length = second.length)
    (firstRest secondRest : List Nat) :
    List.Lex (· < ·) (first ++ firstRest) (second ++ secondRest) := by
  induction less with
  | nil => cases sameLength
  | cons _ inductionHypothesis => exact .cons (inductionHypothesis (Nat.succ.inj sameLength))
  | rel lower => exact .rel lower

theorem placedParts_sorted (tree : List Nat × Node) :
    (placedParts tree).Pairwise fun before after => List.Lex (· < ·) before.1 after.1 := by
  have places : (tree.2.parts.zipIdx.map Prod.snd).Pairwise (· < ·) := by
    rw [List.zipIdx_map_snd]
    exact List.pairwise_lt_range'
  rw [placedParts, List.pairwise_map]
  refine (List.pairwise_map.mp places).imp fun lower => ?_
  exact List.Lex.append_left _ (.rel lower) tree.1

/-- The levels go through the paths in shortlex order. -/
theorem placedLevels_sorted
    {trees : List (List Nat × Node)}
    {steps : Nat}
    (count : Nat)
    (sorted : trees.Pairwise fun before after => List.Lex (· < ·) before.1 after.1)
    (sameLevel : ∀ tree ∈ trees, tree.1.length = steps) :
    (placedLevels count trees).Pairwise fun before after =>
      List.Shortlex (· < ·) before.1 after.1 := by
  induction count generalizing trees steps with
  | zero => exact .nil
  | succ count inductionHypothesis =>
      have nextLevel : ∀ tree ∈ trees.flatMap placedParts, tree.1.length = steps + 1 := by
        rintro ⟨path, node⟩ below
        obtain ⟨tree, present, isPart⟩ := List.mem_flatMap.mp below
        obtain ⟨index, rfl, -⟩ := mem_placedParts.mp isPart
        rw [List.length_append, sameLevel tree present, List.length_singleton]
      have nextSorted : (trees.flatMap placedParts).Pairwise fun before after =>
          List.Lex (· < ·) before.1 after.1 := by
        rw [List.pairwise_flatMap]
        refine ⟨fun tree _ => placedParts_sorted tree, sorted.imp_of_mem ?_⟩
        rintro first second present later less ⟨path, node⟩ isPart ⟨other, found⟩ isOther
        obtain ⟨index, rfl, -⟩ := mem_placedParts.mp isPart
        obtain ⟨place, rfl, -⟩ := mem_placedParts.mp isOther
        have sameLength := (sameLevel first present).trans (sameLevel second later).symm
        exact lex_append_of_length_eq less sameLength _ _
      rw [placedLevels, List.pairwise_append]
      refine ⟨sorted.imp_of_mem ?_, inductionHypothesis nextSorted nextLevel, ?_⟩
      · intro first second present later less
        exact .of_lex ((sameLevel first present).trans (sameLevel second later).symm) less
      · rintro first present ⟨path, node⟩ deeper
        obtain ⟨tree, below, rest, rfl, -⟩ := mem_placedLevels.mp deeper
        have longer := nextLevel tree below
        refine .of_length_lt ?_
        rw [List.length_append, sameLevel first present]
        omega

end Node

/-! ## Places in a body -/

/-- A place in the statements of a body: a statement and a path into it. -/
structure TreePlace where
  statement : Nat
  path : List Nat

namespace TreePlace

/-- The tree at a place. -/
def node? (statements : List Node) (place : TreePlace) : Option Node :=
  statements[place.statement]?.bind (Node.at? place.path)

/-- A place is looked at before another: its statement comes first, or its path is shorter, or of
one length and leads through an earlier field. -/
def Precedes (first second : TreePlace) : Prop :=
  first.statement < second.statement ∨
    first.statement = second.statement ∧ List.Shortlex (· < ·) first.path second.path

theorem Precedes.asymm
    {first second : TreePlace}
    (precedes : first.Precedes second) :
    ¬ second.Precedes first := by
  rintro (lower | ⟨same, less⟩)
  · rcases precedes with upper | ⟨same, _⟩ <;> omega
  · rcases precedes with upper | ⟨_, more⟩
    · omega
    · exact Std.Asymm.asymm _ _ less more

end TreePlace

namespace Sandbox

/-- A tree stands somewhere in the statements of a body. -/
def Within (statements : List Node) (node : Node) : Prop :=
  ∃ statement ∈ statements, statement.Holds node

theorem within_iff_exists_place
    {statements : List Node}
    {node : Node} :
    Within statements node ↔ ∃ place : TreePlace, place.node? statements = some node := by
  constructor
  · rintro ⟨statement, present, holds⟩
    obtain ⟨index, there⟩ := List.mem_iff_getElem?.mp present
    obtain ⟨path, leads⟩ := Node.holds_iff_exists_at?.mp holds
    exact ⟨⟨index, path⟩, Option.bind_eq_some_iff.mpr ⟨statement, there, leads⟩⟩
  · rintro ⟨place, found⟩
    obtain ⟨statement, there, leads⟩ := Option.bind_eq_some_iff.mp found
    exact ⟨statement, List.mem_of_getElem? there, Node.holds_iff_exists_at?.mpr ⟨_, leads⟩⟩

/-- The trees of a statement with their places. -/
def placedStatement (entry : Node × Nat) : List (TreePlace × Node) :=
  (Node.placedLevels entry.1.height [([], entry.1)]).map fun tree => (⟨entry.2, tree.1⟩, tree.2)

/-- The trees of some statements with their places, in the order in which they are looked at. -/
def placedNodes (statements : List Node) : List (TreePlace × Node) :=
  statements.zipIdx.flatMap placedStatement

theorem map_snd_placedNodes (statements : List Node) :
    (placedNodes statements).map Prod.snd = nodes statements := by
  have perStatement : ∀ entry : Node × Nat,
      (placedStatement entry).map Prod.snd = entry.1.walk := by
    intro entry
    rw [placedStatement, List.map_map, Node.walk]
    exact Node.map_snd_placedLevels entry.1.height [([], entry.1)]
  rw [placedNodes, nodes, List.map_flatMap, funext perStatement]
  conv_rhs => rw [← List.zipIdx_map_fst 0 statements]
  rw [List.flatMap_map]

theorem mem_placedStatement
    {entry : Node × Nat}
    {place : TreePlace}
    {node : Node} :
    (place, node) ∈ placedStatement entry ↔
      place.statement = entry.2 ∧ entry.1.at? place.path = some node := by
  obtain ⟨statement, path⟩ := place
  simp only [placedStatement, List.mem_map, Prod.mk.injEq, Prod.exists, TreePlace.mk.injEq]
  constructor
  · rintro ⟨_, _, present, ⟨rfl, rfl⟩, rfl⟩
    obtain ⟨tree, isRoot, rest, rfl, -, leads⟩ := Node.mem_placedLevels.mp present
    cases List.mem_singleton.mp isRoot
    exact ⟨rfl, leads⟩
  · rintro ⟨rfl, leads⟩
    refine ⟨path, node, Node.mem_placedLevels.mpr ?_, ⟨rfl, rfl⟩, rfl⟩
    exact ⟨_, List.mem_singleton.mpr rfl, path, rfl, Node.length_lt_height leads, leads⟩

theorem mem_placedNodes
    {statements : List Node}
    {place : TreePlace}
    {node : Node} :
    (place, node) ∈ placedNodes statements ↔ place.node? statements = some node := by
  simp only [placedNodes, List.mem_flatMap, mem_placedStatement, Prod.exists,
    List.mk_mem_zipIdx_iff_getElem?, TreePlace.node?, Option.bind_eq_some_iff]
  constructor
  · rintro ⟨statement, index, there, rfl, leads⟩
    exact ⟨statement, there, leads⟩
  · rintro ⟨statement, there, leads⟩
    exact ⟨statement, place.statement, there, rfl, leads⟩

theorem placedNodes_sorted (statements : List Node) :
    (placedNodes statements).Pairwise fun before after => before.1.Precedes after.1 := by
  have places : (statements.zipIdx.map Prod.snd).Pairwise (· < ·) := by
    rw [List.zipIdx_map_snd]
    exact List.pairwise_lt_range'
  rw [placedNodes, List.pairwise_flatMap]
  refine ⟨fun entry _ => ?_, (List.pairwise_map.mp places).imp ?_⟩
  · have atRoot : ∀ tree ∈ [(([] : List Nat), entry.1)], tree.1.length = 0 := by simp
    have sorted := Node.placedLevels_sorted entry.1.height (List.pairwise_singleton _ _) atRoot
    rw [placedStatement, List.pairwise_map]
    exact sorted.imp fun less => .inr ⟨rfl, less⟩
  · rintro first second lower ⟨place, node⟩ isFirst ⟨other, found⟩ isSecond
    obtain ⟨here, -⟩ := mem_placedStatement.mp isFirst
    obtain ⟨there, -⟩ := mem_placedStatement.mp isSecond
    exact .inl (here ▸ there ▸ lower)

theorem mem_nodes
    {statements : List Node}
    {node : Node} :
    node ∈ nodes statements ↔ Within statements node := by
  rw [← map_snd_placedNodes, within_iff_exists_place]
  simp [mem_placedNodes]

/-! ## What a body must not hold -/

/-- A name is assigned to somewhere in a body. -/
def Assigns (statements : List Node) (name : String) : Prop :=
  ∃ node, Within statements node ∧ node.assigned? = some name

theorem mem_assigned
    {statements : List Node}
    {name : String} :
    name ∈ (nodes statements).filterMap Node.assigned? ↔ Assigns statements name := by
  simp only [List.mem_filterMap, mem_nodes, Assigns]

/-- A name that a body may use: one of the tokens, a function or type, or a name assigned to. -/
def Visible (statements : List Node) (name : String) : Prop :=
  name ∈ parameterNames ∨ name ∈ builtinNames ∨ Assigns statements name

/-- A tree that may stand in a body. -/
structure Admits (statements : List Node) (node : Node) : Prop where
  kindAllowed : node.kind.isAllowed = true
  nameVisible : ∀ name, node.kind = .name → node.payload = .name name →
    name.startsWith "_" = false ∧ Visible statements name
  attributeAllowed : ∀ name, node.kind = .attribute → node.payload = .name name →
    name ∈ allowedAttributes

/-- A tree that must not stand in a body, and why. -/
inductive Offends (statements : List Node) : Node → Violation → Prop
  | construct {node : Node} (refused : node.kind.isAllowed = false) :
      Offends statements node (.construct node.kind)
  | hiddenName {line : Nat} {name : String} {parts : List Node}
      (hidden : name.startsWith "_" = true) :
      Offends statements (.mk .name line (.name name) parts) (.hiddenName name)
  | unknownName {line : Nat} {name : String} {parts : List Node}
      (shown : name.startsWith "_" = false) (unknown : ¬ Visible statements name) :
      Offends statements (.mk .name line (.name name) parts) (.unknownName name)
  | unlistedAttribute {line : Nat} {name : String} {parts : List Node}
      (refused : name ∉ allowedAttributes) :
      Offends statements (.mk .attribute line (.name name) parts) (.attribute name)

theorem visible_iff
    {statements : List Node}
    {name : String} :
    (givenNames.contains name ||
        ((nodes statements).filterMap Node.assigned?).contains name) = true ↔
      Visible statements name := by
  rw [Bool.or_eq_true, List.contains_iff_mem, List.contains_iff_mem, mem_assigned, givenNames,
    List.mem_append, Visible, or_assoc]

/-- A tree is refused exactly when it offends, and for that reason. -/
theorem violation?_eq_some_iff
    {statements : List Node}
    {node : Node}
    {violation : Violation} :
    violation? ((nodes statements).filterMap Node.assigned?) node = some violation ↔
      Offends statements node violation := by
  obtain ⟨kind, line, payload, parts⟩ := node
  have known := @visible_iff statements
  constructor
  · intro found
    unfold violation? at found
    split at found
    case isTrue refused =>
      cases found
      exact .construct (by simpa using refused)
    case isFalse =>
      split at found
      case h_1 isName isText =>
        cases isName
        cases isText
        split at found
        case isTrue hidden =>
          cases found
          exact .hiddenName hidden
        case isFalse shown =>
          split at found
          case isTrue => cases found
          case isFalse unknown =>
            cases found
            exact .unknownName (by simpa using shown) fun visible => unknown (known.mpr visible)
      case h_2 isAttribute isText =>
        cases isAttribute
        cases isText
        split at found
        case isTrue => cases found
        case isFalse refused =>
          cases found
          exact .unlistedAttribute fun allowed => refused (List.contains_iff_mem.mpr allowed)
      case h_3 => cases found
  · intro offends
    cases offends with
    | construct refused =>
        change kind.isAllowed = false at refused
        simp [violation?, Node.kind, refused]
    | hiddenName hidden =>
        simp only [violation?, Node.kind, Node.payload, hidden, if_true]
        rfl
    | @unknownName _ name _ shown unknown =>
        have hidden := mt known.mp unknown
        simp only [violation?, Node.kind, Node.payload, shown, if_neg hidden]
        rfl
    | unlistedAttribute refused =>
        have unlisted := mt List.contains_iff_mem.mp refused
        simp only [violation?, Node.kind, Node.payload, if_neg unlisted]
        rfl

theorem admits_iff_not_offends
    {statements : List Node}
    {node : Node} :
    Admits statements node ↔ ∀ violation, ¬ Offends statements node violation := by
  constructor
  · intro admits violation offends
    cases offends with
    | construct refused => simp [admits.kindAllowed] at refused
    | hiddenName hidden =>
        have shown := (admits.nameVisible _ rfl rfl).1
        simp [shown] at hidden
    | unknownName _ unknown => exact unknown (admits.nameVisible _ rfl rfl).2
    | unlistedAttribute refused => exact refused (admits.attributeAllowed _ rfl rfl)
  · intro inoffensive
    obtain ⟨kind, line, payload, parts⟩ := node
    refine ⟨?_, ?_, ?_⟩
    · by_contra refused
      exact inoffensive _ (.construct (by simpa using refused))
    · rintro name ⟨⟩ ⟨⟩
      have shown : name.startsWith "_" = false := by
        by_contra hidden
        exact inoffensive _ (.hiddenName (by simpa using hidden))
      refine ⟨shown, ?_⟩
      by_contra unknown
      exact inoffensive _ (.unknownName shown unknown)
    · rintro name ⟨⟩ ⟨⟩
      by_contra refused
      exact inoffensive _ (.unlistedAttribute refused)

theorem violation?_eq_none_iff
    {statements : List Node}
    {node : Node} :
    violation? ((nodes statements).filterMap Node.assigned?) node = none ↔
      Admits statements node := by
  rw [admits_iff_not_offends, Option.eq_none_iff_forall_ne_some]
  exact forall_congr' fun violation => not_congr violation?_eq_some_iff

/-! ## The first offence -/

/-- In a sorted list a search gives what the first entry with a result gives. -/
theorem findSome?_eq_some_iff_first
    {Entry Result : Type}
    {before : Entry → Entry → Prop}
    (asymmetric : ∀ first second, before first second → ¬ before second first)
    {entries : List Entry}
    (sorted : entries.Pairwise before)
    (search : Entry → Option Result)
    (result : Result) :
    entries.findSome? search = some result ↔
      ∃ entry ∈ entries, search entry = some result ∧
        ∀ earlier ∈ entries, before earlier entry → search earlier = none := by
  constructor
  · intro found
    obtain ⟨ahead, entry, behind, rfl, gives, missed⟩ := List.findSome?_eq_some_iff.mp found
    refine ⟨entry, by simp, gives, fun earlier present less => ?_⟩
    obtain ⟨-, rest, -⟩ := List.pairwise_append.mp sorted
    rcases List.mem_append.mp present with isAhead | isNot
    · exact missed earlier isAhead
    · rcases List.mem_cons.mp isNot with rfl | isBehind
      · exact absurd less (asymmetric _ _ less)
      · exact absurd less (asymmetric _ _ (List.rel_of_pairwise_cons rest isBehind))
  · rintro ⟨entry, present, gives, first⟩
    obtain ⟨ahead, behind, rfl⟩ := List.append_of_mem present
    obtain ⟨-, -, across⟩ := List.pairwise_append.mp sorted
    refine List.findSome?_eq_some_iff.mpr ⟨ahead, entry, behind, rfl, gives, fun other isAhead => ?_⟩
    exact first other (by simp [isAhead]) (across other isAhead entry (by simp))

theorem check_eq_none_iff (statements : List Node) :
    check statements = none ↔ ∀ node, Within statements node → Admits statements node := by
  rw [check, List.findSome?_eq_none_iff]
  refine forall_congr' fun node => ?_
  rw [mem_nodes, violation?_eq_none_iff]

/-- A body is refused for a violation exactly when its first tree that offends does so in that
way. -/
theorem check_eq_some_iff
    (statements : List Node)
    (violation : Violation) :
    check statements = some violation ↔
      ∃ (place : TreePlace) (node : Node),
        place.node? statements = some node ∧ Offends statements node violation ∧
          ∀ (earlier : TreePlace) (other : Node), earlier.node? statements = some other →
            earlier.Precedes place → Admits statements other := by
  have asymmetric : ∀ first second : TreePlace × Node,
      first.1.Precedes second.1 → ¬ second.1.Precedes first.1 :=
    fun _ _ precedes => precedes.asymm
  rw [check]
  conv_lhs => rw [← map_snd_placedNodes, List.findSome?_map]
  rw [map_snd_placedNodes,
    findSome?_eq_some_iff_first asymmetric (placedNodes_sorted statements)]
  simp only [Prod.exists, Prod.forall, mem_placedNodes, Function.comp_apply,
    violation?_eq_some_iff, violation?_eq_none_iff]

/-- The sandbox accepts a body exactly when every tree anywhere in it is one that may stand there,
and it reports the first tree that may not. -/
theorem check_decides (statements : List Node) :
    (check statements = none ↔ ∀ node, Within statements node → Admits statements node) ∧
      ∀ violation, check statements = some violation ↔
        ∃ (place : TreePlace) (node : Node),
          place.node? statements = some node ∧ Offends statements node violation ∧
            ∀ (earlier : TreePlace) (other : Node), earlier.node? statements = some other →
              earlier.Precedes place → Admits statements other :=
  ⟨check_eq_none_iff statements, check_eq_some_iff statements⟩

end Sandbox
end Predicate
end Wordbook
