import Wordbook.Proofs.Predicate.BuiltIn
import Wordbook.Proofs.Predicate.Limits
import Wordbook.Proofs.Predicate.Termination

/-!
# The end of a run

A predicate whose generators have a single source ends on any two texts, within any bounds on the
levels of calls and on how far lists and sets are walked.  Without bounds it may go on for ever: a
loop may put a value into the list that it walks over each time.  So may a predicate within bounds
if its generators have further sources: two of them may take their values from each other.
-/

namespace Wordbook
namespace Predicate
namespace Definition

/-- A program whose generators have a single source settles. -/
theorem run_settles
    {program : List Statement}
    (single : ∀ statement ∈ program, statement.Obeys .single)
    (first second : Value)
    (places : Nat) :
    (run program first second).Settles places := by
  refine Run.Settles.bind ((Run.Settles.discipline places).newScope _) fun address => ?_
  have runs (environment : Environment) :
      (Run.Settles.discipline places).Keeps (Execution.runAll environment program) :=
    Execution.runAll_keeps trivial single
  refine Run.Settles.bind (runs _) fun flow => ?_
  split
  · exact .pure _
  · exact .pure _

/-- A program is run on two texts in an empty heap. -/
theorem exists_outcomeWith_eq (program : List Statement) (first second : String) :
    ∃ left right marks, ∀ engine : Engine,
      Verdict.outcomeWith engine program (.str first) (.str second) =
        (run program left right engine ⟨⟨#[], marks⟩, #[], #[]⟩).andThen fun value after =>
          .returned (value, left, right) after := by
  obtain ⟨leftMark, rightMark, marks, given⟩ := BuiltIn.exists_alone?_tokens first second
  refine ⟨.text first leftMark, .text second rightMark, marks, fun engine => ?_⟩
  rw [Verdict.outcomeWith, Engine.perform_of_alone _ given, Outcome.andThen]
  rfl

/-! ## Loops without an end -/

/-- A loop does not end if each value leads from a machine of some kind to another one. -/
theorem repeatFor_endless
    {engine : Engine}
    {source : Nat}
    {pass : Value → Run Flow}
    (kind : Machine → Prop)
    (each : ∀ machine, kind machine → ∃ value after last,
      engine.next source machine = .returned (some value) after ∧
        pass value engine after = .returned .onward last ∧ kind last)
    {machine : Machine}
    (isKind : kind machine) :
    Execution.repeatFor pass source engine machine = .exhausted := by
  unfold Execution.repeatFor Run.fold Engine.fold
  generalize engine.limits.steps = fuel
  induction fuel generalizing machine with
  | zero => rfl
  | succ fuel inductionHypothesis =>
      obtain ⟨value, after, last, given, passed, isLast⟩ := each machine isKind
      rw [Engine.foldFrom, given, Outcome.andThen]
      simp only [Run.bind_apply, passed, Outcome.andThen, Run.pure_apply]
      exact inductionHypothesis isLast

theorem newList_one
    {value : Value}
    (isMarked : value.isUnmarked = false) :
    Work.newList #[value] = (do return .list (← Work.allocate (.list #[value]))) := by
  have unmarked : #[value].any Value.isUnmarked = false := by simp [isMarked]
  rw [Work.newList, Work.markedAll, unmarked]
  rfl

theorem evaluate_within
    (limits : Limits)
    (depth : Nat)
    (environment : Environment)
    (value : Expr)
    (machine : Machine) :
    Run.evaluate environment value (Engine.within limits (depth + 1)) machine =
      Evaluation.evaluate environment value (Engine.within limits depth) machine := rfl

/-! ## A list that grows -/

/-- A body that puts a value before those of a list for each value that it finds in it. -/
def growing : List Char := "xs = [0]\nfor x in xs:\n    xs.insert(0, x)".toList

/-- The value that the list is full of. -/
def repeated : Value := .int 0 .common

/-- A new list of one value. -/
def beginning : Expr := .list [.one (.constant repeated)]

/-- What the body does for each value. -/
def insertion : Expr :=
  .call (.attribute (.variable "xs") "insert") [.one (.constant repeated), .one (.variable "x")] []

/-- The loop of the body. -/
def growingLoop : Statement := .loop (.name "x") (.variable "xs") [.expression insertion] []

/-- What the body is compiled to. -/
def growth : List Statement := [.assign [.name "xs"] beginning, growingLoop]

/-- A program is what the body is compiled to. -/
def isGrowth : List Statement → Bool
  | [.assign [.name list] (.list [.one (.constant (.int 0 .common))]),
      .loop (.name item) (.variable walked)
        [.expression (.call (.attribute (.variable changed) name)
          [.one (.constant (.int 0 .common)), .one (.variable given)] [])] []] =>
      list == "xs" && item == "x" && walked == "xs" && changed == "xs" && name == "insert" &&
        given == "x"
  | _ => false

theorem eq_growth_of_isGrowth
    {program : List Statement}
    (found : isGrowth program = true) :
    program = growth := by
  unfold isGrowth at found
  split at found
  · simp only [Bool.and_eq_true, beq_iff_eq] at found
    obtain ⟨⟨⟨⟨⟨rfl, rfl⟩, rfl⟩, rfl⟩, rfl⟩, rfl⟩ := found
    rfl
  · contradiction

theorem compile_growing : compile growing = .ok growth :=
  compile_eq_of_any (by decide +kernel : (compile growing).toOption.any isGrowth = true)
    eq_growth_of_isGrowth

theorem insertion_obeys : insertion.Obeys .single :=
  .call (.attribute (.variable trivial))
    (List.forall_mem_cons.mpr ⟨.one (.constant repeated),
      List.forall_mem_singleton.mpr (.one (.variable trivial))⟩) (by simp)

theorem growth_obeys : ∀ statement ∈ growth, statement.Obeys .single := by
  refine List.forall_mem_cons.mpr ⟨?_, List.forall_mem_singleton.mpr ?_⟩
  · exact .assign (List.forall_mem_singleton.mpr (.name trivial))
      (.list (List.forall_mem_singleton.mpr (.one (.constant repeated))))
  · exact .loop (.name trivial) (.variable trivial)
      (List.forall_mem_singleton.mpr (.expression insertion_obeys)) (by simp)

section

variable {left right : Value} {steps : Nat}

/-- The names of the program. -/
def growingScope : Environment := [⟨["tokenA", "tokenB", "xs", "x"], 0⟩]

/-- The values of the names; the last one may have none yet. -/
def growingBindings (left right : Value) (last : Option Value) : Bindings :=
  [("tokenA", left), ("tokenB", right), ("xs", .list 0)] ++ (last.map ("x", ·)).toList

/-- The machine when the walk has given so many values: the list has one more. -/
def grown (left right : Value) (last : Option Value) (count marks : Nat) : Machine :=
  ⟨⟨#[.list (Array.replicate (count + 1) repeated)], marks⟩,
    #[growingBindings left right last], #[.walk (.list 0 count)]⟩

/-- What the loop does with a value. -/
def growingPass (value : Value) : Run Flow := do
  Assignment.assign growingScope (.name "x") value
  Execution.runAll growingScope [.expression insertion]

theorem insert_replicate {Item : Type} (count : Nat) (item : Item) :
    (Array.replicate count item).insertIdxIfInBounds 0 item = Array.replicate (count + 1) item := by
  simp [Array.insertIdxIfInBounds, ← Array.toList_inj, List.replicate_succ]

theorem next_grown (depth : Nat) (last : Option Value) (count marks : Nat) :
    (Engine.within ⟨steps, none⟩ (depth + 2)).next 0 (grown left right last count marks) =
      .returned (some repeated)
        ((grown left right last count marks).put 0 (.walk (.list 0 (count + 1)))) := by
  have held : (Array.replicate (count + 1) repeated)[count]? = some repeated := by simp
  have walked : (grown left right last count marks).iterators[0]? =
      some (.walk (.list 0 count)) := rfl
  have looked : (grown left right last count marks).memory.heap.list 0 =
      Array.replicate (count + 1) repeated := rfl
  change Iteration.next 0 _ _ = _
  rw [Iteration.next_of_walk walked]
  simp only [Iteration.step, Run.bind_apply, Run.liftM_apply, Work.look, Engine.perform,
    Outcome.andThen, looked, held]
  rfl

theorem pass_grown (depth : Nat) (last : Option Value) (count marks : Nat) :
    growingPass repeated (Engine.within ⟨steps, none⟩ (depth + 4))
        ((grown left right last count marks).put 0 (.walk (.list 0 (count + 1)))) =
      .returned .onward (grown left right (some repeated) (count + 1) (marks + 1)) := by
  have inserted := insert_replicate (count + 1) repeated
  unfold grown
  rw [← inserted]
  cases last <;> rfl

theorem repeatFor_grown (depth : Nat) (last : Option Value) (count marks : Nat) :
    Execution.repeatFor growingPass 0 (Engine.within ⟨steps, none⟩ (depth + 4))
      (grown left right last count marks) = .exhausted := by
  refine repeatFor_endless (fun machine => ∃ last count marks, machine =
    grown left right last count marks) ?_ ⟨last, count, marks, rfl⟩
  rintro _ ⟨last, count, marks, rfl⟩
  exact ⟨_, _, _, next_grown (depth + 2) last count marks, pass_grown depth last count marks,
    _, _, _, rfl⟩

theorem evaluate_beginning (depth marks : Nat) :
    Run.evaluate growingScope beginning (Engine.within ⟨steps, none⟩ (depth + 4))
        (.started left right ⟨#[], marks⟩) =
      .returned (.list 0) (.started left right ⟨#[.list #[repeated]], marks⟩) := by
  have made : Work.newList #[repeated] = _ := newList_one rfl
  change Engine.perform _ (Work.newList #[repeated]) _ = _
  rw [made]
  rfl

theorem run_growth (depth marks : Nat) :
    run growth left right (.within ⟨steps, none⟩ (depth + 4)) ⟨⟨#[], marks⟩, #[], #[]⟩ =
      .exhausted := by
  have assigned : Execution.run growingScope (.assign [.name "xs"] beginning)
      (.within ⟨steps, none⟩ (depth + 4)) (.started left right ⟨#[], marks⟩) =
        .returned .onward
          ⟨⟨#[.list #[repeated]], marks⟩, #[growingBindings left right none], #[]⟩ := by
    rw [Execution.run, Run.bind_apply, evaluate_beginning]
    rfl
  have looped : Execution.run growingScope growingLoop (.within ⟨steps, none⟩ (depth + 4))
      ⟨⟨#[.list #[repeated]], marks⟩, #[growingBindings left right none], #[]⟩ = .exhausted := by
    change (Execution.repeatFor growingPass 0 _ (grown left right none 0 marks)).andThen _ = _
    rw [repeatFor_grown]
    rfl
  have ran : Execution.runAll growingScope growth (.within ⟨steps, none⟩ (depth + 4))
      (.started left right ⟨#[], marks⟩) = .exhausted := by
    simp only [growth, Execution.runAll, Run.bind_apply, assigned, Outcome.andThen, looped]
  change (Execution.runAll growingScope growth (.within ⟨steps, none⟩ (depth + 4))
    (.started left right ⟨#[], marks⟩)).andThen _ = _
  rw [ran, Outcome.andThen]

end

/-! ## Generators that ask each other -/

/-- A body with two generators, each of which comes to take its values from the other one. -/
def circling : List Char :=
  "c = [\"a\"]\n".toList ++
    "u = (0 for s in c for x in s for y in \"ab\")\n".toList ++
    "c += (0 for s in [u] for x in s for y in \"ab\"),\n".toList ++
    "for p in zip(u, c[1]):\n    pass".toList

/-- A text that the program holds. -/
def letters (text : String) : Value := .text text .common

/-- The later parts of both generators: they give two values for each one that they find. -/
def relayed : List Clause :=
  [.mk (.variable "s") (.name "x") [], .mk (.constant (letters "ab")) (.name "y") []]

/-- A generator of the program. -/
def relayOf (source : Expr) : Expr :=
  .comprehension .generator (.constant repeated) none source (.name "s") [] relayed

/-- The walk over what both generators give. -/
def together : Expr :=
  .call (.variable "zip")
    [.one (.variable "u"), .one (.subscript (.variable "c") (.constant (.int 1 .common)))] []

/-- The second generator, as the only item of a tuple. -/
def secondRelay : Expr := .tuple [.one (relayOf (.list [.one (.variable "u")]))]

/-- What the body is compiled to. -/
def circle : List Statement :=
  [.assign [.name "c"] (.list [.one (.constant (letters "a"))]),
    .assign [.name "u"] (relayOf (.variable "c")),
    .augment (.name "c") .add secondRelay,
    .loop (.name "p") together [.pass] []]

/-- The source of a generator of the program. -/
def relaySource? : Expr → Option Expr
  | .comprehension .generator (.constant (.int 0 .common)) none source (.name first) []
      [.mk (.variable second) (.name third) [],
        .mk (.constant (.text text .common)) (.name fourth) []] =>
      if first = "s" ∧ second = "s" ∧ third = "x" ∧ text = "ab" ∧ fourth = "y" then some source
      else none
  | _ => none

theorem eq_relayOf
    {value source : Expr}
    (found : relaySource? value = some source) :
    value = relayOf source := by
  unfold relaySource? at found
  split at found
  · split at found
    case isTrue same =>
      obtain ⟨rfl, rfl, rfl, rfl, rfl⟩ := same
      cases found
      rfl
    case isFalse => contradiction
  · contradiction

/-- A program is what the body is compiled to. -/
def isCircle : List Statement → Bool
  | [.assign [.name list] (.list [.one (.constant (.text text .common))]),
      .assign [.name first] one,
      .augment (.name changed) .add (.tuple [.one other]),
      .loop (.name item)
        (.call (.variable function) [.one (.variable left),
          .one (.subscript (.variable right) (.constant (.int 1 .common)))] []) [.pass] []] =>
      list == "c" && text == "a" && first == "u" && changed == "c" && item == "p" &&
        function == "zip" && left == "u" && right == "c" &&
        (match relaySource? one, relaySource? other with
          | some (.variable walked), some (.list [.one (.variable inner)]) =>
              walked == "c" && inner == "u"
          | _, _ => false)
  | _ => false

theorem eq_circle_of_isCircle
    {program : List Statement}
    (found : isCircle program = true) :
    program = circle := by
  unfold isCircle at found
  split at found
  · simp only [Bool.and_eq_true, beq_iff_eq] at found
    obtain ⟨⟨⟨⟨⟨⟨⟨⟨rfl, rfl⟩, rfl⟩, rfl⟩, rfl⟩, rfl⟩, rfl⟩, rfl⟩, sources⟩ := found
    split at sources
    case h_1 one other =>
      simp only [Bool.and_eq_true, beq_iff_eq] at sources
      obtain ⟨rfl, rfl⟩ := sources
      rw [eq_relayOf one, eq_relayOf other]
      rfl
    case h_2 => contradiction
  · contradiction

theorem compile_circling : compile circling = .ok circle :=
  compile_eq_of_any (by decide +kernel : (compile circling).toOption.any isCircle = true)
    eq_circle_of_isCircle

/-- The scope of the program. -/
def circlingScope : Scope := ⟨["tokenA", "tokenB", "c", "u", "c", "p"], 0⟩

/-- The code of a generator of the program, whose names belong to a scope of their own. -/
def relay (scope : Nat) : Comprehension :=
  ⟨[⟨["s", "x", "y"], scope⟩, circlingScope], .constant repeated, none, .name "s", [], relayed⟩

section

variable {limits : Limits} {depth generator inner middle outer scope : Nat}
  {machine after : Machine}

/-- A generator of the program waits for being asked; so much of its text is left. -/
structure Waits (machine : Machine) (scope generator inner middle outer : Nat)
    (rest : List Char) : Prop where
  held : machine.iterators[generator]? =
    some (.generator (relay scope) [inner, middle, outer] false)
  text : machine.iterators[inner]? = some (.walk (.chars rest))

/-- The machine while a generator of the program is asked. -/
def asked (machine : Machine) (scope generator inner middle outer : Nat) : Machine :=
  machine.put generator (.generator (relay scope) [inner, middle, outer] true)

theorem Waits.apart
    {rest : List Char}
    (waits : Waits machine scope generator inner middle outer rest) :
    inner ≠ generator := by
  rintro rfl
  cases waits.held.symm.trans waits.text

theorem Waits.text_asked
    {rest : List Char}
    (waits : Waits machine scope generator inner middle outer rest) :
    (asked machine scope generator inner middle outer).iterators[inner]? =
      some (.walk (.chars rest)) :=
  (Machine.get_put_of_ne waits.apart).trans waits.text

/-- The machine after a name of a scope got a value. -/
def bound (machine : Machine) (scope : Nat) (name : String) (value : Value) : Machine :=
  { machine with scopes := machine.scopes.modify scope (Environment.rebind name value) }

/-- What a generator gives when its search has found a value. -/
theorem next_of_advance
    {code : Comprehension}
    {walks left : List Nat}
    (held : machine.iterators[generator]? = some (.generator code walks false))
    (found : Iteration.advance code limits.steps walks (Engine.within limits (depth + 1))
      (machine.put generator (.generator code walks true)) =
        .returned (some (repeated, left)) after) :
    (Engine.within limits (depth + 2)).next generator machine =
      .returned (some repeated) (after.put generator (.generator code left false)) := by
  have limited : (Engine.within limits (depth + 1)).limits = limits := rfl
  change Iteration.next generator (Engine.within limits (depth + 1)) machine = _
  rw [Iteration.next_of_generator held]
  simp only [Iteration.nextElement, Run.bind_apply, Run.setIterator, Outcome.andThen, Run.limits,
    limited]
  change Outcome.andThen _ (Run.onStop _ _ _ (machine.put generator _)) = _
  rw [Run.onStop, found]
  rfl

theorem next_letter
    {char : Char}
    {rest : List Char}
    (held : machine.iterators[inner]? = some (.walk (.chars (char :: rest))))
    (common : char.toNat < 256) :
    (Engine.within limits (depth + 1)).next inner machine =
      .returned (some (letters (String.singleton char)))
        (machine.put inner (.walk (.chars rest))) := by
  have isCommon : Value.ofChar char = letters (String.singleton char) := by
    rw [Value.ofChar, if_pos common, letters]
  change Iteration.next inner _ machine = _
  rw [Iteration.next_of_walk held, Iteration.step, isCommon]
  rfl

theorem next_noLetter (held : machine.iterators[inner]? = some (.walk (.chars []))) :
    (Engine.within limits (depth + 1)).next inner machine =
      .returned none (machine.put inner (.walk .finished)) := by
  change Iteration.next inner _ machine = _
  rw [Iteration.next_of_walk held]
  rfl

/-- A generator with some text left gives a value without asking for one. -/
theorem Waits.gives
    (waits : Waits machine scope generator inner middle outer ['b'])
    (enough : 3 ≤ limits.steps)
    (depth : Nat) :
    ∃ after, (Engine.within limits (depth + 4)).next generator machine =
        .returned (some repeated) after ∧
      Waits after scope generator inner middle outer [] ∧
      ∀ place, place ≠ generator → place ≠ inner →
        after.iterators[place]? = machine.iterators[place]? := by
  obtain ⟨fuel, isFuel⟩ := Nat.exists_eq_add_of_le' enough
  let read := (asked machine scope generator inner middle outer).put inner (.walk (.chars []))
  have found : Iteration.advance (relay scope) limits.steps [inner, middle, outer]
      (Engine.within limits (depth + 3)) (asked machine scope generator inner middle outer) =
        .returned (some (repeated, [inner, middle, outer]))
          (bound read scope "y" (letters "b")) := by
    rw [isFuel, Iteration.advance, Run.bind_apply, Run.next,
      next_letter waits.text_asked (by decide)]
    rfl
  refine ⟨_, next_of_advance waits.held found, ⟨?_, ?_⟩, fun place notGenerator notInner => ?_⟩
  · exact Machine.get_put_self ((Machine.get_put_of_ne waits.apart.symm).trans
      (Machine.get_put_self waits.held))
  · exact (Machine.get_put_of_ne waits.apart).trans (Machine.get_put_self waits.text_asked)
  · exact (Machine.get_put_of_ne notGenerator).trans ((Machine.get_put_of_ne notInner).trans
      (Machine.get_put_of_ne notGenerator))

/-- The machine on which a generator has begun with its text anew, for a value that it was given. -/
def begun (machine : Machine) (scope : Nat) (value : Value) : Machine :=
  { bound machine scope "x" value with
    iterators := machine.iterators.push (.walk (.chars ['a', 'b'])) }

/-- A generator with no text left asks for a value, and gives one when it is given one. -/
theorem Waits.asks
    {value : Value}
    (waits : Waits machine scope generator inner middle outer [])
    (given : (Engine.within limits (depth + 3)).next middle
      ((asked machine scope generator inner middle outer).put inner (.walk .finished)) =
        .returned (some value) after)
    (busy : after.iterators[generator]? =
      some (.generator (relay scope) [inner, middle, outer] true))
    (enough : 3 ≤ limits.steps) :
    ∃ last, (Engine.within limits (depth + 4)).next generator machine =
        .returned (some repeated) last ∧
      Waits last scope generator after.iterators.size middle outer ['b'] ∧
      ∀ place, place ≠ generator → place ≠ after.iterators.size →
        last.iterators[place]? = after.iterators[place]? := by
  obtain ⟨fuel, isFuel⟩ := Nat.exists_eq_add_of_le' enough
  have fresh : (begun after scope value).iterators[after.iterators.size]? =
      some (.walk (.chars ['a', 'b'])) := Array.getElem?_push_size
  have apart : after.iterators.size ≠ generator := by
    rintro rfl
    simp at busy
  let read := (begun after scope value).put after.iterators.size (.walk (.chars ['b']))
  have found : Iteration.advance (relay scope) limits.steps [inner, middle, outer]
      (Engine.within limits (depth + 3)) (asked machine scope generator inner middle outer) =
        .returned (some (repeated, [after.iterators.size, middle, outer]))
          (bound read scope "y" (letters "a")) := by
    rw [isFuel, Iteration.advance, Run.bind_apply, Run.next, next_noLetter waits.text_asked,
      Outcome.andThen]
    simp only []
    rw [Iteration.advance, Run.bind_apply, Run.next, given]
    change Outcome.andThen _ ((Engine.within limits (depth + 3)).next after.iterators.size
      (begun after scope value)) = _
    rw [next_letter fresh (by decide)]
    rfl
  have others {place : Nat} (old : place ≠ after.iterators.size) :
      (begun after scope value).iterators[place]? = after.iterators[place]? := by
    rw [begun, Array.getElem?_push, if_neg old]
  refine ⟨_, next_of_advance waits.held found, ⟨?_, ?_⟩, fun place notGenerator old => ?_⟩
  · exact Machine.get_put_self ((Machine.get_put_of_ne apart.symm).trans
      ((others apart.symm).trans busy))
  · exact (Machine.get_put_of_ne apart).trans (Machine.get_put_self fresh)
  · exact (Machine.get_put_of_ne notGenerator).trans
      ((Machine.get_put_of_ne old).trans (others old))

/-- Different iterators have different addresses. -/
theorem ne_of_held
    {place other : Nat}
    {first second : Iterator}
    (held : machine.iterators[place]? = some first)
    (otherHeld : machine.iterators[other]? = some second)
    (differ : first ≠ second) :
    place ≠ other := by
  rintro rfl
  exact differ (Option.some.inj (held.symm.trans otherHeld))

/-- A generator with no text left takes a value from the other one, which has some. -/
theorem Waits.takes
    {other otherScope otherInner otherMiddle otherOuter : Nat}
    (waits : Waits machine scope generator inner other outer [])
    (otherWaits : Waits machine otherScope other otherInner otherMiddle otherOuter ['b'])
    (enough : 3 ≤ limits.steps)
    (depth : Nat) :
    ∃ last fresh, (Engine.within limits (depth + 5)).next generator machine =
        .returned (some repeated) last ∧
      Waits last scope generator fresh other outer ['b'] ∧
      Waits last otherScope other otherInner otherMiddle otherOuter [] ∧
      ∀ (place : Nat) (sources : List Nat) (strict : Bool),
        machine.iterators[place]? = some (.walk (.zip sources strict)) →
          last.iterators[place]? = some (.walk (.zip sources strict)) := by
  have textsApart : otherInner ≠ inner := ne_of_held otherWaits.text waits.text (by simp)
  have otherNotInner : other ≠ inner := ne_of_held otherWaits.held waits.text (by simp)
  have textNotGenerator : otherInner ≠ generator := ne_of_held otherWaits.text waits.held (by simp)
  have differ : other ≠ generator := by
    rintro rfl
    cases waits.held.symm.trans otherWaits.held
    exact textsApart rfl
  have unchanged {place : Nat} (notGenerator : place ≠ generator) (notInner : place ≠ inner) :
      ((asked machine scope generator inner other outer).put inner
        (.walk .finished)).iterators[place]? = machine.iterators[place]? :=
    (Machine.get_put_of_ne notInner).trans (Machine.get_put_of_ne notGenerator)
  have stillWaits : Waits ((asked machine scope generator inner other outer).put inner
      (.walk .finished)) otherScope other otherInner otherMiddle otherOuter ['b'] :=
    ⟨(unchanged differ otherNotInner).trans otherWaits.held,
      (unchanged textNotGenerator textsApart).trans otherWaits.text⟩
  obtain ⟨after, given, hasGiven, same⟩ := stillWaits.gives enough depth
  have busy : after.iterators[generator]? =
      some (.generator (relay scope) [inner, other, outer] true) :=
    (same generator differ.symm textNotGenerator.symm).trans
      ((Machine.get_put_of_ne waits.apart.symm).trans (Machine.get_put_self waits.held))
  obtain ⟨last, gives, waitsAgain, others⟩ := waits.asks given busy enough
  have fresh : after.iterators[after.iterators.size]? = none := by simp
  have old {place : Nat} {iterator : Iterator} (held : after.iterators[place]? = some iterator) :
      place ≠ after.iterators.size := by
    rintro rfl
    cases fresh.symm.trans held
  refine ⟨last, after.iterators.size, gives, waitsAgain, ⟨?_, ?_⟩,
    fun place sources strict zip => ?_⟩
  · exact (others other differ (old hasGiven.held)).trans hasGiven.held
  · exact (others otherInner textNotGenerator (old hasGiven.text)).trans hasGiven.text
  · have notGenerator := ne_of_held zip waits.held (by simp)
    have kept := (same place (ne_of_held zip otherWaits.held (by simp))
      (ne_of_held zip otherWaits.text (by simp))).trans
        ((unchanged notGenerator (ne_of_held zip waits.text (by simp))).trans zip)
    exact (others place notGenerator (old kept)).trans kept

/-- Two generators that ask each other: one has no text left, and the other one has some. -/
structure Turning (machine : Machine) : Prop where
  first : ∃ inner, Waits machine 1 1 inner 3 0 []
  second : ∃ inner, Waits machine 2 3 inner 1 2 ['b']
  together : machine.iterators[4]? = some (.walk (.zip [1, 3] false))

/-- A value of the loop does not matter. -/
theorem Turning.bound (turning : Turning machine) (value : Value) :
    Turning (bound machine 0 "p" value) :=
  ⟨turning.first.imp fun _ waits => ⟨waits.held, waits.text⟩,
    turning.second.imp fun _ waits => ⟨waits.held, waits.text⟩, turning.together⟩

theorem next_together
    {last : Machine}
    (together : machine.iterators[4]? = some (.walk (.zip [1, 3] false)))
    (first : (Engine.within limits depth).next 1 machine = .returned (some repeated) after)
    (second : (Engine.within limits depth).next 3 after = .returned (some repeated) last) :
    (Engine.within limits (depth + 1)).next 4 machine =
      .returned (some (.tuple [repeated, repeated] (.own (last.memory.marks + 1))))
        { last with memory := ⟨last.memory.heap, last.memory.marks + 1⟩ } := by
  change Iteration.next 4 _ machine = _
  rw [Iteration.next_of_walk together, Iteration.step]
  · have asks : (Engine.within limits depth).perform (Iteration.oneOfEach false 0 [1, 3]) machine =
        .returned (some [repeated, repeated]) last := by
      change ((Engine.within limits depth).next 1 machine).andThen _ = _
      rw [first]
      change ((Engine.within limits depth).next 3 after).andThen _ = _
      rw [second]
      rfl
    rw [Run.bind_apply, Run.liftM_apply, asks]
    rfl
  · simp

/-- Each of two such generators gives a value, and they are where they were. -/
theorem Turning.next
    (turning : Turning machine)
    (enough : 3 ≤ limits.steps)
    (depth : Nat) :
    ∃ value after,
      (Engine.within limits (depth + 6)).next 4 machine = .returned (some value) after ∧
        Turning after := by
  obtain ⟨⟨inner, first⟩, ⟨otherInner, second⟩, together⟩ := turning
  obtain ⟨middle, fresh, given, hasGiven, taken, zips⟩ := first.takes second enough depth
  obtain ⟨last, fresher, givenNext, hasGivenNext, takenNext, zipsNext⟩ :=
    taken.takes hasGiven enough depth
  have still := zipsNext 4 _ _ (zips 4 _ _ together)
  refine ⟨_, _, next_together together given givenNext, ⟨fresh, ?_⟩, ⟨fresher, ?_⟩, still⟩
  · exact ⟨takenNext.held, takenNext.text⟩
  · exact ⟨hasGivenNext.held, hasGivenNext.text⟩

/-- What the loop does with the values. -/
def circlingPass (value : Value) : Run Flow := do
  Assignment.assign [circlingScope] (.name "p") value
  Execution.runAll [circlingScope] [.pass]

/-- The machine in the loop: where the walks over the two lists stand, the walks and the names of
the two generators, and the iterators behind those of the program. -/
def met (left right : Nat) (walks otherWalks : List Nat) (names otherNames bindings : Bindings)
    (marks : Nat) (buffers : List Iterator) : Machine :=
  ⟨⟨#[.list #[letters "a", .iterator .generator 3], .list #[.iterator .generator 1]], marks⟩,
    #[bindings, names, otherNames],
    List.toArray (.walk (.list 0 left) :: .generator (relay 1) walks false ::
      .walk (.list 1 right) :: .generator (relay 2) otherWalks false ::
        .walk (.zip [1, 3] false) :: buffers)⟩

/-- The machine after the first values. -/
def metOnce (bindings : Bindings) (marks : Nat) : Machine :=
  met 1 1 [6, 5, 0] [7, 1, 2] [("s", letters "a"), ("x", letters "a"), ("y", letters "b")]
    [("s", .iterator .generator 1), ("x", repeated), ("y", letters "a")] bindings marks
      [.walk (.chars []), .walk (.chars []), .walk (.chars ['b'])]

/-- The machines on which the loop takes values. -/
inductive Circling : Machine → Prop
  | start (bindings : Bindings) (marks : Nat) :
      Circling (met 0 0 [0] [2] [] [] bindings marks [])
  | once (bindings : Bindings) (marks : Nat) : Circling (metOnce bindings marks)
  | turning {machine : Machine} (turning : Turning machine) : Circling machine

variable {steps places : Nat}

/-- The first generator has found the text, and the second one the first. -/
theorem next_start (depth : Nat) (bindings : Bindings) (marks : Nat) :
    ∃ value, (Engine.within ⟨steps + 5, some (places + 2)⟩ (depth + 6)).next 4
        (met 0 0 [0] [2] [] [] bindings marks []) =
      .returned (some value) (metOnce bindings (marks + 1)) := by
  have first : (Engine.within ⟨steps + 5, some (places + 2)⟩ (depth + 5)).next 1
      (met 0 0 [0] [2] [] [] bindings marks []) = .returned (some repeated)
        (met 1 0 [6, 5, 0] [2] [("s", letters "a"), ("x", letters "a"), ("y", letters "a")] []
          bindings marks [.walk (.chars []), .walk (.chars ['b'])]) := rfl
  have second : (Engine.within ⟨steps + 5, some (places + 2)⟩ (depth + 5)).next 3
      (met 1 0 [6, 5, 0] [2] [("s", letters "a"), ("x", letters "a"), ("y", letters "a")] []
        bindings marks [.walk (.chars []), .walk (.chars ['b'])]) =
          .returned (some repeated) (metOnce bindings marks) := rfl
  exact ⟨_, next_together rfl first second⟩

/-- The first generator has found the second one, which has found the first. -/
theorem next_once (depth : Nat) (bindings : Bindings) (marks : Nat) :
    ∃ value after, (Engine.within ⟨steps + 5, some (places + 2)⟩ (depth + 6)).next 4
        (metOnce bindings marks) = .returned (some value) after ∧ Turning after := by
  have enough : 3 ≤ (⟨steps + 5, some (places + 2)⟩ : Limits).steps :=
    Nat.le_add_left 3 (steps + 2)
  obtain ⟨after, first, waits, otherWaits, together⟩ : ∃ after,
      (Engine.within ⟨steps + 5, some (places + 2)⟩ (depth + 5)).next 1 (metOnce bindings marks) =
        .returned (some repeated) after ∧ Waits after 1 1 8 3 0 ['b'] ∧
      Waits after 2 3 7 1 2 [] ∧ after.iterators[4]? = some (.walk (.zip [1, 3] false)) :=
    ⟨met 2 1 [8, 3, 0] [7, 1, 2]
      [("s", .iterator .generator 3), ("x", repeated), ("y", letters "a")]
      [("s", .iterator .generator 1), ("x", repeated), ("y", letters "b")] bindings marks
        [.walk .finished, .walk .finished, .walk (.chars []), .walk (.chars ['b'])],
      rfl, ⟨rfl, rfl⟩, ⟨rfl, rfl⟩, rfl⟩
  obtain ⟨last, fresh, given, waitsAgain, hasGiven, zips⟩ := otherWaits.takes waits enough depth
  exact ⟨_, _, next_together rfl first given, ⟨8, hasGiven.held, hasGiven.text⟩,
    ⟨fresh, waitsAgain.held, waitsAgain.text⟩, zips 4 _ _ together⟩

theorem repeatFor_circling
    {machine : Machine}
    (circling : Circling machine)
    (depth : Nat) :
    Execution.repeatFor circlingPass 4
      (Engine.within ⟨steps + 5, some (places + 2)⟩ (depth + 6)) machine = .exhausted := by
  refine repeatFor_endless Circling (fun machine circling => ?_) circling
  have passed (value : Value) (after : Machine) :
      circlingPass value (Engine.within ⟨steps + 5, some (places + 2)⟩ (depth + 6)) after =
        .returned .onward (bound after 0 "p" value) := rfl
  cases circling with
  | start bindings marks =>
      obtain ⟨value, given⟩ := next_start depth bindings marks
      exact ⟨value, _, _, given, passed value _, .once _ _⟩
  | once bindings marks =>
      obtain ⟨value, after, given, turns⟩ := next_once depth bindings marks
      exact ⟨value, _, _, given, passed value after, .turning (turns.bound _)⟩
  | turning turning =>
      have enough : 3 ≤ (⟨steps + 5, some (places + 2)⟩ : Limits).steps :=
        Nat.le_add_left 3 (steps + 2)
      obtain ⟨value, after, given, turns⟩ := turning.next enough depth
      exact ⟨value, _, _, given, passed value after, .turning (turns.bound _)⟩

/-- The names of the program before the loop. -/
def circlingBindings (left right : Value) : Bindings :=
  [("tokenA", left), ("tokenB", right), ("c", .list 0), ("u", .iterator .generator 1)]

/-- The machine on which the first generator was made, and more cells and scopes and iterators. -/
def prepared (left right : Value) (marks : Nat) (cells : Heap) (scopes : Array Bindings)
    (iterators : Array Iterator) : Machine :=
  ⟨⟨cells, marks⟩, #[circlingBindings left right, []] ++ scopes,
    #[.walk (.list 0 0), .generator (relay 1) [0] false] ++ iterators⟩

/-- The machine before the loop. -/
def ready (left right : Value) (marks : Nat) : Machine :=
  prepared left right marks
    #[.list #[letters "a", .iterator .generator 3], .list #[.iterator .generator 1]] #[[]]
    #[.walk (.list 1 0), .generator (relay 2) [2] false]

section

variable {left right : Value} (depth marks : Nat)

theorem evaluate_together :
    Run.evaluate [circlingScope] together
        (.within ⟨steps + 5, some (places + 2)⟩ (depth + 6)) (ready left right marks) =
      .returned (.iterator .zip 4)
        (met 0 0 [0] [2] [] [] (circlingBindings left right) marks []) := by
  have callee : Run.evaluate [circlingScope] (.variable "zip")
      (.within ⟨steps + 5, some (places + 2)⟩ (depth + 5)) (ready left right marks) =
        .returned (.type .zip) (ready left right marks) := rfl
  have given : Evaluation.argumentsOf [circlingScope] (.type .zip)
      [.one (.variable "u"), .one (.subscript (.variable "c") (.constant (.int 1 .common)))] []
      (.within ⟨steps + 5, some (places + 2)⟩ (depth + 5)) (ready left right marks) =
        .returned ([.iterator .generator 1, .iterator .generator 3], [])
          (ready left right marks) := rfl
  have called : (Engine.within ⟨steps + 5, some (places + 2)⟩ (depth + 5)).perform
      (Evaluation.callWith false (.type .zip) [.iterator .generator 1, .iterator .generator 3] [])
      (ready left right marks) = .returned (.iterator .zip 4)
        (met 0 0 [0] [2] [] [] (circlingBindings left right) marks []) := rfl
  rw [evaluate_within, together, Evaluation.evaluate, Run.bind_apply, callee, Outcome.andThen,
    Evaluation.call, Run.bind_apply, given]
  exact called

theorem evaluate_secondRelay :
    Run.evaluate [circlingScope] secondRelay
        (.within ⟨steps + 5, some (places + 2)⟩ (depth + 6))
        (prepared left right marks #[.list #[letters "a"]] #[] #[]) =
      .returned (.tuple [.iterator .generator 3] (.own (marks + 1)))
        (prepared left right (marks + 1)
          #[.list #[letters "a"], .list #[.iterator .generator 1]] #[[]]
          #[.walk (.list 1 0), .generator (relay 2) [2] false]) := by
  have made : Work.newList #[.iterator .generator 1] = _ := newList_one rfl
  have listed : Run.evaluate [circlingScope] (.list [.one (.variable "u")])
      (.within ⟨steps + 5, some (places + 2)⟩ (depth + 4))
      (prepared left right marks #[.list #[letters "a"]] #[] #[]) =
        .returned (.list 1) (prepared left right marks
          #[.list #[letters "a"], .list #[.iterator .generator 1]] #[] #[]) := by
    change Engine.perform _ (Work.newList #[.iterator .generator 1]) _ = _
    rw [made]
    rfl
  have relays : Run.evaluate [circlingScope] (relayOf (.list [.one (.variable "u")]))
      (.within ⟨steps + 5, some (places + 2)⟩ (depth + 5))
      (prepared left right marks #[.list #[letters "a"]] #[] #[]) =
        .returned (.iterator .generator 3) (prepared left right marks
          #[.list #[letters "a"], .list #[.iterator .generator 1]] #[[]]
          #[.walk (.list 1 0), .generator (relay 2) [2] false]) := by
    rw [evaluate_within, relayOf, Evaluation.evaluate, Run.bind_apply, listed, Outcome.andThen]
    rfl
  rw [evaluate_within, secondRelay, Evaluation.evaluate, Run.bind_apply, Evaluation.itemsOf,
    Evaluation.itemsFrom, Run.bind_apply, relays]
  rfl

theorem run_circle :
    run circle left right (.within ⟨steps + 5, some (places + 2)⟩ (depth + 6))
      ⟨⟨#[], marks⟩, #[], #[]⟩ = .exhausted := by
  have begins : Execution.run [circlingScope]
      (.assign [.name "c"] (.list [.one (.constant (letters "a"))]))
      (.within ⟨steps + 5, some (places + 2)⟩ (depth + 6)) (.started left right ⟨#[], marks⟩) =
        .returned .onward ⟨⟨#[.list #[letters "a"]], marks⟩,
          #[[("tokenA", left), ("tokenB", right), ("c", .list 0)]], #[]⟩ := by
    have made : Work.newList #[letters "a"] = _ := newList_one rfl
    have listed : Run.evaluate [circlingScope] (.list [.one (.constant (letters "a"))])
        (.within ⟨steps + 5, some (places + 2)⟩ (depth + 6)) (.started left right ⟨#[], marks⟩) =
          .returned (.list 0) (.started left right ⟨#[.list #[letters "a"]], marks⟩) := by
      change Engine.perform _ (Work.newList #[letters "a"]) _ = _
      rw [made]
      rfl
    rw [Execution.run, Run.bind_apply, listed]
    rfl
  have first : Execution.run [circlingScope] (.assign [.name "u"] (relayOf (.variable "c")))
      (.within ⟨steps + 5, some (places + 2)⟩ (depth + 6))
      ⟨⟨#[.list #[letters "a"]], marks⟩,
        #[[("tokenA", left), ("tokenB", right), ("c", .list 0)]], #[]⟩ =
          .returned .onward (prepared left right marks #[.list #[letters "a"]] #[] #[]) := rfl
  have second : Execution.run [circlingScope] (.augment (.name "c") .add secondRelay)
      (.within ⟨steps + 5, some (places + 2)⟩ (depth + 6))
      (prepared left right marks #[.list #[letters "a"]] #[] #[]) =
        .returned .onward (ready left right (marks + 1)) := by
    have held : Environment.value [circlingScope] "c"
        (.within ⟨steps + 5, some (places + 2)⟩ (depth + 6))
        (prepared left right marks #[.list #[letters "a"]] #[] #[]) =
          .returned (.list 0) (prepared left right marks #[.list #[letters "a"]] #[] #[]) := rfl
    rw [Execution.run, Run.bind_apply, Assignment.augment, Run.bind_apply, held, Outcome.andThen,
      Run.bind_apply, evaluate_secondRelay, Outcome.andThen]
    rfl
  have looped : Execution.run [circlingScope] (.loop (.name "p") together [.pass] [])
      (.within ⟨steps + 5, some (places + 2)⟩ (depth + 6)) (ready left right (marks + 1)) =
        .exhausted := by
    have walked (machine : Machine) :
        (Engine.within ⟨steps + 5, some (places + 2)⟩ (depth + 6)).perform
          (Work.iterator (.iterator .zip 4)) machine = .returned 4 machine := rfl
    have endless : Execution.repeatFor circlingPass 4
        (.within ⟨steps + 5, some (places + 2)⟩ (depth + 6))
        (met 0 0 [0] [2] [] [] (circlingBindings left right) (marks + 1) []) = .exhausted :=
      repeatFor_circling (.start _ _) depth
    rw [Execution.run, Run.bind_apply, evaluate_together, Outcome.andThen, Run.bind_apply,
      Run.liftM_apply, walked, Outcome.andThen, Run.bind_apply]
    unfold circlingPass at endless
    rw [endless]
    rfl
  have ran : Execution.runAll [circlingScope] circle
      (.within ⟨steps + 5, some (places + 2)⟩ (depth + 6)) (.started left right ⟨#[], marks⟩) =
        .exhausted := by
    simp only [circle, Execution.runAll, Run.bind_apply, begins, first, second, Outcome.andThen,
      looped]
  change (Execution.runAll [circlingScope] circle
    (.within ⟨steps + 5, some (places + 2)⟩ (depth + 6))
    (.started left right ⟨#[], marks⟩)).andThen _ = _
  rw [ran, Outcome.andThen]

end

end

/-! ## Endings -/

/-- Within any bounds on the levels of calls and on how far lists and sets are walked, the predicate
of an accepted body whose generators have a single source ends on any two texts, with one outcome
for all large numbers of steps: a value or a fault.  If no bound was met, it ends so without the
bounds, too. -/
theorem ends_or_meets_limit
    {body : List Char}
    {program : List Statement}
    (_compiled : compile body = .ok program)
    (single : ∀ statement ∈ program, statement.Obeys .single)
    (first second : String)
    (depth places : Nat) :
    ∃ outcome : Outcome (Value × Value × Value), outcome ≠ .exhausted ∧
      ∃ enough, ∀ steps ≥ enough,
        Verdict.outcomeWith (.within ⟨steps, some places⟩ depth) program (.str first)
          (.str second) = outcome ∧
        (outcome.MeetsLimit ∨ ∀ deeper ≥ depth,
          Verdict.outcomeWith (.within ⟨steps, none⟩ deeper) program (.str first)
            (.str second) = outcome) := by
  obtain ⟨left, right, marks, runs⟩ := exists_outcomeWith_eq program first second
  have started : Machine.Single ⟨⟨#[], marks⟩, #[], #[]⟩ := by simp [Machine.Single]
  obtain ⟨outcome, ends, enough, settled⟩ := Settles.andThen
    (run_settles single left right places _ _ (Engine.within_settle places depth) started)
    fun value after _ => (Settles.returned trivial : Settles
      (fun _ => .returned (value, left, right) after) fun _ _ => True)
  refine ⟨outcome, ?_, enough, fun steps large => ?_⟩
  · rintro rfl
    exact ends
  · have bounded := (runs (.within ⟨steps, some places⟩ depth)).trans (settled steps large)
    refine ⟨bounded, or_iff_not_imp_left.mpr fun within deeper levels => ?_⟩
    have foretold : Outcome.Foretells
        (Verdict.outcomeWith (.within ⟨steps, some places⟩ depth) program (.str first)
          (.str second))
        (Verdict.outcomeWith (.within ⟨steps, none⟩ deeper) program (.str first)
          (.str second)) := by
      rw [runs, runs]
      exact (run_foretells program left right _ _ _
        (Engine.within_foretells steps places levels)).andThen fun _ _ => .refl _
    rw [bounded] at foretold
    exact foretold.resolve_left within

/-- The predicate of a list that grows ends as soon as there is a bound, and only by meeting it. -/
theorem growing_meets_limit :
    ∃ program, compile growing = .ok program ∧
      (∀ statement ∈ program, statement.Obeys .single) ∧
      ∃ outcome : Outcome (Value × Value × Value), outcome.MeetsLimit ∧
        ∃ enough, ∀ steps ≥ enough,
          Verdict.outcomeWith (.within ⟨steps, some 100⟩ 10) program (.str "0") (.str "1") =
            outcome := by
  obtain ⟨outcome, ends, enough, settled⟩ :=
    ends_or_meets_limit compile_growing growth_obeys "0" "1" 10 100
  refine ⟨growth, compile_growing, growth_obeys, outcome, ?_, enough,
    fun steps large => (settled steps large).1⟩
  refine (settled enough (Nat.le_refl enough)).2.resolve_right fun same => ends ?_
  obtain ⟨left, right, marks, runs⟩ := exists_outcomeWith_eq growth "0" "1"
  rw [← same 10 (Nat.le_refl 10), runs, run_growth, Outcome.andThen]

/-- Two bodies are accepted, but their predicates end on no two texts, however many steps and levels
of calls there are: the list of the one grows without bounds, and the generators of the other one,
which have three sources each, need only two places of a list. -/
theorem growing_and_circling_never_end :
    (∃ program, compile growing = .ok program ∧
      ∀ (first second : String), ∀ depth ≥ 4, ∀ steps,
        Verdict.outcomeWith (.within ⟨steps, none⟩ depth) program (.str first) (.str second) =
          .exhausted) ∧
      ∃ program, compile circling = .ok program ∧
        ∀ (first second : String), ∀ depth ≥ 6, ∀ places ≥ 2, ∀ steps ≥ 5,
          Verdict.outcomeWith (.within ⟨steps, some places⟩ depth) program (.str first)
            (.str second) = .exhausted := by
  refine ⟨⟨growth, compile_growing, fun first second depth deep steps => ?_⟩,
    ⟨circle, compile_circling, fun first second depth deep places wide steps enough => ?_⟩⟩
  · obtain ⟨left, right, marks, runs⟩ := exists_outcomeWith_eq growth first second
    obtain ⟨depth, rfl⟩ := Nat.exists_eq_add_of_le' deep
    rw [runs, run_growth, Outcome.andThen]
  · obtain ⟨left, right, marks, runs⟩ := exists_outcomeWith_eq circle first second
    obtain ⟨depth, rfl⟩ := Nat.exists_eq_add_of_le' deep
    obtain ⟨places, rfl⟩ := Nat.exists_eq_add_of_le' wide
    obtain ⟨steps, rfl⟩ := Nat.exists_eq_add_of_le' enough
    rw [runs, run_circle, Outcome.andThen]

end Definition
end Predicate
end Wordbook
