import Wordbook.Predicate.Execution
import Wordbook.Proofs.Predicate.Scoping

/-!
# Disciplines of runs

A discipline is a property of runs that is closed under what the interpreter makes of them: doing
nothing, doing one thing after another, going through an iterator, and asking the engine for the
values of expressions that obey a policy.  It also has a property of environments, which the scopes
of comprehensions must not break.

Every part of the interpreter that runs a piece of a program keeps to all disciplines for the
policies that the piece obeys.  What a certain discipline is about does not matter here.
-/

namespace Wordbook
namespace Predicate

/-- The parts of a comprehension obey a policy. -/
structure Comprehension.Obeys (policy : Policy) (code : Comprehension) : Prop where
  made : code.element.Obeys policy
  paired : ∀ second ∈ code.value, second.Obeys policy
  bound : code.target.Obeys policy
  tested : ∀ test ∈ code.tests, test.Obeys policy
  later : ∀ clause ∈ code.more, clause.Obeys policy

/-- A property of runs that is kept by the interpreter on programs that obey a policy. -/
structure Discipline (policy : Policy) where
  /-- The runs of the discipline. -/
  Keeps : {Result : Type} → Run Result → Prop
  /-- The environments that its code may stand in. -/
  Grounded : Environment → Prop
  pure : ∀ {Result : Type} (result : Result), Keeps (Pure.pure result : Run Result)
  bind : ∀ {First Second : Type} {run : Run First} {next : First → Run Second},
    Keeps run → (∀ result, Keeps (next result)) → Keeps (run >>= next)
  work : ∀ {Result : Type} (work : Work Result), Keeps (liftM work : Run Result)
  fold : ∀ {State : Type} (iterator : Nat) (start : State)
    {step : State → Value → Run (Bool × State)},
      (∀ state value, Keeps (step state value)) → Keeps (Run.fold iterator start step)
  evaluate : ∀ {environment : Environment} {value : Expr},
    Grounded environment → value.Obeys policy → Keeps (Run.evaluate environment value)
  readable : ∀ {name : String}, policy.assigns name → policy.reads name
  read : ∀ {environment : Environment} {name : String},
    Grounded environment → policy.reads name → Keeps (environment.value name)
  assign : ∀ {environment : Environment} {name : String} (value : Value),
    Grounded environment → policy.assigns name → Keeps (environment.bind name value)
  newScope : ∀ start : Bindings, Keeps (Run.newScope start)
  enter : ∀ {environment : Environment} {scope : Scope},
    (∀ name ∈ scope.names, policy.assigns name) → Grounded environment →
      Grounded (scope :: environment)
  generator : ∀ {code : Comprehension} (iterator : Nat),
    Grounded code.environment → code.Obeys policy → policy.generates code.more →
      Keeps (Run.newIterator (.generator code [iterator] false))

variable {policy : Policy} {rules : Discipline policy} {environment : Environment}

/-! ## How runs are put together -/

section

variable {First Second Third Result : Type}

theorem Outcome.andThen_assoc
    (outcome : Outcome First)
    (second : First → Machine → Outcome Second)
    (third : Second → Machine → Outcome Third) :
    (outcome.andThen second).andThen third =
      outcome.andThen fun result machine => (second result machine).andThen third := by
  cases outcome <;> rfl

theorem Outcome.andThen_congr
    {outcome : Outcome First}
    {next other : First → Machine → Outcome Second}
    (same : ∀ result machine, next result machine = other result machine) :
    outcome.andThen next = outcome.andThen other := by
  cases outcome with
  | returned result machine => exact same result machine
  | stopped => rfl
  | exhausted => rfl

theorem Run.bind_apply
    (run : Run First)
    (next : First → Run Second)
    (engine : Engine)
    (machine : Machine) :
    (run >>= next) engine machine =
      (run engine machine).andThen fun result after => next result engine after := rfl

theorem Run.liftM_apply (work : Work Result) (engine : Engine) (machine : Machine) :
    (liftM work : Run Result) engine machine = engine.perform work machine := rfl

theorem Run.pure_apply (result : Result) (engine : Engine) (machine : Machine) :
    (pure result : Run Result) engine machine = .returned result machine := rfl

instance : LawfulMonad Run :=
  LawfulMonad.mk' Run
    (fun run => by
      funext engine machine
      change (run engine machine).andThen (fun result after => .returned result after) = _
      cases run engine machine <;> rfl)
    (fun _ _ => rfl)
    (fun first second third => by
      funext engine machine
      exact Outcome.andThen_assoc _ _ _)

end

namespace Discipline

variable {First Second : Type}

/-- A run and a last step that cannot fail. -/
theorem andPure
    {run : Run First}
    (make : First → Second)
    (first : rules.Keeps run) :
    rules.Keeps (do return make (← run)) :=
  rules.bind first fun result => rules.pure (make result)

theorem mapM
    {items : List First}
    {run : First → Run Second}
    (each : ∀ item ∈ items, rules.Keeps (run item)) :
    rules.Keeps (items.mapM run) := by
  induction items with
  | nil =>
      rw [List.mapM_nil]
      exact rules.pure []
  | cons item items inductionHypothesis =>
      obtain ⟨first, others⟩ := List.forall_mem_cons.mp each
      rw [List.mapM_cons]
      exact rules.bind first fun _ => andPure _ (inductionHypothesis others)

/-- A loop over a list. -/
theorem forIn
    {items : List First}
    {body : First → Second → Run (ForInStep Second)}
    (each : ∀ item ∈ items, ∀ state, rules.Keeps (body item state))
    (state : Second) :
    rules.Keeps (ForIn.forIn items state body) := by
  induction items generalizing state with
  | nil => exact rules.pure state
  | cons item items inductionHypothesis =>
      obtain ⟨first, others⟩ := List.forall_mem_cons.mp each
      rw [List.forIn_cons]
      refine rules.bind (first state) fun step => ?_
      cases step with
      | done last => exact rules.pure last
      | yield next => exact inductionHypothesis others next

theorem next (iterator : Nat) : rules.Keeps (Run.next iterator) := by
  have asks : Run.next iterator = (liftM (Work.next iterator) : Run (Option Value)) := by
    funext engine machine
    change _ = (engine.next iterator machine).andThen fun value after => .returned value after
    cases ends : engine.next iterator machine <;> simp only [Run.next, ends, Outcome.andThen]
  rw [asks]
  exact rules.work _

end Discipline

/-! ## Assignment -/

namespace Assignment

mutual

theorem assign_keeps
    (grounded : rules.Grounded environment) :
    {target : Target} → target.Obeys policy → (value : Value) →
      rules.Keeps (assign environment target value)
  | .name name, .name isAssigned, value => by
      rw [assign]
      exact rules.assign value grounded isAssigned
  | .attribute owner name, .attribute ownerScoped, value => by
      rw [assign]
      exact rules.bind (rules.evaluate grounded ownerScoped) fun _ => rules.work _
  | .subscript container index, .subscript first second, value => by
      rw [assign]
      refine rules.bind (rules.evaluate grounded first) fun _ => ?_
      exact rules.bind (rules.evaluate grounded second) fun _ => rules.work _
  | .exactly targets, .exactly each, value => by
      rw [assign]
      exact rules.bind (rules.work _) fun values => assignEach_keeps grounded each values
  | .atLeast first rest last, .atLeast before between after, value => by
      rw [assign]
      refine rules.bind (rules.work _) fun ⟨firsts, rests, lasts⟩ => ?_
      refine rules.bind (assignEach_keeps grounded before firsts) fun _ => ?_
      refine rules.bind (rules.work _) fun list => ?_
      refine rules.bind (assign_keeps grounded between list) fun _ => ?_
      exact assignEach_keeps grounded after lasts

theorem assignEach_keeps
    (grounded : rules.Grounded environment) :
    {targets : List Target} → (∀ target ∈ targets, target.Obeys policy) →
      (values : List Value) → rules.Keeps (assignEach environment targets values)
  | [], _, _ => by
      rw [assignEach]
      · exact rules.pure ()
      · simp
  | target :: targets, each, [] => by
      rw [assignEach]
      · exact rules.pure ()
      · simp
  | target :: targets, each, value :: values => by
      obtain ⟨first, others⟩ := List.forall_mem_cons.mp each
      rw [assignEach]
      refine rules.bind (assign_keeps grounded first value) fun _ => ?_
      exact assignEach_keeps grounded others values

end

theorem augment_keeps
    (grounded : rules.Grounded environment)
    {target : Target}
    {operand : Expr}
    (op : BinaryOp)
    (bound : target.Obeys policy)
    (given : operand.Obeys policy) :
    rules.Keeps (augment environment target op operand) := by
  unfold augment
  cases bound with
  | @name name isAssigned =>
      refine rules.bind (rules.read grounded (rules.readable isAssigned)) fun _ => ?_
      refine rules.bind (rules.evaluate grounded given) fun _ => ?_
      exact rules.bind (rules.work _) fun value => rules.assign value grounded isAssigned
  | «attribute» owner =>
      refine rules.bind (rules.evaluate grounded owner) fun _ => ?_
      refine rules.bind (rules.work _) fun _ => ?_
      refine rules.bind (rules.evaluate grounded given) fun _ => ?_
      exact rules.bind (rules.work _) fun _ => rules.work _
  | subscript container key =>
      refine rules.bind (rules.evaluate grounded container) fun _ => ?_
      refine rules.bind (rules.evaluate grounded key) fun _ => ?_
      refine rules.bind (rules.work _) fun _ => ?_
      refine rules.bind (rules.evaluate grounded given) fun _ => ?_
      exact rules.bind (rules.work _) fun _ => rules.work _
  | exactly => exact rules.pure ()
  | atLeast => exact rules.pure ()

end Assignment

/-! ## Comprehensions -/

namespace Comprehension

theorem passes_keeps
    (grounded : rules.Grounded environment)
    {tests : List Expr}
    (each : ∀ test ∈ tests, test.Obeys policy) :
    rules.Keeps (passes environment tests) := by
  induction tests with
  | nil => exact rules.pure true
  | cons test tests inductionHypothesis =>
      obtain ⟨first, others⟩ := List.forall_mem_cons.mp each
      refine rules.bind (rules.evaluate grounded first) fun _ => ?_
      refine rules.bind (rules.work _) fun _ => ?_
      split
      · exact inductionHypothesis others
      · exact rules.pure false

section

variable {State : Type} {code : Comprehension}

theorem made_keeps
    (around : rules.Grounded code.environment)
    (obeys : code.Obeys policy) :
    rules.Keeps code.made := by
  refine rules.bind (rules.evaluate around obeys.made) fun _ => ?_
  split
  case h_1 => exact rules.pure _
  case h_2 second isSecond =>
    exact Discipline.andPure _ (rules.evaluate around (obeys.paired second isSecond))

theorem through_keeps
    (grounded : rules.Grounded environment)
    {target : Target}
    {tests : List Expr}
    (bound : target.Obeys policy)
    (tested : ∀ test ∈ tests, test.Obeys policy)
    {action : State → Run State}
    (keeps : ∀ state, rules.Keeps (action state))
    (iterator : Nat)
    (start : State) :
    rules.Keeps (through environment target tests action iterator start) := by
  refine rules.fold iterator start fun state value => ?_
  refine rules.bind (Assignment.assign_keeps grounded bound value) fun _ => ?_
  refine rules.bind (passes_keeps grounded tested) fun _ => ?_
  split
  · exact Discipline.andPure _ (keeps state)
  · exact rules.pure _

theorem gatherFrom_keeps
    (around : rules.Grounded code.environment)
    (obeys : code.Obeys policy)
    (add : State → Value → Work State)
    {more : List Clause}
    {target : Target}
    {tests : List Expr}
    (later : ∀ clause ∈ more, clause.Obeys policy)
    (bound : target.Obeys policy)
    (tested : ∀ test ∈ tests, test.Obeys policy)
    (iterator : Nat)
    (start : State) :
    rules.Keeps (gatherFrom code add more target tests iterator start) := by
  induction more generalizing target tests iterator start with
  | nil =>
      refine through_keeps around bound tested (fun state => ?_) iterator start
      refine rules.bind (made_keeps around obeys) fun _ => ?_
      exact rules.bind (rules.work _) fun _ => rules.work _
  | cons clause more inductionHypothesis =>
      obtain ⟨⟨first, inner, further⟩, others⟩ := List.forall_mem_cons.mp later
      refine through_keeps around bound tested (fun state => ?_) iterator start
      refine rules.bind (rules.evaluate around first) fun _ => ?_
      exact rules.bind (rules.work _) fun walk =>
        inductionHypothesis others inner further walk state

theorem gather_keeps
    (around : rules.Grounded code.environment)
    (obeys : code.Obeys policy)
    (iterator : Nat)
    (start : State)
    (add : State → Value → Work State) :
    rules.Keeps (code.gather iterator start add) :=
  gatherFrom_keeps around obeys add obeys.later obeys.bound obeys.tested iterator start

theorem collect_keeps
    {collector : Collector}
    (around : rules.Grounded code.environment)
    (obeys : code.Obeys policy)
    (allowed : collector = .generator → policy.generates code.more)
    (iterator : Nat) :
    rules.Keeps (code.collect collector iterator) := by
  cases collector with
  | generator => exact Discipline.andPure _ (rules.generator iterator around obeys (allowed rfl))
  | list => exact rules.bind (gather_keeps around obeys iterator _ _) fun _ => rules.work _
  | set =>
      refine rules.bind (rules.work _) fun _ => ?_
      exact rules.bind (gather_keeps around obeys iterator _ _) fun _ => rules.pure _
  | dict =>
      refine rules.bind (rules.work _) fun _ => ?_
      exact rules.bind (gather_keeps around obeys iterator _ _) fun _ => rules.pure _

end

end Comprehension

/-! ## Evaluation -/

namespace Evaluation

theorem itemsFrom_keeps
    (grounded : rules.Grounded environment)
    (found : Array Value)
    {items : List Item}
    (each : ∀ item ∈ items, item.Obeys policy) :
    rules.Keeps (itemsFrom environment found items) := by
  induction items generalizing found with
  | nil => exact rules.pure found
  | cons item items inductionHypothesis =>
      obtain ⟨first, others⟩ := List.forall_mem_cons.mp each
      cases first with
      | one given =>
          exact rules.bind (rules.evaluate grounded given) fun _ => inductionHypothesis _ others
      | spread given =>
          refine rules.bind (rules.evaluate grounded given) fun _ => ?_
          exact rules.bind (rules.work _) fun _ => inductionHypothesis _ others

theorem addItems_keeps
    (grounded : rules.Grounded environment)
    (address : Nat)
    {items : List Item}
    (each : ∀ item ∈ items, item.Obeys policy) :
    rules.Keeps (addItems environment address items) := by
  induction items with
  | nil => exact rules.pure ()
  | cons item items inductionHypothesis =>
      obtain ⟨first, others⟩ := List.forall_mem_cons.mp each
      cases first with
      | one given =>
          refine rules.bind (rules.evaluate grounded given) fun _ => ?_
          exact rules.bind (rules.work _) fun _ => inductionHypothesis others
      | spread given =>
          refine rules.bind (rules.evaluate grounded given) fun _ => ?_
          exact rules.bind (rules.work _) fun _ => inductionHypothesis others

theorem setOf_keeps
    (grounded : rules.Grounded environment)
    {items : List Item}
    (each : ∀ item ∈ items, item.Obeys policy) :
    rules.Keeps (setOf environment items) := by
  have firstScoped : ∀ item ∈ (if items.length > batchLength then [] else
      items.takeWhile Item.isOne), item.Obeys policy := by
    intro item isFirst
    split at isFirst
    · cases isFirst
    · exact each item (List.takeWhile_subset _ isFirst)
  refine rules.bind (itemsFrom_keeps grounded #[] firstScoped) fun _ => ?_
  refine rules.bind (rules.work _) fun address => ?_
  exact rules.bind (addItems_keeps grounded address fun item isLater =>
    each item (List.drop_subset _ _ isLater)) fun _ => rules.pure _

/-- The pairs at the start of a display keep to the names of the display. -/
theorem leadingPairs_obey
    {pairs : List Pair}
    (each : ∀ pair ∈ pairs, pair.Obeys policy) :
    ∀ pair ∈ leadingPairs pairs, pair.1.Obeys policy ∧ pair.2.Obeys policy := by
  induction pairs with
  | nil => simp [leadingPairs]
  | cons pair pairs inductionHypothesis =>
      obtain ⟨first, others⟩ := List.forall_mem_cons.mp each
      cases first with
      | one key value =>
          exact List.forall_mem_cons.mpr ⟨⟨key, value⟩, inductionHypothesis others⟩
      | spread => simp [leadingPairs]

/-- A batch of a display takes a pair at least. -/
theorem length_batch_pos
    {pairs : List Pair}
    (notEmpty : pairs ≠ [])
    (notSpread : ∀ value rest, pairs ≠ .spread value :: rest) :
    0 < ((leadingPairs pairs).take (batchLength / 2 + 2)).length := by
  match pairs, notEmpty, notSpread with
  | .one key value :: rest, _, _ => simp [leadingPairs, batchLength]
  | .spread value :: rest, _, notSpread => exact absurd rfl (notSpread value rest)

theorem dictTogether_keeps
    (grounded : rules.Grounded environment)
    {pairs : List (Expr × Expr)}
    (each : ∀ pair ∈ pairs, pair.1.Obeys policy ∧ pair.2.Obeys policy) :
    rules.Keeps (dictTogether environment pairs) := by
  refine rules.bind (Discipline.mapM fun pair isPair => ?_) fun _ => rules.work _
  obtain ⟨key, value⟩ := each pair isPair
  exact rules.bind (rules.evaluate grounded key) fun _ =>
    Discipline.andPure _ (rules.evaluate grounded value)

theorem dictSingly_keeps
    (grounded : rules.Grounded environment)
    {pairs : List (Expr × Expr)}
    (each : ∀ pair ∈ pairs, pair.1.Obeys policy ∧ pair.2.Obeys policy) :
    rules.Keeps (dictSingly environment pairs) := by
  refine rules.bind (rules.work _) fun address => ?_
  refine rules.bind (Discipline.forIn (fun pair isPair _ => ?_) _) fun _ => rules.pure address
  obtain ⟨key, value⟩ := each pair isPair
  refine rules.bind (rules.evaluate grounded key) fun _ => ?_
  refine rules.bind (rules.evaluate grounded value) fun _ => ?_
  exact rules.bind (rules.work _) fun _ => rules.pure _

theorem dictOf_keeps
    (grounded : rules.Grounded environment)
    {pairs : List (Expr × Expr)}
    (each : ∀ pair ∈ pairs, pair.1.Obeys policy ∧ pair.2.Obeys policy) :
    rules.Keeps (dictOf environment pairs) := by
  unfold dictOf
  split
  · exact dictSingly_keeps grounded each
  · exact dictTogether_keeps grounded each

/-- The batches of a display get shorter, so there are no more of them than pairs. -/
theorem dictFrom_keeps
    (grounded : rules.Grounded environment)
    (fuel : Nat)
    (found : Option Nat)
    {pairs : List Pair}
    (each : ∀ pair ∈ pairs, pair.Obeys policy)
    (enough : pairs.length < fuel) :
    rules.Keeps (dictFrom environment fuel found pairs) := by
  fun_induction dictFrom environment fuel found pairs with
  | case1 => exact absurd enough (Nat.not_lt_zero _)
  | case2 => exact rules.work _
  | case3 found fuel value pairs inductionHypothesis =>
      obtain ⟨first, others⟩ := List.forall_mem_cons.mp each
      have enough := Nat.lt_of_succ_lt_succ enough
      cases first with
      | spread given =>
          refine rules.bind (rules.work _) fun address => ?_
          refine rules.bind (rules.evaluate grounded given) fun _ => ?_
          exact rules.bind (rules.work _) fun _ => inductionHypothesis address others enough
  | case4 fuel found pairs notEmpty notSpread batch inductionHypothesis =>
      have leading := leadingPairs_obey each
      have shorter : (pairs.drop batch.length).length < fuel := by
        have taken : 0 < batch.length := length_batch_pos notEmpty notSpread
        have present : 0 < pairs.length := List.length_pos_iff.mpr notEmpty
        rw [List.length_drop]
        omega
      refine rules.bind (dictOf_keeps grounded fun pair isPair =>
        leading pair (List.take_subset _ _ isPair)) fun _ => ?_
      exact rules.bind (rules.work _) fun address => inductionHypothesis address
        (fun pair isLater => each pair (List.drop_subset _ _ isLater)) shorter

theorem namedFrom_keeps
    (grounded : rules.Grounded environment)
    (callee : Value)
    (found waiting : List (Value × Value))
    {keywords : List Keyword}
    (each : ∀ keyword ∈ keywords, keyword.Obeys policy) :
    rules.Keeps (namedFrom environment callee found waiting keywords) := by
  induction keywords generalizing found waiting with
  | nil => exact rules.work _
  | cons keyword keywords inductionHypothesis =>
      obtain ⟨first, others⟩ := List.forall_mem_cons.mp each
      cases first with
      | one given =>
          exact rules.bind (rules.evaluate grounded given) fun _ => inductionHypothesis _ _ others
      | spread given =>
          refine rules.bind (rules.work _) fun _ => ?_
          refine rules.bind (rules.evaluate grounded given) fun other => ?_
          split
          · refine rules.bind (rules.work _) fun _ => ?_
            exact rules.bind (rules.work _) fun _ => inductionHypothesis _ _ others
          · exact rules.bind (rules.work _) fun _ => rules.work _

theorem argumentsOf_keeps
    (grounded : rules.Grounded environment)
    (callee : Value)
    {items : List Item}
    {keywords : List Keyword}
    (plain : ∀ item ∈ items, item.Obeys policy)
    (named : ∀ keyword ∈ keywords, keyword.Obeys policy) :
    rules.Keeps (argumentsOf environment callee items keywords) := by
  have pairs := namedFrom_keeps grounded callee [] [] named
  unfold argumentsOf
  split
  case h_1 only =>
    cases plain (.spread only) List.mem_cons_self with
    | spread given =>
        refine rules.bind (rules.evaluate grounded given) fun _ => ?_
        exact rules.bind pairs fun _ => Discipline.andPure _ (rules.work _)
  case h_2 =>
    exact rules.bind (itemsFrom_keeps grounded #[] plain) fun _ => Discipline.andPure _ pairs

theorem call_keeps
    (grounded : rules.Grounded environment)
    (direct : Bool)
    (callee : Value)
    {items : List Item}
    {keywords : List Keyword}
    (plain : ∀ item ∈ items, item.Obeys policy)
    (named : ∀ keyword ∈ keywords, keyword.Obeys policy) :
    rules.Keeps (call environment direct callee items keywords) :=
  rules.bind (argumentsOf_keeps grounded callee plain named) fun _ => rules.work _

theorem untilDecided_keeps
    (grounded : rules.Grounded environment)
    (wanted : Bool)
    {values : List Expr}
    (each : ∀ value ∈ values, value.Obeys policy) :
    rules.Keeps (untilDecided environment wanted values) := by
  fun_induction untilDecided environment wanted values with
  | case1 => exact rules.pure _
  | case2 last => exact rules.evaluate grounded (each last (by simp))
  | case3 value values _ inductionHypothesis =>
      obtain ⟨first, others⟩ := List.forall_mem_cons.mp each
      refine rules.bind (rules.evaluate grounded first) fun _ => ?_
      refine rules.bind (rules.work _) fun _ => ?_
      split
      · exact rules.pure _
      · exact inductionHypothesis others

theorem chain_keeps
    (grounded : rules.Grounded environment)
    (left : Value)
    {links : List Link}
    (each : ∀ link ∈ links, link.Obeys policy) :
    rules.Keeps (chain environment left links) := by
  induction links generalizing left with
  | nil => exact rules.pure true
  | cons link links inductionHypothesis =>
      obtain ⟨⟨first⟩, others⟩ := List.forall_mem_cons.mp each
      refine rules.bind (rules.evaluate grounded first) fun second => ?_
      refine rules.bind (rules.work _) fun _ => ?_
      split
      · exact inductionHypothesis second others
      · exact rules.pure false

theorem optional_keeps
    (grounded : rules.Grounded environment)
    {value : Option Expr}
    (given : ∀ found ∈ value, found.Obeys policy) :
    rules.Keeps (optional environment value) := by
  cases value with
  | none => exact rules.pure _
  | some value => exact rules.evaluate grounded (given value rfl)

theorem joinPieces_keeps
    (grounded : rules.Grounded environment)
    (found : String)
    {pieces : List Expr}
    (each : ∀ piece ∈ pieces, piece.Obeys policy) :
    rules.Keeps (joinPieces environment found pieces) := by
  induction pieces generalizing found with
  | nil => exact rules.pure found
  | cons piece pieces inductionHypothesis =>
      obtain ⟨first, others⟩ := List.forall_mem_cons.mp each
      refine rules.bind (rules.evaluate grounded first) fun value => ?_
      split
      · exact inductionHypothesis _ others
      · exact inductionHypothesis _ others

/-- The scope of a comprehension is one that its code may stand in. -/
theorem comprehension_grounded
    (grounded : rules.Grounded environment)
    {target : Target}
    {more : List Clause}
    (bound : target.Obeys policy)
    (later : ∀ clause ∈ more, clause.Obeys policy)
    (address : Nat) :
    rules.Grounded (⟨target.names ++ more.flatMap Clause.names, address⟩ :: environment) := by
  refine rules.enter (fun name isName => ?_) grounded
  rcases List.mem_append.mp isName with isName | isName
  · exact bound.names_assigned name isName
  · obtain ⟨clause, isClause, isName⟩ := List.mem_flatMap.mp isName
    exact (later clause isClause).names_assigned name isName

theorem evaluate_keeps
    (grounded : rules.Grounded environment)
    {value : Expr}
    (obeys : value.Obeys policy) :
    rules.Keeps (evaluate environment value) := by
  cases obeys with
  | constant value => exact rules.pure value
  | «variable» readable => exact rules.read grounded readable
  | allOf each => exact untilDecided_keeps grounded false each
  | anyOf each => exact untilDecided_keeps grounded true each
  | unary inside => exact rules.bind (rules.evaluate grounded inside) fun _ => rules.work _
  | binary first second =>
      refine rules.bind (rules.evaluate grounded first) fun _ => ?_
      exact rules.bind (rules.evaluate grounded second) fun _ => rules.work _
  | compare first others =>
      refine rules.bind (rules.evaluate grounded first) fun left => ?_
      exact Discipline.andPure _ (chain_keeps grounded left others)
  | choice decides first second =>
      refine rules.bind (rules.evaluate grounded decides) fun _ => ?_
      refine rules.bind (rules.work _) fun _ => ?_
      split
      · exact rules.evaluate grounded first
      · exact rules.evaluate grounded second
  | call callee plain named =>
      exact rules.bind (rules.evaluate grounded callee) fun _ => call_keeps grounded _ _ plain named
  | «attribute» owner =>
      refine rules.bind (rules.evaluate grounded owner) fun _ => ?_
      exact rules.bind (rules.work _) fun _ => rules.work _
  | subscript container key =>
      refine rules.bind (rules.evaluate grounded container) fun _ => ?_
      exact rules.bind (rules.evaluate grounded key) fun _ => rules.work _
  | slice first second third =>
      refine rules.bind (optional_keeps grounded first) fun _ => ?_
      refine rules.bind (optional_keeps grounded second) fun _ => ?_
      exact Discipline.andPure _ (optional_keeps grounded third)
  | list each => exact rules.bind (itemsFrom_keeps grounded #[] each) fun _ => rules.work _
  | tuple each => exact rules.bind (itemsFrom_keeps grounded #[] each) fun _ => rules.work _
  | set each => exact setOf_keeps grounded each
  | dict each =>
      exact Discipline.andPure _ (dictFrom_keeps grounded _ none each (Nat.lt_succ_self _))
  | @joined pieces each =>
      match pieces with
      | [] => exact rules.bind (joinPieces_keeps grounded "" each) fun _ => rules.work _
      | [piece] => exact rules.evaluate grounded (each piece List.mem_cons_self)
      | _ :: _ :: _ => exact rules.bind (joinPieces_keeps grounded "" each) fun _ => rules.work _
  | field shown layout =>
      refine rules.bind (rules.evaluate grounded shown) fun _ => ?_
      exact rules.bind (optional_keeps grounded layout) fun _ => rules.work _
  | comprehension made paired first bound tested later allowed =>
      refine rules.bind (rules.evaluate grounded first) fun _ => ?_
      refine rules.bind (rules.work _) fun walk => ?_
      refine rules.bind (rules.newScope _) fun address => ?_
      have around := comprehension_grounded grounded bound later address
      exact Comprehension.collect_keeps around ⟨made, paired, bound, tested, later⟩ allowed walk
  | asyncGenerator source => exact rules.bind (rules.evaluate grounded source) fun _ => rules.work _

end Evaluation

/-! ## Walks -/

namespace Iteration

section

variable (moves : ∀ address walk, rules.Keeps (Run.setIterator address (.walk walk)))
include moves

theorem stop_keeps (address : Nat) : rules.Keeps (stop address) :=
  rules.bind (moves address .finished) fun _ => rules.pure none

theorem give_keeps (address : Nat) (value : Value) (walk : Walk) :
    rules.Keeps (give address value (.walk walk)) :=
  rules.bind (moves address walk) fun _ => Discipline.andPure _ (rules.work _)

theorem nextOfDict_keeps
    (address dictionary : Nat)
    (aspect : Aspect)
    (position size left : Nat) :
    rules.Keeps (nextOfDict address dictionary aspect position size left) := by
  refine rules.bind (rules.work _) fun table => ?_
  split
  · exact rules.bind (moves address _) fun _ => rules.work _
  · split
    · exact stop_keeps moves address
    · split
      · exact rules.bind (moves address _) fun _ => rules.work _
      · exact give_keeps moves address _ _

theorem lastOfDict_keeps
    (address dictionary : Nat)
    (aspect : Aspect)
    (position size : Nat) :
    rules.Keeps (lastOfDict address dictionary aspect position size) := by
  refine rules.bind (rules.work _) fun table => ?_
  split
  · exact rules.bind (moves address _) fun _ => rules.work _
  · split
    · exact stop_keeps moves address
    · exact give_keeps moves address _ _

variable (stands : ∀ place address value rest, rules.Keeps (giveAt place address value rest))
include stands

theorem nextOfSet_keeps (address set position size : Nat) :
    rules.Keeps (nextOfSet address set position size) := by
  refine rules.bind (rules.work _) fun table => ?_
  split
  · exact rules.bind (moves address _) fun _ => rules.work _
  · split
    · exact stop_keeps moves address
    · exact stands _ address _ _

/-- A walk keeps to a discipline that walks may change iterators and stand at places in. -/
theorem step_keeps (address : Nat) (walk : Walk) : rules.Keeps (step address walk) := by
  fun_cases step address walk with
  | case1 => exact rules.pure none
  | case2 => exact stop_keeps moves address
  | case3 => exact give_keeps moves address _ _
  | case4 => exact stop_keeps moves address
  | case5 => exact give_keeps moves address _ _
  | case6 list index =>
      refine rules.bind (rules.work _) fun found => ?_
      split
      · exact stands _ address _ _
      · exact stop_keeps moves address
  | case7 => exact stop_keeps moves address
  | case8 list index =>
      refine rules.bind (rules.work _) fun found => ?_
      split
      · exact give_keeps moves address _ _
      · exact stop_keeps moves address
  | case9 => exact stop_keeps moves address
  | case10 => exact give_keeps moves address _ _
  | case11 => exact nextOfDict_keeps moves address _ _ _ _ _
  | case12 => exact lastOfDict_keeps moves address _ _ _ _
  | case13 => exact nextOfSet_keeps moves stands address _ _ _
  | case14 source number =>
      refine rules.bind (Discipline.next source) fun found => ?_
      split
      · exact give_keeps moves address _ _
      · exact rules.pure none
  | case15 => exact rules.pure none
  | case16 =>
      refine rules.bind (rules.work _) fun found => ?_
      split
      · exact Discipline.andPure _ (rules.work _)
      · exact rules.pure none
  | case17 =>
      refine rules.bind (rules.work _) fun found => ?_
      split
      · exact Discipline.andPure _ (rules.work _)
      · exact rules.pure none
  | case18 => exact rules.work _

end

theorem part_obeys
    {code : Comprehension}
    (obeys : code.Obeys policy)
    (depth : Nat) :
    (part code depth).1.Obeys policy ∧ ∀ test ∈ (part code depth).2, test.Obeys policy := by
  unfold part
  split
  case h_1 => exact ⟨obeys.bound, obeys.tested⟩
  case h_2 depth =>
    split
    case h_1 clause isClause =>
      cases obeys.later _ (List.mem_of_getElem? isClause) with
      | mk _ bound tested => exact ⟨bound, tested⟩
    case h_2 => exact ⟨obeys.bound, obeys.tested⟩

/-- A generator that is gone on with from anywhere keeps to a discipline that lets it give up. -/
theorem advance_keeps
    (givesUp : rules.Keeps (Run.giveUp : Run (Option (Value × List Nat))))
    {code : Comprehension}
    (around : rules.Grounded code.environment)
    (obeys : code.Obeys policy)
    (fuel : Nat)
    (walks : List Nat) :
    rules.Keeps (advance code fuel walks) := by
  induction fuel generalizing walks with
  | zero =>
      cases walks with
      | nil => exact rules.pure none
      | cons => exact givesUp
  | succ fuel inductionHypothesis =>
      cases walks with
      | nil => exact rules.pure none
      | cons walk outer =>
          refine rules.bind (Discipline.next walk) fun value => ?_
          cases value with
          | none => exact inductionHypothesis outer
          | some value =>
              obtain ⟨bound, tested⟩ := part_obeys obeys outer.length
              refine rules.bind (Assignment.assign_keeps around bound value) fun _ => ?_
              refine rules.bind (Comprehension.passes_keeps around tested) fun _ => ?_
              split
              case isFalse => exact inductionHypothesis (walk :: outer)
              case isTrue =>
                split
                case h_1 => exact Discipline.andPure _ (Comprehension.made_keeps around obeys)
                case h_2 isClause =>
                  cases obeys.later _ (List.mem_of_getElem? isClause) with
                  | mk first _ _ =>
                      refine rules.bind (rules.evaluate around first) fun _ => ?_
                      exact rules.bind (rules.work _) fun inner => inductionHypothesis _

end Iteration

/-! ## Execution -/

namespace Execution

theorem repeatFor_keeps
    {body : Value → Run Flow}
    (keeps : ∀ value, rules.Keeps (body value))
    (source : Nat) :
    rules.Keeps (repeatFor body source) := by
  refine rules.fold source Flow.onward fun _ value => ?_
  refine rules.bind (keeps value) fun flow => ?_
  cases flow <;> exact rules.pure _

mutual

theorem run_keeps
    (grounded : rules.Grounded environment) :
    {statement : Statement} → statement.Obeys policy →
      rules.Keeps (run environment statement)
  | .expression value, .expression given => by
      rw [run]
      exact rules.bind (rules.evaluate grounded given) fun _ => rules.pure _
  | .give value, .give given => by
      rw [run]
      exact Discipline.andPure _ (Evaluation.optional_keeps grounded given)
  | .branch test accepted refused, .branch decides first second => by
      rw [run]
      refine rules.bind (rules.evaluate grounded decides) fun _ => ?_
      refine rules.bind (rules.work _) fun _ => ?_
      split
      · exact runAll_keeps grounded first
      · exact runAll_keeps grounded second
  | .loop target source body after, .loop bound walked inside later => by
      rw [run]
      refine rules.bind (rules.evaluate grounded walked) fun _ => ?_
      refine rules.bind (rules.work _) fun walk => ?_
      refine rules.bind (repeatFor_keeps (fun value => ?_) walk) fun flow => ?_
      · exact rules.bind (Assignment.assign_keeps grounded bound value) fun _ =>
          runAll_keeps grounded inside
      cases flow with
      | left => exact rules.pure _
      | given value => exact rules.pure _
      | onward => exact runAll_keeps grounded later
      | again => exact runAll_keeps grounded later
  | .leave, _ => by
      rw [run]
      exact rules.pure _
  | .again, _ => by
      rw [run]
      exact rules.pure _
  | .pass, _ => by
      rw [run]
      exact rules.pure _
  | .assign targets value, .assign bound given => by
      rw [run]
      refine rules.bind (rules.evaluate grounded given) fun found => ?_
      refine rules.bind (Discipline.forIn (fun target isTarget _ => ?_) _) fun _ => rules.pure _
      exact rules.bind (Assignment.assign_keeps grounded (bound target isTarget) found) fun _ =>
        rules.pure _
  | .augment target op value, .augment bound given => by
      rw [run]
      exact rules.bind (Assignment.augment_keeps grounded op bound given) fun _ => rules.pure _

theorem runAll_keeps
    (grounded : rules.Grounded environment) :
    {statements : List Statement} → (∀ statement ∈ statements, statement.Obeys policy) →
      rules.Keeps (runAll environment statements)
  | [], _ => by
      rw [runAll]
      exact rules.pure _
  | statement :: statements, each => by
      obtain ⟨first, others⟩ := List.forall_mem_cons.mp each
      rw [runAll]
      refine rules.bind (run_keeps grounded first) fun flow => ?_
      cases flow with
      | onward => exact runAll_keeps grounded others
      | given value => exact rules.pure _
      | left => exact rules.pure _
      | again => exact rules.pure _

end

end Execution

end Predicate
end Wordbook
