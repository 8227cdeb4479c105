import Wordbook.Proofs.Predicate.Discipline

/-!
# Runs within limits

A run may be limited in how deep its calls are nested and in how far it walks through lists and
sets.  Passing a limit is a fault like others, which nothing in the language takes care of.  So a
run that is not stopped by such a fault does the same without the limits.
-/

namespace Wordbook
namespace Predicate

/-! ## Programs of any kind -/

/-- The policy that allows everything. -/
def Policy.everything : Policy := ⟨fun _ => True, fun _ => True, fun _ => True⟩

mutual

theorem Expr.obeys_everything : (value : Expr) → value.Obeys .everything
  | .constant value => .constant value
  | .variable _ => .variable trivial
  | .allOf values => .allOf (Expr.obeys_everything_of_mem values)
  | .anyOf values => .anyOf (Expr.obeys_everything_of_mem values)
  | .unary _ operand => .unary operand.obeys_everything
  | .binary _ left right => .binary left.obeys_everything right.obeys_everything
  | .compare left links => .compare left.obeys_everything (Link.obeys_everything_of_mem links)
  | .choice test accepted refused =>
      .choice test.obeys_everything accepted.obeys_everything refused.obeys_everything
  | .call function arguments keywords =>
      .call function.obeys_everything (Item.obeys_everything_of_mem arguments)
        (Keyword.obeys_everything_of_mem keywords)
  | .attribute value _ => .attribute value.obeys_everything
  | .subscript value index => .subscript value.obeys_everything index.obeys_everything
  | .slice lower upper step => .slice (Expr.obeys_everything_of_some lower)
      (Expr.obeys_everything_of_some upper) (Expr.obeys_everything_of_some step)
  | .list items => .list (Item.obeys_everything_of_mem items)
  | .tuple items => .tuple (Item.obeys_everything_of_mem items)
  | .set items => .set (Item.obeys_everything_of_mem items)
  | .dict pairs => .dict (Pair.obeys_everything_of_mem pairs)
  | .joined pieces => .joined (Expr.obeys_everything_of_mem pieces)
  | .field value _ spec => .field value.obeys_everything (Expr.obeys_everything_of_some spec)
  | .comprehension _ element value source target tests more =>
      .comprehension element.obeys_everything (Expr.obeys_everything_of_some value)
        source.obeys_everything target.obeys_everything (Expr.obeys_everything_of_mem tests)
        (Clause.obeys_everything_of_mem more) fun _ => trivial
  | .asyncGenerator first _ => .asyncGenerator first.obeys_everything

theorem Expr.obeys_everything_of_mem :
    (values : List Expr) → ∀ value ∈ values, value.Obeys .everything
  | [] => nofun
  | value :: values =>
      List.forall_mem_cons.mpr ⟨value.obeys_everything, Expr.obeys_everything_of_mem values⟩

theorem Expr.obeys_everything_of_some :
    (found : Option Expr) → ∀ value ∈ found, value.Obeys .everything
  | none => nofun
  | some value => fun _ isValue => Option.some.inj isValue ▸ value.obeys_everything

theorem Link.obeys_everything_of_mem :
    (links : List Link) → ∀ link ∈ links, link.Obeys .everything
  | [] => nofun
  | .mk _ right :: links => List.forall_mem_cons.mpr
      ⟨.mk right.obeys_everything, Link.obeys_everything_of_mem links⟩

theorem Item.obeys_everything_of_mem :
    (items : List Item) → ∀ item ∈ items, item.Obeys .everything
  | [] => nofun
  | .one value :: items => List.forall_mem_cons.mpr
      ⟨.one value.obeys_everything, Item.obeys_everything_of_mem items⟩
  | .spread value :: items => List.forall_mem_cons.mpr
      ⟨.spread value.obeys_everything, Item.obeys_everything_of_mem items⟩

theorem Keyword.obeys_everything_of_mem :
    (keywords : List Keyword) → ∀ keyword ∈ keywords, keyword.Obeys .everything
  | [] => nofun
  | .one _ value :: keywords => List.forall_mem_cons.mpr
      ⟨.one value.obeys_everything, Keyword.obeys_everything_of_mem keywords⟩
  | .spread value :: keywords => List.forall_mem_cons.mpr
      ⟨.spread value.obeys_everything, Keyword.obeys_everything_of_mem keywords⟩

theorem Pair.obeys_everything_of_mem :
    (pairs : List Pair) → ∀ pair ∈ pairs, pair.Obeys .everything
  | [] => nofun
  | .one key value :: pairs => List.forall_mem_cons.mpr
      ⟨.one key.obeys_everything value.obeys_everything, Pair.obeys_everything_of_mem pairs⟩
  | .spread value :: pairs => List.forall_mem_cons.mpr
      ⟨.spread value.obeys_everything, Pair.obeys_everything_of_mem pairs⟩

theorem Clause.obeys_everything_of_mem :
    (clauses : List Clause) → ∀ clause ∈ clauses, clause.Obeys .everything
  | [] => nofun
  | .mk source target tests :: clauses => List.forall_mem_cons.mpr
      ⟨.mk source.obeys_everything target.obeys_everything (Expr.obeys_everything_of_mem tests),
        Clause.obeys_everything_of_mem clauses⟩

theorem Target.obeys_everything : (target : Target) → target.Obeys .everything
  | .name _ => .name trivial
  | .attribute value _ => .attribute value.obeys_everything
  | .subscript value index => .subscript value.obeys_everything index.obeys_everything
  | .exactly targets => .exactly (Target.obeys_everything_of_mem targets)
  | .atLeast first rest last => .atLeast (Target.obeys_everything_of_mem first)
      rest.obeys_everything (Target.obeys_everything_of_mem last)

theorem Target.obeys_everything_of_mem :
    (targets : List Target) → ∀ target ∈ targets, target.Obeys .everything
  | [] => nofun
  | target :: targets => List.forall_mem_cons.mpr
      ⟨target.obeys_everything, Target.obeys_everything_of_mem targets⟩

end

mutual

theorem Statement.obeys_everything : (statement : Statement) → statement.Obeys .everything
  | .expression value => .expression value.obeys_everything
  | .give value => .give (Expr.obeys_everything_of_some value)
  | .branch test accepted refused => .branch test.obeys_everything
      (Statement.obeys_everything_of_mem accepted) (Statement.obeys_everything_of_mem refused)
  | .loop target source body after => .loop target.obeys_everything source.obeys_everything
      (Statement.obeys_everything_of_mem body) (Statement.obeys_everything_of_mem after)
  | .leave => .leave
  | .again => .again
  | .pass => .pass
  | .assign targets value =>
      .assign (Target.obeys_everything_of_mem targets) value.obeys_everything
  | .augment target _ value => .augment target.obeys_everything value.obeys_everything

/-- Every program obeys the policy that allows everything. -/
theorem Statement.obeys_everything_of_mem :
    (program : List Statement) → ∀ statement ∈ program, statement.Obeys .everything
  | [] => nofun
  | statement :: program => List.forall_mem_cons.mpr
      ⟨statement.obeys_everything, Statement.obeys_everything_of_mem program⟩

end

/-! ## Outcomes -/

/-- A fault that may come from a limit: calls are nested too deep, or the memory is full. -/
def Stop.IsLimit (why : Stop) : Prop := why = .failed Engine.tooDeep ∨ why = .failed .memory

/-- A run is stopped by a limit. -/
def Outcome.MeetsLimit {Result : Type} : Outcome Result → Prop
  | .stopped why _ => why.IsLimit
  | _ => False

/-- An outcome within limits is the one without them, unless a limit was met. -/
def Outcome.Foretells {Result : Type} (limited free : Outcome Result) : Prop :=
  limited.MeetsLimit ∨ free = limited

variable {First Second Result State : Type}

namespace Outcome.Foretells

theorem refl (outcome : Outcome Result) : outcome.Foretells outcome := .inr rfl

theorem andThen
    {limited free : Outcome First}
    {next freeNext : First → Machine → Outcome Second}
    (first : limited.Foretells free)
    (second : ∀ result machine, (next result machine).Foretells (freeNext result machine)) :
    (limited.andThen next).Foretells (free.andThen freeNext) := by
  rcases first with meets | same
  · cases limited with
    | returned => exact absurd meets id
    | stopped => exact .inl meets
    | exhausted => exact absurd meets id
  · rw [same]
    cases limited with
    | returned result machine => exact second result machine
    | stopped why machine => exact .refl (.stopped why machine)
    | exhausted => exact .refl .exhausted

end Outcome.Foretells

/-! ## Engines -/

namespace Engine

/-- An engine with limits does what another one does until it meets them; both may take as many
steps. -/
structure Foretells (limited free : Engine) : Prop where
  steps : free.limits.steps = limited.limits.steps
  places : ∀ place, limited.limits.allow place = true → free.limits.allow place = true
  evaluate : ∀ environment value machine,
    (limited.evaluate environment value machine).Foretells
      (free.evaluate environment value machine)
  call : ∀ callee arguments machine,
    (limited.call callee arguments machine).Foretells (free.call callee arguments machine)
  next : ∀ iterator machine,
    (limited.next iterator machine).Foretells (free.next iterator machine)

variable {limited free : Engine}

theorem Foretells.fold
    (foretells : limited.Foretells free)
    (iterator : Nat)
    {step freeStep : State → Value → Machine → Outcome (Bool × State)}
    (each : ∀ state value machine,
      (step state value machine).Foretells (freeStep state value machine))
    (start : State)
    (machine : Machine) :
    (limited.fold iterator start step machine).Foretells
      (free.fold iterator start freeStep machine) := by
  rw [Engine.fold, Engine.fold, foretells.steps]
  generalize limited.limits.steps = fuel
  induction fuel generalizing start machine with
  | zero => exact .refl .exhausted
  | succ fuel inductionHypothesis =>
      refine (foretells.next iterator machine).andThen fun value after => ?_
      cases value with
      | none => exact .refl _
      | some value =>
          refine (each start value after).andThen fun (goesOn, found) last => ?_
          cases goesOn with
          | true => exact inductionHypothesis found last
          | false => exact .refl _

theorem Foretells.perform
    (foretells : limited.Foretells free)
    (work : Work Result)
    (machine : Machine) :
    (limited.perform work machine).Foretells (free.perform work machine) := by
  induction work generalizing machine with
  | done result => exact .refl _
  | failed fault => exact .refl _
  | reading next inductionHypothesis => exact inductionHypothesis machine.memory machine
  | writing update next inductionHypothesis => exact inductionHypothesis _
  | starting walk next inductionHypothesis => exact inductionHypothesis machine.iterators.size _
  | calling callee arguments next inductionHypothesis =>
      exact (foretells.call callee arguments machine).andThen inductionHypothesis
  | asking iterator next inductionHypothesis =>
      exact (foretells.next iterator machine).andThen inductionHypothesis
  | folding iterator start step next stepHypothesis inductionHypothesis =>
      exact (foretells.fold iterator stepHypothesis start machine).andThen inductionHypothesis

end Engine

/-! ## The discipline -/

/-- A run does the same with and without limits, until it meets them. -/
def Run.Foretells (run : Run Result) : Prop :=
  ∀ (limited free : Engine) (machine : Machine), limited.Foretells free →
    (run limited machine).Foretells (run free machine)

namespace Run.Foretells

/-- A run that asks the engine for nothing. -/
theorem alone (run : Machine → Outcome Result) : Foretells fun _ machine => run machine :=
  fun _ _ machine _ => .refl (run machine)

theorem bind
    {run : Run First}
    {next : First → Run Second}
    (first : run.Foretells)
    (second : ∀ result, (next result).Foretells) :
    Foretells (run >>= next) :=
  fun limited free machine foretells => (first limited free machine foretells).andThen
    fun result after => second result limited free after foretells

theorem work (work : Work Result) : Foretells (liftM work : Run Result) :=
  fun _ _ machine foretells => foretells.perform work machine

theorem value (environment : Environment) (name : String) :
    (environment.value name).Foretells := by
  unfold Environment.value
  split
  case h_1 scope place _ =>
    refine bind (alone _) fun found => ?_
    split
    · exact alone _
    · exact alone _
  case h_2 =>
    split
    · exact alone _
    · exact alone _

theorem assign (environment : Environment) (name : String) (value : Value) :
    (environment.bind name value).Foretells := by
  unfold Environment.bind
  split
  · exact alone _
  · exact alone _

/-- To do the same with and without limits is a discipline. -/
def discipline : Discipline .everything where
  Keeps := Run.Foretells
  Grounded _ := True
  pure _ := alone _
  bind := bind
  work := work
  fold iterator start _ each limited free machine foretells :=
    foretells.fold iterator (fun state value after => each state value limited free after foretells)
      start machine
  evaluate _ _ _ _ machine foretells := foretells.evaluate _ _ machine
  readable _ := trivial
  read _ _ := value _ _
  assign found _ _ := assign _ _ found
  newScope _ := alone _
  enter _ _ := trivial
  generator _ _ _ _ := alone _

end Run.Foretells

/-! ## Iterators -/

namespace Iteration

theorem setIterator_foretells (address : Nat) (walk : Walk) :
    Run.Foretells.discipline.Keeps (Run.setIterator address (.walk walk)) :=
  .alone _

theorem giveAt_foretells (place address : Nat) (value : Value) (rest : Walk) :
    (giveAt place address value rest).Foretells := by
  intro limited free machine foretells
  by_cases allowed : limited.limits.allow place = true
  · have gives : Run.Foretells.discipline.Keeps (give address value (.walk rest)) :=
      give_keeps setIterator_foretells address value rest
    simp only [giveAt, Run.bind_apply, Run.limits, Outcome.andThen, if_pos allowed,
      if_pos (foretells.places place allowed)]
    exact gives limited free machine foretells
  · simp only [giveAt, Run.bind_apply, Run.limits, Outcome.andThen, if_neg allowed]
    exact .inl (.inr rfl)

theorem comprehension_obeys (code : Comprehension) : code.Obeys .everything :=
  ⟨code.element.obeys_everything, Expr.obeys_everything_of_some code.value,
    code.target.obeys_everything, Expr.obeys_everything_of_mem code.tests,
    Clause.obeys_everything_of_mem code.more⟩

theorem onStop_foretells
    {run : Run Result}
    (foretells : run.Foretells)
    (update : Machine → Machine) :
    (Run.onStop run update).Foretells := by
  intro limited free machine engines
  unfold Run.onStop
  rcases foretells limited free machine engines with meets | same
  · cases ends : run limited machine with
    | stopped why after =>
        rw [ends] at meets
        exact .inl meets
    | returned =>
        rw [ends] at meets
        exact absurd meets id
    | exhausted =>
        rw [ends] at meets
        exact absurd meets id
  · rw [same]
    exact .refl _

/-- The generators of both engines take as many steps. -/
theorem nextElement_foretells (address : Nat) (code : Comprehension) (walks : List Nat) :
    (nextElement address code walks).Foretells := by
  intro limited free machine foretells
  have searches : Run.Foretells.discipline.Keeps (advance code limited.limits.steps walks) :=
    advance_keeps (Run.Foretells.alone _) trivial (comprehension_obeys code) _ walks
  have stops : Run.Foretells.discipline.Keeps (stop address) :=
    stop_keeps setIterator_foretells address
  simp only [nextElement, Run.bind_apply, Run.limits, Outcome.andThen, foretells.steps]
  refine (onStop_foretells searches (ended address) limited free _ foretells).andThen
    fun found after => ?_
  cases found with
  | none => exact stops limited free after foretells
  | some found =>
      exact (foretells.perform (Work.marked found.1) _).andThen fun _ _ => .refl _

theorem next_foretells (address : Nat) : (next address).Foretells := by
  have steps (walk : Walk) : Run.Foretells.discipline.Keeps (step address walk) :=
    step_keeps setIterator_foretells giveAt_foretells address walk
  refine Run.Foretells.bind (.alone _) fun found => ?_
  split
  · exact .alone _
  · exact steps _
  · exact .work _
  · exact nextElement_foretells address _ _

end Iteration

/-! ## Engines and programs -/

/-- Without a bound on how far lists and sets are walked, and with as many levels of calls or more,
the engine does what it does with them until it meets them. -/
theorem Engine.within_foretells
    (steps places : Nat)
    {depth deeper : Nat}
    (levels : depth ≤ deeper) :
    (Engine.within ⟨steps, some places⟩ depth).Foretells (Engine.within ⟨steps, none⟩ deeper) := by
  induction depth generalizing deeper with
  | zero =>
      have meets : Stop.IsLimit (.failed tooDeep) := .inl rfl
      have sameSteps (levels : Nat) :
          (Engine.within ⟨steps, none⟩ levels).limits = ⟨steps, none⟩ := by
        cases levels <;> rfl
      exact ⟨by rw [sameSteps]; rfl, fun _ _ => by rw [sameSteps]; rfl, fun _ _ _ => .inl meets,
        fun _ _ _ => .inl meets, fun _ _ => .inl meets⟩
  | succ depth inductionHypothesis =>
      cases deeper with
      | zero => cases levels
      | succ deeper =>
          have below := inductionHypothesis (Nat.le_of_succ_le_succ levels)
          refine ⟨rfl, fun _ _ => rfl, ?_, ?_, ?_⟩
          · intro environment value machine
            have evaluated : Run.Foretells.discipline.Keeps
                (Evaluation.evaluate environment value) :=
              Evaluation.evaluate_keeps trivial value.obeys_everything
            exact evaluated _ _ machine below
          · exact fun callee arguments machine =>
              below.perform (Calling.call callee arguments) machine
          · exact fun iterator machine => Iteration.next_foretells iterator _ _ machine below

/-- A program does the same without limits, unless it meets them. -/
theorem Definition.run_foretells
    (program : List Statement)
    (first second : Value) :
    (Definition.run program first second).Foretells := by
  refine Run.Foretells.bind (.alone _) fun address => ?_
  have runs (environment : Environment) :
      Run.Foretells.discipline.Keeps (Execution.runAll environment program) :=
    Execution.runAll_keeps trivial (Statement.obeys_everything_of_mem program)
  refine Run.Foretells.bind (runs _) fun flow => ?_
  split
  · exact .alone _
  · exact .alone _

end Predicate
end Wordbook
