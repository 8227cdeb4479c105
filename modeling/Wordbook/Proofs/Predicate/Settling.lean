import Wordbook.Proofs.Predicate.Reserves

/-!
# Runs that settle

The more steps a run may take, the further it comes.  It settles when it ends in the same way for
all numbers of steps from some number on: with a result or a fault, and not for want of steps.  Runs
that settle lead to machines on which no iterator has more left, and whoever asks an iterator for a
value and gets one has less to ask for.  So going through an iterator settles if each step does, by
induction on what the iterator has left.
-/

namespace Wordbook
namespace Predicate

variable {First Second Result State : Type} {places : Nat}

/-- An outcome is a result of some kind or a fault, and not a want of steps. -/
def Outcome.Ends (kind : Result → Machine → Prop) : Outcome Result → Prop
  | .returned result machine => kind result machine
  | .stopped _ _ => True
  | .exhausted => False

/-- A run that is given more and more steps ends in the same way from some number on. -/
def Settles (runs : (steps : Nat) → Outcome Result) (kind : Result → Machine → Prop) : Prop :=
  ∃ outcome : Outcome Result, outcome.Ends kind ∧ ∃ enough, ∀ steps ≥ enough, runs steps = outcome

namespace Settles

variable {runs others : Nat → Outcome Result} {kind weaker : Result → Machine → Prop}

theorem returned {result : Result} {machine : Machine} (isKind : kind result machine) :
    Settles (fun _ => .returned result machine) kind :=
  ⟨.returned result machine, isKind, 0, fun _ _ => rfl⟩

theorem stopped (why : Stop) (machine : Machine) :
    Settles (fun _ => (.stopped why machine : Outcome Result)) kind :=
  ⟨.stopped why machine, trivial, 0, fun _ _ => rfl⟩

theorem weaken
    (settles : Settles runs kind)
    (weak : ∀ result machine, kind result machine → weaker result machine) :
    Settles runs weaker := by
  obtain ⟨outcome, ends, settled⟩ := settles
  refine ⟨outcome, ?_, settled⟩
  cases outcome with
  | returned result machine => exact weak result machine ends
  | stopped => trivial
  | exhausted => exact ends

/-- What a run does with few steps does not matter. -/
theorem congr
    (settles : Settles others kind)
    (same : ∃ start, ∀ steps ≥ start, runs steps = others steps) :
    Settles runs kind := by
  obtain ⟨outcome, ends, enough, settled⟩ := settles
  obtain ⟨start, same⟩ := same
  refine ⟨outcome, ends, max start enough, fun steps large => ?_⟩
  rw [same steps (Nat.le_trans (Nat.le_max_left _ _) large)]
  exact settled steps (Nat.le_trans (Nat.le_max_right _ _) large)

theorem andThen
    {first : Nat → Outcome First}
    {next : Nat → First → Machine → Outcome Result}
    {firstKind : First → Machine → Prop}
    (settles : Settles first firstKind)
    (onward : ∀ result machine, firstKind result machine →
      Settles (fun steps => next steps result machine) kind) :
    Settles (fun steps => (first steps).andThen (next steps)) kind := by
  obtain ⟨outcome, ends, enough, settled⟩ := settles
  cases outcome with
  | exhausted => exact absurd ends id
  | stopped why machine =>
      refine (stopped why machine).congr ⟨enough, fun steps large => ?_⟩
      rw [settled steps large, Outcome.andThen]
  | returned result machine =>
      refine (onward result machine ends).congr ⟨enough, fun steps large => ?_⟩
      rw [settled steps large, Outcome.andThen]

end Settles

/-! ## Engines -/

namespace Engine

/-- All parts of an engine settle, given more and more steps in a bounded memory. -/
structure Settle (places : Nat) (engines : (steps : Nat) → Engine) : Prop where
  limits : ∀ steps, (engines steps).limits = ⟨steps, some places⟩
  evaluate : ∀ (environment : Environment) {value : Expr} {machine : Machine},
    value.Obeys .single → machine.Single →
      Settles (fun steps => (engines steps).evaluate environment value machine)
        fun _ after => machine.LeadsTo places after
  call : ∀ (callee : Value) (arguments : Arguments) {machine : Machine}, machine.Single →
    Settles (fun steps => (engines steps).call callee arguments machine)
      fun _ after => machine.LeadsTo places after
  next : ∀ (iterator : Nat) {machine : Machine}, machine.Single →
    Settles (fun steps => (engines steps).next iterator machine) (machine.Gives places iterator)

variable {engines : (steps : Nat) → Engine}

/-- An iterator that has a bounded number of values left is gone through with a larger number of
steps. -/
theorem Settle.foldFrom
    (settle : Settle places engines)
    (iterator : Nat)
    {step : Nat → State → Value → Machine → Outcome (Bool × State)}
    (each : ∀ state value {machine : Machine}, machine.Single →
      Settles (fun steps => step steps state value machine)
        fun _ after => machine.LeadsTo places after)
    {bound : Nat}
    (start : State)
    {machine : Machine}
    (single : machine.Single)
    (bounded : ∀ count, machine.Lasts places iterator count → count ≤ bound)
    {fuel : Nat → Nat}
    {enough : Nat}
    (large : ∀ steps ≥ enough, bound < fuel steps) :
    Settles (fun steps => (engines steps).foldFrom iterator (step steps) (fuel steps) start machine)
      fun found after => machine.LeadsTo places after ∧
        (found ≠ start → machine.Spends places after iterator) := by
  induction bound using Nat.strongRecOn generalizing start machine fuel with
  | ind bound inductionHypothesis =>
      suffices settles : Settles (fun steps => (engines steps).foldFrom iterator (step steps)
          (fuel steps - 1 + 1) start machine) _ by
        refine settles.congr ⟨enough, fun steps enoughSteps => ?_⟩
        rw [Nat.sub_add_cancel (Nat.lt_of_le_of_lt (Nat.zero_le bound) (large steps enoughSteps))]
      refine Settles.andThen (settle.next iterator single) ?_
      rintro value after ⟨leads, spends⟩
      cases value with
      | none => exact .returned ⟨leads, fun changed => absurd rfl changed⟩
      | some value =>
          have spent := spends (Option.some_ne_none value)
          refine Settles.andThen (each start value leads.single) ?_
          rintro ⟨goesOn, found⟩ last onward
          cases goesOn with
          | false => exact .returned ⟨leads.trans onward, fun _ => spent.andThen onward⟩
          | true =>
              -- The iterator has given a value, so that it has less left.
              obtain ⟨count, fewer, less, lasts, left⟩ := spent.andThen onward
              have lower : fewer < bound := Nat.lt_of_lt_of_le less (bounded count lasts)
              have lastBounded : ∀ other, last.Lasts places iterator other → other ≤ fewer :=
                fun other otherLasts => Nat.le_of_eq (left.unique otherLasts)
              have lastLarge : ∀ steps ≥ enough, fewer < fuel steps - 1 := by
                intro steps enoughSteps
                have := large steps enoughSteps
                omega
              refine (inductionHypothesis fewer lower found onward.single lastBounded
                lastLarge).weaken ?_
              rintro result final ⟨further, -⟩
              exact ⟨(leads.trans onward).trans further,
                fun _ => (spent.andThen onward).andThen further⟩

/-- Going through an iterator settles if each step does; what it comes to is what it starts with, or
it has spent a value of the iterator. -/
theorem Settle.fold
    (settle : Settle places engines)
    (iterator : Nat)
    {step : Nat → State → Value → Machine → Outcome (Bool × State)}
    (each : ∀ state value {machine : Machine}, machine.Single →
      Settles (fun steps => step steps state value machine)
        fun _ after => machine.LeadsTo places after)
    (start : State)
    {machine : Machine}
    (single : machine.Single) :
    Settles (fun steps => (engines steps).fold iterator start (step steps) machine)
      fun found after => machine.LeadsTo places after ∧
        (found ≠ start → machine.Spends places after iterator) := by
  obtain ⟨bound, bounded⟩ :
      ∃ bound, ∀ count, machine.Lasts places iterator count → count ≤ bound := by
    by_cases lasts : ∃ count, machine.Lasts places iterator count
    · obtain ⟨bound, lasts⟩ := lasts
      exact ⟨bound, fun count other => Nat.le_of_eq (lasts.unique other)⟩
    · exact ⟨0, fun count other => absurd ⟨count, other⟩ lasts⟩
  have large : ∀ steps ≥ bound + 1, bound < (engines steps).limits.steps := by
    intro steps enoughSteps
    rw [settle.limits steps]
    exact enoughSteps
  exact settle.foldFrom iterator each start single bounded large

/-- Whatever an operation does, it settles. -/
theorem Settle.perform
    (settle : Settle places engines)
    (work : Work Result)
    {machine : Machine}
    (single : machine.Single) :
    Settles (fun steps => (engines steps).perform work machine)
      fun _ after => machine.LeadsTo places after := by
  induction work generalizing machine with
  | done result => exact .returned (.refl single)
  | failed fault => exact .stopped (.failed fault) machine
  | reading next inductionHypothesis => exact inductionHypothesis machine.memory single
  | writing update next inductionHypothesis =>
      exact (@inductionHypothesis { machine with memory := update machine.memory } single).weaken
        fun _ _ leads => ⟨leads.single, leads.follows⟩
  | calling callee arguments next inductionHypothesis =>
      refine Settles.andThen (settle.call callee arguments single) fun result after leads => ?_
      exact (inductionHypothesis result leads.single).weaken fun _ _ => leads.trans
  | starting walk next inductionHypothesis =>
      have leads : machine.LeadsTo places
          { machine with iterators := machine.iterators.push (.walk walk) } :=
        Machine.leadsTo_push single (.walk walk)
      exact (inductionHypothesis machine.iterators.size leads.single).weaken fun _ _ => leads.trans
  | asking iterator next inductionHypothesis =>
      refine Settles.andThen (settle.next iterator single) ?_
      rintro value after ⟨leads, -⟩
      exact (inductionHypothesis value leads.single).weaken fun _ _ => leads.trans
  | folding iterator start step next stepHypothesis inductionHypothesis =>
      refine Settles.andThen (settle.fold iterator (fun state value => stepHypothesis state value)
        start single) ?_
      rintro state after ⟨leads, -⟩
      exact (inductionHypothesis state leads.single).weaken fun _ _ => leads.trans

end Engine

/-! ## The discipline -/

/-- A run settles, with all engines of which all parts do. -/
def Run.Settles (places : Nat) (run : Run Result) : Prop :=
  ∀ (engines : Nat → Engine) (machine : Machine), Engine.Settle places engines → machine.Single →
    Predicate.Settles (fun steps => run (engines steps) machine)
      fun _ after => machine.LeadsTo places after

namespace Run.Settles

theorem pure (result : Result) : Settles places (Pure.pure result : Run Result) :=
  fun _ _ _ single => .returned (.refl single)

theorem bind
    {run : Run First}
    {next : First → Run Second}
    (first : run.Settles places)
    (second : ∀ result, (next result).Settles places) :
    Settles places (run >>= next) := by
  intro engines machine settle single
  refine Predicate.Settles.andThen (first engines machine settle single)
    fun result after leads => ?_
  exact (second result engines after settle leads.single).weaken fun _ _ => leads.trans

theorem stop (why : Stop) : Settles places (Run.stop why : Run Result) :=
  fun _ machine _ _ => .stopped why machine

/-- A run that works on the scopes alone. -/
theorem onScopes (run : Array Bindings → Result × Array Bindings) :
    Settles places fun _ ⟨memory, scopes, iterators⟩ =>
      .returned (run scopes).1 ⟨memory, (run scopes).2, iterators⟩ :=
  fun _ _ _ single => .returned (Machine.LeadsTo.of_iterators_eq (.refl single) rfl)

theorem value (environment : Environment) (name : String) :
    (environment.value name).Settles places := by
  unfold Environment.value
  split
  case h_1 scope place _ =>
    refine bind (onScopes fun scopes => (scopes.getD scope.address [], scopes)) fun found => ?_
    split
    · exact pure _
    · exact stop _
  case h_2 =>
    split
    · exact pure _
    · exact stop _

theorem assign (environment : Environment) (name : String) (value : Value) :
    (environment.bind name value).Settles places := by
  unfold Environment.bind
  split
  case h_1 scope _ _ =>
    exact onScopes fun scopes =>
      ((), scopes.modify scope.address (Environment.rebind name value))
  case h_2 => exact pure ()

/-- To settle is a discipline for programs whose generators have a single source. -/
def discipline (places : Nat) : Discipline .single where
  Keeps := Run.Settles places
  Grounded _ := True
  pure := pure
  bind := bind
  work work _ _ settle single := settle.perform work single
  fold iterator start _ each _ _ settle single := by
    refine (settle.fold iterator (fun state value {_} single => ?_) start single).weaken
      fun _ _ ends => ends.1
    exact each state value _ _ settle single
  evaluate _ obeys _ _ settle single := settle.evaluate _ obeys single
  readable _ := trivial
  read _ _ := value _ _
  assign found _ _ := assign _ _ found
  newScope start := onScopes fun scopes => (scopes.size, scopes.push start)
  enter _ _ := trivial
  generator iterator _ obeys alone _ _ _ single :=
    .returned (Machine.leadsTo_push single (.generator obeys alone iterator false))

end Run.Settles
end Predicate
end Wordbook
