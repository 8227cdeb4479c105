import Wordbook.Proofs.Predicate.Discipline

/-!
# Runs that keep to their names

A machine is sound when the scope of the program binds the two tokens and all code that waits in it
is well scoped.  A run keeps to its names when it leaves sound machines sound, and is stopped by a
name without a value only if the name is assigned somewhere.

Operations on values keep to their names whatever they do: they work in the memory alone, and all
that they ask for is answered by an engine that keeps to its names.
-/

namespace Wordbook
namespace Predicate

/-- The scopes that a piece of a program stands in: those of comprehensions, which bind assigned
names only, and outermost that of the program at a base address, which binds the tokens too. -/
inductive Environment.Grounded (assigned : String → Prop) (base : Nat) : Environment → Prop
  | program {names : List String} (bound : ∀ name ∈ names, assigned name) :
      Environment.Grounded assigned base [⟨parameterNames ++ names, base⟩]
  | comprehension {scope : Scope} {outer : Environment} (bound : ∀ name ∈ scope.names, assigned name)
      (around : Environment.Grounded assigned base outer) :
      Environment.Grounded assigned base (scope :: outer)

/-- The code of a generator keeps to its names. -/
structure Comprehension.Scoped (assigned : String → Prop) (base : Nat) (code : Comprehension) :
    Prop where
  around : Environment.Grounded assigned base code.environment
  obeys : code.Obeys (.names assigned)

/-- An iterator keeps to its names: it is a walk, or the code of a generator does so. -/
inductive Iterator.Scoped (assigned : String → Prop) (base : Nat) : Iterator → Prop
  | walk (walk : Walk) : Iterator.Scoped assigned base (.walk walk)
  | generator {code : Comprehension} (keeps : code.Scoped assigned base) (walks : List Nat)
      (busy : Bool) : Iterator.Scoped assigned base (.generator code walks busy)

/-- Some bindings hold the tokens. -/
def Bindings.HoldTokens (bindings : Bindings) : Prop :=
  ∀ name ∈ parameterNames, ∃ value, (name, value) ∈ bindings

/-- The scope of the program binds the tokens, and all code keeps to its names. -/
structure Machine.Sound (assigned : String → Prop) (base : Nat) (machine : Machine) : Prop where
  tokens : ∃ bindings, machine.scopes[base]? = some bindings ∧ bindings.HoldTokens
  iterators : ∀ iterator ∈ machine.iterators, iterator.Scoped assigned base

/-- A sound end of a run: the machine is sound, or a name without a value is assigned. -/
def Outcome.Sound {Result : Type} (assigned : String → Prop) (base : Nat) : Outcome Result → Prop
  | .returned _ machine => machine.Sound assigned base
  | .stopped (.unbound name _) _ => assigned name
  | .stopped (.failed _) _ => True
  | .exhausted => True

/-- All parts of an engine keep to their names. -/
structure Engine.Sound (assigned : String → Prop) (base : Nat) (engine : Engine) : Prop where
  evaluate : ∀ environment value machine, Environment.Grounded assigned base environment →
    value.Obeys (.names assigned) → machine.Sound assigned base →
      (engine.evaluate environment value machine).Sound assigned base
  call : ∀ callee arguments machine, machine.Sound assigned base →
    (engine.call callee arguments machine).Sound assigned base
  next : ∀ iterator machine, machine.Sound assigned base →
    (engine.next iterator machine).Sound assigned base

/-- A run keeps to its names. -/
def Run.Keeps {Result : Type} (assigned : String → Prop) (base : Nat) (run : Run Result) : Prop :=
  ∀ engine machine, engine.Sound assigned base → machine.Sound assigned base →
    (run engine machine).Sound assigned base

variable {assigned : String → Prop} {base : Nat} {First Second Result : Type}

theorem Outcome.Sound.andThen
    {outcome : Outcome First}
    {next : First → Machine → Outcome Second}
    (first : outcome.Sound assigned base)
    (second : ∀ result machine, machine.Sound assigned base →
      (next result machine).Sound assigned base) :
    (outcome.andThen next).Sound assigned base := by
  cases outcome with
  | returned result machine => exact second result machine first
  | stopped why machine => cases why <;> exact first
  | exhausted => trivial

/-- Nothing but the memory of a machine matters for its soundness. -/
theorem Machine.Sound.withMemory
    {machine : Machine}
    (sound : machine.Sound assigned base)
    (memory : Memory) :
    Machine.Sound assigned base { machine with memory := memory } :=
  ⟨sound.tokens, sound.iterators⟩

theorem Machine.Sound.push
    {machine : Machine}
    (sound : machine.Sound assigned base)
    {iterator : Iterator}
    (keeps : iterator.Scoped assigned base) :
    Machine.Sound assigned base { machine with iterators := machine.iterators.push iterator } := by
  refine ⟨sound.tokens, fun other isOther => ?_⟩
  rcases Array.mem_push.mp isOther with before | rfl
  · exact sound.iterators other before
  · exact keeps

theorem Engine.shallow_sound (limits : Limits) : (Engine.shallow limits).Sound assigned base :=
  ⟨fun _ _ _ _ _ _ => trivial, fun _ _ _ _ => trivial, fun _ _ _ => trivial⟩

/-- Going through an iterator keeps to its names if each step does. -/
theorem Engine.Sound.foldFrom
    {engine : Engine}
    (sound : engine.Sound assigned base)
    (iterator : Nat)
    {step : First → Value → Machine → Outcome (Bool × First)}
    (keeps : ∀ state value machine, machine.Sound assigned base →
      (step state value machine).Sound assigned base)
    (fuel : Nat)
    (start : First)
    {machine : Machine}
    (machineSound : machine.Sound assigned base) :
    (engine.foldFrom iterator step fuel start machine).Sound assigned base := by
  induction fuel generalizing start machine with
  | zero => trivial
  | succ fuel inductionHypothesis =>
      refine (sound.next iterator machine machineSound).andThen fun value after afterSound => ?_
      cases value with
      | none => exact afterSound
      | some value =>
          refine (keeps start value after afterSound).andThen fun (goesOn, found) last lastSound => ?_
          cases goesOn with
          | true => exact inductionHypothesis found lastSound
          | false => exact lastSound

/-- Whatever an operation does, it keeps to its names. -/
theorem Engine.Sound.perform
    {engine : Engine}
    (sound : engine.Sound assigned base)
    (work : Work Result)
    {machine : Machine}
    (machineSound : machine.Sound assigned base) :
    (engine.perform work machine).Sound assigned base := by
  induction work generalizing machine with
  | done result => exact machineSound
  | failed fault => trivial
  | reading next inductionHypothesis => exact inductionHypothesis machine.memory machineSound
  | writing update next inductionHypothesis =>
      exact inductionHypothesis (machineSound.withMemory (update machine.memory))
  | calling callee arguments next inductionHypothesis =>
      exact (sound.call callee arguments machine machineSound).andThen
        fun result after afterSound => inductionHypothesis result afterSound
  | starting walk next inductionHypothesis =>
      exact inductionHypothesis machine.iterators.size (machineSound.push (.walk walk))
  | asking iterator next inductionHypothesis =>
      exact (sound.next iterator machine machineSound).andThen
        fun value after afterSound => inductionHypothesis value afterSound
  | folding iterator start step next stepHypothesis inductionHypothesis =>
      refine (sound.foldFrom iterator (fun state value after afterSound => ?_) _ start
        machineSound).andThen fun state after afterSound => inductionHypothesis state afterSound
      exact stepHypothesis state value afterSound

namespace Run.Keeps

/-! ## How runs are put together -/

theorem pure (result : Result) : Keeps assigned base (Pure.pure result : Run Result) :=
  fun _ _ _ sound => sound

theorem bind
    {run : Run First}
    {next : First → Run Second}
    (first : run.Keeps assigned base)
    (second : ∀ result, (next result).Keeps assigned base) :
    Keeps assigned base (run >>= next) :=
  fun engine machine engineSound machineSound =>
    (first engine machine engineSound machineSound).andThen
      fun result after => second result engine after engineSound

theorem work (work : Work Result) : Keeps assigned base (liftM work : Run Result) :=
  fun _ _ engineSound machineSound => engineSound.perform work machineSound

theorem giveUp : Keeps assigned base (Run.giveUp : Run Result) := fun _ _ _ _ => trivial

theorem stop
    {name : String}
    {place : Place}
    (isAssigned : assigned name) :
    Keeps assigned base (Run.stop (.unbound name place) : Run Result) :=
  fun _ _ _ _ => isAssigned

theorem onStop
    {run : Run Result}
    (update : Machine → Machine)
    (keeps : run.Keeps assigned base) :
    Keeps assigned base (Run.onStop run update) := by
  intro engine machine engineSound machineSound
  have sound := keeps engine machine engineSound machineSound
  cases ends : run engine machine with
  | returned result after => simpa only [Run.onStop, ends] using sound
  | stopped why after =>
      rw [ends] at sound
      cases why with
      | unbound name place =>
          simp only [Run.onStop, ends]
          exact sound
      | failed fault => simp only [Run.onStop, ends, Outcome.Sound]
  | exhausted => simp only [Run.onStop, ends, Outcome.Sound]

theorem evaluate
    {environment : Environment}
    {value : Expr}
    (grounded : Environment.Grounded assigned base environment)
    (keeps : value.Obeys (.names assigned)) :
    Keeps assigned base (Run.evaluate environment value) :=
  fun _ machine engineSound => engineSound.evaluate environment value machine grounded keeps

theorem next (iterator : Nat) : Keeps assigned base (Run.next iterator) :=
  fun _ machine engineSound => engineSound.next iterator machine

theorem fold
    (iterator : Nat)
    (start : First)
    {step : First → Value → Run (Bool × First)}
    (keeps : ∀ state value, (step state value).Keeps assigned base) :
    Keeps assigned base (Run.fold iterator start step) :=
  fun engine _ engineSound machineSound =>
    engineSound.foldFrom iterator
      (fun state value after afterSound => keeps state value engine after engineSound afterSound)
      _ start machineSound

theorem limits : Keeps assigned base Run.limits := fun _ _ _ machineSound => machineSound

/-! ## Scopes and iterators -/

/-- The values of a scope are followed by a run; those of the scope of the program are the tokens
among others. -/
theorem bindings
    {address : Nat}
    {next : Bindings → Run Result}
    (second : ∀ found, (address = base → found.HoldTokens) → (next found).Keeps assigned base) :
    Keeps assigned base (Run.bindings address >>= next) := by
  intro engine machine engineSound machineSound
  refine second (machine.scopes.getD address []) ?_ engine machine engineSound machineSound
  rintro rfl
  obtain ⟨found, isScope, tokens⟩ := machineSound.tokens
  rw [Array.getD_eq_getD_getElem?, isScope]
  exact tokens

/-- An iterator is followed by a run. -/
theorem iterator?
    {address : Nat}
    {next : Option Iterator → Run Result}
    (second : ∀ found, (∀ iterator ∈ found, iterator.Scoped assigned base) →
      (next found).Keeps assigned base) :
    Keeps assigned base (Run.iterator? address >>= next) := by
  intro engine machine engineSound machineSound
  refine second machine.iterators[address]? ?_ engine machine engineSound machineSound
  intro iterator isIterator
  exact machineSound.iterators iterator (Array.mem_of_getElem? isIterator)

theorem newIterator
    {iterator : Iterator}
    (keeps : iterator.Scoped assigned base) :
    Keeps assigned base (Run.newIterator iterator) :=
  fun _ _ _ machineSound => machineSound.push keeps

theorem setIterator
    (address : Nat)
    {iterator : Iterator}
    (keeps : iterator.Scoped assigned base) :
    Keeps assigned base (Run.setIterator address iterator) := by
  rintro engine ⟨memory, scopes, iterators⟩ _ ⟨tokens, each⟩
  refine ⟨tokens, fun other isOther => ?_⟩
  rcases Array.mem_or_eq_of_mem_setIfInBounds isOther with before | rfl
  · exact each other before
  · exact keeps

/-- A new scope leaves that of the program, which is there already, as it is. -/
theorem newScope (start : Bindings) : Keeps assigned base (Run.newScope start) := by
  rintro engine ⟨memory, scopes, iterators⟩ _ ⟨tokens, each⟩
  obtain ⟨found, isScope, held⟩ := tokens
  obtain ⟨inside, -⟩ := Array.getElem?_eq_some_iff.mp isScope
  have still : (scopes.push start)[base]? = some found := by
    rw [Array.getElem?_push_lt inside]
    exact Array.getElem?_eq_getElem inside ▸ isScope
  exact ⟨⟨found, still, held⟩, each⟩

/-- A change of a scope that takes no token away. -/
theorem updateScope
    (address : Nat)
    {update : Bindings → Bindings}
    (keeps : ∀ bindings : Bindings, bindings.HoldTokens → (update bindings).HoldTokens) :
    Keeps assigned base (Run.updateScope address update) := by
  rintro engine ⟨memory, scopes, iterators⟩ _ ⟨tokens, each⟩
  obtain ⟨found, isScope, held⟩ := tokens
  refine ⟨?_, each⟩
  by_cases same : address = base
  · refine ⟨update found, ?_, keeps found held⟩
    rw [Array.getElem?_modify, if_pos same]
    exact congrArg (Option.map update) isScope
  · refine ⟨found, ?_, held⟩
    rw [Array.getElem?_modify, if_neg same]
    exact isScope

end Run.Keeps
end Predicate
end Wordbook
