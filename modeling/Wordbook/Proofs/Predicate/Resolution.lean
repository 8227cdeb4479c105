import Wordbook.Predicate.Verdict
import Wordbook.Proofs.Predicate.Elaboration
import Wordbook.Proofs.Predicate.Running

/-!
# Names always resolve

A name that a body may read has a value whenever it is read, unless the body itself assigns it: the
tokens are bound before the body runs and are never unbound, and a function or type is found when no
scope has its name.  The scopes of comprehensions bind nothing but assigned names, so this holds in
all of them, and also for a generator that is gone on with from elsewhere.

Every part of the interpreter keeps to the names of a well scoped program if the parts that it calls
do; so all parts with a number of steps do, by induction on this number.
-/

namespace Wordbook
namespace Predicate

variable {assigned : String → Prop} {base : Nat} {environment : Environment}

/-! ## Names in scopes -/

namespace Environment

/-- What a scope binds is assigned, or is a token in the scope of the program. -/
theorem Grounded.assigned_or_token
    (grounded : Grounded assigned base environment)
    {scope : Scope}
    (isScope : scope ∈ environment)
    {name : String}
    (isName : name ∈ scope.names) :
    assigned name ∨ scope.address = base ∧ name ∈ parameterNames := by
  induction grounded with
  | program bound =>
      cases List.mem_singleton.mp isScope
      rcases List.mem_append.mp isName with isToken | isBound
      · exact .inr ⟨rfl, isToken⟩
      · exact .inl (bound name isBound)
  | comprehension bound _ inductionHypothesis =>
      rcases List.mem_cons.mp isScope with rfl | isOuter
      · exact .inl (bound name isName)
      · exact inductionHypothesis isOuter

/-- The tokens belong to some scope. -/
theorem Grounded.exists_scope_of_token
    (grounded : Grounded assigned base environment)
    {name : String}
    (isToken : name ∈ parameterNames) :
    ∃ scope ∈ environment, name ∈ scope.names := by
  induction grounded with
  | program => exact ⟨_, List.mem_singleton_self _, List.mem_append_left _ isToken⟩
  | comprehension _ _ inductionHypothesis =>
      obtain ⟨scope, isScope, isName⟩ := inductionHypothesis
      exact ⟨scope, List.mem_cons_of_mem _ isScope, isName⟩

theorem mem_of_scopeOf?_eq_some
    {name : String}
    {scope : Scope}
    {place : Place}
    (found : scopeOf? environment name = some (scope, place)) :
    scope ∈ environment ∧ name ∈ scope.names := by
  cases environment with
  | nil => cases found
  | cons first outer =>
      rw [scopeOf?] at found
      split at found
      case isTrue isName =>
        cases found
        exact ⟨List.mem_cons_self, List.contains_iff_mem.mp isName⟩
      case isFalse =>
        obtain ⟨around, isAround, ⟨⟩⟩ := Option.map_eq_some_iff.mp found
        have isName := List.find?_some isAround
        exact ⟨List.mem_cons_of_mem _ (List.mem_of_find?_eq_some isAround),
          List.contains_iff_mem.mp isName⟩

theorem not_mem_of_scopeOf?_eq_none
    {name : String}
    (found : scopeOf? environment name = none)
    {scope : Scope}
    (isScope : scope ∈ environment) :
    name ∉ scope.names := by
  intro isName
  cases environment with
  | nil => cases isScope
  | cons first outer =>
      rw [scopeOf?] at found
      split at found
      case isTrue => cases found
      case isFalse missing =>
        rcases List.mem_cons.mp isScope with rfl | isOuter
        · exact missing (List.contains_iff_mem.mpr isName)
        · have notThere := List.find?_eq_none.mp (Option.map_eq_none_iff.mp found) scope isOuter
          exact notThere (List.contains_iff_mem.mpr isName)

theorem exists_builtin?_of_mem
    {name : String}
    (isBuiltin : name ∈ builtinNames) :
    ∃ value, builtin? name = some value := by
  have all : ∀ name ∈ builtinNames, (builtin? name).isSome = true := by decide
  exact Option.isSome_iff_exists.mp (all name isBuiltin)

/-- A name that may be read has a value, unless it is assigned somewhere. -/
theorem value_keeps
    (grounded : Grounded assigned base environment)
    {name : String}
    (readable : Readable assigned name) :
    (environment.value name).Keeps assigned base := by
  unfold value
  split
  case h_1 scope place found =>
    obtain ⟨isScope, isName⟩ := mem_of_scopeOf?_eq_some found
    refine .bindings fun bindings tokens => ?_
    split
    case h_1 => exact .pure _
    case h_2 missing =>
      rcases grounded.assigned_or_token isScope isName with isAssigned | ⟨isBase, isToken⟩
      · exact .stop isAssigned
      · obtain ⟨value, bound⟩ := tokens isBase name isToken
        simpa using List.find?_eq_none.mp missing (name, value) bound
  case h_2 found =>
    split
    case h_1 => exact .pure _
    case h_2 missing =>
      rcases readable with isToken | isBuiltin | isAssigned
      · obtain ⟨scope, isScope, isName⟩ := grounded.exists_scope_of_token isToken
        exact absurd isName (not_mem_of_scopeOf?_eq_none found isScope)
      · obtain ⟨value, isValue⟩ := exists_builtin?_of_mem isBuiltin
        rw [isValue] at missing
        cases missing
      · exact .stop isAssigned

/-- A new value for a name leaves all names bound. -/
theorem exists_mem_rebind
    (name : String)
    (value : Value)
    {bindings : Bindings}
    {other : String}
    {held : Value}
    (bound : (other, held) ∈ bindings) :
    ∃ found, (other, found) ∈ rebind name value bindings := by
  induction bindings with
  | nil => cases bound
  | cons binding bindings inductionHypothesis =>
      rw [rebind]
      rcases List.mem_cons.mp bound with rfl | later
      · split
        case isTrue same =>
          obtain rfl := beq_iff_eq.mp same
          exact ⟨value, List.mem_cons_self⟩
        case isFalse => exact ⟨held, List.mem_cons_self⟩
      · split
        case isTrue => exact ⟨held, List.mem_cons_of_mem _ later⟩
        case isFalse =>
          obtain ⟨found, inside⟩ := inductionHypothesis later
          exact ⟨found, List.mem_cons_of_mem _ inside⟩

theorem bind_keeps
    (environment : Environment)
    (name : String)
    (value : Value) :
    (environment.bind name value).Keeps assigned base := by
  unfold bind
  split
  · refine .updateScope _ fun bindings tokens token isToken => ?_
    obtain ⟨held, bound⟩ := tokens token isToken
    exact exists_mem_rebind name value bound
  · exact .pure ()

end Environment

namespace Run.Keeps

/-- Keeping to the names of well scoped programs is a discipline. -/
def discipline (assigned : String → Prop) (base : Nat) : Discipline (.names assigned) where
  Keeps := Run.Keeps assigned base
  Grounded := Environment.Grounded assigned base
  pure := pure
  bind := bind
  work := work
  fold := fold
  evaluate := evaluate
  readable isAssigned := .inr (.inr isAssigned)
  read grounded readable := Environment.value_keeps grounded readable
  assign value _ _ := Environment.bind_keeps _ _ value
  newScope := newScope
  enter := .comprehension
  generator _ around obeys _ := newIterator (.generator ⟨around, obeys⟩ _ _)

end Run.Keeps

/-! ## Iteration -/

namespace Iteration

theorem giveAt_keeps
    (place address : Nat)
    (value : Value)
    (walk : Walk) :
    (giveAt place address value walk).Keeps assigned base := by
  refine Run.Keeps.limits.bind fun limits => ?_
  split
  · refine (Run.Keeps.setIterator address (.walk _)).bind fun _ => ?_
    exact (Run.Keeps.work _).bind fun _ => .pure _
  · exact .work _

theorem nextElement_keeps
    {code : Comprehension}
    (keeps : code.Scoped assigned base)
    (address : Nat)
    (walks : List Nat) :
    (nextElement address code walks).Keeps assigned base := by
  refine (Run.Keeps.setIterator address (.generator keeps _ _)).bind fun _ => ?_
  refine Run.Keeps.limits.bind fun limits => ?_
  have advances : (Run.Keeps.discipline assigned base).Keeps (advance code limits.steps walks) :=
    advance_keeps Run.Keeps.giveUp keeps.around keeps.obeys limits.steps walks
  refine (Run.Keeps.onStop _ advances).bind fun found => ?_
  split
  · refine (Run.Keeps.setIterator address (.generator keeps _ _)).bind fun _ => ?_
    exact (Run.Keeps.work _).bind fun _ => .pure _
  · exact (Run.Keeps.setIterator address (.walk _)).bind fun _ => .pure _

theorem next_keeps (address : Nat) : (next address).Keeps assigned base := by
  refine .iterator? fun found each => ?_
  split
  case h_1 => exact .pure none
  case h_2 walk =>
    have moves : ∀ address walk, (Run.Keeps.discipline assigned base).Keeps
        (Run.setIterator address (.walk walk)) :=
      fun address walk => .setIterator address (.walk walk)
    exact step_keeps moves giveAt_keeps address walk
  case h_3 => exact .work _
  case h_4 code walks =>
    cases each _ rfl with
    | generator keeps => exact nextElement_keeps keeps address walks

end Iteration

/-! ## Programs -/

/-- The engine keeps to the names of every well scoped program, whatever its limits are. -/
theorem Engine.within_sound (limits : Limits) (depth : Nat) :
    (Engine.within limits depth).Sound assigned base := by
  induction depth with
  | zero => exact Engine.shallow_sound limits
  | succ depth inductionHypothesis =>
      refine ⟨?_, ?_, ?_⟩
      · intro environment value machine grounded obeys machineSound
        have evaluated : (Run.Keeps.discipline assigned base).Keeps
            (Evaluation.evaluate environment value) :=
          Evaluation.evaluate_keeps grounded obeys
        exact evaluated _ machine inductionHypothesis machineSound
      · intro callee arguments machine machineSound
        exact inductionHypothesis.perform _ machineSound
      · intro iterator machine machineSound
        exact Iteration.next_keeps iterator _ machine inductionHypothesis machineSound

/-- A well scoped program keeps to its names on a machine that has not run one yet. -/
theorem Definition.run_sound
    {program : List Statement}
    (obeys : ∀ statement ∈ program, statement.Obeys (.names assigned))
    (first second : Value)
    (fuel : Nat)
    {machine : Machine}
    (each : ∀ iterator ∈ machine.iterators, iterator.Scoped assigned machine.scopes.size) :
    (Definition.run program first second (Engine.ofFuel fuel) machine).Sound assigned
      machine.scopes.size := by
  obtain ⟨memory, scopes, iterators⟩ := machine
  have grounded : (Run.Keeps.discipline assigned scopes.size).Grounded
      [⟨parameterNames ++ namesOfStatements program, scopes.size⟩] :=
    .program (namesOfStatements_assigned obeys)
  have tokens : Bindings.HoldTokens (parameterNames.zip [first, second]) := by
    simp [Bindings.HoldTokens, parameterNames]
  have sound : Machine.Sound assigned scopes.size
      ⟨memory, scopes.push (parameterNames.zip [first, second]), iterators⟩ :=
    ⟨⟨_, Array.getElem?_push_size, tokens⟩, each⟩
  refine (Execution.runAll_keeps grounded obeys _ _ (Engine.within_sound .usual fuel)
    sound).andThen ?_
  intro flow after afterSound
  cases flow <;> exact afterSound

/-- Without an engine an operation starts nothing but walks, and meets no name. -/
theorem Engine.perform_idle
    {Result : Type}
    (work : Work Result)
    {machine : Machine}
    (each : ∀ iterator ∈ machine.iterators, iterator.Scoped assigned machine.scopes.size) :
    (∀ result after, Engine.idle.perform work machine = .returned result after →
        ∀ iterator ∈ after.iterators, iterator.Scoped assigned after.scopes.size) ∧
      ∀ why after, Engine.idle.perform work machine = .stopped why after →
        ∃ fault, why = .failed fault := by
  induction work generalizing machine with
  | done result =>
      refine ⟨?_, nofun⟩
      rintro _ _ ⟨⟩
      exact each
  | failed fault =>
      refine ⟨nofun, ?_⟩
      rintro _ _ ⟨⟩
      exact ⟨fault, rfl⟩
  | reading next inductionHypothesis => exact inductionHypothesis machine.memory each
  | writing update next inductionHypothesis =>
      exact @inductionHypothesis { machine with memory := update machine.memory } each
  | starting walk next inductionHypothesis =>
      refine @inductionHypothesis machine.iterators.size
        { machine with iterators := machine.iterators.push (.walk walk) } ?_
      intro iterator isIterator
      rcases Array.mem_push.mp isIterator with before | rfl
      · exact each iterator before
      · exact .walk walk
  | calling => exact ⟨nofun, nofun⟩
  | asking => exact ⟨nofun, nofun⟩
  | folding => exact ⟨nofun, nofun⟩

/-! ## What stops a program -/

/-- No operation is stopped in the way of a name without a value. -/
theorem Fault.label_ne
    (fault : Fault) :
    fault.label ≠ "NameError" ∧ fault.label ≠ "UnboundLocalError" := by
  cases fault with
  | missingKey => simp [label]
  | other kind why =>
      have all : ∀ kind : FaultKind, kind.label ≠ "NameError" ∧ kind.label ≠ "UnboundLocalError" := by
        rintro ⟨⟩ <;> decide
      exact all kind

/-- What is stopped for want of the value of a name is stopped for an assigned name. -/
def Outcome.Resolves {Result : Type} (assigned : String → Prop) (outcome : Outcome Result) : Prop :=
  ∀ why machine, outcome = .stopped why machine →
    why.label = "NameError" ∨ why.label = "UnboundLocalError" →
      ∃ name place, why = .unbound name place ∧ assigned name

theorem Outcome.resolves_of_failed
    {Result : Type}
    {outcome : Outcome Result}
    (failed : ∀ why machine, outcome = .stopped why machine → ∃ fault, why = .failed fault) :
    outcome.Resolves assigned := by
  intro why machine stopped labelled
  obtain ⟨fault, rfl⟩ := failed why machine stopped
  obtain ⟨notName, notLocal⟩ := fault.label_ne
  exact (labelled.elim notName notLocal).elim

theorem Outcome.Sound.resolves
    {Result : Type}
    {outcome : Outcome Result}
    (sound : outcome.Sound assigned base) :
    outcome.Resolves assigned := by
  rintro why machine rfl labelled
  cases why with
  | unbound name place => exact ⟨name, place, rfl, sound⟩
  | failed fault =>
      obtain ⟨notName, notLocal⟩ := fault.label_ne
      exact (labelled.elim notName notLocal).elim

theorem Outcome.Resolves.andThen
    {First Second : Type}
    {outcome : Outcome First}
    {next : First → Machine → Outcome Second}
    (first : outcome.Resolves assigned)
    (second : ∀ result machine, outcome = .returned result machine →
      (next result machine).Resolves assigned) :
    (outcome.andThen next).Resolves assigned := by
  cases outcome with
  | returned result machine => exact second result machine rfl
  | stopped why machine =>
      rintro _ _ ⟨⟩
      exact first why machine rfl
  | exhausted => nofun

/-- The predicate of a body that is accepted never lacks the value of a name, on any two arguments in
any memory, but for names that the body itself assigns somewhere; nor does the predicate that is run
on two tokens. -/
theorem Definition.names_resolve
    {body : List Char}
    {program : List Statement}
    (compiled : Definition.compile body = .ok program) :
    ∃ trees, Definition.trees body = .ok trees ∧
      (∀ (fuel : Nat) (memory : Memory) (first second : Value),
        (Definition.run program first second (Engine.ofFuel fuel) ⟨memory, #[], #[]⟩).Resolves
          (Sandbox.Assigns trees)) ∧
      ∀ first second : Json,
        (Verdict.outcome program first second).Resolves (Sandbox.Assigns trees) := by
  obtain ⟨trees, areTrees, keeps⟩ := Definition.compile_scoped compiled
  refine ⟨trees, areTrees, ?_, ?_⟩
  · intro fuel memory first second
    exact (Definition.run_sound keeps first second fuel (by simp)).resolves
  · intro first second
    have noCode : ∀ iterator ∈ Machine.start.iterators,
        iterator.Scoped (Sandbox.Assigns trees) Machine.start.scopes.size := by
      simp [Machine.start]
    obtain ⟨leaves, fails⟩ := Engine.perform_idle (Verdict.tokens first second) noCode
    refine (Outcome.resolves_of_failed fails).andThen fun ⟨left, right⟩ machine made => ?_
    have sound := Definition.run_sound keeps left right stepLimit (leaves _ machine made)
    exact sound.resolves.andThen fun value after _ => nofun

/-- A body that reads a name before it assigns it. -/
def Definition.earlyReading : List Char := "return x\nx = 1".toList

/-- The predicate of a body is stopped on two tokens for want of the value of a name. -/
def Definition.lacks (body : List Char) (first second : Json) (sought : String) : Bool :=
  match compile body with
  | .error _ => false
  | .ok program =>
      match Verdict.outcome program first second with
      | .stopped (.unbound name .here) _ => name == sought
      | _ => false

theorem Definition.earlyReading_resolves :
    ∃ program, Definition.compile earlyReading = .ok program ∧
      (∃ last, Verdict.outcome program (.str "0") (.str "1") = .stopped (.unbound "x" .here) last) ∧
      ∃ trees, Definition.trees earlyReading = .ok trees ∧ Sandbox.Assigns trees "x" := by
  have lacking : lacks earlyReading (.str "0") (.str "1") "x" = true := by decide +kernel
  unfold lacks at lacking
  split at lacking
  case h_1 => cases lacking
  case h_2 program compiled =>
    split at lacking
    case h_2 => cases lacking
    case h_1 name last stopped =>
      obtain rfl := beq_iff_eq.mp lacking
      obtain ⟨trees, areTrees, -, resolves⟩ := Definition.names_resolve compiled
      obtain ⟨_, _, ⟨⟩, isAssigned⟩ := resolves (.str "0") (.str "1") _ last stopped (.inr rfl)
      exact ⟨program, compiled, ⟨last, stopped⟩, trees, areTrees, isAssigned⟩

end Predicate
end Wordbook
