import Wordbook.Predicate.Verdict
import Wordbook.Proofs.Predicate.Settling

/-!
# Termination

Within bounds on the levels of calls and on how far lists and sets are walked, an engine settles:
whatever it evaluates, calls or asks comes to a result or a fault once it may take enough steps.
The levels of calls are one less for each part that the engine works with, so that it is enough to
see that an iterator has less left whenever it gives a value.  A walk has less left by itself or
because its source has; so has a generator with a single source, which has spent at least one value
of it for each element.
-/

namespace Wordbook
namespace Predicate

variable {First Second Result : Type} {places : Nat} {engines : Nat → Engine} {machine : Machine}

/-! ## Places of tables -/

theorem Table.le_of_nextFrom
    {table : Table}
    {count index place : Nat}
    {entry : Entry}
    (found : table.nextFrom count index = some (place, entry)) :
    index ≤ place := by
  fun_induction table.nextFrom count index with
  | case1 => cases found
  | case2 =>
      cases found
      exact Nat.le_refl _
  | case3 _ _ _ inductionHypothesis => exact Nat.le_of_succ_le (inductionHypothesis found)

theorem Table.lt_of_lastBefore
    {table : Table}
    {index place : Nat}
    {entry : Entry}
    (found : table.lastBefore index = some (place, entry)) :
    place < index := by
  fun_induction table.lastBefore index with
  | case1 => cases found
  | case2 =>
      cases found
      exact Nat.lt_succ_self _
  | case3 _ _ inductionHypothesis => exact Nat.lt_succ_of_lt (inductionHypothesis found)

/-! ## Parts of runs -/

theorem Settles.look
    {read : Heap → First}
    {next : First → Run Result}
    {kind : Result → Machine → Prop}
    (settles : Settles (fun steps =>
      next (read machine.memory.heap) (engines steps) machine) kind) :
    Settles (fun steps => (liftM (Work.look read) >>= next : Run Result) (engines steps) machine)
      kind :=
  settles

theorem Engine.perform_bind
    (engine : Engine)
    (first : Work First)
    (second : First → Work Second)
    (machine : Machine) :
    engine.perform (first >>= second) machine =
      (engine.perform first machine).andThen fun result after =>
        engine.perform (second result) after := by
  change engine.perform (first.andThen second) machine = _
  induction first generalizing machine with
  | done result => rfl
  | failed fault => rfl
  | reading next inductionHypothesis => exact inductionHypothesis machine.memory second machine
  | writing update next inductionHypothesis => exact inductionHypothesis second _
  | starting walk next inductionHypothesis => exact inductionHypothesis _ second _
  | calling callee arguments next inductionHypothesis =>
      simp only [Work.andThen, perform, inductionHypothesis, Outcome.andThen_assoc]
  | asking iterator next inductionHypothesis =>
      simp only [Work.andThen, perform, inductionHypothesis, Outcome.andThen_assoc]
  | folding iterator start step next stepHypothesis inductionHypothesis =>
      simp only [Work.andThen, perform, inductionHypothesis, Outcome.andThen_assoc]

/-! ## Walks -/

namespace Iteration

section

variable {address : Nat} {walk rest : Walk} {old : Iterator} {value : Value}

theorem stop_settles
    (single : machine.Single)
    (held : machine.iterators[address]? = some old)
    (follows : old.Follows places (.walk .finished)) :
    Settles (fun steps => stop address (engines steps) machine) (machine.Gives places address) :=
  .returned ((Machine.LeadsTo.refl single).put held follows (.walk .finished)).gives_none

/-- An iterator that goes on to what it has left is asked for a mark of the value that it gives. -/
theorem give_settles
    (settle : Engine.Settle places engines)
    (single : machine.Single)
    (held : machine.iterators[address]? = some (.walk walk))
    (value : Value)
    {count fewer : Nat}
    (left : walk.reserve places = .own count)
    (restLeft : rest.reserve places = .own fewer)
    (less : fewer < count) :
    Settles (fun steps => give address value (.walk rest) (engines steps) machine)
      (machine.Gives places address) := by
  have shrinks : (walk.reserve places).Shrinks (rest.reserve places) := by
    rw [left, restLeft]
    exact .own (Nat.le_of_lt less)
  have leads : machine.LeadsTo places (machine.put address (.walk rest)) :=
    (Machine.LeadsTo.refl single).put held (.walk shrinks) (.walk rest)
  have spends : machine.Spends places (machine.put address (.walk rest)) address :=
    ⟨count, fewer, less, .own held left, .own (Machine.get_put_self held) restLeft⟩
  refine Settles.andThen (settle.perform (Work.marked value) leads.single) fun _ after onward => ?_
  exact .returned ⟨leads.trans onward, fun _ => spends.andThen onward⟩

theorem giveAt_settles
    (settle : Engine.Settle places engines)
    (single : machine.Single)
    (held : machine.iterators[address]? = some (.walk walk))
    (place : Nat)
    (value : Value)
    {count fewer : Nat}
    (left : walk.reserve places = .own count)
    (restLeft : rest.reserve places = .own fewer)
    (less : place < places → fewer < count) :
    Settles (fun steps => giveAt place address value rest (engines steps) machine)
      (machine.Gives places address) := by
  by_cases allowed : place < places
  · refine (give_settles settle single held value left restLeft (less allowed)).congr
      ⟨0, fun steps _ => ?_⟩
    change (if (engines steps).limits.allow place = true then give address value (.walk rest)
      else _) (engines steps) machine = _
    rw [settle.limits steps, if_pos (by simpa [Limits.allow] using allowed)]
  · refine (Settles.stopped (.failed .memory) machine).congr ⟨0, fun steps _ => ?_⟩
    change (if (engines steps).limits.allow place = true then give address value (.walk rest)
      else _) (engines steps) machine = _
    rw [settle.limits steps, if_neg (by simpa [Limits.allow] using allowed)]
    rfl

theorem nextOfDict_settles
    (settle : Engine.Settle places engines)
    (single : machine.Single)
    {dictionary : Nat}
    {aspect : Aspect}
    {position size left : Nat}
    (held : machine.iterators[address]? =
      some (.walk (.dict dictionary aspect position size left))) :
    Settles (fun steps =>
      nextOfDict address dictionary aspect position size left (engines steps) machine)
      (machine.Gives places address) := by
  unfold nextOfDict
  refine Settles.look ?_
  generalize machine.memory.heap.dict dictionary = table
  by_cases changed : (table.size != size) = true
  · simp only [if_pos changed]
    exact .stopped _ _
  · simp only [if_neg changed]
    cases found : table.nextFrom (table.slots.size - position) position with
    | none => exact stop_settles single held (.walk (.own (Nat.zero_le left)))
    | some place =>
        by_cases none_left : left = 0
        · simp only [if_pos none_left]
          exact .stopped _ _
        · simp only [if_neg none_left]
          exact give_settles settle single held _ rfl rfl (Nat.sub_one_lt none_left)

theorem lastOfDict_settles
    (settle : Engine.Settle places engines)
    (single : machine.Single)
    {dictionary : Nat}
    {aspect : Aspect}
    {position size : Nat}
    (held : machine.iterators[address]? =
      some (.walk (.dictBack dictionary aspect position size))) :
    Settles (fun steps =>
      lastOfDict address dictionary aspect position size (engines steps) machine)
      (machine.Gives places address) := by
  unfold lastOfDict
  refine Settles.look ?_
  generalize machine.memory.heap.dict dictionary = table
  by_cases changed : (table.size != size) = true
  · simp only [if_pos changed]
    exact .stopped _ _
  · simp only [if_neg changed]
    cases found : table.lastBefore (min position table.slots.size) with
    | none => exact stop_settles single held (.walk (.own (Nat.zero_le position)))
    | some place =>
        have before : place.1 < position :=
          Nat.lt_of_lt_of_le (Table.lt_of_lastBefore found) (Nat.min_le_left _ _)
        exact give_settles settle single held _ rfl rfl before

theorem nextOfSet_settles
    (settle : Engine.Settle places engines)
    (single : machine.Single)
    {set position size : Nat}
    (held : machine.iterators[address]? = some (.walk (.set set position size))) :
    Settles (fun steps => nextOfSet address set position size (engines steps) machine)
      (machine.Gives places address) := by
  unfold nextOfSet
  refine Settles.look ?_
  generalize machine.memory.heap.set set = table
  by_cases changed : (table.size != size) = true
  · simp only [if_pos changed]
    exact .stopped _ _
  · simp only [if_neg changed]
    cases found : table.nextFrom (table.slots.size - position) position with
    | none => exact stop_settles single held (.walk (.own (Nat.zero_le _)))
    | some place =>
        have after : position ≤ place.1 := Table.le_of_nextFrom found
        exact giveAt_settles settle single held place.1 _ rfl rfl fun allowed => by omega

/-- A walk that works on the values of a source has spent one when the source has. -/
theorem spends_of_source
    {after : Machine}
    {source : Nat}
    (leads : machine.LeadsTo places after)
    (held : machine.iterators[address]? = some (.walk walk))
    (left : walk.reserve places = .of source)
    (spends : machine.Spends places after source) :
    machine.Spends places after address := by
  obtain ⟨later, laterHeld, follows⟩ := leads.follows held
  cases follows with
  | walk shrinks =>
      rw [left] at shrinks
      exact spends.of_source held left laterHeld shrinks.eq_of

/-- An enumeration counts on after its source has given a value, whatever became of it meanwhile. -/
theorem put_enumeration
    {after : Machine}
    {source : Nat}
    {number : Int}
    (leads : machine.LeadsTo places after)
    (held : machine.iterators[address]? = some (.walk (.enumeration source number)))
    (further : Int) :
    after.LeadsTo places (after.put address (.walk (.enumeration source further))) := by
  obtain ⟨later, laterHeld, follows⟩ := leads.follows held
  refine (Machine.LeadsTo.refl leads.single).put laterHeld ?_ (.walk _)
  cases follows with
  | walk shrinks =>
      refine .walk ?_
      rw [shrinks.eq_of]
      exact .of source

theorem oneOfEach_settles
    (settle : Engine.Settle places engines)
    (single : machine.Single)
    (strict : Bool)
    (place source : Nat)
    (sources : List Nat) :
    Settles (fun steps =>
      (engines steps).perform (oneOfEach strict place (source :: sources)) machine)
      (machine.Gives places source) := by
  unfold oneOfEach
  refine Settles.andThen (settle.next source single) ?_
  rintro value after ⟨leads, spends⟩
  cases value with
  | some value =>
      refine (settle.perform _ leads.single).weaken fun _ _ onward => ?_
      exact ⟨leads.trans onward, fun _ => (spends (Option.some_ne_none value)).andThen onward⟩
  | none =>
      cases strict with
      | false => exact .returned leads.gives_none
      | true =>
          change Settles (fun steps => (engines steps).perform (if place = 0
            then allAtEnd 1 sources >>= fun _ => pure none else _) after) _
          by_cases first : place = 0
          · simp only [if_pos first, Engine.perform_bind]
            exact Settles.andThen (settle.perform _ leads.single)
              fun _ _ onward => .returned (leads.trans onward).gives_none
          · simp only [if_neg first]
            exact .stopped _ _

/-- The values that a function accepts are looked for among those of the source. -/
theorem nextAccepted_settles
    (settle : Engine.Settle places engines)
    (single : machine.Single)
    (function : Value)
    (source : Nat) :
    Settles (fun steps => (engines steps).perform (nextAccepted function source) machine)
      (machine.Gives places source) :=
  Settles.andThen (settle.fold source (fun _ _ => settle.perform _) none single)
    fun _ _ gives => .returned gives

/-- A walk that asks a source first, and makes a value of what it is given. -/
theorem afterSource_settles
    (settle : Engine.Settle places engines)
    (held : machine.iterators[address]? = some (.walk walk))
    {source : Nat}
    (left : walk.reserve places = .of source)
    {asked : Work (Option First)}
    (given : Settles (fun steps => (engines steps).perform asked machine)
      (machine.Gives places source))
    {next : Option First → Run (Option Value)}
    {work : First → Work Value}
    (ends : next none = pure none)
    (goesOn : ∀ found, next (some found) = do return some (← work found)) :
    Settles (fun steps => (liftM asked >>= next : Run (Option Value)) (engines steps) machine)
      (machine.Gives places address) := by
  refine Settles.andThen given ?_
  rintro found after ⟨leads, spends⟩
  cases found with
  | none =>
      rw [ends]
      exact .returned leads.gives_none
  | some found =>
      rw [goesOn]
      have spent := spends_of_source leads held left (spends (Option.some_ne_none found))
      refine Settles.andThen (settle.perform (work found) leads.single) fun _ last onward => ?_
      exact .returned ⟨leads.trans onward, fun _ => spent.andThen onward⟩

/-- A walk on which nobody stands settles, and has spent a value if it gives one. -/
theorem step_settles
    (settle : Engine.Settle places engines)
    (single : machine.Single)
    (held : machine.iterators[address]? = some (.walk walk)) :
    Settles (fun steps => step address walk (engines steps) machine)
      (machine.Gives places address) := by
  have stops {count : Nat} (left : walk.reserve places = .own count) :
      Settles (fun steps => stop address (engines steps) machine)
        (machine.Gives places address) := by
    refine stop_settles single held (.walk ?_)
    rw [left]
    exact .own (Nat.zero_le count)
  have ends : Settles (fun _ => .returned (none : Option Value) machine)
      (machine.Gives places address) :=
    .returned (Machine.LeadsTo.refl single).gives_none
  fun_cases step address walk with
  | case1 => exact ends
  | case2 => exact stops rfl
  | case3 value rest => exact give_settles settle single held value rfl rfl (Nat.lt_succ_self _)
  | case4 => exact stops rfl
  | case5 char rest => exact give_settles settle single held _ rfl rfl (Nat.lt_succ_self _)
  | case6 list index =>
      refine Settles.look ?_
      cases found : (machine.memory.heap.list list)[index]? with
      | none => exact stops rfl
      | some value =>
          exact giveAt_settles settle single held index value rfl rfl fun allowed => by omega
  | case7 => exact stops rfl
  | case8 list index =>
      refine Settles.look ?_
      cases found : (machine.memory.heap.list list)[index]? with
      | none => exact stops rfl
      | some value => exact give_settles settle single held value rfl rfl (Nat.lt_succ_self _)
  | case9 => exact stops rfl
  | case10 => exact give_settles settle single held _ rfl rfl (Nat.lt_succ_self _)
  | case11 => exact nextOfDict_settles settle single held
  | case12 => exact lastOfDict_settles settle single held
  | case13 => exact nextOfSet_settles settle single held
  | case14 source number =>
      refine Settles.andThen (settle.next source single) ?_
      rintro value after ⟨leads, spends⟩
      cases value with
      | none => exact .returned leads.gives_none
      | some value =>
          have spent := spends_of_source leads held rfl (spends (Option.some_ne_none value))
          have onward := put_enumeration leads held (number + 1)
          refine Settles.andThen (settle.perform (Work.marked _) onward.single)
            fun _ _ further => ?_
          exact .returned ⟨leads.trans (onward.trans further),
            fun _ => (spent.andThen onward).andThen further⟩
  | case15 => exact ends
  | case16 sources strict notEmpty =>
      cases sources with
      | nil => exact absurd rfl notEmpty
      | cons source sources =>
          exact afterSource_settles settle held rfl
            (oneOfEach_settles settle single strict 0 source sources) rfl fun _ => rfl
  | case17 function first others =>
      exact afterSource_settles settle held rfl
        (oneOfEach_settles settle single false 0 first others) rfl fun _ => rfl
  | case18 function source =>
      refine (nextAccepted_settles settle single function source).weaken ?_
      rintro found after ⟨leads, spends⟩
      exact ⟨leads, fun given => spends_of_source leads held rfl (spends given)⟩

end

/-! ## Generators -/

/-- What a generator with a single source makes of a value of it: an element, or nothing if a test
is not passed. -/
def sought (code : Comprehension) (value : Value) : Run (Bool × Option Value) := do
  Assignment.assign code.environment code.target value
  if ← Comprehension.passes code.environment code.tests then return (false, some (← code.made))
  else return (true, none)

theorem sought_settles
    {code : Comprehension}
    (obeys : code.Obeys .single)
    (value : Value) :
    (sought code value).Settles places := by
  have grounded : (Run.Settles.discipline places).Grounded code.environment := trivial
  refine Run.Settles.bind (Assignment.assign_keeps grounded obeys.bound value) fun _ => ?_
  refine Run.Settles.bind (Comprehension.passes_keeps grounded obeys.tested) fun passed => ?_
  split
  · exact Run.Settles.bind (Comprehension.made_keeps grounded obeys) fun _ => .pure _
  · exact .pure _

/-- A generator with a single source goes through it until there is an element. -/
theorem advance_single
    {code : Comprehension}
    (alone : code.more = [])
    (source fuel : Nat)
    (engine : Engine)
    (machine : Machine) :
    advance code fuel [source] engine machine =
      (engine.foldFrom source (fun _ value after => sought code value engine after) fuel none
        machine).andThen fun found after => .returned (found.map (·, [source])) after := by
  induction fuel generalizing machine with
  | zero => rfl
  | succ fuel inductionHypothesis =>
      rw [advance, Engine.foldFrom, Outcome.andThen_assoc]
      refine Outcome.andThen_congr fun value after => ?_
      cases value with
      | none => cases fuel <;> rfl
      | some value =>
          simp only [part, alone, List.length_nil, List.getElem?_nil, sought, Run.bind_apply,
            Outcome.andThen_assoc]
          refine Outcome.andThen_congr fun _ assigned => ?_
          refine Outcome.andThen_congr fun passed tested => ?_
          cases passed with
          | false => exact inductionHypothesis tested
          | true =>
              simp only [if_true, Run.bind_apply, Outcome.andThen_assoc]
              rfl

theorem onStop_settles
    {runs : Nat → Run Result}
    {kind : Result → Machine → Prop}
    (settles : Settles (fun steps => runs steps (engines steps) machine) kind)
    (update : Machine → Machine) :
    Settles (fun steps => Run.onStop (runs steps) update (engines steps) machine) kind := by
  obtain ⟨outcome, ends, enough, settled⟩ := settles
  cases outcome with
  | exhausted => exact absurd ends id
  | stopped why after =>
      refine (Settles.stopped why (update after)).congr ⟨enough, fun steps large => ?_⟩
      have run : runs steps (engines steps) machine = .stopped why after := settled steps large
      simp only [Run.onStop, run]
  | returned result after =>
      refine (Settles.returned ends).congr ⟨enough, fun steps large => ?_⟩
      have run : runs steps (engines steps) machine = .returned result after := settled steps large
      simp only [Run.onStop, run]

/-- A generator that is looking for its next element, with its source. -/
theorem advance_settles
    (settle : Engine.Settle places engines)
    (single : machine.Single)
    {code : Comprehension}
    (obeys : code.Obeys .single)
    (alone : code.more = [])
    (source : Nat) :
    Settles (fun steps =>
      advance code (engines steps).limits.steps [source] (engines steps) machine)
      fun found after => machine.LeadsTo places after ∧
        ∀ value left, found = some (value, left) →
          left = [source] ∧ machine.Spends places after source := by
  have each : ∀ (state : Option Value) (value : Value) {machine : Machine}, machine.Single →
      Settles (fun steps => sought code value (engines steps) machine)
        fun _ after => machine.LeadsTo places after :=
    fun _ value _ single => sought_settles obeys value engines _ settle single
  simp only [advance_single alone]
  refine Settles.andThen (settle.fold source each none single) ?_
  rintro found after ⟨leads, spends⟩
  refine .returned ⟨leads, fun value left isFound => ?_⟩
  cases found with
  | none => cases isFound
  | some found =>
      cases isFound
      exact ⟨rfl, spends (Option.some_ne_none _)⟩

/-- A generator settles, and its source has spent a value if there is an element. -/
theorem nextElement_settles
    (settle : Engine.Settle places engines)
    (single : machine.Single)
    {address source : Nat}
    {code : Comprehension}
    (obeys : code.Obeys .single)
    (alone : code.more = [])
    (held : machine.iterators[address]? = some (.generator code [source] false)) :
    Settles (fun steps => nextElement address code [source] (engines steps) machine)
      (machine.Gives places address) := by
  have busy : (machine.put address (.generator code [source] true)).Single :=
    single.put (.generator obeys alone source true)
  have searched := onStop_settles (advance_settles settle busy obeys alone source) (ended address)
  refine Settles.andThen searched ?_
  rintro found after ⟨leads, spends⟩
  -- Nobody else has touched the busy generator.
  obtain ⟨later, laterHeld, follows⟩ := leads.follows (Machine.get_put_self held)
  cases follows with
  | generator =>
  have others {place : Nat} {other : Iterator} (different : place ≠ address)
      (isThere : machine.iterators[place]? = some other) :
      ∃ later, after.iterators[place]? = some later ∧ other.Follows places later :=
    leads.follows (by rw [Machine.get_put_of_ne different, isThere])
  cases found with
  | none =>
      exact .returned (Machine.leadsTo_put leads.single others held laterHeld (.ended rfl)
        (.walk .finished)).gives_none
  | some found =>
      obtain ⟨value, left⟩ := found
      obtain ⟨rfl, count, fewer, less, lasts, left⟩ := spends value left rfl
      have onward : machine.LeadsTo places (after.put address (.generator code [source] false)) :=
        Machine.leadsTo_put leads.single others held laterHeld (.refl places _)
          (.generator obeys alone source false)
      have spent : machine.Spends places (after.put address (.generator code [source] false))
          address := by
        have before := (Machine.lasts_put_iff (.generator code [source] true) held rfl).mp lasts
        have behind :=
          (Machine.lasts_put_iff (.generator code [source] false) laterHeld rfl).mpr left
        exact ⟨count, fewer, less, .of held rfl before,
          .of (Machine.get_put_self laterHeld) rfl behind⟩
      refine Settles.andThen (settle.perform (Work.marked value) onward.single)
        fun _ _ further => ?_
      exact .returned ⟨onward.trans further, fun _ => spent.andThen further⟩

/-- A walk is asked for its next value. -/
theorem next_of_walk
    {address : Nat}
    {walk : Walk}
    (held : machine.iterators[address]? = some (.walk walk))
    (engine : Engine) :
    next address engine machine = step address walk engine machine := by
  simp only [next, Run.bind_apply, Run.iterator?, Outcome.andThen, held]

/-- A generator is asked for its next element. -/
theorem next_of_generator
    {address : Nat}
    {code : Comprehension}
    {walks : List Nat}
    (held : machine.iterators[address]? = some (.generator code walks false))
    (engine : Engine) :
    next address engine machine = nextElement address code walks engine machine := by
  simp only [next, Run.bind_apply, Run.iterator?, Outcome.andThen, held]

theorem next_settles
    (settle : Engine.Settle places engines)
    (single : machine.Single)
    (address : Nat) :
    Settles (fun steps => next address (engines steps) machine) (machine.Gives places address) := by
  cases held : machine.iterators[address]? with
  | none =>
      simp only [next, Run.bind_apply, Run.iterator?, Outcome.andThen, held]
      exact .returned (Machine.LeadsTo.refl single).gives_none
  | some iterator =>
      cases single iterator (Array.mem_of_getElem? held) with
      | walk walk =>
          simp only [next_of_walk held]
          exact step_settles settle single held
      | generator obeys alone source busy =>
          cases busy with
          | true =>
              simp only [next, Run.bind_apply, Run.iterator?, Outcome.andThen, held]
              exact .stopped _ _
          | false =>
              simp only [next_of_generator held]
              exact nextElement_settles settle single obeys alone held

end Iteration

/-! ## Engines and programs -/

/-- The engine settles however many levels of calls it allows. -/
theorem Engine.within_settle (places depth : Nat) :
    Engine.Settle places fun steps => Engine.within ⟨steps, some places⟩ depth := by
  induction depth with
  | zero =>
      exact ⟨fun _ => rfl, fun _ _ machine _ _ => .stopped _ machine,
        fun _ _ machine _ => .stopped _ machine, fun _ machine _ => .stopped _ machine⟩
  | succ depth inductionHypothesis =>
      refine ⟨fun _ => rfl, ?_, ?_, ?_⟩
      · intro environment value machine obeys single
        have grounded : (Run.Settles.discipline places).Grounded environment := trivial
        exact Evaluation.evaluate_keeps grounded obeys _ machine inductionHypothesis single
      · intro callee arguments machine single
        exact inductionHypothesis.perform (Calling.call callee arguments) single
      · intro iterator machine single
        exact Iteration.next_settles inductionHypothesis single iterator

end Predicate
end Wordbook
