import Wordbook.Proofs.Predicate.Discipline

/-!
# What iterators have left

An iterator over a container has so many values left at most, if a bound is set on how far lists and
sets are walked; one that works on the values of another iterator has no more left than that one.
A run leads from a machine to another one on which no iterator has more left than before: a walk may
only go on, an idle generator may only come to its end, and a busy one stays as it is.

The generators here have a single source, which they go through to its end.  With a second one an
iterator that has one value left may give any number of values.
-/

namespace Wordbook
namespace Predicate

/-- The policy of programs whose generators have a single source. -/
def Policy.single : Policy := ⟨fun _ => True, fun _ => True, fun more => more = []⟩

/-! ## Reserves -/

/-- What an iterator has left: so many values at most, or what another iterator has left. -/
inductive Reserve where
  | own (count : Nat)
  | of (source : Nat)

namespace Reserve

/-- A reserve becomes another one when values are taken. -/
inductive Shrinks : Reserve → Reserve → Prop
  | own {count fewer : Nat} (fewer_le : fewer ≤ count) : Shrinks (.own count) (.own fewer)
  | of (source : Nat) : Shrinks (.of source) (.of source)

variable {old new newer : Reserve}

theorem Shrinks.refl (reserve : Reserve) : reserve.Shrinks reserve := by
  cases reserve with
  | own count => exact .own (Nat.le_refl count)
  | of source => exact .of source

theorem Shrinks.trans (first : old.Shrinks new) (second : new.Shrinks newer) :
    old.Shrinks newer := by
  cases first with
  | of => exact second
  | own less =>
      cases second with
      | own further => exact .own (Nat.le_trans further less)

theorem Shrinks.eq_own {count : Nat} (shrinks : (Reserve.own count).Shrinks new) :
    ∃ fewer ≤ count, new = .own fewer := by
  cases shrinks with
  | own less => exact ⟨_, less, rfl⟩

theorem Shrinks.eq_of {source : Nat} (shrinks : (Reserve.of source).Shrinks new) :
    new = .of source := by
  cases shrinks with
  | of => rfl

end Reserve

/-- What a walk has left, if no list or set is walked further than to some place. -/
def Walk.reserve (places : Nat) : Walk → Reserve
  | .finished => .own 0
  | .values rest => .own rest.length
  | .chars rest => .own rest.length
  | .list _ index => .own (places - index)
  | .listBack _ count => .own count
  | .range _ _ count => .own count
  | .dict _ _ _ _ left => .own left
  | .dictBack _ _ position _ => .own position
  | .set _ position _ => .own (places - position)
  | .enumeration source _ => .of source
  | .zip [] _ => .own 0
  | .zip (source :: _) _ => .of source
  | .map _ first _ => .of first
  | .filter _ source => .of source

/-! ## Iterators -/

namespace Iterator

/-- What an iterator has left. -/
def reserve (places : Nat) : Iterator → Reserve
  | .walk rest => rest.reserve places
  | .generator _ [] _ => .own 0
  | .generator _ (source :: _) _ => .of source

/-- A walk, or a generator that goes through a single source. -/
inductive Single : Iterator → Prop
  | walk (walk : Walk) : Iterator.Single (.walk walk)
  | generator {code : Comprehension} (obeys : code.Obeys .single) (alone : code.more = [])
      (source : Nat) (busy : Bool) : Iterator.Single (.generator code [source] busy)

/-- What may have become of an iterator after a run. -/
inductive Follows (places : Nat) : Iterator → Iterator → Prop
  | walk {walk rest : Walk} (shrinks : (walk.reserve places).Shrinks (rest.reserve places)) :
      Iterator.Follows places (.walk walk) (.walk rest)
  | generator (code : Comprehension) (walks : List Nat) (busy : Bool) :
      Iterator.Follows places (.generator code walks busy) (.generator code walks busy)
  | ended {code : Comprehension} {walks : List Nat} {rest : Walk}
      (nothing : rest.reserve places = .own 0) :
      Iterator.Follows places (.generator code walks false) (.walk rest)

variable {places : Nat} {old new newer : Iterator}

theorem Follows.refl (places : Nat) (iterator : Iterator) : Follows places iterator iterator := by
  cases iterator with
  | walk walk => exact .walk (.refl _)
  | generator code walks busy => exact .generator code walks busy

theorem Follows.trans (first : old.Follows places new) (second : new.Follows places newer) :
    old.Follows places newer := by
  cases first with
  | generator => exact second
  | walk shrinks =>
      cases second with
      | walk further => exact .walk (shrinks.trans further)
  | ended nothing =>
      cases second with
      | walk further =>
          rw [nothing] at further
          obtain ⟨fewer, none_left, left⟩ := further.eq_own
          exact .ended (left.trans (congrArg Reserve.own (Nat.le_zero.mp none_left)))

theorem Follows.own
    (follows : old.Follows places new)
    {count : Nat}
    (left : old.reserve places = .own count) :
    ∃ fewer ≤ count, new.reserve places = .own fewer := by
  cases follows with
  | walk shrinks =>
      rw [reserve] at left
      exact (left ▸ shrinks).eq_own
  | generator => exact ⟨count, Nat.le_refl count, left⟩
  | ended nothing => exact ⟨0, Nat.zero_le count, nothing⟩

theorem Follows.of
    (follows : old.Follows places new)
    {source : Nat}
    (left : old.reserve places = .of source) :
    new.reserve places = .of source ∨ new.reserve places = .own 0 := by
  cases follows with
  | walk shrinks =>
      rw [reserve] at left
      exact .inl (left ▸ shrinks).eq_of
  | generator => exact .inl left
  | ended nothing => exact .inr nothing

end Iterator

/-! ## Machines -/

namespace Machine

variable {places address count : Nat} {machine after last : Machine} {iterator : Iterator}

/-- All generators of a machine go through a single source. -/
def Single (machine : Machine) : Prop := ∀ iterator ∈ machine.iterators, iterator.Single

/-- A run may lead from a machine to another one. -/
structure LeadsTo (places : Nat) (machine after : Machine) : Prop where
  single : after.Single
  follows : ∀ {address : Nat} {old : Iterator}, machine.iterators[address]? = some old →
    ∃ new, after.iterators[address]? = some new ∧ old.Follows places new

/-- An iterator gives so many values at most, be they its own or those of a chain of others. -/
inductive Lasts (places : Nat) (machine : Machine) : (address count : Nat) → Prop
  | own {address count : Nat} {iterator : Iterator}
      (held : machine.iterators[address]? = some iterator)
      (left : iterator.reserve places = .own count) : Machine.Lasts places machine address count
  | of {address source count : Nat} {iterator : Iterator}
      (held : machine.iterators[address]? = some iterator)
      (left : iterator.reserve places = .of source)
      (lasts : Machine.Lasts places machine source count) :
      Machine.Lasts places machine address count

/-- An iterator has fewer values left on a machine than on another one before it. -/
def Spends (places : Nat) (machine after : Machine) (address : Nat) : Prop :=
  ∃ count fewer, fewer < count ∧ machine.Lasts places address count ∧
    after.Lasts places address fewer

theorem LeadsTo.refl (single : machine.Single) : machine.LeadsTo places machine :=
  ⟨single, fun held => ⟨_, held, .refl places _⟩⟩

theorem LeadsTo.trans (first : machine.LeadsTo places after) (second : after.LeadsTo places last) :
    machine.LeadsTo places last := by
  refine ⟨second.single, fun held => ?_⟩
  obtain ⟨new, held, follows⟩ := first.follows held
  obtain ⟨newer, held, further⟩ := second.follows held
  exact ⟨newer, held, follows.trans further⟩

/-- Nothing but the iterators of a machine matters here. -/
theorem LeadsTo.of_iterators_eq
    (leads : machine.LeadsTo places after)
    (same : last.iterators = after.iterators) :
    machine.LeadsTo places last := by
  refine ⟨?_, fun held => ?_⟩
  · rw [Single, same]
    exact leads.single
  · rw [same]
    exact leads.follows held

theorem leadsTo_push
    (single : machine.Single)
    (alone : iterator.Single) :
    machine.LeadsTo places { machine with iterators := machine.iterators.push iterator } := by
  refine ⟨fun other isOther => ?_, fun {address old} held => ⟨old, ?_, .refl places old⟩⟩
  · rcases Array.mem_push.mp isOther with before | rfl
    · exact single other before
    · exact alone
  · obtain ⟨inside, -⟩ := Array.getElem?_eq_some_iff.mp held
    rw [Array.getElem?_push_lt inside]
    exact Array.getElem?_eq_getElem inside ▸ held

/-- A machine with a change of an iterator that it has. -/
def put (machine : Machine) (address : Nat) (iterator : Iterator) : Machine :=
  { machine with iterators := machine.iterators.setIfInBounds address iterator }

theorem get_put_of_ne {place : Nat} (different : place ≠ address) :
    (machine.put address iterator).iterators[place]? = machine.iterators[place]? :=
  Array.getElem?_setIfInBounds_ne different.symm

theorem get_put_self {old : Iterator} (held : machine.iterators[address]? = some old) :
    (machine.put address iterator).iterators[address]? = some iterator := by
  obtain ⟨inside, -⟩ := Array.getElem?_eq_some_iff.mp held
  exact Array.getElem?_setIfInBounds_self_of_lt inside

theorem Single.put (single : machine.Single) (alone : iterator.Single) :
    (machine.put address iterator).Single := by
  intro other isOther
  rcases Array.mem_or_eq_of_mem_setIfInBounds isOther with before | rfl
  · exact single other before
  · exact alone

/-- An iterator becomes what may become of it, after a run on which the others did. -/
theorem leadsTo_put
    {old new later : Iterator}
    (single : after.Single)
    (others : ∀ {place : Nat} {other : Iterator}, place ≠ address →
      machine.iterators[place]? = some other →
        ∃ later, after.iterators[place]? = some later ∧ other.Follows places later)
    (held : machine.iterators[address]? = some old)
    (laterHeld : after.iterators[address]? = some later)
    (follows : old.Follows places new)
    (alone : new.Single) :
    machine.LeadsTo places (after.put address new) := by
  refine ⟨single.put alone, fun {place other} otherHeld => ?_⟩
  by_cases same : place = address
  · subst same
    obtain rfl : old = other := Option.some.inj (held.symm.trans otherHeld)
    exact ⟨new, get_put_self laterHeld, follows⟩
  · rw [get_put_of_ne same]
    exact others same otherHeld

theorem LeadsTo.put
    (leads : machine.LeadsTo places after)
    {old new : Iterator}
    (held : machine.iterators[address]? = some old)
    (follows : old.Follows places new)
    (alone : new.Single) :
    machine.LeadsTo places (after.put address new) := by
  obtain ⟨later, laterHeld, -⟩ := leads.follows held
  exact leadsTo_put leads.single (fun _ => leads.follows) held laterHeld follows alone

theorem Lasts.unique
    {other : Nat}
    (lasts : machine.Lasts places address count)
    (otherLasts : machine.Lasts places address other) :
    other = count := by
  induction lasts with
  | own held left =>
      cases otherLasts with
      | own otherHeld otherLeft =>
          obtain rfl := Option.some.inj (held.symm.trans otherHeld)
          exact Reserve.own.inj (otherLeft.symm.trans left)
      | of otherHeld otherLeft =>
          obtain rfl := Option.some.inj (held.symm.trans otherHeld)
          cases left.symm.trans otherLeft
  | of held left _ inductionHypothesis =>
      cases otherLasts with
      | own otherHeld otherLeft =>
          obtain rfl := Option.some.inj (held.symm.trans otherHeld)
          cases left.symm.trans otherLeft
      | of otherHeld otherLeft further =>
          obtain rfl := Option.some.inj (held.symm.trans otherHeld)
          cases left.symm.trans otherLeft
          exact inductionHypothesis further

/-- No iterator has more left after a run. -/
theorem LeadsTo.lasts
    (leads : machine.LeadsTo places after)
    (lasts : machine.Lasts places address count) :
    ∃ fewer ≤ count, after.Lasts places address fewer := by
  induction lasts with
  | own held left =>
      obtain ⟨new, newHeld, follows⟩ := leads.follows held
      obtain ⟨fewer, less, left⟩ := follows.own left
      exact ⟨fewer, less, .own newHeld left⟩
  | of held left _ inductionHypothesis =>
      obtain ⟨new, newHeld, follows⟩ := leads.follows held
      obtain ⟨fewer, less, lasts⟩ := inductionHypothesis
      rcases follows.of left with left | nothing
      · exact ⟨fewer, less, .of newHeld left lasts⟩
      · exact ⟨0, Nat.zero_le _, .own newHeld nothing⟩

theorem Spends.andThen
    (spends : machine.Spends places after address)
    (leads : after.LeadsTo places last) :
    machine.Spends places last address := by
  obtain ⟨count, fewer, less, lasts, left⟩ := spends
  obtain ⟨least, further, left⟩ := leads.lasts left
  exact ⟨count, least, Nat.lt_of_le_of_lt further less, lasts, left⟩

/-- What works on the values of a source has spent one when the source has. -/
theorem Spends.of_source
    {source : Nat}
    {old new : Iterator}
    (spends : machine.Spends places after source)
    (held : machine.iterators[address]? = some old)
    (left : old.reserve places = .of source)
    (newHeld : after.iterators[address]? = some new)
    (newLeft : new.reserve places = .of source) :
    machine.Spends places after address := by
  obtain ⟨count, fewer, less, lasts, fewerLasts⟩ := spends
  exact ⟨count, fewer, less, .of held left lasts, .of newHeld newLeft fewerLasts⟩

/-- Nothing but what iterators have left matters for how long they last. -/
theorem Lasts.of_same
    (lasts : machine.Lasts places address count)
    (same : ∀ {place : Nat} {old : Iterator}, machine.iterators[place]? = some old →
      ∃ new, after.iterators[place]? = some new ∧ new.reserve places = old.reserve places) :
    after.Lasts places address count := by
  induction lasts with
  | own held left =>
      obtain ⟨new, newHeld, newLeft⟩ := same held
      exact .own newHeld (newLeft.trans left)
  | of held left _ inductionHypothesis =>
      obtain ⟨new, newHeld, newLeft⟩ := same held
      exact .of newHeld (newLeft.trans left) inductionHypothesis

theorem lasts_put_iff
    {old : Iterator}
    (new : Iterator)
    {place : Nat}
    (held : machine.iterators[place]? = some old)
    (same : new.reserve places = old.reserve places) :
    (machine.put place new).Lasts places address count ↔ machine.Lasts places address count := by
  constructor
  · refine fun lasts => lasts.of_same fun {other found} isThere => ?_
    by_cases isPlace : other = place
    · subst isPlace
      rw [get_put_self held] at isThere
      cases isThere
      exact ⟨old, held, same.symm⟩
    · rw [get_put_of_ne isPlace] at isThere
      exact ⟨found, isThere, rfl⟩
  · refine fun lasts => lasts.of_same fun {other found} isThere => ?_
    by_cases isPlace : other = place
    · subst isPlace
      obtain rfl := Option.some.inj (held.symm.trans isThere)
      exact ⟨new, get_put_self held, same⟩
    · exact ⟨found, by rw [get_put_of_ne isPlace, isThere], rfl⟩

/-- What is asked of an iterator leads to a machine on which the iterator has spent a value, if it
gave one. -/
def Gives {Given : Type} (places : Nat) (machine : Machine) (address : Nat) (value : Option Given)
    (after : Machine) : Prop :=
  machine.LeadsTo places after ∧ (value ≠ none → machine.Spends places after address)

theorem LeadsTo.gives_none {Given : Type} (leads : machine.LeadsTo places after) :
    machine.Gives places address (none : Option Given) after :=
  ⟨leads, fun given => absurd rfl given⟩

end Machine
end Predicate
end Wordbook
