import Mathlib.Data.List.Nodup
import Wordbook.Predicate.Verdict
import Wordbook.Proofs.Lexicon
import Wordbook.Proofs.Predicate.BuiltIn
import Wordbook.Proofs.Relation
import Wordbook.Session.Relations

/-!
# Well-formed states

A state is well-formed when its tokens are those of its lexicon, its relations are told apart by
identifier and by name, and every name and body is one that was accepted.  The default state is
well-formed, and every change of a state keeps it so.
-/

namespace Wordbook

/-- A name in normal form, and a trimmed body of a predicate. -/
structure Relation.Accepted (relation : Relation) : Prop where
  nameNormal : Relation.normalizeName (.str relation.name) = .ok relation.name
  bodyTrimmed : Text.trim relation.definition = relation.definition
  bodyGiven : Text.allBlank relation.definition = false
  bodyCompiles : Predicate.Definition.check relation.definition = .ok ()

/-- The parts of a state fit together. -/
structure State.WellFormed (state : State) : Prop where
  alphabetGiven : state.lexicon.alphabet ≠ ""
  lettersDistinct : state.lexicon.alphabet.toList.Nodup
  lengthPositive : 1 ≤ state.lexicon.maxLength
  tokensComplete : state.tokens = Lexicon.tokens state.lexicon.alphabet state.lexicon.maxLength
  idsDistinct : state.relationIds.Nodup
  namesDistinct : (state.relations.map Relation.name).Nodup
  relationsAccepted : ∀ relation ∈ state.relations, relation.Accepted

namespace Session

/-! ## Lists of relations -/

theorem map_id_replaceFirst
    (changed : Relation)
    (relations : List Relation) :
    (replaceFirst changed relations).map Relation.id = relations.map Relation.id := by
  induction relations with
  | nil => rfl
  | cons relation relations inductionHypothesis =>
      unfold replaceFirst
      split
      case isTrue same => simp [eq_of_beq same]
      case isFalse => simp [inductionHypothesis]

theorem mem_replaceFirst
    {changed relation : Relation}
    {relations : List Relation}
    (present : relation ∈ replaceFirst changed relations) :
    relation = changed ∨ relation ∈ relations := by
  induction relations with
  | nil => simp [replaceFirst] at present
  | cons first relations inductionHypothesis =>
      unfold replaceFirst at present
      split at present
      · exact (List.mem_cons.mp present).imp id (List.mem_cons_of_mem first)
      · rcases List.mem_cons.mp present with rfl | later
        · exact .inr List.mem_cons_self
        · exact (inductionHypothesis later).imp id (List.mem_cons_of_mem first)

/-- Replacing a relation keeps names distinct if no other relation has the new name. -/
theorem nodup_names_replaceFirst
    {changed : Relation}
    {relations : List Relation}
    (ids : (relations.map Relation.id).Nodup)
    (names : (relations.map Relation.name).Nodup)
    (untaken : ∀ relation ∈ relations, relation.name = changed.name → relation.id = changed.id) :
    ((replaceFirst changed relations).map Relation.name).Nodup := by
  induction relations with
  | nil => exact names
  | cons first relations inductionHypothesis =>
      rw [List.map_cons, List.nodup_cons] at ids names
      rw [List.forall_mem_cons] at untaken
      unfold replaceFirst
      split
      case isTrue same =>
        rw [List.map_cons, List.nodup_cons]
        refine ⟨fun taken => ?_, names.2⟩
        obtain ⟨other, present, sameName⟩ := List.mem_map.mp taken
        have sameId : other.id = first.id :=
          (untaken.2 other present sameName).trans (eq_of_beq same).symm
        exact ids.1 (sameId ▸ List.mem_map_of_mem present)
      case isFalse differs =>
        rw [List.map_cons, List.nodup_cons]
        refine ⟨fun taken => ?_, inductionHypothesis ids.2 names.2 untaken.2⟩
        obtain ⟨other, present, sameName⟩ := List.mem_map.mp taken
        rcases mem_replaceFirst present with rfl | present
        · exact differs (beq_iff_eq.mpr (untaken.1 sameName.symm))
        · exact names.1 (sameName ▸ List.mem_map_of_mem present)

theorem removeFirst_sublist
    (id : Int)
    (relations : List Relation) :
    (removeFirst id relations).Sublist relations := by
  induction relations with
  | nil => exact List.Sublist.refl _
  | cons relation relations inductionHypothesis =>
      unfold removeFirst
      split
      · exact List.sublist_cons_self relation relations
      · exact inductionHypothesis.cons_cons relation

/-- A name that is not taken is the name of no relation but the excepted one. -/
theorem id_of_name_of_not_isNameTaken
    {state : State}
    {name : String}
    {except : Option Int}
    (untaken : ¬ isNameTaken state name except = true)
    {relation : Relation}
    (present : relation ∈ state.relations)
    (named : relation.name = name) :
    some relation.id = except := by
  by_contra differs
  exact untaken (List.any_eq_true.mpr ⟨relation, present, by simp [named, differs]⟩)

end Session

namespace State.WellFormed

variable {state : State}

/-! ## Changes of a state -/

/-- The vocabulary is generated anew. -/
theorem generate
    (wellFormed : state.WellFormed)
    {lexicon : Lexicon}
    (letters : lexicon.alphabet.toList.Nodup) :
    State.WellFormed
      { state with
        lexicon := lexicon
        tokens := Lexicon.tokens lexicon.alphabet lexicon.maxLength } where
  alphabetGiven := lexicon.alphabet_ne
  lettersDistinct := letters
  lengthPositive := lexicon.maxLength_pos
  tokensComplete := rfl
  idsDistinct := wellFormed.idsDistinct
  namesDistinct := wellFormed.namesDistinct
  relationsAccepted := wellFormed.relationsAccepted

/-- A relation of a new identifier and a new name is added. -/
theorem append
    (wellFormed : state.WellFormed)
    {relation : Relation}
    (accepted : relation.Accepted)
    (newId : relation.id ∉ state.relationIds)
    (newName : ¬ Session.isNameTaken state relation.name none = true) :
    State.WellFormed { state with relations := state.relations ++ [relation] } where
  alphabetGiven := wellFormed.alphabetGiven
  lettersDistinct := wellFormed.lettersDistinct
  lengthPositive := wellFormed.lengthPositive
  tokensComplete := wellFormed.tokensComplete
  idsDistinct := by
    have distinct := List.Nodup.concat newId wellFormed.idsDistinct
    simpa [relationIds] using distinct
  namesDistinct := by
    have unused : relation.name ∉ state.relations.map Relation.name := by
      intro used
      obtain ⟨other, present, named⟩ := List.mem_map.mp used
      cases Session.id_of_name_of_not_isNameTaken newName present named
    have distinct := List.Nodup.concat unused wellFormed.namesDistinct
    simpa using distinct
  relationsAccepted := by
    intro held present
    rcases List.mem_append.mp present with present | present
    · exact wellFormed.relationsAccepted held present
    · exact List.mem_singleton.mp present ▸ accepted

/-- A relation is changed; no other one has its new name. -/
theorem replaceFirst
    (wellFormed : state.WellFormed)
    {changed : Relation}
    (accepted : changed.Accepted)
    (newName : ¬ Session.isNameTaken state changed.name (some changed.id) = true) :
    State.WellFormed
      { state with relations := Session.replaceFirst changed state.relations } where
  alphabetGiven := wellFormed.alphabetGiven
  lettersDistinct := wellFormed.lettersDistinct
  lengthPositive := wellFormed.lengthPositive
  tokensComplete := wellFormed.tokensComplete
  idsDistinct := by
    rw [relationIds, Session.map_id_replaceFirst]
    exact wellFormed.idsDistinct
  namesDistinct :=
    Session.nodup_names_replaceFirst wellFormed.idsDistinct wellFormed.namesDistinct
      fun _ present named =>
        Option.some.inj (Session.id_of_name_of_not_isNameTaken newName present named)
  relationsAccepted := by
    intro held present
    rcases Session.mem_replaceFirst present with rfl | present
    · exact accepted
    · exact wellFormed.relationsAccepted held present

/-- A relation is deleted. -/
theorem removeFirst
    (wellFormed : state.WellFormed)
    (id : Int) :
    State.WellFormed { state with relations := Session.removeFirst id state.relations } where
  alphabetGiven := wellFormed.alphabetGiven
  lettersDistinct := wellFormed.lettersDistinct
  lengthPositive := wellFormed.lengthPositive
  tokensComplete := wellFormed.tokensComplete
  idsDistinct := wellFormed.idsDistinct.sublist ((Session.removeFirst_sublist id _).map _)
  namesDistinct := wellFormed.namesDistinct.sublist ((Session.removeFirst_sublist id _).map _)
  relationsAccepted := fun held present =>
    wellFormed.relationsAccepted held ((Session.removeFirst_sublist id _).subset present)

end State.WellFormed

/-! ## The default state -/

/-- What makes a relation an accepted one, as a check that can be run. -/
def Relation.passes (relation : Relation) : Bool :=
  Relation.normalName relation.name == relation.name && !relation.name.isEmpty &&
    Text.trim relation.definition == relation.definition &&
    !Text.allBlank relation.definition &&
    (Predicate.Definition.compile relation.definition.toList).isOk

theorem Relation.accepted_of_passes
    {relation : Relation}
    (passes : relation.passes = true) :
    relation.Accepted := by
  simp only [Relation.passes, Bool.and_eq_true, Bool.not_eq_true', beq_iff_eq] at passes
  obtain ⟨⟨⟨⟨normal, named⟩, trimmed⟩, given⟩, compiles⟩ := passes
  refine ⟨?_, trimmed, given, ?_⟩
  · simp [Relation.normalizeName, Relation.textOrEmpty, Relation.normalizeText, normal, named,
      bind, Except.bind]
  · unfold Predicate.Definition.check
    cases compiled : Predicate.Definition.compile relation.definition.toList with
    | ok program => rfl
    | error fault => simp [compiled, Except.isOk, Except.toBool] at compiles

theorem State.default_relations_pass : State.default.relations.all Relation.passes = true := by
  rw [BuiltIn.relations_default, List.all_map, List.all_eq_true]
  intro builtIn _
  simp only [Function.comp, Relation.passes, builtIn.compile_definition, isOk_ok, Bool.and_true]
  cases builtIn <;> decide +kernel

/-- The default state is well-formed. -/
theorem State.default_wellFormed : State.default.WellFormed where
  alphabetGiven := by decide
  lettersDistinct := by decide
  lengthPositive := by decide
  tokensComplete := by decide +kernel
  idsDistinct := by decide
  namesDistinct := by decide
  relationsAccepted := fun _ present =>
    Relation.accepted_of_passes (List.all_eq_true.mp State.default_relations_pass _ present)

end Wordbook
