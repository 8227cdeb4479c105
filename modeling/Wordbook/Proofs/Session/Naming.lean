import Wordbook.Proofs.Relation.Spelling
import Wordbook.Proofs.Session.Relations

/-!
# Names that are taken

Two relations do not have one name, and a name is told by its normal form.  So a session to which a
relation was added refuses its name however it is spaced, and in all cases in which it keeps its
normal form; a name with a stray capital can be added once more in lower case.
-/

namespace Wordbook
namespace Session

variable {session : Session} {state : State} {name : String}

/-- A text could be a name, but a session takes no relation under it, whatever its body is. -/
structure RefusesName (session : Session) (name : String) : Prop where
  named : Relation.normalName name ≠ ""
  refused : ∀ (body : String) (id : Json), ¬ Unfit name body → Relation.isMissing id = true →
    session.run (upsert (.str name) (.str body) id) = (.error (.issue .duplicateName), session)

/-- Every name can stand with some body. -/
theorem fit_true (named : Relation.normalName name ≠ "") : ¬ Unfit name "True" := by
  rintro (empty | blank | refused)
  · exact named empty
  · exact absurd blank (by decide)
  · exact absurd (by decide +kernel) refused

theorem run_upsert_new
    (held : session.state = some state)
    {body : String}
    {id : Json}
    (fit : ¬ Unfit name body)
    (missing : Relation.isMissing id = true) :
    session.run (upsert (.str name) (.str body) id) =
      session.run (append state (Relation.normalName name) (Text.trim body)) := by
  have ran := @run_upsert_of_fit _ _ (some name) (some body) held fit id
  rwa [if_pos missing] at ran

/-- A relation can be added under a name whose normal form no relation has. -/
theorem exists_added
    (held : session.state = some state)
    (named : Relation.normalName name ≠ "")
    (free : Relation.normalName name ∉ state.relations.map Relation.name) :
    ∃ answer after fresh,
      session.run (upsert (.str name) (.str "True") .null) = (.ok answer, after) ∧
        answer.success = true ∧
        after.state = some
          { state with
            relations := state.relations ++ [⟨fresh, Relation.normalName name, "True"⟩] } := by
  have untaken : ¬ isNameTaken state (Relation.normalName name) none = true := by
    intro taken
    obtain ⟨other, present, same, -⟩ := isNameTaken_iff.mp taken
    exact free (List.mem_map.mpr ⟨other, present, same⟩)
  have trimmed : Text.trim "True" = "True" := by decide
  rw [run_upsert_new held (fit_true named) rfl, run_append, if_neg untaken, trimmed]
  exact ⟨_, _, _, rfl, rfl, rfl⟩

/-- A name is refused when a relation has its normal form. -/
theorem refusesName_iff (held : session.state = some state) :
    RefusesName session name ↔
      Relation.normalName name ≠ "" ∧
        ∃ relation ∈ state.relations, relation.name = Relation.normalName name := by
  constructor
  · rintro ⟨named, refused⟩
    refine ⟨named, List.mem_map.mp (by_contra fun free => ?_)⟩
    obtain ⟨answer, after, fresh, added, -⟩ := exists_added held named free
    rw [refused "True" .null (fit_true named) rfl] at added
    cases added
  · rintro ⟨named, other, present, same⟩
    refine ⟨named, fun body id fit missing => ?_⟩
    rw [run_upsert_new held fit missing, run_append, if_pos]
    exact isNameTaken_iff.mpr ⟨other, present, same, Option.some_ne_none _⟩

/-! ## Cases of a name -/

/-- Which cases of a name a session refuses after a relation was added under it: upper case, and
every case unless the name has a stray capital.  With one, lower case is refused only if it was
before. -/
structure RefusesCases (before after : Session) (name : String) : Prop where
  raised : RefusesName after (Relation.raised name)
  lowered : RefusesName after (Relation.lowered name) ↔
    Unicode.CaseSettled name.toList ∨ RefusesName before (Relation.lowered name)
  recased : Unicode.CaseSettled name.toList → ∀ recased : String,
    Unicode.Recased name.toList recased.toList → RefusesName after recased

/-- A name that is accepted keeps its normal form in upper case, and in lower case exactly when it
has no stray capital.  A relation that is added under it keeps others from having the name in the
cases in which it keeps its normal form. -/
theorem added_name_cases
    {name normal : String}
    (accepted : Relation.normalizeName (.str name) = .ok normal) :
    Relation.CasesAgree name normal ∧
      ∀ (before after : Session) (definition id : Json) (answer : Answer),
        Relation.isMissing id = true →
          before.run (upsert (.str name) definition id) = (.ok answer, after) →
            RefusesCases before after name := by
  have agree := Relation.casesAgree accepted
  refine ⟨agree, fun before after definition id answer missing ran => ?_⟩
  obtain ⟨state, _, body, held, again, -, -, ran⟩ := run_upsert_eq_ok_iff.mp ran
  cases accepted.symm.trans again
  rw [if_pos missing] at ran
  obtain ⟨-, fresh, -, reached⟩ := state_of_run_append ran
  obtain ⟨normalized, normalGiven⟩ := Relation.normalizeName_str_eq_ok_iff.mp accepted
  -- The new relation has the normal form, so every text that is brought to it is refused.
  have refuses {other : String}
      (same : Relation.normalizeName (.str other) = .ok normal) : RefusesName after other := by
    have otherNormalized := (Relation.normalizeName_str_eq_ok_iff.mp same).1
    refine (refusesName_iff reached).mpr
      ⟨otherNormalized ▸ normalGiven, ⟨fresh, normal, body⟩, ?_, otherNormalized.symm⟩
    exact List.mem_append_right _ List.mem_cons_self
  have lowerGiven : Relation.normalName (Relation.lowered name) ≠ "" := by
    refine Relation.normalName_recased_ne_empty (normalized ▸ normalGiven) ?_
    rw [Relation.lowered, String.toList_ofList]
    exact Unicode.recased_lower name.toList
  refine ⟨refuses agree.raised, ?_, fun settled recased variant =>
    refuses (agree.recased settled recased variant)⟩
  rw [← agree.lowered]
  constructor
  · intro refused
    obtain ⟨-, relation, present, named⟩ := (refusesName_iff reached).mp refused
    rcases List.mem_append.mp present with earlier | added
    · exact .inr ((refusesName_iff held).mpr ⟨lowerGiven, relation, earlier, named⟩)
    · cases List.mem_singleton.mp added
      exact .inl (Relation.normalizeName_str_eq_ok_iff.mpr ⟨named.symm, normalGiven⟩)
  · rintro (same | refused)
    · exact refuses same
    · obtain ⟨-, relation, present, named⟩ := (refusesName_iff held).mp refused
      exact (refusesName_iff reached).mpr
        ⟨lowerGiven, relation, List.mem_append_left _ present, named⟩

/-- A sharp s is two letters in upper case, and yet the cases of such a name are all refused. -/
theorem street_cases :
    Relation.normalizeName (.str "Straße") = .ok "STRASSE" ∧
      Relation.isMissing .null = true ∧
      ∃ answer after,
        (holding .default).run (upsert (.str "Straße") (.str "True") .null) =
          (.ok answer, after) ∧
          RefusesName after "STRASSE" ∧ RefusesName after "straße" := by
  have accepted : Relation.normalizeName (.str "Straße") = .ok "STRASSE" :=
    Relation.normalizeName_str_eq_ok_iff.mpr ⟨by decide +kernel, by decide⟩
  have settled : Unicode.CaseSettled "Straße".toList := by decide
  have missing : Relation.isMissing .null = true := rfl
  obtain ⟨normalized, given⟩ := Relation.normalizeName_str_eq_ok_iff.mp accepted
  have free : Relation.normalName "Straße" ∉ State.default.relations.map Relation.name := by
    rw [normalized]
    decide
  have held : (holding .default).state = some .default := rfl
  obtain ⟨answer, after, -, ran, -⟩ := exists_added held (normalized ▸ given) free
  have refuses := (added_name_cases accepted).2 _ after _ _ answer missing ran
  have raised : Relation.raised "Straße" = "STRASSE" := by decide +kernel
  have lowered : Relation.lowered "Straße" = "straße" := by decide +kernel
  exact ⟨accepted, missing, answer, after, ran, raised ▸ refuses.raised,
    lowered ▸ refuses.lowered.mpr (.inl settled)⟩

/-- The Kelvin sign is its own upper case, and its lower case is the letter k, whose upper case is the
letter K.  So a relation can be added under each of the two. -/
theorem kelvin_not_refused :
    Relation.normalizeName (.str "\u212a") = .ok "\u212a" ∧
      Relation.lowered "\u212a" = "k" ∧
      Relation.normalizeName (.str "k") ≠ .ok "\u212a" ∧
      ∃ answer after,
        (holding .default).run (upsert (.str "\u212a") (.str "True") .null) =
          (.ok answer, after) ∧
          ¬ Failed (after.run (upsert (.str "k") (.str "True") .null)).1 := by
  have normalized : Relation.normalName "\u212a" = "\u212a" := by decide +kernel
  have named : Relation.normalName "\u212a" ≠ "" := by
    rw [normalized]
    decide
  have free : Relation.normalName "\u212a" ∉ State.default.relations.map Relation.name := by
    rw [normalized]
    decide
  have held : (holding .default).state = some .default := rfl
  obtain ⟨answer, after, fresh, ran, -, reached⟩ := exists_added held named free
  have letterNormalized : Relation.normalName "k" = "K" := by decide +kernel
  have letterNamed : Relation.normalName "k" ≠ "" := by
    rw [letterNormalized]
    decide
  have letterFree : Relation.normalName "k" ∉ (State.default.relations ++
      [⟨fresh, Relation.normalName "\u212a", "True"⟩] : List Relation).map Relation.name := by
    rw [letterNormalized, normalized, List.map_append, List.map_singleton]
    dsimp only
    decide
  obtain ⟨letterAnswer, later, -, letterRan, success, -⟩ :=
    exists_added reached letterNamed letterFree
  refine ⟨Relation.normalizeName_str_eq_ok_iff.mpr ⟨normalized, by decide⟩, by decide +kernel,
    fun same => ?_, answer, after, ran, ?_⟩
  · have equal := (Relation.normalizeName_str_eq_ok_iff.mp same).1
    rw [letterNormalized] at equal
    exact absurd equal (by decide)
  · rw [letterRan, failed_ok_iff, success]
    decide

end Session
end Wordbook
