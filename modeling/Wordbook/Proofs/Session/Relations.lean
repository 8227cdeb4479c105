import Wordbook.Proofs.Relation.Reading
import Wordbook.Proofs.Session.Failures
import Wordbook.Proofs.State.WellFormed

/-!
# The relations as an ordered table

The relations of a state are rows in the order in which they were added, told apart by identifier.
Changing a row keeps its place, deleting it keeps the order of the others, and a new row comes last.
For each of these requests it is said when it is refused, and what it leaves otherwise.
-/

namespace Wordbook

/-- A text that may be left out. -/
def Json.orNull (text : Option String) : Json := text.elim .null .str

namespace Relation

theorem textOrEmpty_orNull (text : Option String) :
    textOrEmpty (.orNull text) = .ok (text.getD "") := by
  cases text <;> rfl

theorem normalizeName_orNull (name : Option String) :
    normalizeName (.orNull name) =
      if normalName (name.getD "") = "" then .error (.issue .emptyName)
      else .ok (normalName (name.getD "")) := by
  have normalized : normalizeName (.orNull name) =
      (normalizeText (name.getD "")).mapError .issue := by
    rw [normalizeName, textOrEmpty_orNull, mapError_ok, ok_bind]
  rw [normalized, normalizeText]
  split <;> simp_all

theorem requireDefinition_orNull (body : Option String) :
    requireDefinition (.orNull body) =
      if Text.allBlank (body.getD "") = true then .error (.issue .emptyBody)
      else .ok (Text.trim (body.getD "")) := by
  have required : requireDefinition (.orNull body) =
      (requireBody (body.getD "")).mapError .issue := by
    rw [requireDefinition, textOrEmpty_orNull, mapError_ok, ok_bind]
  rw [required, requireBody]
  simp only [← Text.trim_eq_empty_iff, String.isEmpty_iff]
  split <;> simp_all

end Relation

namespace Session

variable {session : Session} {state : State} {name body : Option String}

/-! ## Rows -/

/-- An identifier in use has a first relation. -/
theorem exists_first
    {relations : List Relation}
    {id : Int}
    (used : id ∈ relations.map Relation.id) :
    ∃ before found behind, relations = before ++ found :: behind ∧ found.id = id ∧
      ∀ other ∈ before, other.id ≠ id := by
  obtain ⟨relation, present, identified⟩ := List.mem_map.mp used
  have isFound : (relations.find? fun other => other.id == id).isSome :=
    List.find?_isSome.mpr ⟨relation, present, beq_iff_eq.mpr identified⟩
  obtain ⟨found, first⟩ := Option.isSome_iff_exists.mp isFound
  obtain ⟨same, before, behind, whole, passed⟩ := List.find?_eq_some_iff_append.mp first
  exact ⟨before, found, behind, whole, beq_iff_eq.mp same,
    fun other inside => by simpa using passed other inside⟩

/-- The first relation with the identifier is replaced, and the others are passed. -/
theorem replaceFirst_append
    {changed found : Relation}
    {before : List Relation}
    (passed : ∀ other ∈ before, other.id ≠ changed.id)
    (same : found.id = changed.id)
    (behind : List Relation) :
    replaceFirst changed (before ++ found :: behind) = before ++ changed :: behind := by
  induction before with
  | nil => simp [replaceFirst, same]
  | cons first before inductionHypothesis =>
      rw [List.forall_mem_cons] at passed
      rw [List.cons_append, replaceFirst, if_neg (by simpa using passed.1),
        inductionHypothesis passed.2, List.cons_append]

/-- The first relation with the identifier is removed, and the others are passed. -/
theorem removeFirst_append
    {id : Int}
    {found : Relation}
    {before : List Relation}
    (passed : ∀ other ∈ before, other.id ≠ id)
    (same : found.id = id)
    (behind : List Relation) :
    removeFirst id (before ++ found :: behind) = before ++ behind := by
  induction before with
  | nil => simp [removeFirst, same]
  | cons first before inductionHypothesis =>
      rw [List.forall_mem_cons] at passed
      rw [List.cons_append, removeFirst, if_neg (by simpa using passed.1),
        inductionHypothesis passed.2, List.cons_append]

/-- The first relation with the identifier is found, and the others are passed. -/
theorem find?_append
    {id : Int}
    {found : Relation}
    {before behind : List Relation}
    (whole : state.relations = before ++ found :: behind)
    (passed : ∀ other ∈ before, other.id ≠ id)
    (same : found.id = id) :
    state.find? id = some found := by
  have none : before.find? (fun relation => relation.id == id) = none :=
    List.find?_eq_none.mpr fun other present => by simpa using passed other present
  rw [State.find?, whole, List.find?_append, none, Option.none_or]
  exact List.find?_cons_of_pos (beq_iff_eq.mpr same)

/-- A relation stands between others and is the only one with its identifier. -/
structure Stands
    (relations : List Relation)
    (id : Int)
    (before : List Relation)
    (found : Relation)
    (behind : List Relation) : Prop where
  whole : relations = before ++ found :: behind
  identified : found.id = id
  alone : ∀ other ∈ before ++ behind, other.id ≠ id

/-- An identifier in use is that of a relation that stands alone with it. -/
theorem exists_stands
    (distinct : state.relationIds.Nodup)
    {id : Int}
    (used : id ∈ state.relationIds) :
    ∃ before found behind, Stands state.relations id before found behind := by
  obtain ⟨found, present, identified⟩ := List.mem_map.mp used
  obtain ⟨before, behind, whole⟩ := List.append_of_mem present
  refine ⟨before, found, behind, whole, identified, fun other otherPresent same => ?_⟩
  rw [State.relationIds, whole, List.map_append, List.map_cons, List.nodup_middle,
    List.nodup_cons, ← List.map_append] at distinct
  exact distinct.1 (List.mem_map.mpr ⟨other, otherPresent, same.trans identified.symm⟩)

namespace Stands

variable {id : Int} {before behind relations : List Relation} {found : Relation}

theorem ne_before (stands : Stands relations id before found behind) :
    ∀ other ∈ before, other.id ≠ id :=
  fun other present => stands.alone other (List.mem_append_left behind present)

theorem find?_eq (stands : Stands state.relations id before found behind) :
    state.find? id = some found :=
  find?_append stands.whole stands.ne_before stands.identified

theorem replaceFirst_eq
    (stands : Stands relations id before found behind)
    {changed : Relation}
    (same : changed.id = id) :
    replaceFirst changed relations = before ++ changed :: behind := by
  have passed : ∀ other ∈ before, other.id ≠ changed.id := same ▸ stands.ne_before
  rw [stands.whole, replaceFirst_append passed (stands.identified.trans same.symm)]

theorem removeFirst_eq (stands : Stands relations id before found behind) :
    removeFirst id relations = before ++ behind := by
  rw [stands.whole, removeFirst_append stands.ne_before stands.identified]

end Stands

theorem find?_eq_none_iff {id : Int} : state.find? id = none ↔ id ∉ state.relationIds := by
  simp [State.find?, State.relationIds]

/-- A relation that is replaced by itself stays as it is. -/
theorem replaceFirst_self
    (distinct : state.relationIds.Nodup)
    {relation : Relation}
    (present : relation ∈ state.relations) :
    replaceFirst relation state.relations = state.relations := by
  obtain ⟨before, found, behind, stands⟩ := exists_stands distinct (List.mem_map_of_mem present)
  have inside : found ∈ state.relations :=
    stands.whole ▸ List.mem_append_right before List.mem_cons_self
  obtain rfl : found = relation :=
    List.inj_on_of_nodup_map distinct inside present stands.identified
  rw [stands.replaceFirst_eq rfl, ← stands.whole]

/-- A name is taken by a relation that has it and is not excepted. -/
theorem isNameTaken_iff {name : String} {except : Option Int} :
    isNameTaken state name except = true ↔
      ∃ other ∈ state.relations, other.name = name ∧ some other.id ≠ except := by
  simp [isNameTaken]

/-! ## What is refused -/

/-- A name and a body that no relation can have. -/
inductive Unfit (name body : String) : Prop
  | nameless (empty : Relation.normalName name = "")
  | bodyless (blank : Text.allBlank body = true)
  | uncompiled (refused : Predicate.Definition.check (Text.trim body) ≠ .ok ())

/-- Why a relation with a name and a body is not added. -/
inductive RefusesNew (state : State) (name body : String) : Prop
  | unfit (unfit : Unfit name body)
  | taken
      {other : Relation}
      (present : other ∈ state.relations)
      (named : other.name = Relation.normalName name)

/-- Why the relation with an identifier does not get a name and a body. -/
inductive RefusesChange (state : State) (name body : String) (id : Json) : Prop
  | unfit (unfit : Unfit name body)
  | unreadable (unread : ∀ target, Relation.takeId id ≠ .ok target)
  | unknown
      {target : Int}
      (read : Relation.takeId id = .ok target)
      (unused : target ∉ state.relationIds)
  | taken
      {target : Int}
      {other : Relation}
      (read : Relation.takeId id = .ok target)
      (present : other ∈ state.relations)
      (another : other.id ≠ target)
      (named : other.name = Relation.normalName name)

/-- Why the relation with an identifier is not deleted. -/
inductive RefusesRemoval (state : State) (id : Json) : Prop
  | missing (missing : Relation.isMissing id = true)
  | unreadable (unread : ∀ target, Relation.takeId id ≠ .ok target)
  | unknown
      {target : Int}
      (read : Relation.takeId id = .ok target)
      (unused : target ∉ state.relationIds)

/-! ## What is altered -/

/-- One relation is added behind the others, under a new identifier. -/
def Adds (state : State) (name body : String) (relations : List Relation) : Prop :=
  ∃ fresh, fresh ∉ state.relationIds ∧
    relations = state.relations ++ [⟨fresh, Relation.normalName name, Text.trim body⟩]

/-- The relation with an identifier gets another name and body, and keeps its place. -/
def Revises (state : State) (name body : String) (id : Json) (relations : List Relation) : Prop :=
  ∃ target before found behind, Relation.takeId id = .ok target ∧
    Stands state.relations target before found behind ∧
    relations = before ++
      { found with name := Relation.normalName name, definition := Text.trim body } :: behind

/-- The relation with an identifier is taken out. -/
def Removes (state : State) (id : Json) (relations : List Relation) : Prop :=
  ∃ target before found behind, Relation.takeId id = .ok target ∧
    Stands state.relations target before found behind ∧ relations = before ++ behind

/-- What an action on the relations of a state comes to: it fails exactly when it is refused, and
leaves the state alone then; otherwise it alters the relations and nothing else of the state. -/
structure Alters
    (session : Session)
    (state : State)
    (act : Act Answer)
    (refused : Prop)
    (altered : List Relation → Prop) : Prop where
  fails_iff : Failed (session.run act).1 ↔ refused
  unaltered : refused → (session.run act).2.state = some state
  altered : ¬ refused →
    ∃ relations, (session.run act).2.state = some { state with relations := relations } ∧
      altered relations

namespace Alters

variable {act : Act Answer} {refused : Prop} {altered : List Relation → Prop}

theorem of_error
    {failure : Failure}
    (held : session.state = some state)
    (refuses : refused)
    (ran : session.run act = (.error failure, session)) :
    Alters session state act refused altered where
  fails_iff := by
    rw [ran]
    exact iff_of_true (.failure failure) refuses
  unaltered _ := by rw [ran, held]
  altered accepts := absurd refuses accepts

theorem of_ok
    {answer : Answer}
    {after : Session}
    {relations : List Relation}
    (accepts : ¬ refused)
    (ran : session.run act = (.ok answer, after))
    (success : answer.success = true)
    (reached : after.state = some { state with relations := relations })
    (alters : altered relations) :
    Alters session state act refused altered where
  fails_iff := by
    rw [ran, failed_ok_iff, success]
    exact iff_of_false (by decide) accepts
  unaltered refuses := absurd refuses accepts
  altered _ := ⟨relations, by rw [ran, reached], alters⟩

end Alters

/-! ## Runs -/

/-- The name is read before the body, and both before the identifier. -/
theorem run_upsert
    (held : session.state = some state)
    (name body : Option String)
    (id : Json) :
    session.run (upsert (.orNull name) (.orNull body) id) =
      if Relation.normalName (name.getD "") = "" then (.error (.issue .emptyName), session)
      else if Text.allBlank (body.getD "") = true then (.error (.issue .emptyBody), session)
      else
        match Predicate.Definition.check (Text.trim (body.getD "")) with
        | .error failure => (.error failure, session)
        | .ok () =>
            let normal := Relation.normalName (name.getD "")
            let trimmed := Text.trim (body.getD "")
            session.run
              (if Relation.isMissing id = true then append state normal trimmed
                else revise state id normal trimmed) := by
  simp only [upsert, run_bind, run_requireState held, run_permit, Relation.normalizeName_orNull,
    Relation.requireDefinition_orNull]
  by_cases nameless : Relation.normalName (name.getD "") = ""
  · simp only [nameless, if_true]
  · by_cases bodyless : Text.allBlank (body.getD "") = true
    · simp only [nameless, bodyless, if_true, if_false]
    · simp only [nameless, bodyless, Bool.false_eq_true, if_false]
      cases Predicate.Definition.check (Text.trim (body.getD "")) <;> rfl

theorem run_upsert_of_unfit
    (held : session.state = some state)
    (unfit : Unfit (name.getD "") (body.getD ""))
    (id : Json) :
    ∃ failure, session.run (upsert (.orNull name) (.orNull body) id) =
      (.error failure, session) := by
  rw [run_upsert held]
  split
  · exact ⟨_, rfl⟩
  case isFalse named =>
    split
    · exact ⟨_, rfl⟩
    case isFalse given =>
      split
      · exact ⟨_, rfl⟩
      case h_2 compiled =>
        cases unfit with
        | nameless empty => exact absurd empty named
        | bodyless blank => exact absurd blank given
        | uncompiled refused => exact absurd compiled refused

theorem run_upsert_of_fit
    (held : session.state = some state)
    (fit : ¬ Unfit (name.getD "") (body.getD ""))
    (id : Json) :
    session.run (upsert (.orNull name) (.orNull body) id) =
      session.run
        (if Relation.isMissing id = true then
          append state (Relation.normalName (name.getD "")) (Text.trim (body.getD ""))
        else revise state id (Relation.normalName (name.getD "")) (Text.trim (body.getD ""))) := by
  have compiled : Predicate.Definition.check (Text.trim (body.getD "")) = .ok () :=
    Classical.not_not.mp fun refused => fit (.uncompiled refused)
  rw [run_upsert held, if_neg fun empty => fit (.nameless empty),
    if_neg fun blank => fit (.bodyless blank), compiled]

theorem run_append (session : Session) (state : State) (name body : String) :
    session.run (append state name body) =
      if isNameTaken state name none = true then (.error (.issue .duplicateName), session)
      else
        let relation : Relation :=
          ⟨Relation.newId session.clock session.lastIssued state.relationIds, name, body⟩
        (.ok { Answer.done "Relation added" with subject := some (.relation relation) },
          { session with
            lastIssued := relation.id
            state := some { state with relations := state.relations ++ [relation] } }) := by
  rw [append]
  split <;> rfl

theorem run_revise (session : Session) (state : State) (id : Json) (name body : String) :
    session.run (revise state id name body) =
      match Relation.takeId id with
      | .error failure => (.error failure, session)
      | .ok target =>
          if (state.find? target).isNone then (.error (.issue .relationNotFound), session)
          else if isNameTaken state name (some target) = true then
            (.error (.issue .duplicateName), session)
          else
            let relation : Relation := ⟨target, name, body⟩
            (.ok { Answer.done "Relation updated" with subject := some (.relation relation) },
              { session with
                state :=
                  some { state with relations := replaceFirst relation state.relations } }) := by
  rw [revise, run_bind, run_permit]
  cases Relation.takeId id with
  | error failure => rfl
  | ok target =>
      dsimp only
      cases state.find? target with
      | none => rfl
      | some found =>
          cases taken : isNameTaken state name (some target) <;> rfl

theorem run_delete (held : session.state = some state) (id : Json) :
    session.run (delete id) =
      match Relation.takeId id with
      | .error failure => (.error failure, session)
      | .ok target =>
          match state.find? target with
          | none => (.error (.issue .relationNotFound), session)
          | some relation =>
              (.ok { Answer.done ("Relation " ++ relation.name ++ " deleted") with
                  subject := some (.relation relation) },
                { session with
                  state :=
                    some { state with relations := removeFirst target state.relations } }) := by
  rw [delete, run_bind, run_requireState held]
  simp only [run_bind, run_permit]
  cases Relation.takeId id with
  | error failure => rfl
  | ok target =>
      dsimp only
      cases state.find? target <;> rfl

/-! ## Runs that succeed -/

/-- An upsert that succeeds accepts its name and its body, and goes on with them. -/
theorem run_upsert_eq_ok_iff
    {session after : Session}
    {name definition id : Json}
    {answer : Answer} :
    session.run (upsert name definition id) = (.ok answer, after) ↔
      ∃ state normal body, session.state = some state ∧
        Relation.normalizeName name = .ok normal ∧
        Relation.requireDefinition definition = .ok body ∧
        Predicate.Definition.check body = .ok () ∧
        session.run
          (if Relation.isMissing id = true then append state normal body
            else revise state id normal body) = (.ok answer, after) := by
  simp only [upsert, run_bind_eq_ok_iff, run_requireState_eq_ok_iff, run_permit_eq_ok_iff]
  constructor
  · rintro ⟨state, _, ⟨held, rfl⟩, normal, _, ⟨normalized, rfl⟩, body, _, ⟨required, rfl⟩,
      ⟨⟩, _, ⟨checked, rfl⟩, ran⟩
    exact ⟨state, normal, body, held, normalized, required, checked, ran⟩
  · rintro ⟨state, normal, body, held, normalized, required, checked, ran⟩
    exact ⟨state, session, ⟨held, rfl⟩, normal, session, ⟨normalized, rfl⟩, body, session,
      ⟨required, rfl⟩, (), session, ⟨checked, rfl⟩, ran⟩

/-- A relation that is added has a name that none of the others has. -/
theorem state_of_run_append
    {session after : Session}
    {name body : String}
    {answer : Answer}
    (ran : session.run (append state name body) = (.ok answer, after)) :
    (∀ other ∈ state.relations, other.name ≠ name) ∧
      ∃ fresh, fresh ∉ state.relationIds ∧
        after.state =
          some { state with relations := state.relations ++ [⟨fresh, name, body⟩] } := by
  rw [run_append] at ran
  split at ran
  · cases ran
  · case isFalse untaken =>
      cases ran
      refine ⟨fun other present named => untaken ?_, _, Relation.newId_not_mem _ _ _, rfl⟩
      exact isNameTaken_iff.mpr ⟨other, present, named, Option.some_ne_none _⟩

/-- A relation that is changed is the first one with the identifier, and no other one has its new
name. -/
theorem state_of_run_revise
    {session after : Session}
    {id : Json}
    {name body : String}
    {answer : Answer}
    (ran : session.run (revise state id name body) = (.ok answer, after)) :
    ∃ target, Relation.takeId id = .ok target ∧ target ∈ state.relationIds ∧
      (∀ other ∈ state.relations, other.name = name → other.id = target) ∧
      after.state = some
        { state with relations := replaceFirst ⟨target, name, body⟩ state.relations } := by
  rw [run_revise] at ran
  cases read : Relation.takeId id with
  | error failure =>
      rw [read] at ran
      cases ran
  | ok target =>
      simp only [read] at ran
      split at ran
      · cases ran
      · case isFalse found =>
          split at ran
          · cases ran
          · case isFalse untaken =>
              cases ran
              refine ⟨target, rfl, Classical.not_not.mp fun unused => found ?_, ?_, rfl⟩
              · rw [find?_eq_none_iff.mpr unused, Option.isNone_none]
              · exact fun other present named => Option.some.inj
                  (id_of_name_of_not_isNameTaken untaken present named)

/-! ## Requests -/

/-- An upsert without an identifier adds one relation at the end, under a new identifier. -/
theorem upsert_alters_new
    (held : session.state = some state)
    (name body : Option String)
    {id : Json}
    (missing : Relation.isMissing id = true) :
    Alters session state (upsert (.orNull name) (.orNull body) id)
      (RefusesNew state (name.getD "") (body.getD ""))
      (Adds state (name.getD "") (body.getD "")) := by
  by_cases unfit : Unfit (name.getD "") (body.getD "")
  · obtain ⟨failure, ran⟩ := run_upsert_of_unfit held unfit id
    exact .of_error held (.unfit unfit) ran
  · have ran := run_upsert_of_fit held unfit id
    rw [if_pos missing, run_append] at ran
    by_cases taken : isNameTaken state (Relation.normalName (name.getD "")) none = true
    · rw [if_pos taken] at ran
      obtain ⟨other, present, named, _⟩ := isNameTaken_iff.mp taken
      exact .of_error held (.taken present named) ran
    · rw [if_neg taken] at ran
      refine .of_ok ?_ ran rfl rfl ⟨_, Relation.newId_not_mem _ _ _, rfl⟩
      rintro (unfit' | ⟨present, named⟩)
      · exact unfit unfit'
      · exact taken (isNameTaken_iff.mpr ⟨_, present, named, Option.some_ne_none _⟩)

/-- An upsert with an identifier gives a new name and body to the relation that has it. -/
theorem upsert_alters_held
    (held : session.state = some state)
    (distinct : state.relationIds.Nodup)
    (name body : Option String)
    {id : Json}
    (given : Relation.isMissing id = false) :
    Alters session state (upsert (.orNull name) (.orNull body) id)
      (RefusesChange state (name.getD "") (body.getD "") id)
      (Revises state (name.getD "") (body.getD "") id) := by
  by_cases unfit : Unfit (name.getD "") (body.getD "")
  · obtain ⟨failure, ran⟩ := run_upsert_of_unfit held unfit id
    exact .of_error held (.unfit unfit) ran
  have ran := run_upsert_of_fit held unfit id
  rw [if_neg (ne_true_of_eq_false given), run_revise] at ran
  cases read : Relation.takeId id with
  | error failure =>
      rw [read] at ran
      exact .of_error held (.unreadable (by simp [read])) ran
  | ok target =>
      simp only [read] at ran
      by_cases used : target ∈ state.relationIds
      · obtain ⟨before, found, behind, stands⟩ := exists_stands distinct used
        rw [stands.find?_eq, Option.isNone_some, if_neg Bool.false_ne_true] at ran
        by_cases taken :
            isNameTaken state (Relation.normalName (name.getD "")) (some target) = true
        · rw [if_pos taken] at ran
          obtain ⟨other, present, named, another⟩ := isNameTaken_iff.mp taken
          exact .of_error held (.taken read present (by simpa using another) named) ran
        · rw [if_neg taken, stands.replaceFirst_eq rfl] at ran
          refine .of_ok ?_ ran rfl rfl ⟨target, before, found, behind, read, stands, ?_⟩
          · intro refused
            cases refused with
            | unfit unfit' => exact unfit unfit'
            | unreadable unread => exact unread target read
            | unknown read' unused =>
                cases read.symm.trans read'
                exact unused used
            | taken read' present another named =>
                cases read.symm.trans read'
                exact taken (isNameTaken_iff.mpr ⟨_, present, named, by simpa using another⟩)
          · rw [stands.identified]
      · rw [find?_eq_none_iff.mpr used, Option.isNone_none, if_pos rfl] at ran
        exact .of_error held (.unknown read used) ran

/-- A deletion takes out the relation with the identifier. -/
theorem delete_alters
    (held : session.state = some state)
    (distinct : state.relationIds.Nodup)
    (id : Json) :
    Alters session state (delete id) (RefusesRemoval state id) (Removes state id) := by
  have ran := run_delete held id
  cases read : Relation.takeId id with
  | error failure =>
      rw [read] at ran
      exact .of_error held (.unreadable (by simp [read])) ran
  | ok target =>
      simp only [read] at ran
      by_cases used : target ∈ state.relationIds
      · obtain ⟨before, found, behind, stands⟩ := exists_stands distinct used
        simp only [stands.find?_eq, stands.removeFirst_eq] at ran
        refine .of_ok ?_ ran rfl rfl ⟨target, before, found, behind, read, stands, rfl⟩
        intro refused
        cases refused with
        | missing missing =>
            rw [Relation.not_isMissing_of_takeId read] at missing
            exact absurd missing (by decide)
        | unreadable unread => exact unread target read
        | unknown read' unused =>
            cases read.symm.trans read'
            exact unused used
      · simp only [find?_eq_none_iff.mpr used] at ran
        exact .of_error held (.unknown read used) ran

/-- The requests that change relations fail for the stated reasons only, and alter the one row that
they are about. -/
theorem relations_alter
    (held : session.state = some state)
    (distinct : state.relationIds.Nodup)
    (name body : Option String)
    (id : Json) :
    (Relation.isMissing id = true →
      Alters session state (upsert (.orNull name) (.orNull body) id)
        (RefusesNew state (name.getD "") (body.getD ""))
        (Adds state (name.getD "") (body.getD ""))) ∧
      (Relation.isMissing id = false →
        Alters session state (upsert (.orNull name) (.orNull body) id)
          (RefusesChange state (name.getD "") (body.getD "") id)
          (Revises state (name.getD "") (body.getD "") id)) ∧
      Alters session state (delete id) (RefusesRemoval state id) (Removes state id) :=
  ⟨upsert_alters_new held name body, upsert_alters_held held distinct name body,
    delete_alters held distinct id⟩

/-- The first relation gets another body under its own name, its identifier given as text. -/
theorem own_name_alters :
    (holding .default).state = some .default ∧ State.default.relationIds.Nodup ∧
      Relation.isMissing (.str " 1678886400000 ") = false ∧
      Alters (holding .default) .default
        (upsert (.orNull (some " equals ")) (.orNull (some " True ")) (.str " 1678886400000 "))
        (RefusesChange .default " equals " " True " (.str " 1678886400000 "))
        (Revises .default " equals " " True " (.str " 1678886400000 ")) ∧
      ¬ Failed ((holding .default).run
        (upsert (.orNull (some " equals ")) (.orNull (some " True "))
          (.str " 1678886400000 "))).1 := by
  have given : Relation.isMissing (.str " 1678886400000 ") = false := by decide +kernel
  have distinct : State.default.relationIds.Nodup := by decide
  have held : (holding .default).state = some .default := rfl
  have altered := relations_alter held distinct (some " equals ") (some " True ")
    (.str " 1678886400000 ")
  exact ⟨held, distinct, given, altered.2.1 given, by decide +kernel⟩

end Session
end Wordbook
