import Wordbook.Proofs.Relation.Reading
import Wordbook.Proofs.Relation.Spelling
import Wordbook.Proofs.Session.Editing

/-!
# Editing with the defaults

Who leaves out the name and the body and answers both questions by their defaults edits nothing: the
defaults are the relation's own name and body, which are accepted as they are, and when no relation is
found the default for the name is empty, which is refused.
-/

namespace Wordbook

/-! ## States that are kept as they are -/

/-- The relations of a state are told apart, and names and bodies are as upserts leave them. -/
structure State.Tidy (state : State) : Prop where
  idsDistinct : state.relationIds.Nodup
  namesDistinct : (state.relations.map Relation.name).Nodup
  namesNormal : ∀ relation ∈ state.relations,
    Relation.normalizeName (.str relation.name) = .ok relation.name
  bodiesTrimmed : ∀ relation ∈ state.relations,
    Text.trim relation.definition = relation.definition
  bodiesCompile : ∀ relation ∈ state.relations,
    Predicate.Definition.check relation.definition = .ok ()

theorem State.WellFormed.tidy {state : State} (wellFormed : state.WellFormed) : state.Tidy where
  idsDistinct := wellFormed.idsDistinct
  namesDistinct := wellFormed.namesDistinct
  namesNormal relation present := (wellFormed.relationsAccepted relation present).nameNormal
  bodiesTrimmed relation present := (wellFormed.relationsAccepted relation present).bodyTrimmed
  bodiesCompile relation present := (wellFormed.relationsAccepted relation present).bodyCompiles

/-- Two relations of one name are the same. -/
theorem State.Tidy.eq_of_name
    {state : State}
    (tidy : state.Tidy)
    {relation other : Relation}
    (present : relation ∈ state.relations)
    (otherPresent : other ∈ state.relations)
    (same : other.name = relation.name) :
    other = relation :=
  List.inj_on_of_nodup_map tidy.namesDistinct otherPresent present same

/-- The body of a relation is accepted as it is: it is trimmed, and it would not compile if it were
blank. -/
theorem State.Tidy.requireDefinition_eq
    {state : State}
    (tidy : state.Tidy)
    {relation : Relation}
    (present : relation ∈ state.relations) :
    Relation.requireDefinition (.str relation.definition) = .ok relation.definition := by
  have trimmed := tidy.bodiesTrimmed relation present
  have given : ¬ Text.allBlank relation.definition = true := by
    intro blank
    have compiles := tidy.bodiesCompile relation present
    rw [← Text.trim_eq_empty_iff, trimmed] at blank
    rw [blank] at compiles
    exact absurd compiles (by decide +kernel)
  have required := Relation.requireDefinition_orNull (some relation.definition)
  rwa [Option.getD_some, if_neg given, trimmed] at required

namespace Relation

/-! ## Identifiers as integers and as texts -/

/-- A value is an integer or its decimal text. -/
inductive Denotes : Json → Int → Prop
  | integer (value : Int) : Denotes (.int value) value
  | text (value : Int) : Denotes (.str (Number.decimalText value)) value

namespace Denotes

variable {id : Json} {target : Int}

theorem not_isMissing (denotes : Denotes id target) : isMissing id = false := by
  cases denotes with
  | integer => rfl
  | text =>
      rw [isMissing, ← Bool.not_eq_true, ← Text.trim_eq_empty_iff, Number.trim_decimalText]
      exact Number.decimalText_ne_empty target

theorem spells (denotes : Denotes id target) : Spells id target := by
  cases denotes with
  | integer => exact .integer target
  | text => exact spells_decimalText target

/-- An integer is taken as an identifier, itself or as its text, if it has a text at all. -/
theorem takeId_eq_ok_iff {read : Int} (denotes : Denotes id target) :
    takeId id = .ok read ↔ Number.hasText target = true ∧ target = read := by
  rw [takeId_eq_ok_iff_idOfText?, denotes.spells.idOfText?_eq]
  by_cases short : Number.hasText target = true
  · rw [if_pos short, and_iff_right short, Option.some.injEq]
  · rw [if_neg short]
    exact iff_of_false nofun fun both => short both.1

/-- Both readings of an identifier agree on an integer that has a text. -/
theorem asInteger_eq (denotes : Denotes id target) (short : Number.hasText target = true) :
    id.asInteger = .ok (some target) := by
  cases denotes with
  | integer => rfl
  | text =>
      rw [Json.asInteger, Number.trim_decimalText, Number.readDecimal_decimalText, if_pos short]

end Denotes

end Relation

namespace Session

variable {session : Session} {state : State}

/-! ## A relation under its own name and body -/

/-- An upsert with the name and the body of a relation succeeds with its identifier only, and
changes nothing. -/
theorem takeId_of_upsert_own
    (tidy : state.Tidy)
    {relation : Relation}
    (present : relation ∈ state.relations)
    (held : session.state = some state)
    {id : Json}
    {answer : Answer}
    {after : Session}
    (ran : session.run (upsert (.str relation.name) (.str relation.definition) id) =
      (.ok answer, after)) :
    Relation.takeId id = .ok relation.id ∧ after.state = some state := by
  obtain ⟨found, normal, body, foundHeld, normalized, required, -, ran⟩ :=
    run_upsert_eq_ok_iff.mp ran
  cases held.symm.trans foundHeld
  cases (tidy.namesNormal relation present).symm.trans normalized
  cases (tidy.requireDefinition_eq present).symm.trans required
  split at ran
  · obtain ⟨untaken, -⟩ := state_of_run_append ran
    exact absurd rfl (untaken relation present)
  · obtain ⟨target, taken, -, untaken, reached⟩ := state_of_run_revise ran
    obtain rfl := untaken relation present rfl
    refine ⟨taken, ?_⟩
    rw [reached, replaceFirst_self tidy.idsDistinct present]

/-- An upsert with the name and the body of a relation changes nothing, whatever its identifier. -/
theorem upsert_own_state
    (held : session.state = some state)
    (tidy : state.Tidy)
    {relation : Relation}
    (present : relation ∈ state.relations)
    (id : Json) :
    (session.run (upsert (.str relation.name) (.str relation.definition) id)).2.state =
      some state := by
  rcases ran : session.run (upsert (.str relation.name) (.str relation.definition) id) with
    ⟨_ | answer, after⟩
  · exact (FailsCleanly.upsert _ _ id (some state)).of_error held ran
  · exact (takeId_of_upsert_own tidy present held ran).2

/-- An upsert with the name, the body and the identifier of a relation succeeds. -/
theorem upsert_own_succeeds
    (held : session.state = some state)
    (tidy : state.Tidy)
    {relation : Relation}
    (present : relation ∈ state.relations)
    {id : Json}
    (taken : Relation.takeId id = .ok relation.id) :
    ∃ answer after, session.run (upsert (.str relation.name) (.str relation.definition) id) =
      (.ok answer, after) := by
  have given := Relation.not_isMissing_of_takeId taken
  have used : state.find? relation.id ≠ none :=
    mt find?_eq_none_iff.mp (Classical.not_not.mpr (List.mem_map_of_mem present))
  have untaken : ¬ isNameTaken state relation.name (some relation.id) = true := by
    intro taken
    obtain ⟨other, otherPresent, same, another⟩ := isNameTaken_iff.mp taken
    exact another (congrArg (some ·.id) (tidy.eq_of_name present otherPresent same))
  have revised := run_revise session state id relation.name relation.definition
  simp only [taken] at revised
  rw [if_neg (by simpa using used), if_neg untaken] at revised
  have own : session.run (upsert (.str relation.name) (.str relation.definition) id) =
      session.run (revise state id relation.name relation.definition) := by
    rw [revised]
    refine run_upsert_eq_ok_iff.mpr ⟨state, _, _, held, tidy.namesNormal relation present,
      tidy.requireDefinition_eq present, tidy.bodiesCompile relation present, ?_⟩
    rw [if_neg (ne_true_of_eq_false given), revised]
  exact ⟨_, _, own.trans revised⟩

end Session

/-! ## Questions -/

/-- A presenter answers questions, one after the other, by their defaults. -/
def Presenter.AnswersDefaults : Presenter → List (String × String) → Prop
  | _, [] => True
  | presenter, (text, default) :: questions =>
      (presenter.prompt (.str text) (.str default)).2.2 = .str default ∧
        AnswersDefaults (presenter.prompt (.str text) (.str default)).1 questions

/-- A console that assumes yes answers all questions by their defaults. -/
theorem Presenter.console_answersDefaults
    (lines : List String)
    (afterPrompt : String)
    (questions : List (String × String)) :
    (Presenter.console lines true afterPrompt).AnswersDefaults questions := by
  induction questions with
  | nil => exact True.intro
  | cons question questions inductionHypothesis => exact ⟨rfl, inductionHypothesis⟩

namespace Workflow

open Session

variable {session : Session} {state : State}

/-- A question is answered by its default unless the call fails; an issue counts as a cancelled
dialog. -/
theorem run_prompt_default
    {title default : String}
    (titled : title ≠ "")
    (answered : (session.presenter.prompt (.str title) (.str default)).2.2 = .str default) :
    session.run (prompt title default) =
      (match session.failing .prompt session.calls with
        | some (.issue _) => .ok none
        | some (.breach breach) => .error (.breach breach)
        | none => .ok (some (.str default)),
        session.asked (.str title) (.str default)) := by
  have titleKept : Request.orText (.str title) "Input" = .str title :=
    if_pos (by simpa [Json.isTruthy] using titled)
  have defaultKept : Request.orText (.str default) "" = .str default := by
    by_cases given : default = ""
    · rw [given]
      rfl
    · exact if_pos (by simpa [Json.isTruthy] using given)
  rw [prompt, run_bind, run_settle, Request.perform, run_bind, titleKept, defaultKept,
    Session.run_prompt, answered]
  rcases session.failing .prompt session.calls with _ | issue | breach
  · rfl
  · cases issue <;> rfl
  · rfl

section Prompted

variable {act : Json → Act (Option Answer)} {title default : String}

/-- A workflow goes on with the default of a question that is answered so. -/
theorem run_prompted_default
    (titled : title ≠ "")
    (answered : (session.presenter.prompt (.str title) (.str default)).2.2 = .str default)
    (works : session.failing .prompt session.calls = none) :
    session.run (orPrompt .null title default >>= fun given? =>
      match given? with
      | none => pure none
      | some given => act given) =
      (session.asked (.str title) (.str default)).run (act (.str default)) := by
  have asks : orPrompt .null title default = prompt title default := if_pos rfl
  rw [asks, run_bind, run_prompt_default titled answered, works]

/-- A workflow leaves the state at such a question if it does so when it goes on. -/
theorem state_prompted_default
    (titled : title ≠ "")
    (answered : (session.presenter.prompt (.str title) (.str default)).2.2 = .str default)
    (leaves : ((session.asked (.str title) (.str default)).run (act (.str default))).2.state =
      session.state) :
    (session.run (orPrompt .null title default >>= fun given? =>
      match given? with
      | none => pure none
      | some given => act given)).2.state = session.state := by
  cases fails : session.failing .prompt session.calls with
  | none => rwa [run_prompted_default titled answered fails]
  | some failure =>
      have asks : orPrompt .null title default = prompt title default := if_pos rfl
      rw [asks, run_bind, run_prompt_default titled answered, fails]
      cases failure <;> rfl

end Prompted

/-- A report leaves the state that the request left. -/
theorem state_run_reported (session : Session) (request : Request) (title : String) :
    (session.run (request.settle >>= fun answer => report answer title)).2.state =
      (session.run request.perform).2.state := by
  rw [← run_settle_state, run_bind]
  rcases session.run request.settle with ⟨_ | answer, after⟩
  · rfl
  · obtain ⟨text, ran⟩ := run_report after answer title
    dsimp only
    rw [ran]
    rfl

/-- A request is reported with success when it was answered so. -/
theorem succeeds_run_reported_iff (session : Session) (request : Request) (title : String) :
    Succeeds (session.run (request.settle >>= fun answer => report answer title)).1 ↔
      ∃ answer after, session.run request.perform = (.ok answer, after) ∧
        answer.success = true := by
  rw [run_bind, run_settle]
  rcases session.run request.perform with ⟨(issue | breach) | answer, after⟩
  · obtain ⟨text, ran⟩ := run_report after (.ofIssue issue) title
    dsimp only
    rw [ran, succeeds_some_iff]
    have told : (Answer.ofIssue issue).success = false := by cases issue <;> rfl
    simp [told]
  · simp only [Prod.mk.injEq, reduceCtorEq, false_and, exists_false, iff_false]
    exact nofun
  · obtain ⟨text, ran⟩ := run_report after answer title
    dsimp only
    rw [ran, succeeds_some_iff]
    simp

/-! ## The workflow -/

/-- The default for the name of the relation that was found. -/
def proposedName (relation : Option Relation) : String := (relation.map Relation.name).getD ""

/-- The default for the body of the relation that was found. -/
def proposedBody (relation : Option Relation) : String :=
  (relation.map Relation.definition).getD defaultBody

/-- The questions of the workflow that edits a relation, each with its default. -/
def editQuestions (relation : Option Relation) : List (String × String) :=
  [("Edit relation name", proposedName relation),
    ("Edit relation definition", proposedBody relation)]

/-- The session after both questions were asked. -/
def askedBoth (session : Session) (relation : Option Relation) : Session :=
  (session.asked (.str "Edit relation name") (.str (proposedName relation))).asked
    (.str "Edit relation definition") (.str (proposedBody relation))

/-- The request that the workflow makes with the defaults. -/
def defaultUpsert (id : Json) (relation : Option Relation) : Request :=
  .upsertRelation (.str (proposedName relation)) (.str (proposedBody relation)) id

variable {id : Json} {relation : Option Relation}

/-- The workflow asks for what is missing once it looked for the relation. -/
theorem run_editRelation
    (found : current session.state id = .ok relation)
    (name definition : Json) :
    session.run (editRelation id name definition) =
      session.run (orPrompt name "Edit relation name" (proposedName relation) >>= fun given? =>
        match given? with
        | none => pure none
        | some givenName =>
            orPrompt definition "Edit relation definition" (proposedBody relation) >>= fun given? =>
              match given? with
              | none => pure none
              | some body =>
                  (Request.upsertRelation givenName body id).settle >>= fun answer =>
                    report answer "Success") := by
  rw [editRelation, run_bind, run_get]
  dsimp only
  rw [run_bind, run_permit, found]
  rfl

theorem run_editRelation_default
    (found : current session.state id = .ok relation)
    (answers : session.presenter.AnswersDefaults (editQuestions relation))
    (works : ∀ calls, session.failing .prompt calls = none) :
    session.run (editRelation id .null .null) =
      (askedBoth session relation).run
        ((defaultUpsert id relation).settle >>= fun answer => report answer "Success") := by
  rw [run_editRelation found, run_prompted_default (by decide) answers.1 (works _)]
  exact run_prompted_default (by decide) answers.2.1 (works _)

theorem state_editRelation_default
    (found : current session.state id = .ok relation)
    (answers : session.presenter.AnswersDefaults (editQuestions relation))
    (leaves : ((askedBoth session relation).run (defaultUpsert id relation).perform).2.state =
      session.state) :
    (session.run (editRelation id .null .null)).2.state = session.state := by
  rw [run_editRelation found]
  refine state_prompted_default (by decide) answers.1 ?_
  refine state_prompted_default (by decide) answers.2.1 ?_
  exact (state_run_reported _ _ "Success").trans leaves

/-- What the two questions are about is a relation of the state, or none. -/
theorem current_cases (found : current (some state) id = .ok relation) :
    relation = none ∨ ∃ present ∈ state.relations, relation = some present := by
  obtain ⟨number, -, ⟨⟩⟩ := bind_eq_ok_iff.mp found
  cases held : number.bind state.find? with
  | none => exact .inl rfl
  | some present =>
      obtain ⟨target, -, held⟩ := Option.bind_eq_some_iff.mp held
      exact .inr ⟨present, List.mem_of_find?_eq_some held, rfl⟩

/-- The default of the name is refused when no relation was found. -/
theorem nameless_upsert_state
    (held : session.state = some state)
    (body : String)
    (id : Json) :
    (session.run (upsert (.str "") (.str body) id)).2.state = some state := by
  rcases ran : session.run (upsert (.str "") (.str body) id) with ⟨_ | answer, after⟩
  · exact (FailsCleanly.upsert _ _ id (some state)).of_error held ran
  · obtain ⟨_, normal, _, _, normalized, -⟩ := run_upsert_eq_ok_iff.mp ran
    obtain ⟨same, given⟩ := Relation.normalizeName_str_eq_ok_iff.mp normalized
    exact absurd same.symm given

/-- An upsert that succeeds with an integer as identifier, itself or as text, could read it. -/
theorem hasText_of_upsert
    {name definition : Json}
    {target : Int}
    {answer : Answer}
    {after : Session}
    (denotes : Relation.Denotes id target)
    (ran : session.run (upsert name definition id) = (.ok answer, after)) :
    Number.hasText target = true := by
  obtain ⟨_, _, _, -, -, -, -, ran⟩ := run_upsert_eq_ok_iff.mp ran
  rw [if_neg (ne_true_of_eq_false denotes.not_isMissing)] at ran
  obtain ⟨_, taken, -⟩ := state_of_run_revise ran
  exact (denotes.takeId_eq_ok_iff.mp taken).1

/-- An integer that has a text leads to the relation whose identifier it is. -/
theorem exists_current
    (tidy : state.Tidy)
    {target : Int}
    (used : target ∈ state.relationIds)
    (denotes : Relation.Denotes id target)
    (short : Number.hasText target = true) :
    ∃ present ∈ state.relations, present.id = target ∧
      current (some state) id = .ok (some present) := by
  obtain ⟨before, present, behind, stands⟩ := exists_stands tidy.idsDistinct used
  refine ⟨present, ?_, stands.identified, ?_⟩
  · rw [stands.whole]
    exact List.mem_append_right before List.mem_cons_self
  · refine bind_eq_ok_iff.mpr ⟨some target, denotes.asInteger_eq short, ?_⟩
    exact congrArg Except.ok stands.find?_eq

/-- A value that is no integer because it is infinite stops the workflow before its questions. -/
theorem run_editRelation_of_error
    {breach : Breach}
    (found : current session.state id = .error breach)
    (name definition : Json) :
    session.run (editRelation id name definition) = (.error (.breach breach), session) := by
  rw [editRelation, run_bind, run_get]
  dsimp only
  rw [run_bind, run_permit, found]
  rfl

/-- With both questions answered by their defaults, or a failure instead, nothing is edited. -/
theorem default_edit_state
    (held : session.state = some state)
    (tidy : state.Tidy)
    (answers : ∀ relation, current (some state) id = .ok relation →
      session.presenter.AnswersDefaults (editQuestions relation)) :
    (session.run (editRelation id .null .null)).2.state = some state := by
  cases found : current (some state) id with
  | error breach => rw [run_editRelation_of_error (held ▸ found), held]
  | ok relation =>
      have asked : (askedBoth session relation).state = some state := held
      have known : current session.state id = .ok relation := held ▸ found
      refine (state_editRelation_default known (answers relation found) ?_).trans held
      rw [held]
      rcases current_cases found with rfl | ⟨present, inside, rfl⟩
      · exact nameless_upsert_state asked defaultBody id
      · exact upsert_own_state asked tidy inside id

/-- The identifier of a relation leads to success with the defaults if it has a text. -/
theorem default_edit_succeeds
    (held : session.state = some state)
    (tidy : state.Tidy)
    (answers : ∀ relation, current (some state) id = .ok relation →
      session.presenter.AnswersDefaults (editQuestions relation))
    (works : ∀ calls, session.failing .prompt calls = none)
    {target : Int}
    (used : target ∈ state.relationIds)
    (denotes : Relation.Denotes id target)
    (short : Number.hasText target = true) :
    Succeeds (session.run (editRelation id .null .null)).1 := by
  obtain ⟨present, inside, rfl, found⟩ := exists_current tidy used denotes short
  have asked : (askedBoth session (some present)).state = some state := held
  have taken := denotes.takeId_eq_ok_iff.mpr ⟨short, rfl⟩
  obtain ⟨answer, after, ran⟩ := upsert_own_succeeds asked tidy inside taken
  rw [run_editRelation_default (held ▸ found) (answers _ found) works, succeeds_run_reported_iff]
  exact ⟨answer, after, ran, (FailsCleanly.upsert _ _ id (some state)).of_ok asked ran⟩

/-- Without a text for its identifier no relation is edited. -/
theorem hasText_of_default_edit
    (answers : ∀ relation, current session.state id = .ok relation →
      session.presenter.AnswersDefaults (editQuestions relation))
    (works : ∀ calls, session.failing .prompt calls = none)
    {target : Int}
    (denotes : Relation.Denotes id target)
    (succeeds : Succeeds (session.run (editRelation id .null .null)).1) :
    Number.hasText target = true := by
  cases found : current session.state id with
  | error breach =>
      rw [run_editRelation_of_error found] at succeeds
      cases succeeds
  | ok relation =>
      rw [run_editRelation_default found (answers relation found) works,
        succeeds_run_reported_iff] at succeeds
      obtain ⟨answer, after, ran, -⟩ := succeeds
      exact hasText_of_upsert denotes ran

/-- Who answers both questions by their defaults edits nothing, and is told of success when the
identifier is that of a relation, itself or as text, and has not too many digits to be written. -/
theorem default_edit
    (held : session.state = some state)
    (tidy : state.Tidy)
    (answers : ∀ relation, current (some state) id = .ok relation →
      session.presenter.AnswersDefaults (editQuestions relation)) :
    (session.run (editRelation id .null .null)).2.state = some state ∧
      ((∀ calls, session.failing .prompt calls = none) →
        ∀ target ∈ state.relationIds, Relation.Denotes id target →
          (Succeeds (session.run (editRelation id .null .null)).1 ↔
            Number.hasText target = true)) := by
  refine ⟨default_edit_state held tidy answers, fun works target used denotes => ⟨?_, ?_⟩⟩
  · rw [← held] at answers
    exact hasText_of_default_edit answers works denotes
  · exact default_edit_succeeds held tidy answers works used denotes

/-- The second relation is looked up by the text of its identifier. -/
theorem prefix_default_edit :
    ∃ session : Session, session.state = some .default ∧ State.default.Tidy ∧
      (∀ questions, session.presenter.AnswersDefaults questions) ∧
      (∀ calls, session.failing .prompt calls = none) ∧
      1678886400001 ∈ State.default.relationIds ∧
      Relation.Denotes (.str "1678886400001") 1678886400001 ∧
      (session.run (editRelation (.str "1678886400001") .null .null)).2.state = some .default ∧
      Succeeds (session.run (editRelation (.str "1678886400001") .null .null)).1 := by
  let session : Session := { holding .default with presenter := .console [] true "" }
  have written : Number.decimalText 1678886400001 = "1678886400001" := by decide
  have denotes : Relation.Denotes (.str "1678886400001") 1678886400001 := written ▸ .text _
  have answers : ∀ questions, session.presenter.AnswersDefaults questions :=
    Presenter.console_answersDefaults [] ""
  have works : ∀ calls, session.failing .prompt calls = none := fun _ => rfl
  have used : 1678886400001 ∈ State.default.relationIds := by decide
  have short : Number.hasText 1678886400001 = true :=
    (Number.hasText_iff_length_le _).mpr (by decide)
  have tidy := State.default_wellFormed.tidy
  have held : session.state = some .default := rfl
  have edited := @default_edit session .default (.str "1678886400001") held tidy
    fun _ _ => answers _
  exact ⟨session, held, tidy, answers, works, used, denotes, edited.1,
    (edited.2 works _ used denotes).mpr short⟩

/-- An identifier with too many digits to be written does not lead to its relation. -/
theorem unwritten_default_edit :
    ∃ (session : Session) (state : State) (target : Int),
      session.state = some state ∧ state.Tidy ∧
        (∀ questions, session.presenter.AnswersDefaults questions) ∧
        (∀ calls, session.failing .prompt calls = none) ∧
        target ∈ state.relationIds ∧
        ¬ Succeeds
          (session.run (editRelation (.str (Number.decimalText target)) .null .null)).1 := by
  let relation : Relation := ⟨Number.tooLarge, "B", "True"⟩
  let state : State := { State.default with relations := [relation] }
  let session : Session := { holding state with presenter := .console [] true "" }
  have answers : ∀ questions, session.presenter.AnswersDefaults questions :=
    Presenter.console_answersDefaults [] ""
  have tidy : state.Tidy :=
    { idsDistinct := List.nodup_singleton _
      namesDistinct := List.nodup_singleton _
      namesNormal := List.forall_mem_singleton.mpr
        (Relation.normalizeName_str_eq_ok_iff.mpr ⟨by decide +kernel, by decide⟩)
      bodiesTrimmed := List.forall_mem_singleton.mpr (by decide)
      bodiesCompile := List.forall_mem_singleton.mpr (by decide +kernel) }
  have works : ∀ calls, session.failing .prompt calls = none := fun _ => rfl
  have unwritten : ¬ Number.hasText Number.tooLarge = true := by
    rw [Number.hasText_iff, Int.natAbs_natCast]
    exact Nat.lt_irrefl _
  refine ⟨session, state, Number.tooLarge, rfl, tidy, answers, works, List.mem_singleton_self _, ?_⟩
  exact mt (hasText_of_default_edit (fun _ _ => answers _) works (.text _)) unwritten

end Workflow

end Wordbook
