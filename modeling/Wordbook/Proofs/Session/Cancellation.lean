import Wordbook.Proofs.Lexicon.Counting
import Wordbook.Proofs.Session.Moves
import Wordbook.Proofs.Store.Separation

/-!
# Cancelled workflows

A workflow that is cancelled leaves the state and the stores as they were.  What cannot be undone is
done only after it was confirmed: deleting a relation, going back to the default state, writing over
a file, and generating a vocabulary beyond the threshold.
-/

namespace Wordbook
namespace Session

variable {Result Next : Type} {bytes : List UInt8}

/-! ## Generating without being forced -/

/-- The state holds no more tokens than are generated without being asked for again. -/
def WithinThreshold : Condition := fun state _ =>
  ∃ found, state = some found ∧ found.tokens.length ≤ Lexicon.threshold

theorem generate_withinThreshold
    {before : Condition}
    (alphabet maxLength : Json) :
    Ensures before (generate alphabet maxLength false)
      (fun answer state stores => answer.success = true ∧ WithinThreshold state stores)
      fun _ _ => True := by
  have anyway : ∀ state stores, before state stores → True := fun _ _ _ => True.intro
  refine Ensures.afterKeeping anyway Keeps.requireState fun state => ?_
  refine Ensures.afterKeeping anyway Keeps.require fun symbols => ?_
  refine Ensures.afterKeeping anyway Keeps.require fun length => ?_
  rcases counted : Lexicon.count symbols.length length (some Lexicon.threshold) with ⟨count, exact⟩
  dsimp only
  split
  · exact Ensures.throw anyway
  · case isFalse within =>
      refine Ensures.afterKeeping anyway Keeps.require fun lexicon => ?_
      have few : (Lexicon.tokens symbols length).length ≤ Lexicon.threshold := by
        refine Lexicon.length_tokens_le ?_
        rw [counted]
        simpa using within
      have replaced : Ensures before
          (replaceState { state with
            lexicon := lexicon, tokens := Lexicon.tokens symbols length })
          (fun _ => WithinThreshold) fun _ _ => True :=
        Ensures.replaceState fun _ _ _ => ⟨_, rfl, few⟩
      exact Ensures.bind replaced fun _ => Ensures.pure fun _ _ met => ⟨rfl, met⟩

/-- A generation that is refused changes nothing, and one that is not writes nothing. -/
theorem generate_settled
    (alphabet maxLength : Json)
    (force : Bool)
    (state : Option State)
    (stores : Stores) :
    Ensures (IsAt state stores) (Request.generateTokens alphabet maxLength force).settle
      (bySuccess (HasStores stores) (IsAt state stores)) (IsAt state stores) :=
  Ensures.settle ((FailsCleanly.generate alphabet maxLength force).untouched
    (LeavesStores.generate alphabet maxLength force) state stores)

/-! ## Exporting -/

/-- A file with some bytes is there. -/
def HasFile (path : Json) (bytes : List UInt8) : Condition := fun _ stores =>
  stores.loadFile path = .ok (some bytes)

/-- Writing a state where there is nothing leaves every file that is there as it is. -/
theorem writeState_keepsFiles
    (path place : Json)
    (state : State) :
    Ensures
      (fun found stores =>
        HasFile path bytes found stores ∧ stores.fileExists place = .ok false)
      (writeState place state) (fun _ => HasFile path bytes) (HasFile path bytes) := by
  refine Ensures.afterKeeping (fun _ _ met => met.1) Keeps.permit fun written => ?_
  have keeps : ∀ (stores changed : Stores) (outcome : Except Failure Unit),
      stores.loadFile path = .ok (some bytes) → stores.fileExists place = .ok false →
      stores.storeFile place written = (changed, outcome) →
      changed.loadFile path = .ok (some bytes) := by
    intro stores changed outcome there free wrote
    have same : (stores.storeFile place written).1 = changed := congrArg Prod.fst wrote
    rw [← same]
    exact Stores.loadFile_storeFile_of_free free there
  exact Ensures.record (fun _ _ met => met.1)
    (fun _ stores changed met wrote => keeps stores changed _ met.1 met.2 wrote)
    fun _ stores changed failure met wrote => keeps stores changed _ met.1 met.2 wrote

/-- An export that is not forced leaves every file that is there as it is. -/
theorem exportTo_keepsFiles (name path : Json) :
    Keeps (HasFile path bytes) (exportTo name false) := by
  refine Keeps.bind Keeps.get fun session => ?_
  split
  · exact Keeps.throw
  · case h_2 state _ =>
      refine Keeps.bind Keeps.get fun _ => Keeps.bind Keeps.permit fun place => ?_
      refine Ensures.bind Ensures.consult fun taken => ?_
      cases taken with
      | true => exact Ensures.throw fun _ _ met => met.1
      | false =>
          exact Ensures.bind (writeState_keepsFiles path (.str place) state) fun _ => Keeps.pure

/-- No write fails for want of a confirmation. -/
theorem storeFile_ne_fileExists
    (stores : Stores)
    (path : Json)
    (taken : String) :
    (stores.storeFile path bytes).2 ≠ .error (.issue (.fileExists taken)) := by
  have segmented : Path.segments path = .error (.storage (.escapesRoot path.plain)) ∨
      ∃ names, Path.segments path = .ok names := by
    unfold Path.segments
    cases Path.segments? path.plain with
    | none => exact .inl rfl
    | some names => exact .inr ⟨names, rfl⟩
  cases stores with
  | memory keys files =>
      rcases segmented with climbs | ⟨names, below⟩
      · simp [Stores.storeFile, MemoryFiles.write, Path.normalize, climbs, Except.map, bind,
          Except.bind]
      · simp [Stores.storeFile, MemoryFiles.write, Path.normalize, below, Except.map, bind,
          Except.bind, pure, Except.pure]
  | onDisk disk =>
      rcases segmented with climbs | ⟨names, below⟩
      · simp [Stores.storeFile, DiskFiles.write, DiskFiles.locationOf, climbs]
      · simp only [Stores.storeFile, DiskFiles.write, DiskFiles.locationOf, below]
        rcases disk.write (DiskFiles.folder ++ names) bytes with ⟨changed, ⟨_ | _⟩ | _⟩ <;> simp

/-- An action that fails for want of a confirmation has changed nothing before. -/
def AsksFirst (act : Act Result) : Prop :=
  ∀ (session left : Session) (taken : String),
    session.run act = (.error (.issue (.fileExists taken)), left) →
    left.state = session.state ∧ left.stores = session.stores

namespace AsksFirst

theorem ofKeeping {act : Act Result} (kept : ∀ condition, Keeps condition act) : AsksFirst act := by
  intro session left taken ran
  have met : IsAt session.state session.stores session.state session.stores := ⟨rfl, rfl⟩
  exact (kept (IsAt session.state session.stores)).of_error met ran

theorem afterKeeping
    {act : Act Result}
    {next : Result → Act Next}
    (kept : ∀ condition, Keeps condition act)
    (asks : ∀ result, AsksFirst (next result)) :
    AsksFirst (act >>= next) := by
  intro session left taken ran
  rw [run_bind] at ran
  have met : IsAt session.state session.stores session.state session.stores := ⟨rfl, rfl⟩
  rcases first : session.run act with ⟨failure | result, between⟩
  · rw [first] at ran
    cases ran
    exact (kept (IsAt session.state session.stores)).of_error met first
  · rw [first] at ran
    obtain ⟨sameState, sameStores⟩ :=
      (kept (IsAt session.state session.stores)).of_ok met first
    rw [← sameState, ← sameStores]
    exact asks result between left taken ran

theorem beforePure
    {act : Act Result}
    (asks : AsksFirst act)
    (change : Result → Next) :
    AsksFirst (act >>= fun result => pure (change result)) := by
  intro session left taken ran
  rw [run_bind] at ran
  rcases first : session.run act with ⟨failure | result, between⟩
  · rw [first] at ran
    cases ran
    exact asks session left taken first
  · rw [first] at ran
    cases ran

theorem storeFile (path : Json) (bytes : List UInt8) : AsksFirst (storeFile path bytes) := by
  intro session left taken ran
  rw [Session.storeFile, run_record] at ran
  cases failing : session.failing .storeFile session.calls with
  | some failure =>
      rw [failing] at ran
      cases ran
      exact ⟨rfl, rfl⟩
  | none =>
      rw [failing] at ran
      exact absurd (congrArg Prod.fst ran) (storeFile_ne_fileExists session.stores path taken)

theorem exportTo (name : Json) (force : Bool) : AsksFirst (exportTo name force) := by
  refine afterKeeping (fun _ => Keeps.get) fun session => ?_
  split
  · exact ofKeeping fun _ => Keeps.throw
  · refine afterKeeping (fun _ => Keeps.get) fun _ => ?_
    refine afterKeeping (fun _ => Keeps.permit) fun path => ?_
    refine afterKeeping (fun _ => Keeps.consult) fun taken => ?_
    split
    · exact ofKeeping fun _ => Keeps.throw
    · refine beforePure ?_ _
      exact afterKeeping (fun _ => Keeps.permit) fun bytes => storeFile _ bytes

end AsksFirst

/-- An answer to an export that asks for a confirmation has changed nothing. -/
theorem export_settled
    (name : Json)
    (force : Bool)
    (state : Option State)
    (stores : Stores) :
    Ensures (IsAt state stores) (Request.exportState name force).settle
      (fun answer foundState foundStores =>
        answer.success = false → answer.requireConfirmation = some true →
          IsAt state stores foundState foundStores)
      fun _ _ => True := by
  intro session met
  obtain ⟨rfl, rfl⟩ := met
  rw [Request.settle, run_tryCatch]
  rcases ran : session.run (Request.exportState name force).perform with ⟨failure | answer, left⟩
  · cases failure with
    | breach breach => exact True.intro
    | issue issue =>
        rintro _ asked
        cases issue with
        | fileExists taken => exact AsksFirst.exportTo name force session left taken ran
        | _ => cases asked
  · intro failed
    have success : answer.success = true :=
      (FailsCleanly.exportTo name force session.state).of_ok rfl ran
    exact absurd (success.symm.trans failed) (by decide)

end Session

namespace Workflow

open Session

/-- The workflows that may be cancelled, with their arguments. -/
inductive Flow where
  | generate (alphabet maxLength : Json)
  | addRelation (name definition : Json)
  | editRelation (id name definition : Json)
  | deleteRelation (id : Json)
  | reset
  | exportState (fileName : Json)
  | importState (path : Json)

namespace Flow

/-- Carry out a workflow. -/
def carryOut : Flow → Act (Option Answer)
  | .generate alphabet maxLength => Workflow.generate alphabet maxLength
  | .addRelation name definition => Workflow.addRelation name definition
  | .editRelation id name definition => Workflow.editRelation id name definition
  | .deleteRelation id => Workflow.deleteRelation id
  | .reset => Workflow.reset
  | .exportState fileName => Workflow.exportState fileName
  | .importState path => Workflow.importState path

/-- The title of the question that is asked before something that cannot be undone. -/
def question : Flow → Option String
  | .generate _ _ => some "Warning"
  | .deleteRelation _ => some "Delete Relation"
  | .reset => some "Reset System"
  | .exportState _ => some "File Exists"
  | .addRelation _ _ | .editRelation _ _ _ | .importState _ => none

/-- A workflow that is cancelled has left the state and the stores alone. -/
theorem carryOut_cancelled
    (flow : Flow)
    (state : Option State)
    (stores : Stores) :
    Ensures (IsAt state stores) flow.carryOut
      (orCancelled (IsAt state stores) fun _ _ _ => True) fun _ _ => True := by
  have anyway : ∀ foundState foundStores, IsAt state stores foundState foundStores → True :=
    fun _ _ _ => True.intro
  cases flow with
  | generate alphabet maxLength =>
      have retried : ∀ answer foundState foundStores, answer.success = false →
          bySuccess (HasStores stores) (IsAt state stores) answer foundState foundStores →
          IsAt state stores foundState foundStores := by
        intro answer foundState foundStores failed met
        simpa [bySuccess, failed] using met
      exact (generate_ensures (fun _ _ met => met)
        (fun force => generate_settled alphabet maxLength force state stores) retried).relax
        (orCancelled_mono fun _ _ _ _ => True.intro) anyway
  | addRelation name definition =>
      exact addRelation_ensures anyway (fun _ _ => Ensures.trivial _) name definition
  | editRelation id name definition =>
      exact editRelation_ensures anyway (fun _ _ => Ensures.trivial _) name definition
  | deleteRelation id => exact deleteRelation_ensures anyway (Ensures.trivial _)
  | reset => exact reset_ensures anyway (Ensures.trivial _) fun _ => Ensures.trivial _
  | exportState fileName =>
      exact (exportState_ensures anyway (fun name force => export_settled name force state stores)
        (fun _ _ _ failed asked met => met failed asked) fileName).relax
        (orCancelled_mono fun _ _ _ _ => True.intro) fun _ _ met => met
  | importState path => exact importState_ensures anyway (fun _ => Ensures.trivial _) path

/-- What a run did that cannot be undone: a deletion or a reset was answered or changed anything at
all, a file that was there has other bytes or is gone, or more than 10000 tokens were installed. -/
def Destroys
    (flow : Flow)
    (session : Session)
    (ended : Except Failure (Option Answer) × Session) : Prop :=
  match flow with
  | .deleteRelation _ | .reset =>
      (∃ answer, ended.1 = .ok (some answer)) ∨ ended.2.state ≠ session.state ∨
        ended.2.stores ≠ session.stores
  | .exportState _ =>
      ∃ path bytes, session.stores.loadFile path = .ok (some bytes) ∧
        ended.2.stores.loadFile path ≠ .ok (some bytes)
  | .generate _ _ =>
      (∃ state, ended.2.state = some state ∧ 10000 < state.tokens.length) ∧
        (ended.2.state ≠ session.state ∨
          ∃ answer, ended.1 = .ok (some answer) ∧ answer.success = true)
  | .addRelation _ _ | .editRelation _ _ _ | .importState _ => False

theorem confirms_of_touched
    {title : String}
    {session after : Session}
    {outcome : Except Failure (Option Answer)}
    (guarded : Confirms title session after ∨
      (after.state = session.state ∧ after.stores = session.stores ∧
        ∀ answer, outcome ≠ .ok (some answer)))
    (touched : (∃ answer, outcome = .ok (some answer)) ∨ after.state ≠ session.state ∨
      after.stores ≠ session.stores) :
    Confirms title session after := by
  rcases guarded with confirms | ⟨sameState, sameStores, unanswered⟩
  · exact confirms
  · rcases touched with ⟨answer, given⟩ | changed | changed
    · exact absurd given (unanswered answer)
    · exact absurd sameState changed
    · exact absurd sameStores changed

/-- A generation was confirmed, or it changed nothing and failed, or it stayed within the
threshold. -/
theorem generate_confirmed
    {alphabet maxLength : Json}
    {session after : Session}
    {outcome : Except Failure (Option Answer)}
    (ran : session.run (Workflow.generate alphabet maxLength) = (outcome, after)) :
    Confirms "Warning" session after ∨
      (after.state = session.state ∧
        ∀ answer, outcome = .ok (some answer) → answer.success = false) ∨
      WithinThreshold after.state after.stores := by
  have here : IsAt session.state session.stores session.state session.stores := ⟨rfl, rfl⟩
  have settled := generate_settled alphabet maxLength false session.state session.stores
  have within : Ensures (IsAt session.state session.stores)
      (Request.generateTokens alphabet maxLength false).settle
      (bySuccess WithinThreshold fun _ _ => True) fun _ _ => True :=
    Ensures.settle (generate_withinThreshold alphabet maxLength)
  have tried : Leads (Request.generateTokens alphabet maxLength false).settle :=
    Leads.settle (Leads.generate _ _ _)
  have retried : Leads
      ((Request.generateTokens alphabet maxLength true).settle >>= fun answer =>
        report answer "Success") :=
    Leads.reported (.generateTokens alphabet maxLength true) (Leads.generate _ _ _) "Success"
  rcases confirmed_or_first tried retried ran with confirms | ended
  · exact .inl confirms
  · cases ended with
    | failed attempted => exact .inr (.inl ⟨(settled.of_error here attempted).1, by simp⟩)
    | declined attempted asked sameState sameStores unanswered =>
        have refused := settled.of_ok here attempted
        have failed := (Bool.and_eq_true_iff.mp asked).1
        simp only [Bool.not_eq_true'] at failed
        simp only [bySuccess, failed, Bool.false_eq_true, if_false] at refused
        refine .inr (.inl ⟨sameState.trans refused.1, fun answer given => ?_⟩)
        exact absurd given (unanswered answer)
    | @answered first between attempted sameState sameStores =>
        cases success : first.success with
        | true =>
            have bounded := within.of_ok here attempted
            simp only [bySuccess, success, if_true] at bounded
            exact .inr (.inr (sameState ▸ bounded))
        | false =>
            have refused := settled.of_ok here attempted
            simp only [bySuccess, success, Bool.false_eq_true, if_false] at refused
            refine .inr (.inl ⟨sameState.trans refused.1, ?_⟩)
            rintro _ ⟨⟩
            exact success

/-- An export was confirmed, or it left every file that was there as it was. -/
theorem exportState_confirmed
    {fileName : Json}
    {session after : Session}
    {outcome : Except Failure (Option Answer)}
    (ran : session.run (Workflow.exportState fileName) = (outcome, after)) :
    Confirms "File Exists" session after ∨
      ∀ path bytes, session.stores.loadFile path = .ok (some bytes) →
        after.stores.loadFile path = .ok (some bytes) := by
  rw [Workflow.exportState, run_bind, run_get] at ran
  dsimp only at ran
  rw [run_bind] at ran
  have led := Leads.orPrompt fileName "Export file name" (Path.defaultExportName session.clock)
    session
  have kept : ∀ path bytes, Keeps (HasFile path bytes)
      (orPrompt fileName "Export file name" (Path.defaultExportName session.clock)) :=
    fun _ _ => orPrompt_keeps _ _ _
  rcases prompted : session.run
      (orPrompt fileName "Export file name" (Path.defaultExportName session.clock)) with
    ⟨failure | given?, between⟩
  · rw [prompted] at ran
    cases ran
    exact .inr fun path bytes there => (kept path bytes).of_error there prompted
  · rw [prompted] at ran led
    cases given? with
    | none =>
        cases ran
        exact .inr fun path bytes there => (kept path bytes).of_ok there prompted
    | some name =>
        have tried : Leads (Request.exportState name false).settle :=
          Leads.settle (Leads.exportTo _ _)
        have retried : Leads
            ((Request.exportState name true).settle >>= fun answer =>
              report answer "Exported") :=
          Leads.reported (.exportState name true) (Leads.exportTo _ _) "Exported"
        rcases confirmed_or_first tried retried ran with confirms | ended
        · exact .inl (confirms.from_earlier led)
        · refine .inr fun path bytes there => ?_
          have here := (kept path bytes).of_ok there prompted
          have spares : Keeps (HasFile path bytes) (Request.exportState name false).settle :=
            Keeps.settle (exportTo_keepsFiles name path)
          exact ended.keeps spares here

/-- A workflow that is cancelled leaves the state and the stores as they were, and one that did what
cannot be undone asked for that and was told to go on. -/
theorem carryOut_safe (flow : Flow) (session : Session) :
    ((session.run flow.carryOut).1 = .ok none →
        (session.run flow.carryOut).2.state = session.state ∧
          (session.run flow.carryOut).2.stores = session.stores) ∧
      (flow.Destroys session (session.run flow.carryOut) →
        ∃ title, flow.question = some title ∧
          Confirms title session (session.run flow.carryOut).2) := by
  rcases ran : session.run flow.carryOut with ⟨outcome, after⟩
  have here : IsAt session.state session.stores session.state session.stores := ⟨rfl, rfl⟩
  constructor
  · rintro ⟨⟩
    exact (flow.carryOut_cancelled session.state session.stores).of_ok here ran
  · intro destroys
    cases flow with
    | generate alphabet maxLength =>
        obtain ⟨⟨state, held, large⟩, installed⟩ := destroys
        refine ⟨"Warning", rfl, ?_⟩
        rcases generate_confirmed ran with confirms | ⟨same, failed⟩ | ⟨found, there, few⟩
        · exact confirms
        · rcases installed with changed | ⟨answer, given, success⟩
          · exact absurd same changed
          · exact absurd ((failed answer given).symm.trans success) (by decide)
        · have same : found = state := Option.some.inj (there.symm.trans held)
          subst same
          unfold Lexicon.threshold at few
          omega
    | deleteRelation id =>
        have leads : Leads ((Request.deleteRelation id).settle >>= fun answer =>
            report answer "Success") :=
          Leads.reported (.deleteRelation id) (Leads.delete id) "Success"
        exact ⟨"Delete Relation", rfl,
          confirms_of_touched (confirmed_or_untouched leads ran) destroys⟩
    | reset =>
        have leads : Leads ((Request.initState .null false).settle >>= fun answer =>
            (Request.saveState .null).settle >>= fun saved =>
              if saved.success = true then report answer "Reset" else report saved "Reset") := by
          refine Leads.bind (Leads.settle Leads.startAfresh) fun answer => ?_
          refine Leads.bind (Leads.settle (Leads.save .null)) fun saved => ?_
          split
          · exact Leads.report _ _
          · exact Leads.report _ _
        exact ⟨"Reset System", rfl, confirms_of_touched (confirmed_or_untouched leads ran) destroys⟩
    | exportState fileName =>
        obtain ⟨path, bytes, there, gone⟩ := destroys
        refine ⟨"File Exists", rfl, ?_⟩
        rcases exportState_confirmed ran with confirms | kept
        · exact confirms
        · exact absurd (kept path bytes there) gone
    | addRelation name definition => exact destroys.elim
    | editRelation id name definition => exact destroys.elim
    | importState path => exact destroys.elim

/-- A session with the default state and a presenter that is asked. -/
def asking (presenter : Presenter) : Session :=
  { fresh .empty presenter 0 with state := some .default }

/-- A deletion that is declined changes nothing, and one that goes on was confirmed. -/
theorem deletion_safe :
    let deletion := Flow.deleteRelation (.int 1678886400000)
    let declining := asking .silent
    let accepting := asking (.scripted [.bool true] [])
    (declining.run deletion.carryOut).1 = .ok none ∧
      (declining.run deletion.carryOut).2.state = declining.state ∧
      (accepting.run deletion.carryOut).2.state ≠ accepting.state ∧
      Confirms "Delete Relation" accepting (accepting.run deletion.carryOut).2 := by
  have declined : ((asking .silent).run
      (Flow.deleteRelation (.int 1678886400000)).carryOut).1 = .ok none := rfl
  have deleted : ((asking (.scripted [.bool true] [])).run
      (Flow.deleteRelation (.int 1678886400000)).carryOut).2.state ≠ some .default := by
    decide +kernel
  obtain ⟨title, question, confirms⟩ :=
    (carryOut_safe (.deleteRelation (.int 1678886400000)) (asking (.scripted [.bool true] []))).2
      (.inr (.inl deleted))
  cases question
  exact ⟨declined, ((carryOut_safe _ _).1 declined).1, deleted, confirms⟩

end Flow
end Workflow
end Wordbook
