import Wordbook.CommandLine.Program
import Wordbook.Proofs.Session.Recall
import Wordbook.Proofs.Session.Runs

/-!
# From one process to the next

A process takes up the saved state, carries out one command and ends.  What the next process takes
up is the state that a command ended with if its exit code is 0, and the state that the process
itself took up if it is not.
-/

namespace Wordbook
namespace CommandLine

open Session

variable {before failed succeeded : Condition} {remembered found : Option State}

/-! ## Exit codes -/

/-- One condition for the exit code 0, and one for all others. -/
def byCode (succeeded failed : Condition) (code : Nat) : Condition :=
  if code = 0 then succeeded else failed

theorem byCode_mono
    {wider laxer : Condition}
    (succeeds : ∀ state stores, succeeded state stores → wider state stores)
    (fails : ∀ state stores, failed state stores → laxer state stores) :
    ∀ code state stores, byCode succeeded failed code state stores →
      byCode wider laxer code state stores := by
  intro code
  unfold byCode
  split
  · exact succeeds
  · exact fails

theorem printLine_keeps
    {condition : Condition}
    (text : String) :
    Keeps condition (printLine text) :=
  fun _ met => met

theorem cancelled_ensures (fails : ∀ state stores, before state stores → failed state stores) :
    Ensures before (printLine "Cancelled." >>= fun _ => pure 1) (byCode succeeded failed)
      failed := by
  refine Ensures.afterKeeping fails (printLine_keeps _) fun _ => ?_
  exact Ensures.pure fun _ _ met => fails _ _ met

/-- A workflow that saves nothing, or saved what it did itself, ends with what its answer tells. -/
theorem finish_ensures
    (fails : ∀ state stores, before state stores → failed state stores)
    (answer : Option Answer) :
    Ensures (Workflow.orCancelled before (bySuccess succeeded failed) answer) (finish answer false)
      (byCode succeeded failed) failed := by
  cases answer with
  | none => exact cancelled_ensures fails
  | some answer =>
      cases success : answer.success with
      | false =>
          simp only [finish, Workflow.orCancelled, bySuccess, success]
          exact Ensures.pure fun _ _ met => met
      | true =>
          simp only [finish, Workflow.orCancelled, bySuccess, success]
          exact Ensures.pure fun _ _ met => met

/-- After a change the state is the one that is recalled if it could be saved; else it is the one
from before the change. -/
theorem persist_ensures :
    Ensures (Recalls remembered found) persist (byCode IsRecalled (StillRecalls remembered))
      (StillRecalls remembered) := by
  refine Ensures.bind ((save_recalls .null).relax (fun _ _ _ met => met) stillRecalls_of_unsaved)
    fun answer => ?_
  cases success : answer.success with
  | true =>
      simp only [bySuccess, success, if_true]
      exact Ensures.pure isRecalled_of_recalls
  | false =>
      simp only [bySuccess, success, Bool.false_eq_true, if_false]
      refine Ensures.afterKeeping stillRecalls_of_unsaved (printLine_keeps _) fun _ => ?_
      exact Ensures.pure stillRecalls_of_unsaved

/-- A workflow that changed the state and left the stores alone ends with the state that is recalled
if it could be saved; else the one from before is still recalled. -/
theorem finish_changed_ensures (answer : Option Answer) :
    Ensures
      (Workflow.orCancelled (Recalls remembered found)
        (bySuccess (StillRecalls remembered) (Recalls remembered found)) answer)
      (finish answer true) (byCode IsRecalled (StillRecalls remembered))
      (StillRecalls remembered) := by
  have fails : ∀ state stores, Recalls remembered found state stores →
      StillRecalls remembered state stores :=
    fun _ _ met => met.2
  cases answer with
  | none => exact cancelled_ensures fails
  | some answer =>
      cases success : answer.success with
      | false =>
          simp only [finish, Workflow.orCancelled, bySuccess, success]
          exact Ensures.pure fails
      | true =>
          simp only [finish, Workflow.orCancelled, bySuccess, success]
          exact fun session met => persist_ensures session ⟨rfl, met⟩

/-! ## Commands -/

/-- A command saves the state that it ends with when it exits with 0. -/
def Command.saves : Command → Bool
  | .generate _ _ | .addRelation _ _ | .editRelation _ _ _ | .deleteRelation _ => true
  | .save _ | .reset | .importState _ => true
  | .summary | .tokens | .relations | .compare _ _ _ | .exportState _ | .files => false

/-- One of two states is recalled, whatever the state of the session is. -/
def RecallsEither (remembered found : Option State) : Condition := fun _ stores =>
  Remembers stores remembered ∨ Remembers stores found

/-- How a command that starts with one state while another is recalled may end. -/
structure Ended
    (command : Command)
    (remembered found : Option State)
    (code : Nat)
    (state : Option State)
    (stores : Stores) : Prop where
  saved : code = 0 → command.saves = true → IsRecalled state stores
  unchanged : code = 0 → command.saves = false → Recalls remembered found state stores
  spared : code ≠ 0 → RecallsEither remembered found state stores

theorem ended_of_byCode
    {command : Command}
    (saves : command.saves = true)
    (code : Nat)
    (state : Option State)
    (stores : Stores)
    (met : byCode IsRecalled (RecallsEither remembered found) code state stores) :
    Ended command remembered found code state stores := by
  unfold byCode at met
  split at met
  · case isTrue zero =>
      exact ⟨fun _ _ => met, fun _ unsaved => absurd (saves.symm.trans unsaved) (by decide),
        fun nonzero => absurd zero nonzero⟩
  · case isFalse nonzero =>
      exact ⟨fun zero => absurd zero nonzero, fun zero => absurd zero nonzero, fun _ => met⟩

theorem recallsEither_of_recalls (state : Option State) (stores : Stores) :
    Recalls remembered found state stores → RecallsEither remembered found state stores :=
  fun met => .inl met.2

theorem recallsEither_of_unsaved
    {path : Json}
    (state : Option State)
    (stores : Stores) :
    Unsaved path remembered found state stores → RecallsEither remembered found state stores
  | .inl met => .inl met.2
  | .inr ⟨_, met⟩ => .inr met.2

/-- A command that changes the state and then saves it. -/
theorem changed_ended
    {command : Command}
    {workflow : Act (Option Answer)}
    (saves : command.saves = true)
    (ensured : Ensures (Recalls remembered found) workflow
      (Workflow.orCancelled (Recalls remembered found)
        (bySuccess (StillRecalls remembered) (Recalls remembered found)))
      (Recalls remembered found)) :
    Ensures (Recalls remembered found) (workflow >>= fun answer => finish answer true)
      (Ended command remembered found) (RecallsEither remembered found) := by
  refine Ensures.bind (ensured.relax (fun _ _ _ met => met) recallsEither_of_recalls)
    fun answer => ?_
  refine (finish_changed_ensures answer).relax (fun code state stores met => ?_)
    fun _ _ met => .inl met
  have either : ∀ state stores, StillRecalls remembered state stores →
      RecallsEither remembered found state stores :=
    fun _ _ met => .inl met
  exact ended_of_byCode saves _ _ _ (byCode_mono (fun _ _ met => met) either _ _ _ met)

/-- A command whose workflow saves what it did itself. -/
theorem saved_ended
    {command : Command}
    {workflow : Act (Option Answer)}
    (saves : command.saves = true)
    (ensured : Ensures (Recalls remembered found) workflow
      (Workflow.orCancelled (Recalls remembered found)
        (bySuccess IsRecalled (RecallsEither remembered found)))
      (RecallsEither remembered found)) :
    Ensures (Recalls remembered found) (workflow >>= fun answer => finish answer false)
      (Ended command remembered found) (RecallsEither remembered found) := by
  refine Ensures.bind ensured fun answer => ?_
  exact (finish_ensures recallsEither_of_recalls answer).relax (ended_of_byCode saves)
    fun _ _ met => met

/-- A command that changes neither the state nor what is recalled. -/
theorem unchanged_ended
    {command : Command}
    {work : Act Nat}
    (saves : command.saves = false)
    (kept : Keeps (Recalls remembered found) work) :
    Ensures (Recalls remembered found) work (Ended command remembered found)
      (RecallsEither remembered found) := by
  refine kept.relax (fun code state stores met => ?_) recallsEither_of_recalls
  exact ⟨fun _ saved => absurd (saves.symm.trans saved) (by decide), fun _ _ => met,
    fun _ => recallsEither_of_recalls _ _ met⟩

theorem finish_keeps {condition : Condition} (answer : Option Answer) :
    Keeps condition (finish answer false) := by
  cases answer with
  | none => exact Keeps.bind (printLine_keeps _) fun _ => Keeps.pure
  | some answer =>
      cases success : answer.success with
      | false => simpa [finish, success] using Keeps.pure
      | true => simpa [finish, success] using Keeps.pure

/-- Printing lines changes nothing. -/
theorem printed_keeps
    {Item : Type}
    {condition : Condition}
    (line : Item → String)
    (items : List Item) :
    Keeps condition (items.forM fun item => printLine (line item)) := by
  induction items with
  | nil => exact Keeps.pure
  | cons item items inductionHypothesis =>
      exact Keeps.bind (printLine_keeps _) fun _ => inductionHypothesis

/-- A comparison asks nothing and changes nothing. -/
theorem compareWorkflow_keeps
    {condition : Condition}
    (tokenA tokenB relationId : Json) :
    Keeps condition (Workflow.compare tokenA tokenB relationId) := by
  have told : ∀ part, Keeps condition (Workflow.partText part)
    | none => Keeps.pure
    | some _ => Keeps.permit
  have compared : Keeps condition (Request.compareTokens tokenA tokenB relationId).settle :=
    Keeps.settle (compare_keeps tokenA tokenB relationId)
  refine Keeps.bind compared fun answer => ?_
  split
  · refine Keeps.bind (told _) fun left => Keeps.bind (told _) fun right => ?_
    refine Keeps.bind (told _) fun result => ?_
    exact Keeps.bind (Workflow.notify_keeps _ _) fun _ => Keeps.pure
  · exact Keeps.bind (Workflow.notify_keeps _ _) fun _ => Keeps.pure

/-- A reset that could be saved makes the default state the one that is recalled. -/
theorem reset_recalls :
    Ensures (Recalls remembered found) Workflow.reset
      (Workflow.orCancelled (Recalls remembered found)
        (bySuccess IsRecalled (RecallsEither remembered found)))
      (RecallsEither remembered found) := by
  have starts : Ensures (Recalls remembered found) (Request.initState .null false).settle
      (fun answer state stores =>
        answer.success = true ∧ Recalls remembered (some .default) state stores)
      (RecallsEither remembered found) :=
    fun session met => ⟨rfl, rfl, met.2⟩
  refine Workflow.reset_ensures recallsEither_of_recalls starts fun answer => ?_
  cases success : answer.success with
  | false => exact fun _ met => absurd met.1 (by simp)
  | true =>
      refine (save_recalls .null).weaken (fun _ _ met => met.2) (fun saved state stores met => ?_)
        fun _ _ met => .inl (stillRecalls_of_unsaved _ _ met)
      cases kept : saved.success with
      | true =>
          simp only [bySuccess, success, kept, if_true] at met ⊢
          exact isRecalled_of_recalls _ _ met
      | false =>
          simp only [bySuccess, kept, Bool.false_eq_true, if_false] at met ⊢
          exact .inl (stillRecalls_of_unsaved _ _ met)

/-- What a command that starts with one state while another is recalled may end with. -/
theorem carryOut_ended (command : Command) :
    Ensures (Recalls remembered found) command.carryOut (Ended command remembered found)
      (RecallsEither remembered found) := by
  have same : ∀ state stores, Recalls remembered found state stores →
      Recalls remembered found state stores :=
    fun _ _ met => met
  cases command with
  | summary =>
      refine unchanged_ended rfl (Keeps.bind Keeps.requireState fun state => ?_)
      exact Keeps.bind (printLine_keeps _) fun _ => Keeps.pure
  | tokens =>
      refine unchanged_ended rfl (Keeps.bind Keeps.requireState fun state => ?_)
      exact Keeps.bind (printLine_keeps _) fun _ => Keeps.pure
  | relations =>
      refine unchanged_ended rfl (Keeps.bind Keeps.requireState fun state => ?_)
      split
      · exact Keeps.bind (printLine_keeps _) fun _ => Keeps.pure
      · exact Keeps.bind (printed_keeps _ _) fun _ => Keeps.pure
  | generate alphabet maxLength =>
      refine changed_ended rfl (Workflow.generate_ensures same (fun force => ?_) ?_)
      · exact FailsCleanly.recalls (.generate _ _ _) (.generate _ _ _)
      · intro answer state stores failed met
        simpa [bySuccess, failed] using met
  | addRelation name definition =>
      refine changed_ended rfl (Workflow.addRelation_ensures same (fun name body => ?_) _ _)
      exact FailsCleanly.recalls (.upsert _ _ _) (.upsert _ _ _)
  | editRelation id name definition =>
      refine changed_ended rfl (Workflow.editRelation_ensures same (fun name body => ?_) _ _)
      exact FailsCleanly.recalls (.upsert _ _ _) (.upsert _ _ _)
  | deleteRelation id =>
      refine changed_ended rfl (Workflow.deleteRelation_ensures same ?_)
      exact FailsCleanly.recalls (.delete _) (.delete _)
  | compare tokenA relation tokenB =>
      refine unchanged_ended rfl (Keeps.bind Keeps.get fun session => ?_)
      refine Keeps.bind Keeps.permit fun reference => ?_
      exact Keeps.bind (compareWorkflow_keeps _ _ _) finish_keeps
  | save path =>
      refine saved_ended rfl (Workflow.save_ensures ?_)
      exact (save_recalls _).relax
        (bySuccess_mono isRecalled_of_recalls recallsEither_of_unsaved)
        recallsEither_of_unsaved
  | reset => exact saved_ended rfl reset_recalls
  | exportState fileName =>
      have kept : Keeps (Recalls remembered found) (Workflow.exportState (optionalText fileName)) :=
        Workflow.keeps_of_orCancelled (Workflow.exportState_ensures same export_recalls
          (fun _ _ _ _ _ met => met) _)
      exact unchanged_ended rfl (Keeps.bind kept finish_keeps)
  | importState path =>
      refine saved_ended rfl (Workflow.importState_ensures recallsEither_of_recalls ?_ _)
      exact fun path => (import_recalls path).weaken (fun _ _ met => met)
        (bySuccess_mono (fun _ _ met => met) fun _ _ met => .inl met) fun _ _ met => .inl met
  | files =>
      refine unchanged_ended rfl (Keeps.bind Keeps.consult fun entries => ?_)
      split
      · exact Keeps.bind (printLine_keeps _) fun _ => Keeps.pure
      · exact Keeps.bind (printed_keeps _ _) fun _ => Keeps.pure

/-! ## Processes -/

/-- The session of a process that carries out an invocation, whose calls may fail. -/
def Invocation.process
    (invocation : Invocation)
    (found : Surroundings)
    (failing : Call → Nat → Option Failure) : Session :=
  { invocation.session found with failing := failing }

/-- The state that a process takes up before it carries out its command. -/
def restored (process : Session) : Option State :=
  (process.run (Request.initState .null true).settle).2.state

theorem restored_recalls
    {process : Session}
    {disk : Disk}
    (onDisk : process.stores = .onDisk disk) :
    Recalls (recalled process.stores) (restored process)
      (process.run (Request.initState .null true).settle).2.state
      (process.run (Request.initState .null true).settle).2.stores := by
  have leaves : Keeps (HasStores process.stores) (Request.initState .null true).settle :=
    Keeps.settle (LeavesStores.start .null true process.stores)
  have stores := leaves.after rfl
  exact ⟨rfl, ⟨disk, stores.trans onDisk⟩, congrArg recalled stores⟩

/-- What a command leaves in a process on a disk. -/
theorem run_command
    (command : Command)
    {process : Session}
    {disk : Disk}
    (onDisk : process.stores = .onDisk disk) :
    match process.run command.run with
    | (.ok code, after) =>
        Ended command (recalled process.stores) (restored process) code after.state after.stores
    | (.error _, after) =>
        RecallsEither (recalled process.stores) (restored process) after.state after.stores := by
  have started := restored_recalls onDisk
  rw [Command.run, run_bind]
  rcases ran : process.run (Request.initState .null true).settle with ⟨failure | answer, after⟩
  · rw [ran] at started
    exact recallsEither_of_recalls _ _ started
  · rw [ran] at started
    dsimp only
    rcases carried : after.run command.carryOut with ⟨failure | code, left⟩
    · exact (carryOut_ended command).of_error started carried
    · exact (carryOut_ended command).of_ok started carried

/-- A process that can read the stores takes up the state that is recalled from them. -/
theorem restored_process
    {invocation : Invocation}
    {found : Surroundings}
    {failing : Call → Nat → Option Failure}
    (reads : failing .getKey 0 = none) :
    restored (invocation.process found failing) = recalled (.onDisk found.disk) :=
  run_restore_state rfl reads

theorem recalled_diskOf
    {stores : Stores}
    (remembers : Remembers stores remembered)
    (instead : Disk) :
    recalled (.onDisk (Invocation.diskOf stores instead)) = remembered := by
  obtain ⟨⟨disk, rfl⟩, same⟩ := remembers
  exact same

/-- What a command gives in a process, and the session that it ends with. -/
def Invocation.ended
    (invocation : Invocation)
    (command : Command)
    (found : Surroundings)
    (failing : Call → Nat → Option Failure) : Except Failure Nat × Session :=
  (invocation.process found failing).run command.run

/-- The next process, if it can read the stores, takes up the state that a command ended with if
that command exits with 0, and the state that its process took up if it does not.  A command that
saves nothing, or does not exit with 0, must have been able to read the stores itself. -/
theorem next_process_restores
    (command : Command)
    (invocation next : Invocation)
    (found later : Surroundings)
    (failing failingLater : Call → Nat → Option Failure)
    (sameDisk : later.disk =
      (Invocation.runIn command (invocation.process found failing) found.disk).disk)
    (reads : failingLater .getKey 0 = none) :
    ((invocation.ended command found failing).1 = .ok 0 →
        command.saves = true ∨ failing .getKey 0 = none →
        restored (next.process later failingLater) =
          (invocation.ended command found failing).2.state) ∧
      ((invocation.ended command found failing).1 ≠ .ok 0 →
        failing .getKey 0 = none →
        restored (next.process later failingLater) =
          restored (invocation.process found failing)) := by
  have left : ∀ remembered, Remembers (invocation.ended command found failing).2.stores remembered →
      restored (next.process later failingLater) = remembered := by
    intro remembered remembers
    rw [restored_process reads, sameDisk]
    exact recalled_diskOf remembers found.disk
  have same : failing .getKey 0 = none →
      restored (invocation.process found failing) = recalled (.onDisk found.disk) :=
    restored_process
  have either : failing .getKey 0 = none →
      ∀ state, RecallsEither (recalled (.onDisk found.disk))
        (restored (invocation.process found failing)) state
        (invocation.ended command found failing).2.stores →
      restored (next.process later failingLater) = restored (invocation.process found failing) := by
    rintro works state (remembers | remembers)
    · exact (left _ remembers).trans (same works).symm
    · exact left _ remembers
  have ended := run_command command
    (rfl : (invocation.process found failing).stores = .onDisk found.disk)
  unfold Invocation.ended at left either ⊢
  rcases ran : (invocation.process found failing).run command.run with ⟨failure | code, after⟩
  · rw [ran] at ended either
    exact ⟨nofun, fun _ works => either works _ ended⟩
  · rw [ran] at ended either left
    constructor
    · rintro ⟨⟩ able
      cases saves : command.saves with
      | true => exact left _ (ended.saved rfl saves)
      | false =>
          obtain ⟨unchanged, remembers⟩ := ended.unchanged rfl saves
          have works : failing .getKey 0 = none := able.resolve_left (by simp [saves])
          exact (left _ remembers).trans ((same works).symm.trans unchanged.symm)
    · intro failed works
      exact either works _ (ended.spared fun zero => failed (by rw [zero]))

/-- An invocation over the home directory that is used by default. -/
def plainInvocation : Invocation := ⟨none, false, none⟩

/-- The surroundings of a process with a disk and nothing to read from the console. -/
def surroundings (disk : Disk) : Surroundings := ⟨disk, [], 0, 0⟩

/-- No call fails. -/
def working : Call → Nat → Option Failure := fun _ _ => none

/-- No key can be read. -/
def unreadable : Call → Nat → Option Failure := fun call _ =>
  if call = .getKey then some (.issue (.storage (.given "unreadable"))) else none

/-- The disk that a command leaves. -/
def diskAfter (command : Command) (disk : Disk) (failing : Call → Nat → Option Failure) : Disk :=
  (Invocation.runIn command (plainInvocation.process (surroundings disk) failing) disk).disk

/-- After tokens were generated in an empty home directory the next process takes up the state with
those tokens; a command that is cancelled leaves what its process took up. -/
theorem generated_next_process_restores :
    let generating := Command.generate "ab" "1"
    let deleting := Command.deleteRelation "1"
    let home := surroundings (.blank "/home")
    (plainInvocation.ended generating home working).1 = .ok 0 ∧
      restored (plainInvocation.process
          (surroundings (diskAfter generating home.disk working)) working) =
        (plainInvocation.ended generating home working).2.state ∧
      (plainInvocation.ended deleting home working).1 = .ok 1 ∧
      restored (plainInvocation.process
          (surroundings (diskAfter deleting home.disk working)) working) =
        restored (plainInvocation.process home working) := by
  have generated : (plainInvocation.ended (.generate "ab" "1") (surroundings (.blank "/home"))
      working).1 = .ok 0 := by decide +kernel
  have cancelled : (plainInvocation.ended (.deleteRelation "1") (surroundings (.blank "/home"))
      working).1 = .ok 1 := by decide +kernel
  refine ⟨generated, ?_, cancelled, ?_⟩
  · exact (next_process_restores (.generate "ab" "1") plainInvocation plainInvocation
      (surroundings (.blank "/home")) _ working working rfl rfl).1 generated (.inl rfl)
  · exact (next_process_restores (.deleteRelation "1") plainInvocation plainInvocation
      (surroundings (.blank "/home")) _ working working rfl rfl).2 (by simp [cancelled]) rfl

/-- A disk on which a state over one letter is kept. -/
def oneLetterDisk : Disk :=
  let snapshot :=
    "\x7b\"lexicon\":\x7b\"alphabet\":\"a\",\"maxLength\":1\x7d,\"generatedTokens\":[\"a\"]," ++
      "\"relationDefinitions\":[]\x7d"
  ⟨"/home", [(["store"], .folder), (["store", "token_system_state.json"],
    .file (Encoding.encodeUtf8 snapshot.toList))]⟩

/-- A process that cannot read the kept state works with the default one, shows it and exits with 0;
the next one takes up the state that is kept. -/
theorem unread_state_not_restored :
    (plainInvocation.ended .summary (surroundings oneLetterDisk) unreadable).1 = .ok 0 ∧
      restored (plainInvocation.process
          (surroundings (diskAfter .summary oneLetterDisk unreadable)) working) ≠
        (plainInvocation.ended .summary (surroundings oneLetterDisk) unreadable).2.state ∧
      (plainInvocation.ended (.deleteRelation "1") (surroundings oneLetterDisk) unreadable).1 =
        .ok 1 ∧
      restored (plainInvocation.process
          (surroundings (diskAfter (.deleteRelation "1") oneLetterDisk unreadable)) working) ≠
        restored (plainInvocation.process (surroundings oneLetterDisk) unreadable) := by
  decide +kernel

end CommandLine
end Wordbook
