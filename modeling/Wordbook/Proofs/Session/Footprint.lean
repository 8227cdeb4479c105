import Wordbook.Proofs.Session.Frames
import Wordbook.Proofs.Store.Untouched

/-!
# What instructions can touch

For each instruction it is said which parts of the state and of the stores stay as they are, with
any parameters and whether it succeeds or fails: the state as a whole, the relations or the
vocabulary; all of the stores, every key but that of the state, every file but one.
-/

namespace Wordbook
namespace Session

variable {Result Next : Type}

/-! ## Parts of the state -/

namespace LeavesState

protected theorem bind
    {act : Act Result}
    {next : Result → Act Next}
    (first : LeavesState act)
    (second : ∀ result, LeavesState (next result)) :
    LeavesState (act >>= next) :=
  fun state => Keeps.bind (first state) fun result => second result state

theorem ofKeeps {act : Act Result} (kept : ∀ condition, Keeps condition act) : LeavesState act :=
  fun state => kept (HasState state)

theorem save (path : Json) : LeavesState (save path) := by
  refine .bind (ofKeeps fun _ => Keeps.get) fun session => ?_
  split
  · exact refuse _
  · refine .bind (keepState _) fun _ => ?_
    split
    · exact .bind (writeState _ _) fun _ => ofKeeps fun _ => Keeps.pure
    · exact ofKeeps fun _ => Keeps.pure

theorem exportTo (name : Json) (force : Bool) : LeavesState (exportTo name force) := by
  refine .bind (ofKeeps fun _ => Keeps.get) fun session => ?_
  split
  · exact refuse _
  · refine .bind (ofKeeps fun _ => Keeps.get) fun session => ?_
    refine .bind (ofKeeps fun _ => Keeps.permit) fun path => ?_
    refine .bind (ofKeeps fun _ => Keeps.consult) fun taken => ?_
    split
    · exact refuse _
    · exact .bind (writeState _ _) fun _ => ofKeeps fun _ => Keeps.pure

end LeavesState

/-- A part of the state, if there is one, is the one that was seen. -/
def HasPart {Part : Type} (part : State → Part) (seen : Option Part) : Condition :=
  fun found _ => found.map part = seen

/-- Whatever comes of an action, a part of the state is the one from before. -/
def LeavesPart {Part : Type} (part : State → Part) (act : Act Result) : Prop :=
  ∀ seen, Keeps (HasPart part seen) act

section LeavesPart

variable {Part : Type} {part : State → Part} {seen : Option Part} {state : State}

theorem LeavesPart.run_map
    {act : Act Result}
    (leaves : LeavesPart part act)
    (session : Session) :
    (session.run act).2.state.map part = session.state.map part :=
  (leaves (session.state.map part)).after rfl

theorem requireState_yieldsPart :
    Yields (HasPart part seen) requireState fun state => some (part state) = seen :=
  Yields.requireState fun _ _ same => same

theorem replaceState_keepsPart (same : some (part state) = seen) :
    Keeps (HasPart part seen) (replaceState state) :=
  Ensures.replaceState fun _ _ _ => same

theorem generate_leavesRelations (alphabet maxLength : Json) (force : Bool) :
    LeavesPart State.relations (generate alphabet maxLength force) := by
  intro seen
  refine Keeps.bindYields requireState_yieldsPart fun state same => ?_
  refine Keeps.bind Keeps.require fun symbols => Keeps.bind Keeps.require fun length => ?_
  rcases Lexicon.count symbols.length length (some Lexicon.threshold) with ⟨count, exact⟩
  dsimp only
  split
  · exact Keeps.throw
  · refine Keeps.bind Keeps.require fun lexicon => ?_
    exact Keeps.bind (replaceState_keepsPart same) fun _ => Keeps.pure

/-- The lexicon and the tokens. -/
def vocabulary (state : State) : Lexicon × List String := (state.lexicon, state.tokens)

theorem append_keepsVocabulary
    {seen : Option (Lexicon × List String)}
    (same : some (vocabulary state) = seen)
    (name body : String) :
    Keeps (HasPart vocabulary seen) (append state name body) := by
  unfold append
  split
  · exact Keeps.throw
  · refine Ensures.note (fun _ => rfl) (fun _ => rfl) fun session => ?_
    exact Keeps.bind (replaceState_keepsPart same) fun _ => Keeps.pure

theorem revise_keepsVocabulary
    {seen : Option (Lexicon × List String)}
    (same : some (vocabulary state) = seen)
    (id : Json)
    (name body : String) :
    Keeps (HasPart vocabulary seen) (revise state id name body) := by
  refine Keeps.bind Keeps.permit fun target => ?_
  split
  · exact Keeps.throw
  · split
    · exact Keeps.throw
    · exact Keeps.bind (replaceState_keepsPart same) fun _ => Keeps.pure

theorem upsert_leavesVocabulary (name definition id : Json) :
    LeavesPart vocabulary (upsert name definition id) := by
  intro seen
  refine Keeps.bindYields requireState_yieldsPart fun state same => ?_
  refine Keeps.bind Keeps.permit fun normalized => Keeps.bind Keeps.permit fun body => ?_
  refine Keeps.bind Keeps.permit fun _ => ?_
  split
  · exact append_keepsVocabulary same normalized body
  · exact revise_keepsVocabulary same id normalized body

theorem delete_leavesVocabulary (id : Json) : LeavesPart vocabulary (delete id) := by
  intro seen
  refine Keeps.bindYields requireState_yieldsPart fun state same => ?_
  refine Keeps.bind Keeps.permit fun target => ?_
  split
  · exact Keeps.throw
  · exact Keeps.bind (replaceState_keepsPart same) fun _ => Keeps.pure

end LeavesPart

/-! ## Parts of the stores -/

/-- Whatever comes of an action, the stores are the ones from before but for some keys and some
normalized paths. -/
def Touches (keys places : String → Prop) (act : Act Result) : Prop :=
  ∀ before, Keeps (fun _ stores => Stores.SameBut keys places before stores) act

namespace Touches

variable {keys places : String → Prop}

theorem run_stores
    {act : Act Result}
    (touches : Touches keys places act)
    (session : Session) :
    Stores.SameBut keys places session.stores (session.run act).2.stores :=
  (touches session.stores).after (.refl _)

theorem ofKeeps
    {act : Act Result}
    (kept : ∀ condition, Keeps condition act) :
    Touches keys places act :=
  fun _ => kept _

protected theorem bind
    {act : Act Result}
    {next : Result → Act Next}
    (first : Touches keys places act)
    (second : ∀ result, Touches keys places (next result)) :
    Touches keys places (act >>= next) :=
  fun before => Keeps.bind (first before) fun result => second result before

theorem replaceState (state : State) : Touches keys places (replaceState state) :=
  fun _ => Ensures.replaceState fun _ _ same => same

/-- A state is kept under the key of the state. -/
theorem keepState (inside : keys stateKey) (state : State) :
    Touches keys places (keepState state) := by
  intro before
  refine Keeps.bind Keeps.permit fun bytes => Keeps.record fun _ stores same => ?_
  refine same.trans ((stores.sameBut_setKey stateKey bytes).weaken ?_ nofun)
  rintro _ rfl
  exact inside

/-- A state is written at its path. -/
theorem writeState
    {path : Json}
    (inside : ∀ place, Path.normalize path = .ok place → places place)
    (state : State) :
    Touches keys places (writeState path state) := by
  intro before
  refine Keeps.bind Keeps.permit fun bytes => Keeps.record fun _ stores same => ?_
  exact same.trans ((stores.sameBut_storeFile path bytes).weaken nofun inside)

theorem save (path : Json) :
    Touches (· = stateKey)
      (fun place => path.isTruthy = true ∧ Path.normalize path = .ok place) (save path) := by
  refine .bind (ofKeeps fun _ => Keeps.get) fun session => ?_
  split
  · exact ofKeeps fun _ => Keeps.throw
  · refine .bind (keepState (by rfl) _) fun _ => ?_
    split
    · case isTrue given =>
        exact .bind (writeState (fun _ normal => ⟨given, normal⟩) _) fun _ =>
          ofKeeps fun _ => Keeps.pure
    · exact ofKeeps fun _ => Keeps.pure

theorem importFrom (path : Json) :
    Touches (· = stateKey) (fun _ => False) (importFrom path) := by
  refine .bind (ofKeeps fun _ => readImport_keeps path) fun state => ?_
  refine .bind (replaceState state) fun _ => .bind (keepState (by rfl) state) fun _ => ?_
  exact ofKeeps fun _ => Keeps.pure

end Touches

/-- An export writes at the path that its name and the clock lead to. -/
theorem exportTo_sameBut (session : Session) (name : Json) (force : Bool) :
    ∃ path, Stores.SameBut (fun _ => False) (Path.normalize path = .ok ·) session.stores
      (session.run (exportTo name force)).2.stores := by
  rw [exportTo, run_bind, run_get]
  dsimp only
  cases session.state with
  | none => exact ⟨.null, .refl _⟩
  | some state =>
      rw [run_bind, run_get]
      dsimp only
      rw [run_bind, run_permit]
      cases exportPath session.clock name with
      | error breach => exact ⟨.null, .refl _⟩
      | ok path =>
          refine ⟨.str path, Touches.run_stores ?_ session⟩
          refine .bind (.ofKeeps fun _ => Keeps.consult) fun taken => ?_
          split
          · exact .ofKeeps fun _ => Keeps.throw
          · exact .bind (.writeState (fun _ normal => normal) state) fun _ =>
              .ofKeeps fun _ => Keeps.pure

theorem LeavesStores.run_stores
    {act : Act Result}
    (leaves : LeavesStores act)
    (session : Session) :
    (session.run act).2.stores = session.stores :=
  (leaves session.stores).after rfl

/-! ## Instructions -/

end Session

namespace Instruction

/-- An instruction keeps the state under its key. -/
def KeepsState (instruction : Instruction) : Prop :=
  instruction = .saveState ∨ instruction = .importState

/-- An instruction writes a file if it is given some parameters. -/
def WritesFile (instruction : Instruction) (members : List (String × Json)) : Prop :=
  instruction = .exportState ∨
    instruction = .saveState ∧ (Json.memberOrNull "path" members).isTruthy = true

end Instruction

namespace Session

theorem LeavesStores.compare (tokenA tokenB relationId : Json) :
    LeavesStores (compare tokenA tokenB relationId) :=
  ofKeeps fun _ => compare_keeps tokenA tokenB relationId

theorem LeavesState.compare (tokenA tokenB relationId : Json) :
    LeavesState (compare tokenA tokenB relationId) :=
  ofKeeps fun _ => compare_keeps tokenA tokenB relationId

/-- Saving, exporting and importing aside, no instruction touches the stores. -/
theorem perform_leavesStores
    {instruction : Instruction}
    (members : List (String × Json))
    (noWrite : instruction ∉ [.saveState, .importState, .exportState]) :
    LeavesStores (Request.ofParameters instruction members).perform := by
  cases instruction with
  | initState => exact .start _ _
  | generateTokens => exact .generate _ _ _
  | upsertRelation => exact .upsert _ _ _
  | deleteRelation => exact .delete _
  | compareTokens =>
      exact .compare (Json.memberOrNull "tokenA" members) (Json.memberOrNull "tokenB" members)
        (Json.memberOrNull "relationId" members)
  | notify => exact .ofKeeps fun _ => Keeps.bind Keeps.notify fun _ => Keeps.pure
  | confirm => exact .ofKeeps fun _ => Keeps.bind Keeps.confirm fun _ => Keeps.pure
  | prompt => exact .ofKeeps fun _ => Keeps.bind Keeps.prompt fun _ => Keeps.pure
  | saveState | importState | exportState => simp at noWrite

theorem perform_leavesState
    {instruction : Instruction}
    (members : List (String × Json))
    (reads : instruction ∈
      [.saveState, .compareTokens, .exportState, .notify, .confirm, .prompt]) :
    LeavesState (Request.ofParameters instruction members).perform := by
  cases instruction with
  | saveState => exact .save _
  | compareTokens =>
      exact .compare (Json.memberOrNull "tokenA" members) (Json.memberOrNull "tokenB" members)
        (Json.memberOrNull "relationId" members)
  | exportState => exact .exportTo _ _
  | notify => exact .ofKeeps fun _ => Keeps.bind Keeps.notify fun _ => Keeps.pure
  | confirm => exact .ofKeeps fun _ => Keeps.bind Keeps.confirm fun _ => Keeps.pure
  | prompt => exact .ofKeeps fun _ => Keeps.bind Keeps.prompt fun _ => Keeps.pure
  | initState | generateTokens | upsertRelation | deleteRelation | importState => simp at reads

/-- The stores are the same but for the key of the state and one normalized path, if an instruction
writes there at all. -/
theorem perform_sameBut
    (session : Session)
    (instruction : Instruction)
    (members : List (String × Json)) :
    ∃ place, Stores.SameBut (fun key => instruction.KeepsState ∧ key = stateKey)
      (fun found => instruction.WritesFile members ∧ found = place) session.stores
      (session.run (Request.ofParameters instruction members).perform).2.stores := by
  by_cases noWrite : instruction ∉ [.saveState, .importState, .exportState]
  · rw [(perform_leavesStores members noWrite).run_stores]
    exact ⟨"", .refl _⟩
  cases instruction with
  | saveState =>
      have touched := (Touches.save (Json.memberOrNull "path" members)).run_stores session
      by_cases given : (Json.memberOrNull "path" members).isTruthy = true
      · obtain ⟨place, same⟩ :=
          (touched.weaken (fun _ inside => inside) fun _ inside => inside.2).exists_place
        refine ⟨place, same.weaken (fun _ inside => ⟨.inl rfl, inside⟩) fun _ inside => ?_⟩
        exact ⟨.inr ⟨rfl, given⟩, inside⟩
      · exact ⟨"", touched.weaken (fun _ inside => ⟨.inl rfl, inside⟩) fun _ inside =>
          absurd inside.1 given⟩
  | importState =>
      have touched := (Touches.importFrom (Json.memberOrNull "path" members)).run_stores session
      exact ⟨"", touched.weaken (fun _ inside => ⟨.inr rfl, inside⟩) nofun⟩
  | exportState =>
      obtain ⟨path, touched⟩ := exportTo_sameBut session (Json.memberOrNull "fileName" members)
        (Json.memberOrNull "force" members).isTruthy
      obtain ⟨place, same⟩ := touched.exists_place
      exact ⟨place, same.weaken nofun fun _ inside => ⟨.inl rfl, inside⟩⟩
  | _ => simp at noWrite

/-- What an instruction with some parameters leaves alone on the way from one session to another. -/
structure Spares
    (instruction : Instruction)
    (members : List (String × Json))
    (before after : Session) : Prop where
  state : instruction ∈ [.saveState, .compareTokens, .exportState, .notify, .confirm, .prompt] →
    after.state = before.state
  relations : instruction = .generateTokens →
    after.state.map State.relations = before.state.map State.relations
  vocabulary : instruction = .upsertRelation ∨ instruction = .deleteRelation →
    after.state.map Session.vocabulary = before.state.map Session.vocabulary
  stores : instruction ∉ [.saveState, .importState, .exportState] → after.stores = before.stores
  keys : ∀ key, ¬ (instruction.KeepsState ∧ key = stateKey) →
    Stores.SameKey before.stores after.stores key
  files : ¬ instruction.WritesFile members →
    ∀ path, Stores.SameFile before.stores after.stores path
  otherFiles : ∃ place, ∀ path, Path.normalize path ≠ .ok place →
    Stores.SameFile before.stores after.stores path

theorem perform_spares
    (session : Session)
    (instruction : Instruction)
    (members : List (String × Json)) :
    Spares instruction members session
      (session.run (Request.ofParameters instruction members).perform).2 := by
  obtain ⟨place, same⟩ := perform_sameBut session instruction members
  exact
    { state := fun reads => (perform_leavesState members reads).run_state session
      relations := by
        rintro rfl
        exact (generate_leavesRelations _ _ _).run_map session
      vocabulary := by
        rintro (rfl | rfl)
        · exact (upsert_leavesVocabulary _ _ _).run_map session
        · exact (delete_leavesVocabulary _).run_map session
      stores := fun noWrite => (perform_leavesStores members noWrite).run_stores session
      keys := same.otherKeys
      files := fun noFile path =>
        same.otherFiles path fun _ _ inside => noFile inside.1
      otherFiles := ⟨place, fun path differs =>
        same.otherFiles path fun _ normal inside => differs (inside.2 ▸ normal)⟩ }

/-- Whatever comes of a dispatch of an instruction, it leaves alone what the instruction spares. -/
theorem dispatch_spares
    (session : Session)
    {code parameters : Json}
    {instruction : Instruction}
    {members : List (String × Json)}
    (named : Instruction.ofCode code = .ok (some instruction))
    (given : Request.parameters parameters = .ok members) :
    Spares instruction members session (session.run (dispatch code parameters)).2 := by
  have settled : session.run (dispatch code parameters) =
      session.run (Request.ofParameters instruction members).settle := by
    simp only [run_dispatch, named, given]
  rw [settled, run_settle_state]
  exact perform_spares session instruction members

/-- An export under a name spelled with other slashes. -/
theorem export_spares :
    Instruction.ofCode (.str " 305 ") = .ok (some .exportState) ∧
      Request.parameters (.obj [("fileName", .str ".\\a.json")]) =
        .ok [("fileName", .str ".\\a.json")] ∧
      Spares .exportState [("fileName", .str ".\\a.json")] (holding .default)
        ((holding .default).run
          (dispatch (.str " 305 ") (.obj [("fileName", .str ".\\a.json")]))).2 := by
  have read : Number.readDecimal (Text.trim " 305 ") = .value 305 := by decide +kernel
  have named : Instruction.ofCode (.str " 305 ") = .ok (some .exportState) :=
    bind_eq_ok_iff.mpr ⟨some 305, by rw [Json.asInteger, read], rfl⟩
  exact ⟨named, rfl, dispatch_spares _ named rfl⟩

end Session
end Wordbook
