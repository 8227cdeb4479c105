import Wordbook.Proofs.Session.Failures
import Wordbook.Proofs.Snapshot.RoundTrip
import Wordbook.Proofs.State.WellFormed
import Wordbook.Proofs.Store.Contents
import Wordbook.Session.Dispatch

/-!
# Runs

A run is a sequence of dispatches and restarts over stores that were empty at first.  What it keeps
is that the state is well-formed and that everything stored is the snapshot of a well-formed state:
the second part is what makes the first survive a restart.
-/

namespace Wordbook

/-- The bytes of a well-formed state, in either layout. -/
def Snapshot.IsSound (bytes : List UInt8) : Prop :=
  ∃ layout state, state.WellFormed ∧ Snapshot.encode layout state = .ok bytes

theorem Snapshot.IsSound.wellFormed_of_decode
    {bytes : List UInt8}
    (sound : Snapshot.IsSound bytes)
    {state : State}
    (decoded : Snapshot.decode bytes = .ok state) :
    state.WellFormed := by
  obtain ⟨layout, written, wellFormed, encoded⟩ := sound
  rw [Snapshot.decode_of_encode_eq_ok encoded] at decoded
  cases decoded
  exact wellFormed

namespace Session

/-- The state, if there is one, is well-formed, and everything stored is the snapshot of one that
is. -/
def Sound : Condition := fun state stores =>
  (∀ held, state = some held → held.WellFormed) ∧ stores.HoldOnly Snapshot.IsSound

variable {state : State}

/-! ## Writing and reading states -/

theorem replaceState_keepsSound (wellFormed : state.WellFormed) :
    Keeps Sound (replaceState state) :=
  Ensures.replaceState fun _ _ sound => ⟨by rintro _ ⟨⟩; exact wellFormed, sound.2⟩

theorem keepState_keepsSound (wellFormed : state.WellFormed) : Keeps Sound (keepState state) := by
  unfold keepState
  refine Keeps.bindYields Yields.permit fun bytes encoded => Keeps.record fun _ _ sound => ?_
  have written : Snapshot.IsSound bytes :=
    ⟨.compact, state, wellFormed, mapError_eq_ok_iff.mp encoded⟩
  exact ⟨sound.1, sound.2.setKey written stateKey⟩

theorem writeState_keepsSound
    (wellFormed : state.WellFormed)
    (path : Json) :
    Keeps Sound (writeState path state) := by
  unfold writeState
  refine Keeps.bindYields Yields.permit fun bytes encoded => Keeps.record fun _ _ sound => ?_
  have written : Snapshot.IsSound bytes :=
    ⟨.spread, state, wellFormed, mapError_eq_ok_iff.mp encoded⟩
  exact ⟨sound.1, sound.2.storeFile written path⟩

theorem getKey_yieldsSound (key : String) :
    Yields Sound (getKey key) fun found => ∀ bytes, found = some bytes → Snapshot.IsSound bytes :=
  Yields.consult fun _ _ _ sound read _ given => sound.2.getKey (given ▸ read)

theorem loadFile_yieldsSound (path : Json) :
    Yields Sound (loadFile path) fun found =>
      ∀ bytes, found = some bytes → Snapshot.IsSound bytes :=
  Yields.consult fun _ _ _ sound read _ given => sound.2.loadFile (given ▸ read)

theorem eq_some_of_contentOf
    {found : Option (List UInt8)}
    {content : List UInt8}
    (given : contentOf found = some content) :
    found = some content := by
  unfold contentOf at given
  split at given
  · exact given
  · cases given

theorem requireState_yieldsSound : Yields Sound requireState State.WellFormed :=
  Yields.requireState fun state _ sound => sound.1 state rfl

theorem get_yieldsSound :
    Yields Sound get fun session => ∀ held, session.state = some held → held.WellFormed :=
  Yields.get fun _ sound => sound.1

/-! ## Requests -/

theorem findStored_yieldsSound (path : Json) (restore : Bool) :
    Yields Sound (findStored path restore) fun found =>
      ∀ content, found.1 = some content → Snapshot.IsSound content := by
  unfold findStored
  split
  · refine Yields.bind (loadFile_yieldsSound path) fun found sound => Yields.pure ?_
    exact fun content given => sound content (eq_some_of_contentOf given)
  · split
    · refine Yields.bind (getKey_yieldsSound stateKey) fun found sound => Yields.pure ?_
      exact fun content given => sound content (eq_some_of_contentOf given)
    · exact Yields.pure nofun

theorem load_yieldsSound (path : Json) (restore : Bool) :
    Yields Sound (load path restore) fun found =>
      ∀ state message, found = some (state, message) → state.WellFormed := by
  refine Yields.bind (findStored_yieldsSound path restore) fun found sound => ?_
  split
  · refine Yields.bind Yields.permit fun state decoded => Yields.pure ?_
    rintro _ _ ⟨⟩
    exact (sound _ rfl).wellFormed_of_decode decoded
  · exact Yields.pure nofun

theorem start_keepsSound (path : Json) (restore : Bool) : Keeps Sound (start path restore) := by
  have loaded : Yields Sound
      (tryCatch (some <$> load path restore) fun failure =>
        if isSurvivable failure then return none else throw failure)
      fun found => ∀ state message, found = some (some (state, message)) → state.WellFormed := by
    refine Yields.tryCatch (Yields.map (load_yieldsSound path restore) ?_) fun failure => ?_
    · rintro found sound state message ⟨⟩
      exact sound state message rfl
    · split
      · exact Yields.pure nofun
      · exact Yields.throw
  refine Keeps.bindYields loaded fun found sound => ?_
  split
  case h_1 state message =>
    exact Keeps.bind (replaceState_keepsSound (sound state message rfl)) fun _ => Keeps.pure
  case h_2 =>
    exact Keeps.bind (replaceState_keepsSound State.default_wellFormed) fun _ => Keeps.pure
  case h_3 =>
    exact Keeps.bind (replaceState_keepsSound State.default_wellFormed) fun _ => Keeps.pure

theorem save_keepsSound (path : Json) : Keeps Sound (save path) := by
  refine Keeps.bindYields get_yieldsSound fun session sound => ?_
  split
  case h_1 => exact Keeps.throw
  case h_2 state held =>
    refine Keeps.bind (keepState_keepsSound (sound state held)) fun _ => ?_
    split
    · exact Keeps.bind (writeState_keepsSound (sound state held) path) fun _ => Keeps.pure
    · exact Keeps.pure

theorem exportTo_keepsSound (name : Json) (force : Bool) : Keeps Sound (exportTo name force) := by
  refine Keeps.bindYields get_yieldsSound fun session sound => ?_
  split
  case h_1 => exact Keeps.throw
  case h_2 state held =>
    refine Keeps.bind Keeps.get fun _ => Keeps.bind Keeps.permit fun path => ?_
    refine Keeps.bind Keeps.consult fun taken => ?_
    split
    · exact Keeps.throw
    · exact Keeps.bind (writeState_keepsSound (sound state held) _) fun _ => Keeps.pure

theorem readImport_yieldsSound (path : Json) :
    Yields Sound (readImport path) State.WellFormed := by
  unfold readImport
  split
  · exact Yields.throw
  · refine Yields.bind (Yields.consult fun _ _ _ _ _ => True.intro) fun present _ => ?_
    cases present with
    | false => exact Yields.throw
    | true =>
        refine Yields.bind (loadFile_yieldsSound path) fun found sound => ?_
        split
        case h_1 => exact Yields.throw
        case h_2 content given =>
          have written := sound content (eq_some_of_contentOf given)
          exact Yields.permit.weaken (fun _ _ met => met)
            (fun _ _ _ met => ⟨met.1, written.wellFormed_of_decode met.2⟩) fun _ _ met => met

theorem importFrom_keepsSound (path : Json) : Keeps Sound (importFrom path) := by
  refine Keeps.bindYields (readImport_yieldsSound path) fun state wellFormed => ?_
  refine Keeps.bind (replaceState_keepsSound wellFormed) fun _ => ?_
  exact Keeps.bind (keepState_keepsSound wellFormed) fun _ => Keeps.pure

theorem generate_keepsSound (alphabet maxLength : Json) (force : Bool) :
    Keeps Sound (generate alphabet maxLength force) := by
  refine Keeps.bindYields requireState_yieldsSound fun state wellFormed => ?_
  refine Keeps.bindYields Yields.require fun symbols read => ?_
  refine Keeps.bind Keeps.require fun length => ?_
  rcases Lexicon.count symbols.length length (some Lexicon.threshold) with ⟨count, exact⟩
  dsimp only
  split
  · exact Keeps.throw
  · refine Keeps.bindYields Yields.require fun lexicon made => ?_
    obtain ⟨rfl, rfl⟩ := Lexicon.parts_of_make made
    have generated := wellFormed.generate (Lexicon.nodup_of_readAlphabet read)
    exact Keeps.bind (replaceState_keepsSound generated) fun _ => Keeps.pure

theorem append_keepsSound
    (wellFormed : state.WellFormed)
    {name body : String}
    (accepted : ∀ id, Relation.Accepted ⟨id, name, body⟩) :
    Keeps Sound (append state name body) := by
  unfold append
  split
  case isTrue => exact Keeps.throw
  case isFalse untaken =>
    refine Ensures.note (fun _ => rfl) (fun _ => rfl) fun session => ?_
    have added := wellFormed.append (accepted _)
      (Relation.newId_not_mem session.clock session.lastIssued state.relationIds) untaken
    exact Keeps.bind (replaceState_keepsSound added) fun _ => Keeps.pure

theorem revise_keepsSound
    (wellFormed : state.WellFormed)
    (id : Json)
    {name body : String}
    (accepted : ∀ id, Relation.Accepted ⟨id, name, body⟩) :
    Keeps Sound (revise state id name body) := by
  refine Keeps.bind Keeps.permit fun target => ?_
  split
  · exact Keeps.throw
  · split
    case isTrue => exact Keeps.throw
    case isFalse untaken =>
      have changed := wellFormed.replaceFirst (accepted target) untaken
      exact Keeps.bind (replaceState_keepsSound changed) fun _ => Keeps.pure

theorem upsert_keepsSound (name definition id : Json) :
    Keeps Sound (upsert name definition id) := by
  refine Keeps.bindYields requireState_yieldsSound fun state wellFormed => ?_
  refine Keeps.bindYields Yields.permit fun normal normalized => ?_
  refine Keeps.bindYields Yields.permit fun body trimmed => ?_
  refine Keeps.bindYields Yields.permit fun _ compiles => ?_
  have accepted : ∀ id, Relation.Accepted ⟨id, normal, body⟩ := fun id =>
    { nameNormal := Relation.normalizeName_of_normalizeName normalized
      bodyTrimmed := (Relation.trimmed_of_requireDefinition trimmed).1
      bodyGiven := (Relation.trimmed_of_requireDefinition trimmed).2
      bodyCompiles := compiles }
  split
  · exact append_keepsSound wellFormed accepted
  · exact revise_keepsSound wellFormed id accepted

theorem delete_keepsSound (id : Json) : Keeps Sound (delete id) := by
  refine Keeps.bindYields requireState_yieldsSound fun state wellFormed => ?_
  refine Keeps.bind Keeps.permit fun target => ?_
  split
  · exact Keeps.throw
  · exact Keeps.bind (replaceState_keepsSound (wellFormed.removeFirst target)) fun _ => Keeps.pure

/-- Every request keeps what is sound, whether it succeeds or fails. -/
theorem perform_keepsSound (request : Request) : Keeps Sound request.perform := by
  cases request with
  | initState path restore => exact start_keepsSound path restore
  | saveState path => exact save_keepsSound path
  | generateTokens alphabet maxLength force => exact generate_keepsSound alphabet maxLength force
  | upsertRelation name definition id => exact upsert_keepsSound name definition id
  | deleteRelation id => exact delete_keepsSound id
  | compareTokens tokenA tokenB relationId => exact compare_keeps tokenA tokenB relationId
  | importState path => exact importFrom_keepsSound path
  | exportState fileName force => exact exportTo_keepsSound fileName force
  | notify title message => exact Keeps.bind Keeps.notify fun _ => Keeps.pure
  | confirm title message => exact Keeps.bind Keeps.confirm fun _ => Keeps.pure
  | prompt title default => exact Keeps.bind Keeps.prompt fun _ => Keeps.pure

theorem dispatch_keepsSound (code parameters : Json) : Keeps Sound (dispatch code parameters) := by
  refine Keeps.bind Keeps.permit fun instruction? => ?_
  split
  · exact Keeps.bind Keeps.permit fun _ => Keeps.pure
  · refine Keeps.bind Keeps.permit fun members => ?_
    refine Ensures.tryCatch (perform_keepsSound _) fun failure => ?_
    cases failure with
    | issue issue => exact Keeps.pure
    | breach breach => exact Keeps.throw

/-! ## Steps -/

/-- A dispatch at some reading of the clock, or a restart over the same stores, which may be that of
another process with another presenter. -/
inductive Step where
  | dispatch (clock : Int) (code parameters : Json)
  | restart (presenter : Presenter) (lastIssued : Int)

/-- The session after one step, whatever the step answers. -/
def take (session : Session) : Step → Session
  | .dispatch clock code parameters =>
      (run { session with clock := clock } (Session.dispatch code parameters)).2
  | .restart presenter lastIssued =>
      { session.restarted with presenter := presenter, lastIssued := lastIssued }

/-- The session after some steps. -/
def takeAll (session : Session) (steps : List Step) : Session := steps.foldl take session

/-- What is sound before a step is sound after it. -/
theorem sound_take
    {session : Session}
    (sound : Sound session.state session.stores)
    (step : Step) :
    Sound (session.take step).state (session.take step).stores := by
  cases step with
  | dispatch clock code parameters => exact (dispatch_keepsSound code parameters).after sound
  | restart presenter lastIssued => exact ⟨nofun, sound.2⟩

/-- What is sound before a run is sound after it. -/
theorem sound_takeAll
    {session : Session}
    (sound : Sound session.state session.stores)
    (steps : List Step) :
    Sound (session.takeAll steps).state (session.takeAll steps).stores := by
  induction steps generalizing session with
  | nil => exact sound
  | cons step steps inductionHypothesis => exact inductionHypothesis (sound_take sound step)

/-- Whenever a session that started without a state over blank stores holds a state, after any steps
and whatever calls failed on the way, that state is well-formed. -/
theorem takeAll_wellFormed
    {session : Session}
    (unstarted : session.state = none)
    (blank : session.stores.Blank)
    (steps : List Step)
    {state : State}
    (held : (session.takeAll steps).state = some state) :
    state.WellFormed := by
  have sound : Sound session.state session.stores := ⟨by simp [unstarted], blank.holdOnly⟩
  exact (sound_takeAll sound steps).1 state held

/-- Other tokens are generated, every relation is deleted and a new one added; what was kept of that
is taken up again after a restart. -/
def resumption : List Step :=
  let delete (id : Int) : Step := .dispatch 0 (.int 302) (.obj [("id", .int id)])
  [.dispatch 0 (.int 100) .null,
      .dispatch 0 (.int 300) (.obj [("alphabet", .str "abba"), ("maxLength", .int 1)])] ++
    (State.default.relationIds.map delete ++
      [.dispatch 1700000000000000000 (.str " 301 ")
          (.obj [("name", .str " is  one "), ("definition", .str "1\n")]),
        .dispatch 0 (.int 101) .null,
        .restart .silent 0,
        .dispatch 0 (.int 100) (.obj [("restore", .bool true)])])

/-- The state that is taken up again. -/
def resumed : State where
  lexicon := ⟨"ab", 1, by decide, Nat.one_pos⟩
  tokens := ["a", "b"]
  relations := [⟨1700000000000, "IS_ONE", "1"⟩]

theorem resumed_wellFormed :
    (fresh .empty .silent 0).state = none ∧ (fresh .empty .silent 0).stores.Blank ∧
      ((fresh .empty .silent 0).takeAll resumption).state = some resumed ∧
      resumed.WellFormed := by
  have held : ((fresh .empty .silent 0).takeAll resumption).state = some resumed := by
    decide +kernel
  have blank : (fresh .empty .silent 0).stores.Blank := ⟨rfl, rfl⟩
  exact ⟨rfl, blank, held, takeAll_wellFormed rfl blank resumption held⟩

end Session
end Wordbook
