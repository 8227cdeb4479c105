import Wordbook.Proofs.Session.Frames
import Wordbook.Proofs.Session.Starting
import Wordbook.Proofs.Snapshot.RoundTrip
import Wordbook.Proofs.Store.Separation

/-!
# What is taken up again

The state that a session takes up when it starts depends on what is kept under the key of the state
and on nothing else in the stores.  A state that was kept is taken up as it was.
-/

namespace Wordbook
namespace Session

variable {Result : Type} {session : Session} {stores : Stores} {state : State}

/-- The state that is kept in some stores, if there is one. -/
def kept (stores : Stores) : Except Failure (Option State) := do
  match contentOf (← stores.getKey stateKey) with
  | some content => return some (← Snapshot.decode content)
  | none => return none

/-- The state that a session takes up from some stores: the one that is kept there, the default one
if there is none or it is malformed, and none if reading it ends the session. -/
def recalled (stores : Stores) : Option State :=
  match kept stores with
  | .ok found => some (found.getD .default)
  | .error failure => if isSurvivable failure then some .default else none

/-- Only what is kept under the key of the state counts. -/
theorem recalled_congr
    {changed : Stores}
    (same : changed.getKey stateKey = stores.getKey stateKey) :
    recalled changed = recalled stores := by
  unfold recalled kept
  rw [same]

/-- A state whose snapshot is found under the key is the one that is kept. -/
theorem kept_eq_ok
    {layout : Json.Layout}
    {bytes : List UInt8}
    (encoded : Snapshot.encode layout state = .ok bytes)
    (read : stores.getKey stateKey = .ok (some bytes)) :
    kept stores = .ok (some state) := by
  have decoded := Snapshot.decode_of_encode_eq_ok encoded
  cases bytes with
  | nil => cases decoded
  | cons byte rest =>
      simp [kept, read, contentOf, decoded, bind, Except.bind, pure, Except.pure]

/-- A session without a state takes up the one that is recalled, if the stores can be read. -/
theorem run_restore_state
    (unstarted : session.state = none)
    (works : session.failing .getKey session.calls = none) :
    (session.run (Request.initState .null true).settle).2.state = recalled session.stores := by
  have found : session.run (findStored .null true) =
      ((fun bytes => (contentOf bytes, "State restored from local store")) <$>
        session.stores.getKey stateKey, { session with calls := session.calls + 1 }) := by
    rw [findStored, if_neg (by decide), if_pos rfl, run_bind, getKey, run_consult, works]
    cases session.stores.getKey stateKey <;> rfl
  rw [run_settle_state, Request.perform, run_start, run_load, found]
  unfold recalled kept
  cases session.stores.getKey stateKey with
  | error failure =>
      cases survives : isSurvivable failure with
      | true => simp [bind, Except.bind, survives]
      | false => simp [bind, Except.bind, survives, unstarted]
  | ok bytes =>
      cases given : contentOf bytes with
      | none => simp [bind, Except.bind, pure, Except.pure, given]
      | some content =>
          cases decoded : Snapshot.decode content with
          | ok state => simp [bind, Except.bind, pure, Except.pure, given, decoded, Except.map]
          | error failure =>
              cases survives : isSurvivable failure with
              | true => simp [bind, Except.bind, given, decoded, Except.map, survives]
              | false => simp [bind, Except.bind, given, decoded, Except.map, survives, unstarted]

/-! ## Keeping states -/

/-- Some stores are those of a disk, and a state is recalled from them. -/
def Remembers (stores : Stores) (remembered : Option State) : Prop :=
  (∃ disk, stores = .onDisk disk) ∧ recalled stores = remembered

namespace Remembers

variable {remembered : Option State} {bytes : List UInt8}

/-- No file that is written changes what is recalled. -/
theorem storeFile (remembers : Remembers stores remembered) (path : Json) :
    Remembers (stores.storeFile path bytes).1 remembered := by
  obtain ⟨⟨disk, rfl⟩, same⟩ := remembers
  exact ⟨⟨_, rfl⟩, (recalled_congr (Stores.getKey_storeFile path stateKey)).trans same⟩

/-- A state that was kept is the one that is recalled. -/
theorem setKey
    {layout : Json.Layout}
    {changed : Stores}
    (remembers : Remembers stores remembered)
    (encoded : Snapshot.encode layout state = .ok bytes)
    (written : stores.setKey stateKey bytes = (changed, .ok ())) :
    Remembers changed (some state) := by
  obtain ⟨⟨disk, rfl⟩, -⟩ := remembers
  have read := Stores.getKey_setKey (congrArg Prod.snd written)
  obtain rfl : _ = changed := congrArg Prod.fst written
  refine ⟨⟨_, rfl⟩, ?_⟩
  rw [recalled, kept_eq_ok encoded read]
  rfl

theorem fits_stateKey : Disk.Fits ["store", "token_system_state.json"] := by decide +kernel

theorem locationOf_stateKey :
    DiskKeys.locationOf stateKey = .ok ["store", "token_system_state.json"] := by
  unfold DiskKeys.locationOf
  rw [if_pos (by decide +kernel)]
  rfl

/-- When a state could not be kept, the same one is recalled as before. -/
theorem setKey_failed
    {changed : Stores}
    {failure : Failure}
    (remembers : Remembers stores remembered)
    (failed : stores.setKey stateKey bytes = (changed, .error failure)) :
    Remembers changed remembered := by
  obtain ⟨⟨disk, rfl⟩, same⟩ := remembers
  have unchanged := Stores.getKey_of_setKey_failed locationOf_stateKey fits_stateKey
    (congrArg Prod.snd failed)
  obtain rfl : _ = changed := congrArg Prod.fst failed
  exact ⟨⟨_, rfl⟩, (recalled_congr unchanged).trans same⟩

end Remembers

/-- The session has one state, and another one is recalled from its stores. -/
def Recalls (remembered state : Option State) : Condition :=
  fun found stores => found = state ∧ Remembers stores remembered

/-- A state is recalled from the stores, whatever the state of the session is. -/
def StillRecalls (remembered : Option State) : Condition :=
  fun _ stores => Remembers stores remembered

/-- The state of the session is the one that is recalled from its stores. -/
def IsRecalled : Condition := fun found stores => Remembers stores found

variable {found remembered : Option State}

theorem isRecalled_of_recalls (state : Option State) (stores : Stores) :
    Recalls found found state stores → IsRecalled state stores :=
  fun met => met.1 ▸ met.2

theorem keepState_recalls
    (remembered found : Option State)
    (state : State) :
    Ensures (Recalls remembered found) (keepState state) (fun _ => Recalls (some state) found)
      (Recalls remembered found) := by
  unfold keepState
  refine Ensures.bind Yields.permit fun bytes => ?_
  refine Ensures.record (fun _ _ met => met.1) (fun _ stores changed met written => ?_)
    fun _ stores changed failure met refused => ?_
  · exact ⟨met.1.1, met.1.2.setKey (mapError_eq_ok_iff.mp met.2) written⟩
  · exact ⟨met.1.1, met.1.2.setKey_failed refused⟩

theorem writeState_recalls (path : Json) (state : State) :
    Keeps (Recalls remembered found) (writeState path state) := by
  unfold writeState
  exact Keeps.bind Keeps.permit fun bytes => Keeps.record fun _ _ met =>
    ⟨met.1, met.2.storeFile path⟩

/-! ## Requests -/

/-- A request that writes nothing changes nothing about what is recalled, and nothing at all when it
fails. -/
theorem FailsCleanly.recalls
    {request : Request}
    (cleanly : FailsCleanly request.perform)
    (leaves : LeavesStores request.perform) :
    Ensures (Recalls remembered found) request.settle
      (bySuccess (StillRecalls remembered) (Recalls remembered found))
      (Recalls remembered found) := by
  refine Ensures.settle fun session met => ?_
  have untouched := cleanly.untouched leaves session.state session.stores session ⟨rfl, rfl⟩
  rcases ran : session.run request.perform with ⟨failure | answer, left⟩
  · rw [ran] at untouched
    exact ⟨untouched.1.trans met.1, untouched.2 ▸ met.2⟩
  · rw [ran] at untouched
    exact ⟨untouched.1, untouched.2 ▸ met.2⟩

/-- What a failed save leaves: what was recalled before, or the state itself if it was the file that
could not be written. -/
def Unsaved (path : Json) (remembered found : Option State) : Condition := fun state stores =>
  Recalls remembered found state stores ∨ path.isTruthy = true ∧ Recalls found found state stores

theorem stillRecalls_of_unsaved
    (state : Option State)
    (stores : Stores) :
    Unsaved .null remembered found state stores → StillRecalls remembered state stores
  | .inl met => met.2

/-- A save that succeeds makes the state the one that is recalled. -/
theorem save_recalls (path : Json) :
    Ensures (Recalls remembered found) (Request.saveState path).settle
      (bySuccess (Recalls found found) (Unsaved path remembered found))
      (Unsaved path remembered found) := by
  refine Ensures.settle fun session met => ?_
  rw [Request.perform, save, run_bind, run_get]
  dsimp only
  cases held : session.state with
  | none => exact .inl met
  | some state =>
      obtain rfl : some state = found := held.symm.trans met.1
      have ensured : Ensures (Recalls remembered (some state))
          (keepState state >>= fun _ =>
            if path.isTruthy = true then do
              writeState path state
              return { Answer.done ("State saved to " ++ path.plain) with filePath := some path }
            else return .done "State saved to local store")
          (fun answer foundState stores =>
            answer.success = true ∧ Recalls (some state) (some state) foundState stores)
          (Unsaved path remembered (some state)) := by
        refine Ensures.bind ((keepState_recalls remembered (some state) state).relax
          (fun _ _ _ met => met) fun _ _ met => .inl met) fun _ => ?_
        split
        · case isTrue toFile =>
            refine Ensures.afterKeeping (fun _ _ met => .inr ⟨toFile, met⟩)
              (writeState_recalls path state) fun _ => ?_
            exact Ensures.pure fun _ _ met => ⟨rfl, met⟩
        · exact Ensures.pure fun _ _ met => ⟨rfl, met⟩
      exact ensured session met

/-- An import that succeeds makes the state that was read the one that is recalled; after one that
fails the one from before is recalled, whatever the state is. -/
theorem import_recalls (path : Json) :
    Ensures (Recalls remembered found) (Request.importState path).settle
      (bySuccess IsRecalled (StillRecalls remembered)) (StillRecalls remembered) := by
  refine Ensures.settle ?_
  rw [Request.perform]
  refine Ensures.afterKeeping (fun _ _ met => met.2) (readImport_keeps path) fun state => ?_
  have replaced : Ensures (Recalls remembered found) (replaceState state)
      (fun _ => Recalls remembered (some state)) (StillRecalls remembered) :=
    Ensures.replaceState fun _ _ met => ⟨rfl, met.2⟩
  refine Ensures.bind replaced fun _ => ?_
  refine Ensures.bind ((keepState_recalls remembered (some state) state).relax
    (fun _ _ _ met => met) fun _ _ met => met.2) fun _ => ?_
  exact Ensures.pure fun state stores met => ⟨rfl, isRecalled_of_recalls state stores met⟩

theorem export_recalls (name : Json) (force : Bool) :
    Keeps (Recalls remembered found) (Request.exportState name force).settle := by
  refine Keeps.settle ?_
  rw [Request.perform]
  refine Keeps.bind Keeps.get fun session => ?_
  split
  · exact Keeps.throw
  · refine Keeps.bind Keeps.get fun _ => Keeps.bind Keeps.permit fun path => ?_
    refine Keeps.bind Keeps.consult fun taken => ?_
    split
    · exact Keeps.throw
    · exact Keeps.bind (writeState_recalls _ _) fun _ => Keeps.pure

end Session
end Wordbook
