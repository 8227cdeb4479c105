import Wordbook.Proofs.Session.Recall
import Wordbook.Proofs.Session.Relations

/-!
# Where a start finds its state

A state is to be taken up from the file that a start is given, else from under the key of the state
if it is to be restored, else it is the default one.  A start keeps to this order but for one case:
when it is given a path and the file has no content, it overlooks the state that is to be restored.
-/

namespace Wordbook
namespace Session

/-! ## Sources -/

/-- A place that a state is taken up from. -/
inductive Source where
  | file (content : List UInt8)
  | key (content : List UInt8)
  | nowhere

namespace Source

/-- The bytes in a source. -/
def content : Source → Option (List UInt8)
  | .file content | .key content => some content
  | .nowhere => none

@[simp] theorem content_eq_none {source : Source} : source.content = none ↔ source = .nowhere := by
  cases source <;> simp [content]

/-- What is said of a state that was found in a source. -/
def announcement : Source → String
  | .file _ => "State loaded from file"
  | .key _ => "State restored from local store"
  | .nowhere => "New state initialized with defaults"

/-- What a source yields, and what is said of it: the state that was saved there, or the default one
if there is none or it is malformed. -/
def yields (source : Source) : State × String :=
  match source.content.map Snapshot.decode with
  | some (.ok state) => (state, source.announcement)
  | some (.error _) => (.default, "Error occurred, initialized with defaults")
  | none => (.default, source.announcement)

/-- What is said tells whether there was a source. -/
theorem eq_nowhere_of_yields
    {source : Source}
    (said : source.yields.2 = nowhere.yields.2) :
    source = .nowhere := by
  cases source with
  | nowhere => rfl
  | file content | key content =>
      cases decoded : Snapshot.decode content <;>
        simp [yields, Source.content, announcement, decoded] at said

end Source

/-- What a start is given and what it may find: a path, whether a state is to be restored, the bytes
of the file at the path, and those under the key of the state. -/
structure Offer where
  path : Json
  restores : Bool
  filed : Option (List UInt8)
  kept : Option (List UInt8)

namespace Offer

/-- The content of the file, if a path is given. -/
def fileContent (offer : Offer) : Option (List UInt8) :=
  if offer.path.isTruthy then contentOf offer.filed else none

/-- The content of the key's entry, if the state is to be restored. -/
def keyContent (offer : Offer) : Option (List UInt8) :=
  if offer.restores then contentOf offer.kept else none

/-- The source that a state is to be taken up from: the file before the key's entry, and that before
the default state. -/
def source (offer : Offer) : Source :=
  match offer.fileContent, offer.keyContent with
  | some content, _ => .file content
  | none, some content => .key content
  | none, none => .nowhere

/-- A state is to be restored from the key's entry, and a path to a file without content is given
besides. -/
def Overlooked (offer : Offer) : Prop :=
  offer.path.isTruthy = true ∧ offer.fileContent = none ∧ offer.keyContent ≠ none

/-- The source that a start looks for its state in: the key's entry counts only when no path is
given. -/
def searched (offer : Offer) : Source :=
  if offer.path.isTruthy then offer.fileContent.elim .nowhere .file
  else offer.keyContent.elim .nowhere .key

theorem searched_of_overlooked
    {offer : Offer}
    (overlooked : offer.Overlooked) :
    offer.searched = .nowhere := by
  obtain ⟨given, empty, -⟩ := overlooked
  simp [searched, given, empty]

theorem source_ne_nowhere_of_overlooked
    {offer : Offer}
    (overlooked : offer.Overlooked) :
    offer.source ≠ .nowhere := by
  obtain ⟨-, empty, entry⟩ := overlooked
  obtain ⟨content, found⟩ := Option.ne_none_iff_exists'.mp entry
  simp [source, empty, found]

/-- The start looks in the right place for everything that it does not overlook. -/
theorem searched_eq_source
    {offer : Offer}
    (seen : ¬ offer.Overlooked) :
    offer.searched = offer.source := by
  unfold searched source
  cases given : offer.path.isTruthy with
  | false =>
      have noFile : offer.fileContent = none := by simp [fileContent, given]
      cases found : offer.keyContent <;> simp [noFile]
  | true =>
      cases file : offer.fileContent with
      | some content => simp
      | none =>
          have noEntry : offer.keyContent = none := by
            by_contra entry
            exact seen ⟨given, file, entry⟩
          simp [noEntry]

/-- Whatever content there is, it is a snapshot or malformed: reading it fails in no other way. -/
def ReadsMildly (offer : Offer) : Prop :=
  ∀ content, offer.fileContent = some content ∨ offer.keyContent = some content →
    ∀ failure, Snapshot.decode content = .error failure → ∃ issue, failure = .issue issue

theorem content_of_searched
    {offer : Offer}
    {content : List UInt8}
    (found : offer.searched.content = some content) :
    offer.fileContent = some content ∨ offer.keyContent = some content := by
  unfold searched at found
  split at found
  · cases file : offer.fileContent <;> simp_all [Source.content]
  · cases entry : offer.keyContent <;> simp_all [Source.content]

end Offer

/-! ## Starts -/

/-- No call of a session is made to fail, and its stores hold what an offer says. -/
structure Serves (session : Session) (offer : Offer) : Prop where
  works : ∀ call count, session.failing call count = none
  filed : offer.path.isTruthy = true → session.stores.loadFile offer.path = .ok offer.filed
  kept : offer.restores = true → session.stores.getKey stateKey = .ok offer.kept

/-- Stores in memory serve every start that is given a path that can be normalized, or none. -/
theorem exists_serves
    {session : Session}
    (works : ∀ call count, session.failing call count = none)
    {keys : MemoryKeys}
    {files : MemoryFiles}
    (inMemory : session.stores = .memory keys files)
    {path : Json}
    (normal : path.isTruthy = true → ∃ place, Path.normalize path = .ok place)
    (restores : Bool) :
    ∃ filed kept, session.Serves ⟨path, restores, filed, kept⟩ := by
  have entry : session.stores.getKey stateKey = .ok (keys.get? stateKey) := by rw [inMemory]; rfl
  by_cases given : path.isTruthy = true
  · obtain ⟨place, normalized⟩ := normal given
    have read : session.stores.loadFile path =
        .ok ((files.find? fun entry => entry.1 == place).map Prod.snd) := by
      rw [inMemory, Stores.loadFile, MemoryFiles.read, normalized]
      rfl
    exact ⟨_, _, works, fun _ => read, fun _ => entry⟩
  · exact ⟨none, _, works, fun truthy => absurd truthy given, fun _ => entry⟩

/-- The outcome of a start that takes up a source: it says so, has the state that the source yields,
and has changed nothing else but the count of calls. -/
structure TakesUp
    (session : Session)
    (source : Source)
    (outcome : Except Failure Answer × Session) : Prop where
  answer : outcome.1 = .ok (.done source.yields.2)
  after : outcome.2 = { session with state := some source.yields.1, calls := outcome.2.calls }

variable {session : Session} {offer : Offer}

/-- What is loaded is the snapshot in the source that a start searches. -/
theorem run_load_of_serves (serves : session.Serves offer) :
    ∃ calls, session.run (load offer.path offer.restores) =
      (match offer.searched.content with
        | some content => (Snapshot.decode content).map fun state =>
            some (state, offer.searched.announcement)
        | none => .ok none,
        { session with calls := calls }) := by
  rw [run_load, findStored, Offer.searched]
  by_cases given : offer.path.isTruthy = true
  · simp only [if_pos given, run_bind, loadFile, run_consult, serves.works, serves.filed given,
      run_pure, Offer.fileContent]
    cases contentOf offer.filed <;> exact ⟨_, rfl⟩
  · by_cases restores : offer.restores = true
    · simp only [if_neg given, if_pos restores, run_bind, getKey, run_consult, serves.works,
        serves.kept restores, run_pure, Offer.keyContent]
      cases contentOf offer.kept <;> exact ⟨_, rfl⟩
    · simp only [if_neg given, if_neg restores, run_pure, Offer.keyContent]
      exact ⟨_, rfl⟩

/-- A start takes up the source that it searches. -/
theorem start_takesUp
    (serves : session.Serves offer)
    (mild : offer.ReadsMildly) :
    TakesUp session offer.searched (session.run (start offer.path offer.restores)) := by
  obtain ⟨calls, loaded⟩ := run_load_of_serves serves
  rw [run_start, loaded]
  cases found : offer.searched.content with
  | none =>
      have nowhere : offer.searched = .nowhere := Source.content_eq_none.mp found
      rw [nowhere]
      exact ⟨rfl, rfl⟩
  | some content =>
      dsimp only
      cases decoded : Snapshot.decode content with
      | ok state =>
          have yields : offer.searched.yields = (state, offer.searched.announcement) := by
            simp [Source.yields, found, decoded]
          exact ⟨by rw [yields]; rfl, by rw [yields]; rfl⟩
      | error failure =>
          have yields : offer.searched.yields =
              (.default, "Error occurred, initialized with defaults") := by
            simp [Source.yields, found, decoded]
          obtain ⟨issue, rfl⟩ := mild content (Offer.content_of_searched found) failure decoded
          exact ⟨by rw [yields]; rfl, by rw [yields]; rfl⟩

theorem start_takesUp_nowhere
    (serves : session.Serves offer)
    (mild : offer.ReadsMildly)
    (overlooked : offer.Overlooked) :
    TakesUp session .nowhere (session.run (start offer.path offer.restores)) :=
  Offer.searched_of_overlooked overlooked ▸ start_takesUp serves mild

/-- What a start says gives away that it overlooked a source. -/
theorem not_takesUp_source
    (serves : session.Serves offer)
    (mild : offer.ReadsMildly)
    (overlooked : offer.Overlooked) :
    ¬ TakesUp session offer.source (session.run (start offer.path offer.restores)) := by
  intro inOrder
  have answers := inOrder.answer.symm.trans (start_takesUp_nowhere serves mild overlooked).answer
  have said : offer.source.yields.2 = Source.nowhere.yields.2 := by
    simpa [Answer.done] using answers
  exact Offer.source_ne_nowhere_of_overlooked overlooked (Source.eq_nowhere_of_yields said)

/-- A start takes up the source that comes first exactly when it does not overlook the state that is
to be restored; when it does, it takes up the default state as if there was no source. -/
theorem start_takesUp_source_iff
    (session : Session)
    (offer : Offer)
    (serves : session.Serves offer)
    (mild : offer.ReadsMildly) :
    (TakesUp session offer.source (session.run (start offer.path offer.restores)) ↔
        ¬ offer.Overlooked) ∧
      (offer.Overlooked →
        TakesUp session .nowhere (session.run (start offer.path offer.restores))) := by
  refine ⟨⟨fun inOrder overlooked => ?_, fun seen => ?_⟩, start_takesUp_nowhere serves mild⟩
  · exact not_takesUp_source serves mild overlooked inOrder
  · exact Offer.searched_eq_source seen ▸ start_takesUp serves mild

/-- A state that was saved is the one that is kept. -/
theorem kept_of_save
    {state : State}
    (held : session.state = some state)
    {answer : Answer}
    {saved : Session}
    (ran : session.run (save .null) = (.ok answer, saved)) :
    kept saved.stores = .ok (some state) := by
  rw [save, run_bind, run_get] at ran
  simp only [held] at ran
  obtain ⟨_, between, keeping, ended⟩ := run_bind_eq_ok_iff.mp ran
  obtain rfl : between = saved := congrArg Prod.snd ended
  obtain ⟨bytes, _, encoding, setting⟩ := run_bind_eq_ok_iff.mp keeping
  obtain ⟨encoded, rfl⟩ := run_permit_eq_ok_iff.mp encoding
  obtain ⟨-, written, rfl⟩ := run_record_eq_ok_iff.mp setting
  exact kept_eq_ok (mapError_eq_ok_iff.mp encoded) (Stores.getKey_setKey written)

/-- What is saved after a start that overlooked a state takes that state's place. -/
theorem save_after_overlooked
    (serves : session.Serves offer)
    (mild : offer.ReadsMildly)
    (overlooked : offer.Overlooked)
    {answer : Answer}
    {saved : Session}
    (ran : (session.run (start offer.path offer.restores)).2.run (save .null) =
      (.ok answer, saved)) :
    kept saved.stores = .ok (some .default) := by
  refine kept_of_save ?_ ran
  rw [(start_takesUp_nowhere serves mild overlooked).after]
  rfl

/-! ## Two sources beside each other -/

/-- A state that is not the default one. -/
def ownState : State := { State.default with tokens := ["0"], relations := [] }

/-- The bytes that it is saved as. -/
def ownBytes : List UInt8 := Encoding.encodeUtf8 (Snapshot.text .compact ownState).toList

theorem decode_ownBytes : Snapshot.decode ownBytes = .ok ownState :=
  Snapshot.decode_of_encode_eq_ok
    ((Snapshot.encode_eq_ok_iff .compact ownState _).mpr ⟨by decide +kernel, rfl⟩)

/-- Stores in which the state is kept under its key, and a file that is no snapshot. -/
def besideBroken : Session :=
  fresh (.memory [(stateKey, ownBytes)] [("/broken.json", [123])]) .silent 0

/-- A start that is to restore the state, and is given the path of the file in a roundabout form. -/
def brokenOffer : Offer := ⟨.str "./\\broken.json", true, some [123], some ownBytes⟩

/-- A start that is to restore the state, and is given a path where there is no file. -/
def missingOffer : Offer := ⟨.str "/missing.json", true, none, some ownBytes⟩

theorem brokenOffer_served : besideBroken.Serves brokenOffer :=
  ⟨fun _ _ => rfl, fun _ => by decide +kernel, fun _ => by decide +kernel⟩

theorem missingOffer_served : besideBroken.Serves missingOffer :=
  ⟨fun _ _ => rfl, fun _ => by decide +kernel, fun _ => by decide +kernel⟩

theorem contentOf_ownBytes : contentOf (some ownBytes) = some ownBytes := rfl

theorem brokenOffer_readsMildly : brokenOffer.ReadsMildly := by
  rintro content (found | found) failure failed
  · cases found
    cases failed
    exact ⟨_, rfl⟩
  · cases contentOf_ownBytes.symm.trans found
    cases decode_ownBytes.symm.trans failed

theorem missingOffer_readsMildly : missingOffer.ReadsMildly := by
  rintro content (found | found) failure failed
  · cases found
  · cases contentOf_ownBytes.symm.trans found
    cases decode_ownBytes.symm.trans failed

theorem missingOffer_overlooked : missingOffer.Overlooked := by
  refine ⟨rfl, rfl, ?_⟩
  change contentOf (some ownBytes) ≠ none
  rw [contentOf_ownBytes]
  exact nofun

/-- A file that is no snapshot comes before the state that is kept: the default one is taken up. -/
theorem broken_start_takesUp :
    besideBroken.Serves brokenOffer ∧ brokenOffer.ReadsMildly ∧
      brokenOffer.source.yields = (.default, "Error occurred, initialized with defaults") ∧
      TakesUp besideBroken brokenOffer.source
        (besideBroken.run (start brokenOffer.path brokenOffer.restores)) := by
  have seen : ¬ brokenOffer.Overlooked := fun overlooked => nomatch overlooked.2.1
  exact ⟨brokenOffer_served, brokenOffer_readsMildly, rfl,
    (start_takesUp_source_iff besideBroken brokenOffer brokenOffer_served
      brokenOffer_readsMildly).1.mpr seen⟩

/-- Beside a path where there is no file the state that is kept is overlooked. -/
theorem missing_start_not_takesUp :
    besideBroken.Serves missingOffer ∧ missingOffer.ReadsMildly ∧
      missingOffer.source.yields = (ownState, "State restored from local store") ∧
      (besideBroken.run (start missingOffer.path missingOffer.restores)).1 =
        .ok (.done "New state initialized with defaults") ∧
      (besideBroken.run (start missingOffer.path missingOffer.restores)).2.state =
        some .default ∧
      ¬ TakesUp besideBroken missingOffer.source
        (besideBroken.run (start missingOffer.path missingOffer.restores)) := by
  have taken := start_takesUp_nowhere missingOffer_served missingOffer_readsMildly
    missingOffer_overlooked
  have yields : missingOffer.source.yields = (ownState, "State restored from local store") := by
    have source : missingOffer.source = .key ownBytes := rfl
    rw [source, Source.yields, Source.content, Option.map_some, decode_ownBytes]
    rfl
  have state := congrArg Session.state taken.after
  exact ⟨missingOffer_served, missingOffer_readsMildly, yields, taken.answer, state,
    not_takesUp_source missingOffer_served missingOffer_readsMildly missingOffer_overlooked⟩

end Session
end Wordbook
