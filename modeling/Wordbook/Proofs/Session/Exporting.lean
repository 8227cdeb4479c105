import Wordbook.Proofs.Session.Footprint
import Wordbook.Proofs.Session.Relations
import Wordbook.Proofs.Snapshot.RoundTrip

/-!
# Exports

An export writes the snapshot of the state to one file.  The name that it is given decides whether
the file lies inside the directory that exports go to: names that stray are not refused.
-/

namespace Wordbook
namespace Session

variable {session left : Session} {name : Option String} {force : Bool} {answer : Answer}

theorem exportPath_orNull (clock : Int) (name : Option String) :
    exportPath clock (.orNull name) =
      .ok (Path.join Path.documents (Path.exportName clock name)) := by
  cases name with
  | none => rfl
  | some name =>
      cases blank : Text.allBlank name <;>
        simp [exportPath, Json.orNull, Relation.isMissing, Path.exportName, blank]

/-- The answer of an export to a path. -/
def exportedTo (path : String) : Answer :=
  { Answer.done ("Exported to " ++ path) with filePath := some (.str path) }

theorem run_writeState_eq_ok_iff {path : Json} {state : State} :
    session.run (writeState path state) = (.ok (), left) ↔
      ∃ bytes, Snapshot.encode .spread state = .ok bytes ∧
        session.failing .storeFile session.calls = none ∧
        (session.stores.storeFile path bytes).2 = .ok () ∧
        { session with
          calls := session.calls + 1
          stores := (session.stores.storeFile path bytes).1 } = left := by
  rw [writeState, run_bind_eq_ok_iff]
  simp only [run_permit_eq_ok_iff, mapError_eq_ok_iff, storeFile, run_record_eq_ok_iff]
  constructor
  · rintro ⟨bytes, _, ⟨encoded, rfl⟩, written⟩
    exact ⟨bytes, encoded, written⟩
  · rintro ⟨bytes, encoded, written⟩
    exact ⟨bytes, session, ⟨encoded, rfl⟩, written⟩

/-- What comes of an export to a path, when there is a state. -/
theorem run_exportTo_of_held
    {state : State}
    (held : session.state = some state)
    {path : String}
    (named : Path.join Path.documents (Path.exportName session.clock name) = path) :
    session.run (exportTo (.orNull name) force) =
      session.run (do
        let taken ← fileExists (.str path)
        if taken && !force then refuse (.fileExists path)
        else
          writeState (.str path) state
          return exportedTo path) := by
  subst named
  rw [exportTo, run_bind, run_get]
  simp only [held, run_bind, run_get, run_permit, exportPath_orNull, mapError_ok]
  rfl

/-- Nothing stands in the way of an export to a path, or the export is forced. -/
def Permits (session : Session) (path : String) (force : Bool) : Prop :=
  session.failing .fileExists session.calls = none ∧
    ∃ taken, session.stores.fileExists (.str path) = .ok taken ∧ (taken = true → force = true)

/-- An export succeeds exactly when there is a state, nothing stands in the way, and the snapshot of
the state can be written. -/
theorem run_exportTo_eq_ok_iff
    {path : String}
    (named : Path.join Path.documents (Path.exportName session.clock name) = path) :
    session.run (exportTo (.orNull name) force) = (.ok answer, left) ↔
      exportedTo path = answer ∧ session.Permits path force ∧
        ∃ state, session.state = some state ∧
          run { session with calls := session.calls + 1 } (writeState (.str path) state) =
            (.ok (), left) := by
  obtain stateless | ⟨state, held⟩ := Option.eq_none_or_eq_some session.state
  · rw [exportTo, run_bind, run_get]
    simp [stateless, refuse]
  · rw [run_exportTo_of_held held named, run_bind_eq_ok_iff]
    constructor
    · rintro ⟨taken, between, found, ended⟩
      obtain ⟨works, there, rfl⟩ := run_consult_eq_ok_iff.mp found
      split at ended
      · cases ended
      · case isFalse free =>
          obtain ⟨_, _, written, ⟨⟩⟩ := run_bind_eq_ok_iff.mp ended
          exact ⟨rfl, ⟨works, taken, there, by simpa using free⟩, state, held, written⟩
    · rintro ⟨rfl, ⟨works, taken, there, free⟩, other, heldToo, written⟩
      obtain rfl : state = other := Option.some.inj (held.symm.trans heldToo)
      refine ⟨taken, _, run_consult_eq_ok_iff.mpr ⟨works, there, rfl⟩, ?_⟩
      rw [if_neg (by simpa using free)]
      exact run_bind_eq_ok_iff.mpr ⟨_, _, written, rfl⟩

/-- An export that succeeded wrote the state's snapshot to a normalized path that it told, and
touched nothing else that is stored. -/
structure Exports
    (session : Session)
    (answer : Answer)
    (left : Session)
    (place : String) : Prop where
  told : ∃ path, answer.filePath = some path ∧ Path.normalize path = .ok place
  written : ∃ state bytes, session.state = some state ∧ Snapshot.encode .spread state = .ok bytes ∧
    left.stores.loadFile (.str place) = .ok (some bytes)
  others : Stores.SameBut (fun _ => False) (· = place) session.stores left.stores

/-- There is one place that an export tells. -/
theorem Exports.unique
    {place other : String}
    (first : Exports session answer left place)
    (second : Exports session answer left other) :
    place = other := by
  obtain ⟨path, told, normal⟩ := first.told
  obtain ⟨pathToo, toldToo, normalToo⟩ := second.told
  cases told.symm.trans toldToo
  exact Except.ok.inj (normal.symm.trans normalToo)

/-- An export that succeeds goes to one place, and this lies inside the directory that exports go to
exactly when the name does not stray. -/
theorem exports_of_run
    (succeeded : session.run (exportTo (.orNull name) force) = (.ok answer, left)) :
    ∃ place, Exports session answer left place ∧ (Path.IsInside place ↔ ¬ Path.Strays name) := by
  obtain ⟨told, -, state, held, writing⟩ := (run_exportTo_eq_ok_iff rfl).mp succeeded
  obtain ⟨bytes, encoded, -, written, rfl⟩ := run_writeState_eq_ok_iff.mp writing
  have read := Stores.loadFile_storeFile written
  obtain ⟨place, normal⟩ := Stores.exists_normalize_of_loadFile read
  refine ⟨place, ⟨⟨_, told ▸ rfl, normal⟩, ⟨state, bytes, held, encoded, ?_⟩, ?_⟩,
    Path.isInside_export_iff normal⟩
  · rw [Stores.loadFile_of_normalize normal]
    exact read
  · refine (Stores.sameBut_storeFile _ _ _).weaken nofun fun other otherNormal => ?_
    exact Except.ok.inj (otherNormal.symm.trans normal)

/-- An export over stores in memory is refused no name that can be normalized, if there is no file
yet or it is forced. -/
theorem exists_export_of_normalize
    {path place : String}
    (named : Path.join Path.documents (Path.exportName session.clock name) = path)
    (normal : Path.normalize (.str path) = .ok place)
    {state : State}
    (held : session.state = some state)
    (short : state.HasShortIntegers)
    (works : ∀ call count, session.failing call count = none)
    {keys : MemoryKeys}
    {files : MemoryFiles}
    (inMemory : session.stores = .memory keys files)
    (free : files.exists? (.str path) = .ok true → force = true) :
    ∃ left, session.run (exportTo (.orNull name) force) = (.ok (exportedTo path), left) := by
  have encoded := (Snapshot.encode_eq_ok_iff .spread state _).mpr ⟨short, rfl⟩
  refine ⟨_, (run_exportTo_eq_ok_iff named).mpr ⟨rfl, ⟨works _ _, ?_⟩, state, held,
    run_writeState_eq_ok_iff.mpr ⟨_, encoded, works _ _, ?_, rfl⟩⟩⟩
  · rw [inMemory, Stores.fileExists]
    rw [MemoryFiles.exists?, normal] at free ⊢
    exact ⟨_, rfl, fun taken => free (congrArg Except.ok taken)⟩
  · dsimp only
    rw [inMemory, Stores.storeFile, MemoryFiles.write, normal]
    rfl

/-- A name that strays is not refused: the export is written outside the directory. -/
theorem exists_export_of_strays
    (strays : Path.Strays name)
    {state : State}
    (held : session.state = some state)
    (short : state.HasShortIntegers)
    (works : ∀ call count, session.failing call count = none)
    {keys : MemoryKeys}
    {files : MemoryFiles}
    (inMemory : session.stores = .memory keys files) :
    ∃ answer left place, session.run (exportTo (.orNull name) true) = (.ok answer, left) ∧
      Exports session answer left place ∧ ¬ Path.IsInside place := by
  obtain ⟨_, normal⟩ := Path.exists_normalize_of_strays strays session.clock
  obtain ⟨left, succeeded⟩ :=
    exists_export_of_normalize rfl normal held short works inMemory fun _ => rfl
  obtain ⟨place, exported, inside⟩ := exports_of_run succeeded
  exact ⟨_, left, place, succeeded, exported, fun within => inside.mp within strays⟩

/-- A name that climbs is refused, and nothing is written. -/
theorem export_of_climbing
    {path : String}
    (named : Path.join Path.documents (Path.exportName session.clock name) = path)
    (climbs : Path.segments? path = none)
    {state : State}
    (held : session.state = some state)
    (works : session.failing .fileExists session.calls = none) :
    session.run (exportTo (.orNull name) force) =
      (.error (.issue (.storage (.escapesRoot path))),
        { session with calls := session.calls + 1 }) := by
  have escapes : Path.segments (.str path) = .error (.storage (.escapesRoot path)) :=
    Path.segments_of_climbing climbs
  have refused : session.stores.fileExists (.str path) =
      .error (.issue (.storage (.escapesRoot path))) := by
    cases session.stores with
    | memory keys files =>
        rw [Stores.fileExists, MemoryFiles.exists?, Path.normalize, escapes]
        rfl
    | onDisk disk =>
        rw [Stores.fileExists, DiskFiles.exists?, DiskFiles.locationOf, escapes]
        rfl
  rw [run_exportTo_of_held held named, run_bind, fileExists, run_consult, works, refused]

/-- Exports under a name go inside the directory, whatever the state, the stores and the clock,
exactly when the name does not stray. -/
theorem exports_isInside_iff (name : Option String) :
    (∀ (session left : Session) (force : Bool) (answer : Answer),
        session.run (exportTo (.orNull name) force) = (.ok answer, left) →
        ∃ place, Exports session answer left place ∧ Path.IsInside place) ↔
      ¬ Path.Strays name := by
  constructor
  · intro confined strays
    -- A session in which nothing stands in the way of the export.
    obtain ⟨answer, left, place, succeeded, exported, outside⟩ :=
      @exists_export_of_strays (holding .default) name strays _ rfl (by decide +kernel)
        (fun _ _ => rfl) _ _ rfl
    obtain ⟨other, exportedToo, within⟩ := confined _ _ _ _ succeeded
    exact outside (exported.unique exportedToo ▸ within)
  · intro keeps session left force answer succeeded
    obtain ⟨place, exported, inside⟩ := exports_of_run succeeded
    exact ⟨place, exported, inside.mpr keeps⟩

/-- The export under an absolute name is written where the name says. -/
theorem export_elsewhere :
    ∃ left, (holding .default).run (exportTo (.str "/etc/a.json") false) =
        (.ok (exportedTo "/etc/a.json"), left) ∧
      Exports (holding .default) (exportedTo "/etc/a.json") left "/etc/a.json" ∧
      ∀ place, Exports (holding .default) (exportedTo "/etc/a.json") left place →
        ¬ Path.IsInside place := by
  have named : Path.join Path.documents (Path.exportName 0 (some "/etc/a.json")) =
      "/etc/a.json" := by
    decide +kernel
  have normal : Path.normalize (.str "/etc/a.json") = .ok "/etc/a.json" := by decide +kernel
  have found : Path.segments? (Text.trim "/etc/a.json") = some ["etc", "a.json"] := by
    decide +kernel
  have strays : Path.Strays (some "/etc/a.json") :=
    .absolute (by decide +kernel) found fun _ _ same =>
      absurd (List.cons.inj same).1 (by decide)
  obtain ⟨left, succeeded⟩ :=
    @exists_export_of_normalize (holding .default) (some "/etc/a.json") false _ _ named normal _ rfl
      (by decide +kernel) (fun _ _ => rfl) _ _ rfl (by decide +kernel)
  obtain ⟨place, exported, inside⟩ := exports_of_run succeeded
  refine ⟨left, succeeded, ?_, fun other exportedToo within => ?_⟩
  · obtain ⟨path, told, normalToo⟩ := exported.told
    cases told
    cases normal.symm.trans normalToo
    exact exported
  · exact inside.mp (exportedToo.unique exported ▸ within) strays

end Session
end Wordbook
