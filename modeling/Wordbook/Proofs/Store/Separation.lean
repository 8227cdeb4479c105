import Wordbook.Proofs.Path
import Wordbook.Proofs.Store.Writes

/-!
# Keys and files

The key store and the file store of an engine lie apart: no write of a file changes what is kept
under a key.  A key holds what was kept under it last, also after bytes could not be kept under it.
A file holds what was put at its path; and one that is written where there was nothing leaves every
other file as it was.
-/

namespace Wordbook

variable {bytes held : List UInt8}

/-! ## Writes on a disk -/

namespace DiskFiles

variable {disk : Disk} {path : Json} {location : Location}

theorem write_fst_of_ok (located : locationOf path = .ok location) :
    (write disk path bytes).1 = (disk.write location bytes).1 := by
  unfold write
  rw [located]
  dsimp only
  rcases disk.write location bytes with ⟨changed, ⟨_ | _⟩ | _⟩ <;> rfl

theorem write_fst_of_error
    {failure : Failure}
    (nowhere : locationOf path = .error failure) :
    (write disk path bytes).1 = disk := by
  unfold write
  rw [nowhere]

theorem write_eq_ok_iff :
    (write disk path bytes).2 = .ok () ↔
      ∃ location, locationOf path = .ok location ∧ (disk.write location bytes).2 = .ok () := by
  unfold write
  cases locationOf path with
  | error failure => simp
  | ok location =>
      rcases written : disk.write location bytes with ⟨changed, ⟨_ | _⟩ | _⟩ <;> simp [written]

/-- Files stand below the folder of the file store. -/
theorem locationOf_eq_cons (located : locationOf path = .ok location) :
    ∃ names, location = "files" :: names := by
  unfold locationOf at located
  split at located
  · case h_1 names _ =>
      cases located
      exact ⟨names, rfl⟩
  · cases located

theorem read_eq_some_iff :
    read disk path = .ok (some held) ↔
      ∃ location, locationOf path = .ok location ∧
        disk.look location = .ok (some (.file held)) := by
  unfold read look
  cases locationOf path with
  | error failure => simp [bind, Except.bind]
  | ok location =>
      cases there : disk.look location with
      | error cause => simp [bind, Except.bind, there]
      | ok entry? =>
          rcases entry? with _ | ⟨_ | _⟩ <;> simp [bind, Except.bind, there, pure, Except.pure]

theorem exists?_of_read (there : read disk path = .ok (some held)) :
    exists? disk path = .ok true := by
  obtain ⟨location, located, found⟩ := read_eq_some_iff.mp there
  simp [exists?, look, located, found, bind, Except.bind, pure, Except.pure]

end DiskFiles

namespace DiskKeys

variable {disk : Disk} {key : String} {location : Location}

theorem get_of_ok (located : locationOf key = .ok location) :
    get disk key =
      match disk.look location with
      | .ok (some (.file bytes)) => .ok (some bytes)
      | .ok _ => .ok none
      | .error cause => .error (.breach (.device (disk.message cause location))) := by
  unfold get
  rw [located]
  rfl

theorem get_eq_some_iff :
    get disk key = .ok (some held) ↔
      ∃ location, locationOf key = .ok location ∧
        disk.look location = .ok (some (.file held)) := by
  cases located : locationOf key with
  | error issue =>
      unfold get
      simp [located, bind, Except.bind]
  | ok location =>
      rw [get_of_ok located]
      cases there : disk.look location with
      | error cause => simp [there]
      | ok entry? => rcases entry? with _ | ⟨_ | _⟩ <;> simp [there]

theorem set_fst_of_ok (located : locationOf key = .ok location) :
    (set disk key bytes).1 = (disk.write location bytes).1 := by
  unfold set
  rw [located]
  dsimp only
  rcases disk.write location bytes with ⟨changed, ⟨_ | _⟩ | _⟩ <;> rfl

theorem set_fst_of_error
    {issue : Issue}
    (nowhere : locationOf key = .error issue) :
    (set disk key bytes).1 = disk := by
  unfold set
  rw [nowhere]

theorem set_eq_ok_iff (located : locationOf key = .ok location) :
    (set disk key bytes).2 = .ok () ↔ (disk.write location bytes).2 = .ok () := by
  unfold set
  rw [located]
  dsimp only
  rcases disk.write location bytes with ⟨changed, ⟨_ | _⟩ | _⟩ <;> simp

theorem locationOf_of_set (kept : (set disk key bytes).2 = .ok ()) :
    ∃ location, locationOf key = .ok location := by
  unfold set at kept
  split at kept
  · cases kept
  · case h_2 location located => exact ⟨location, located⟩

/-- Keys stand in the folder of the key store. -/
theorem locationOf_eq_cons (located : locationOf key = .ok location) :
    ∃ names, location = "store" :: names := by
  unfold locationOf at located
  split at located
  · cases located
    exact ⟨_, rfl⟩
  · cases located

end DiskKeys

/-! ## Files in memory -/

/-- Bytes put under a name leave those under another one. -/
theorem find?_put_of_ne
    {entries : List (String × List UInt8)}
    {name other : String}
    (bytes : List UInt8)
    (differs : other ≠ name) :
    ((name, bytes) :: entries.filter fun entry => entry.1 != name).find?
        (fun entry => entry.1 == other) =
      entries.find? fun entry => entry.1 == other := by
  rw [List.find?_cons_of_neg (by simpa using Ne.symm differs), List.find?_filter]
  congr 1
  funext entry
  by_cases same : entry.1 = other
  · simp [same, differs]
  · simp [same]

/-- A file that is written where there was none leaves the others as they were. -/
theorem MemoryFiles.read_write_of_free
    {files : MemoryFiles}
    {path other : Json}
    (bytes : List UInt8)
    (free : files.exists? path = .ok false)
    (there : files.read other = .ok (some held)) :
    ∃ changed, files.write path bytes = .ok changed ∧ changed.read other = .ok (some held) := by
  obtain ⟨place, normal, untaken⟩ := bind_eq_ok_iff.mp free
  obtain ⟨otherPlace, otherNormal, found⟩ := bind_eq_ok_iff.mp there
  simp only [pure, Except.pure, Except.ok.injEq] at untaken found
  have differs : otherPlace ≠ place := by
    rintro rfl
    obtain ⟨entry, taken, _⟩ := Option.map_eq_some_iff.mp found
    have present := List.any_eq_true.mpr
      ⟨entry, List.mem_of_find?_eq_some taken, List.find?_some taken⟩
    rw [untaken] at present
    cases present
  refine ⟨(place, bytes) :: files.filter fun entry => entry.1 != place, ?_, ?_⟩
  · unfold write
    rw [normal]
    rfl
  · unfold read
    rw [otherNormal]
    simp only [bind, Except.bind, pure, Except.pure]
    rw [find?_put_of_ne bytes differs, found]

namespace Stores

variable {stores : Stores} {key : String}

/-! ## Keys -/

/-- No write of a file changes what is kept under a key. -/
@[simp] theorem getKey_storeFile (path : Json) (key : String) :
    (stores.storeFile path bytes).1.getKey key = stores.getKey key := by
  cases stores with
  | memory keys files =>
      unfold storeFile
      dsimp only
      split <;> rfl
  | onDisk disk =>
      change DiskKeys.get (DiskFiles.write disk path bytes).1 key = DiskKeys.get disk key
      cases located : DiskFiles.locationOf path with
      | error failure => rw [DiskFiles.write_fst_of_error located]
      | ok location =>
          rw [DiskFiles.write_fst_of_ok located]
          obtain ⟨names, rfl⟩ := DiskFiles.locationOf_eq_cons located
          cases keyLocated : DiskKeys.locationOf key with
          | error issue =>
              unfold DiskKeys.get
              rw [keyLocated]
              rfl
          | ok place =>
              rw [DiskKeys.get_of_ok keyLocated, DiskKeys.get_of_ok keyLocated]
              obtain ⟨rest, rfl⟩ := DiskKeys.locationOf_eq_cons keyLocated
              have apart : "store" ≠ "files" := by decide
              simp only [Disk.look_write_of_ne apart, Disk.message_write]

/-- A key holds the bytes that were kept under it. -/
theorem getKey_setKey (kept : (stores.setKey key bytes).2 = .ok ()) :
    (stores.setKey key bytes).1.getKey key = .ok (some bytes) := by
  cases stores with
  | memory keys files => simp [setKey, getKey, MemoryKeys.set, MemoryKeys.get?]
  | onDisk disk =>
      change (DiskKeys.set disk key bytes).2 = .ok () at kept
      change DiskKeys.get (DiskKeys.set disk key bytes).1 key = .ok (some bytes)
      obtain ⟨location, located⟩ := DiskKeys.locationOf_of_set kept
      rw [DiskKeys.set_eq_ok_iff located] at kept
      rw [DiskKeys.set_fst_of_ok located]
      have there := Disk.look_write (Prod.ext rfl kept : disk.write location bytes = (_, .ok ()))
      rw [DiskKeys.get_of_ok located, there]

/-- A key whose file fits on a disk holds what it held when bytes could not be kept under it. -/
theorem getKey_of_setKey_failed
    {location : Location}
    {failure : Failure}
    (located : DiskKeys.locationOf key = .ok location)
    (fits : Disk.Fits location)
    (failed : (stores.setKey key bytes).2 = .error failure) :
    (stores.setKey key bytes).1.getKey key = stores.getKey key := by
  cases stores with
  | memory keys files => cases failed
  | onDisk disk =>
      change (DiskKeys.set disk key bytes).2 = .error failure at failed
      change DiskKeys.get (DiskKeys.set disk key bytes).1 key = DiskKeys.get disk key
      rw [DiskKeys.set_fst_of_ok located]
      have unread {disk : Disk} (noFile : ∀ held, disk.look location ≠ .ok (some (.file held))) :
          DiskKeys.get disk key = .ok none := by
        rw [DiskKeys.get_of_ok located]
        cases there : disk.look location with
        | error cause => exact absurd there (Disk.look_ne_error fits cause)
        | ok entry? =>
            rcases entry? with _ | ⟨held | _⟩
            · rfl
            · exact absurd there (noFile held)
            · rfl
      cases written : (disk.write location bytes).2 with
      | ok done =>
          rw [(DiskKeys.set_eq_ok_iff located).mpr written] at failed
          cases failed
      | error fault =>
          have wrote : disk.write location bytes = (_, .error fault) := Prod.ext rfl written
          rw [unread fun held => Disk.look_of_write_failed wrote]
          refine (unread fun held there => ?_).symm
          rw [Disk.write_of_file there] at written
          cases written

/-! ## Files -/

/-- A file holds the bytes that were put at its path. -/
theorem loadFile_storeFile
    {path : Json}
    (written : (stores.storeFile path bytes).2 = .ok ()) :
    (stores.storeFile path bytes).1.loadFile path = .ok (some bytes) := by
  cases stores with
  | memory keys files =>
      unfold storeFile at written ⊢
      dsimp only at written ⊢
      cases put : files.write path bytes with
      | error issue => simp [put] at written
      | ok changed =>
          obtain ⟨place, normal, added⟩ := bind_eq_ok_iff.mp put
          cases added
          simp [loadFile, MemoryFiles.read, normal, bind, Except.bind, pure, Except.pure]
  | onDisk disk =>
      change (DiskFiles.write disk path bytes).2 = .ok () at written
      change DiskFiles.read (DiskFiles.write disk path bytes).1 path = .ok (some bytes)
      obtain ⟨location, located, done⟩ := DiskFiles.write_eq_ok_iff.mp written
      rw [DiskFiles.write_fst_of_ok located]
      exact DiskFiles.read_eq_some_iff.mpr ⟨location, located, Disk.look_write (Prod.ext rfl done)⟩

/-- A path that leads to a file can be normalized. -/
theorem exists_normalize_of_loadFile
    {path : Json}
    (read : stores.loadFile path = .ok (some held)) :
    ∃ place, Path.normalize path = .ok place := by
  cases stores with
  | memory keys files =>
      obtain ⟨place, normal, -⟩ := bind_eq_ok_iff.mp (mapError_eq_ok_iff.mp read)
      exact ⟨place, normal⟩
  | onDisk disk =>
      obtain ⟨location, located, -⟩ := DiskFiles.read_eq_some_iff.mp read
      unfold DiskFiles.locationOf at located
      split at located
      · case h_1 names found => exact ⟨Path.ofSegments names, by rw [Path.normalize, found]; rfl⟩
      · cases located

/-- What is read at a path is read at its normalized form. -/
theorem loadFile_of_normalize
    {path : Json}
    {place : String}
    (normal : Path.normalize path = .ok place) :
    stores.loadFile (.str place) = stores.loadFile path := by
  cases stores with
  | memory keys files =>
      rw [loadFile, loadFile, MemoryFiles.read, MemoryFiles.read, normal,
        Path.normalize_of_normalize normal]
  | onDisk disk =>
      rw [loadFile, loadFile, DiskFiles.read, DiskFiles.read, DiskFiles.locationOf,
        DiskFiles.locationOf, Path.segments_of_normalize normal]

/-- A file that is written where there was nothing leaves every file as it was. -/
theorem loadFile_storeFile_of_free
    {path other : Json}
    (free : stores.fileExists path = .ok false)
    (there : stores.loadFile other = .ok (some held)) :
    (stores.storeFile path bytes).1.loadFile other = .ok (some held) := by
  cases stores with
  | memory keys files =>
      obtain ⟨changed, written, read⟩ := MemoryFiles.read_write_of_free bytes
        (mapError_eq_ok_iff.mp free) (mapError_eq_ok_iff.mp there)
      simpa [storeFile, written, loadFile] using read
  | onDisk disk =>
      change DiskFiles.exists? disk path = .ok false at free
      change DiskFiles.read disk other = .ok (some held) at there
      change DiskFiles.read (DiskFiles.write disk path bytes).1 other = .ok (some held)
      obtain ⟨place, placed, found⟩ := DiskFiles.read_eq_some_iff.mp there
      cases located : DiskFiles.locationOf path with
      | error failure => rwa [DiskFiles.write_fst_of_error located]
      | ok location =>
          rw [DiskFiles.write_fst_of_ok located, DiskFiles.read_eq_some_iff]
          obtain ⟨noNull, onDisk⟩ := Disk.look_eq_file_iff.mp found
          refine ⟨place, placed, Disk.look_eq_file_iff.mpr ⟨noNull, ?_⟩⟩
          refine Disk.find_write_of_ne onDisk ?_
          rintro rfl
          have taken :=
            DiskFiles.exists?_of_read (DiskFiles.read_eq_some_iff.mpr ⟨_, located, found⟩)
          rw [taken] at free
          cases free

end Stores
end Wordbook
