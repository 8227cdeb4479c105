import Wordbook.Proofs.Store.Separation

/-!
# What writes leave untouched

Bytes are stored under keys and at normalized paths.  Keeping bytes under a key touches this key
only, and putting bytes at a path touches what is stored there only, also when it fails: everything
else that is stored stays, and what could be read before can be read after.
-/

namespace Wordbook

variable {bytes held : List UInt8}

namespace Disk

variable {disk changed : Disk} {location place : Location}

/-- The bytes of the file at a location, the way there not looked at. -/
def bytesAt? (disk : Disk) (location : Location) : Option (List UInt8) :=
  match disk.entryAt? location with
  | some (.file bytes) => some bytes
  | _ => none

theorem bytesAt?_congr (same : changed.entryAt? place = disk.entryAt? place) :
    changed.bytesAt? place = disk.bytesAt? place := by
  rw [bytesAt?, same, bytesAt?]

/-- A folder is made where there is no entry. -/
theorem entryAt?_of_makeFolder (made : disk.makeFolder location = .ok changed) :
    location ≠ [] ∧ disk.entryAt? location = none := by
  have missing := (find_of_makeFolder made).1
  unfold makeFolder at made
  rw [missing] at made
  dsimp only at made
  split at made
  · case isTrue parent =>
      obtain rfl | ⟨way, name, rfl⟩ := location.eq_nil_or_concat
      · cases missing
      · rw [List.concat_eq_append] at missing parent ⊢
        rw [List.dropLast_concat, isFolder_iff] at parent
        rw [find_in_folder parent] at missing
        refine ⟨by simp, ?_⟩
        split at missing
        · cases missing
        · split at missing
          · cases missing
          · assumption
  · cases made

theorem bytesAt?_makeFolder (made : disk.makeFolder location = .ok changed) :
    changed.bytesAt? place = disk.bytesAt? place := by
  obtain ⟨nonempty, absent⟩ := entryAt?_of_makeFolder made
  obtain ⟨-, rfl⟩ := find_of_makeFolder made
  by_cases same : place = location
  · subst same
    rw [bytesAt?, entryAt?_put_self nonempty, bytesAt?, absent]
  · exact bytesAt?_congr (entryAt?_put_of_ne same)

/-- A write changes the bytes of no other file. -/
theorem bytesAt?_write_of_ne (differs : place ≠ location) :
    (disk.write location bytes).1.bytesAt? place = disk.bytesAt? place := by
  refine write_keeps (fun changed => changed.bytesAt? place = disk.bytesAt? place)
    (fun _ made same => (bytesAt?_makeFolder made).trans same) (fun stored same => ?_) rfl
  obtain ⟨-, -, rfl⟩ := of_storeFile stored
  exact (bytesAt?_congr (entryAt?_put_of_ne differs)).trans same

/-- A file that can be read can be read after a write at another place. -/
theorem look_write_of_file
    (differs : place ≠ location)
    (found : disk.look place = .ok (some (.file held))) :
    (disk.write location bytes).1.look place = .ok (some (.file held)) := by
  obtain ⟨noNull, onDisk⟩ := look_eq_file_iff.mp found
  exact look_eq_file_iff.mpr ⟨noNull, find_write_of_ne onDisk differs⟩

/-- What is read from a file are its bytes. -/
theorem bytesAt?_of_look (found : disk.look location = .ok (some (.file held))) :
    disk.bytesAt? location = some held := by
  obtain ⟨-, onDisk⟩ := look_eq_file_iff.mp found
  have parent := find_dropLast onDisk
  obtain rfl | ⟨way, name, rfl⟩ := location.eq_nil_or_concat
  · cases onDisk
  · rw [List.concat_eq_append] at onDisk parent ⊢
    rw [List.dropLast_concat] at parent
    rw [find_in_folder parent] at onDisk
    split at onDisk
    · cases onDisk
    · split at onDisk
      · case h_1 there =>
          cases onDisk
          rw [bytesAt?, there]
      · cases onDisk

end Disk

/-! ## Stored bytes -/

namespace Stores

/-- The bytes that are stored under a key. -/
def keyBytes? (stores : Stores) (key : String) : Option (List UInt8) :=
  match stores with
  | .memory keys _ => keys.get? key
  | .onDisk disk => (DiskKeys.locationOf key).toOption.bind disk.bytesAt?

/-- The bytes that are stored at a path. -/
def fileBytes? (stores : Stores) (path : Json) : Option (List UInt8) :=
  match stores with
  | .memory _ files =>
      (Path.normalize path).toOption.bind fun place =>
        (files.find? fun entry => entry.1 == place).map Prod.snd
  | .onDisk disk => (DiskFiles.locationOf path).toOption.bind disk.bytesAt?

/-- What is read under a key is stored there. -/
theorem keyBytes?_of_getKey
    {stores : Stores}
    {key : String}
    (read : stores.getKey key = .ok (some held)) :
    stores.keyBytes? key = some held := by
  cases stores with
  | memory keys files => exact Except.ok.inj read
  | onDisk disk =>
      obtain ⟨location, located, there⟩ := DiskKeys.get_eq_some_iff.mp read
      simp [keyBytes?, located, Except.toOption, Disk.bytesAt?_of_look there]

/-- What is read at a path is stored there. -/
theorem fileBytes?_of_loadFile
    {stores : Stores}
    {path : Json}
    (read : stores.loadFile path = .ok (some held)) :
    stores.fileBytes? path = some held := by
  cases stores with
  | memory keys files =>
      obtain ⟨place, normal, found⟩ := bind_eq_ok_iff.mp (mapError_eq_ok_iff.mp read)
      rw [fileBytes?, normal]
      exact Except.ok.inj found
  | onDisk disk =>
      obtain ⟨location, located, there⟩ := DiskFiles.read_eq_some_iff.mp read
      simp [fileBytes?, located, Except.toOption, Disk.bytesAt?_of_look there]

/-- The same bytes are stored under a key, and read if they were. -/
structure SameKey (before after : Stores) (key : String) : Prop where
  stored : after.keyBytes? key = before.keyBytes? key
  read : ∀ bytes, before.getKey key = .ok (some bytes) → after.getKey key = .ok (some bytes)

/-- The same bytes are stored at a path, and read if they were. -/
structure SameFile (before after : Stores) (path : Json) : Prop where
  stored : after.fileBytes? path = before.fileBytes? path
  read : ∀ bytes, before.loadFile path = .ok (some bytes) → after.loadFile path = .ok (some bytes)

/-- Stores are the same but for some keys and some normalized paths. -/
structure SameBut (keys places : String → Prop) (before after : Stores) : Prop where
  otherKeys : ∀ key, ¬ keys key → SameKey before after key
  otherFiles : ∀ path, (∀ place, Path.normalize path = .ok place → ¬ places place) →
    SameFile before after path

namespace SameBut

variable {keys places : String → Prop} {before between after : Stores}

theorem refl (stores : Stores) : SameBut keys places stores stores where
  otherKeys _ _ := ⟨rfl, fun _ read => read⟩
  otherFiles _ _ := ⟨rfl, fun _ read => read⟩

theorem trans
    (first : SameBut keys places before between)
    (second : SameBut keys places between after) :
    SameBut keys places before after where
  otherKeys key other :=
    have sooner := first.otherKeys key other
    have later := second.otherKeys key other
    ⟨later.stored.trans sooner.stored, fun bytes read => later.read bytes (sooner.read bytes read)⟩
  otherFiles path other :=
    have sooner := first.otherFiles path other
    have later := second.otherFiles path other
    ⟨later.stored.trans sooner.stored, fun bytes read => later.read bytes (sooner.read bytes read)⟩

theorem weaken
    {moreKeys morePlaces : String → Prop}
    (same : SameBut keys places before after)
    (keysIn : ∀ key, keys key → moreKeys key)
    (placesIn : ∀ place, places place → morePlaces place) :
    SameBut moreKeys morePlaces before after where
  otherKeys key other := same.otherKeys key fun inside => other (keysIn key inside)
  otherFiles path other := same.otherFiles path fun place normal inside =>
    other place normal (placesIn place inside)

/-- A path has one normalized path at most. -/
theorem exists_place
    {path : Json}
    (same : SameBut keys (Path.normalize path = .ok ·) before after) :
    ∃ place, SameBut keys (· = place) before after := by
  cases normal : Path.normalize path with
  | error issue =>
      refine ⟨"", same.weaken (fun _ inside => inside) fun found normal' => ?_⟩
      cases normal.symm.trans normal'
  | ok place =>
      refine ⟨place, same.weaken (fun _ inside => inside) fun found normal' => ?_⟩
      exact Except.ok.inj (normal'.symm.trans normal)

end SameBut

/-! ## Writes on a disk -/

section Disk

variable {disk : Disk} {location : Location}

/-- A write at another place than that of a key. -/
theorem sameKey_write
    (bytes : List UInt8)
    {key : String}
    (apart : ∀ place, DiskKeys.locationOf key = .ok place → place ≠ location) :
    SameKey (.onDisk disk) (.onDisk (disk.write location bytes).1) key := by
  constructor
  · cases located : DiskKeys.locationOf key with
    | error issue => simp [keyBytes?, located, Except.toOption]
    | ok place =>
        have differs := apart place located
        simp [keyBytes?, located, Except.toOption, Disk.bytesAt?_write_of_ne differs]
  · intro held read
    obtain ⟨place, located, there⟩ := DiskKeys.get_eq_some_iff.mp read
    exact DiskKeys.get_eq_some_iff.mpr
      ⟨place, located, Disk.look_write_of_file (apart place located) there⟩

/-- A write at another place than that of a path. -/
theorem sameFile_write
    (bytes : List UInt8)
    {path : Json}
    (apart : ∀ place, DiskFiles.locationOf path = .ok place → place ≠ location) :
    SameFile (.onDisk disk) (.onDisk (disk.write location bytes).1) path := by
  constructor
  · cases located : DiskFiles.locationOf path with
    | error failure => simp [fileBytes?, located, Except.toOption]
    | ok place =>
        have differs := apart place located
        simp [fileBytes?, located, Except.toOption, Disk.bytesAt?_write_of_ne differs]
  · intro held read
    obtain ⟨place, located, there⟩ := DiskFiles.read_eq_some_iff.mp read
    exact DiskFiles.read_eq_some_iff.mpr
      ⟨place, located, Disk.look_write_of_file (apart place located) there⟩

/-- Different keys are kept in different files. -/
theorem location_ne_of_key_ne
    {key other : String}
    {place : Location}
    (differs : other ≠ key)
    (located : DiskKeys.locationOf key = .ok location)
    (placed : DiskKeys.locationOf other = .ok place) :
    place ≠ location := by
  unfold DiskKeys.locationOf at located placed
  split at located
  · split at placed
    · cases located
      cases placed
      rintro same
      exact differs (by simpa [DiskKeys.folder] using same)
    · cases placed
  · cases located

/-- Files at different normalized paths stand at different places. -/
theorem location_ne_of_path
    {path other : Json}
    {place : Location}
    (differs : ∀ normal, Path.normalize other = .ok normal → ¬ Path.normalize path = .ok normal)
    (located : DiskFiles.locationOf path = .ok location)
    (placed : DiskFiles.locationOf other = .ok place) :
    place ≠ location := by
  unfold DiskFiles.locationOf at located placed
  split at located
  case h_2 => cases located
  case h_1 names found =>
    split at placed
    case h_2 => cases placed
    case h_1 otherNames otherFound =>
      cases located
      cases placed
      intro same
      have sameNames : otherNames = names := List.append_cancel_left same
      refine differs (Path.ofSegments names) ?_ ?_
      · rw [Path.normalize, otherFound, sameNames]
        rfl
      · rw [Path.normalize, found]
        rfl

end Disk

/-! ## Writes of the stores -/

/-- Keeping bytes under a key touches this key only. -/
theorem sameBut_setKey (stores : Stores) (key : String) (bytes : List UInt8) :
    SameBut (· = key) (fun _ => False) stores (stores.setKey key bytes).1 := by
  cases stores with
  | memory keys files =>
      constructor
      · intro other differs
        have same : MemoryKeys.get? (MemoryKeys.set keys key bytes) other = keys.get? other := by
          rw [MemoryKeys.get?, MemoryKeys.set, find?_put_of_ne bytes differs, MemoryKeys.get?]
        exact ⟨same, fun held read => by simpa [setKey, getKey, same] using read⟩
      · exact fun path _ => ⟨rfl, fun held read => read⟩
  | onDisk disk =>
      change SameBut _ _ _ (.onDisk (DiskKeys.set disk key bytes).1)
      cases located : DiskKeys.locationOf key with
      | error issue =>
          rw [DiskKeys.set_fst_of_error located]
          exact .refl _
      | ok location =>
          rw [DiskKeys.set_fst_of_ok located]
          constructor
          · exact fun other differs =>
              sameKey_write bytes fun place => location_ne_of_key_ne differs located
          · intro path _
            refine sameFile_write bytes fun place placed => ?_
            obtain ⟨_, rfl⟩ := DiskKeys.locationOf_eq_cons located
            obtain ⟨_, rfl⟩ := DiskFiles.locationOf_eq_cons placed
            simp

/-- A file in memory is found under its normalized path. -/
theorem sameFile_memory
    {keys : MemoryKeys}
    {files changed : MemoryFiles}
    {path : Json}
    (same : ∀ place, Path.normalize path = .ok place →
      changed.find? (fun entry => entry.1 == place) = files.find? fun entry => entry.1 == place) :
    SameFile (.memory keys files) (.memory keys changed) path := by
  cases normal : Path.normalize path with
  | error issue =>
      refine ⟨by simp [fileBytes?, normal, Except.toOption], fun held read => ?_⟩
      simp [loadFile, MemoryFiles.read, normal, bind, Except.bind] at read
  | ok place =>
      refine ⟨by simp [fileBytes?, normal, Except.toOption, same place normal], fun held read => ?_⟩
      simpa [loadFile, MemoryFiles.read, normal, bind, Except.bind, same place normal] using read

/-- Putting bytes at a path touches its normalized path only. -/
theorem sameBut_storeFile (stores : Stores) (path : Json) (bytes : List UInt8) :
    SameBut (fun _ => False) (Path.normalize path = .ok ·) stores
      (stores.storeFile path bytes).1 := by
  cases stores with
  | memory keys files =>
      unfold storeFile
      dsimp only
      split
      case h_1 changed written =>
        obtain ⟨place, normal, added⟩ := bind_eq_ok_iff.mp written
        cases added
        refine ⟨fun key _ => ⟨rfl, fun held read => read⟩, fun other differs => ?_⟩
        refine sameFile_memory fun otherPlace otherNormal => find?_put_of_ne bytes ?_
        rintro rfl
        exact differs otherPlace otherNormal normal
      case h_2 => exact .refl _
  | onDisk disk =>
      change SameBut _ _ _ (.onDisk (DiskFiles.write disk path bytes).1)
      cases located : DiskFiles.locationOf path with
      | error failure =>
          rw [DiskFiles.write_fst_of_error located]
          exact .refl _
      | ok location =>
          rw [DiskFiles.write_fst_of_ok located]
          constructor
          · intro key _
            refine sameKey_write bytes fun place placed => ?_
            obtain ⟨_, rfl⟩ := DiskFiles.locationOf_eq_cons located
            obtain ⟨_, rfl⟩ := DiskKeys.locationOf_eq_cons placed
            simp
          · exact fun other differs =>
              sameFile_write bytes fun place => location_ne_of_path differs located

end Stores
end Wordbook
