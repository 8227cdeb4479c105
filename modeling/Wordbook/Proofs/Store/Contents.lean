import Wordbook.Proofs.Outcome
import Wordbook.Store.Collection

/-!
# What stores hold

A condition that all stored bytes meet is kept by every write of bytes that meet it, and holds of
whatever is read.  On a disk this goes for the files of both stores, wherever they stand.
-/

namespace Wordbook

variable {accepted : List UInt8 → Prop} {bytes : List UInt8}

namespace Disk

variable {disk : Disk}

/-- All bytes in files meet a condition. -/
def HoldsOnly (accepted : List UInt8 → Prop) (disk : Disk) : Prop :=
  ∀ location bytes, (location, DiskEntry.file bytes) ∈ disk.entries → accepted bytes

/-! ## Reading -/

theorem accepted_of_entryAt
    (holds : disk.HoldsOnly accepted)
    {location : Location}
    (found : disk.entryAt? location = some (.file bytes)) :
    accepted bytes := by
  unfold entryAt? at found
  split at found
  · cases found
  · obtain ⟨⟨place, _⟩, taken, rfl⟩ := Option.map_eq_some_iff.mp found
    exact holds place bytes (List.mem_of_find?_eq_some taken)

theorem accepted_of_findFrom
    (holds : disk.HoldsOnly accepted)
    {base location : Location}
    (found : disk.findFrom base location = .ok (.file bytes)) :
    accepted bytes := by
  induction location generalizing base with
  | nil => cases found
  | cons name names inductionHypothesis =>
      unfold findFrom at found
      split at found
      · cases found
      · split at found
        case h_1 => cases found
        case h_2 => exact inductionHypothesis found
        case h_3 there =>
          cases found
          exact accepted_of_entryAt holds there
        case h_4 => cases found

theorem accepted_of_look
    (holds : disk.HoldsOnly accepted)
    {location : Location}
    (found : disk.look location = .ok (some (.file bytes))) :
    accepted bytes := by
  unfold look find at found
  split at found
  · cases found
  · split at found
    case h_1 entry there =>
      cases found
      split at there
      · cases there
      · exact accepted_of_findFrom holds there
    case h_2 => cases found
    case h_3 => cases found

/-! ## Writing -/

theorem HoldsOnly.put
    (holds : disk.HoldsOnly accepted)
    (location : Location)
    {entry : DiskEntry}
    (fits : ∀ bytes, entry = .file bytes → accepted bytes) :
    (disk.put location entry).HoldsOnly accepted := by
  intro place bytes present
  simp only [Disk.put] at present
  split at present
  · obtain ⟨held, there, same⟩ := List.mem_map.mp present
    split at same
    · cases same
      exact fits bytes rfl
    · exact holds place bytes (same ▸ there)
  · rcases List.mem_append.mp present with there | added
    · exact holds place bytes there
    · cases List.mem_singleton.mp added
      exact fits bytes rfl

theorem HoldsOnly.makeFolder
    (holds : disk.HoldsOnly accepted)
    {location : Location}
    {changed : Disk}
    (made : disk.makeFolder location = .ok changed) :
    changed.HoldsOnly accepted := by
  unfold Disk.makeFolder at made
  split at made
  · cases made
  · split at made
    · cases made
      exact holds.put location nofun
    · cases made
  · cases made

theorem HoldsOnly.makeFolders
    (holds : disk.HoldsOnly accepted)
    (count : Nat)
    (location : Location) :
    (Disk.makeFolders count disk location).1.HoldsOnly accepted := by
  induction count generalizing disk location with
  | zero => exact holds
  | succ count inductionHypothesis =>
      unfold Disk.makeFolders
      split
      case h_1 changed made => exact holds.makeFolder made
      case h_2 =>
        have parents := inductionHypothesis holds location.dropLast
        split
        case h_1 changed fault failed => rwa [failed] at parents
        case h_2 changed done =>
          rw [done] at parents
          split
          case h_1 made again => exact parents.makeFolder again
          case h_2 => split <;> exact parents
      case h_3 => split <;> exact holds

theorem HoldsOnly.storeFile
    (holds : disk.HoldsOnly accepted)
    (fits : accepted bytes)
    {location : Location}
    {changed : Disk}
    (stored : disk.storeFile location bytes = .ok changed) :
    changed.HoldsOnly accepted := by
  have written : (disk.put location (.file bytes)).HoldsOnly accepted :=
    holds.put location fun _ same => by cases same; exact fits
  unfold Disk.storeFile at stored
  split at stored
  · cases stored
  · cases stored
    exact written
  · split at stored
    · cases stored
      exact written
    · cases stored
  · cases stored

theorem HoldsOnly.write
    (holds : disk.HoldsOnly accepted)
    (fits : accepted bytes)
    (location : Location) :
    (disk.write location bytes).1.HoldsOnly accepted := by
  have parents := holds.makeFolders (location.dropLast.length + 1) location.dropLast
  unfold Disk.write
  dsimp only
  split
  · exact holds
  · split
    case h_1 changed cause place failed => rwa [failed] at parents
    case h_2 changed made =>
      rw [made] at parents
      split
      · exact parents
      · split
        case h_1 written stored => exact parents.storeFile fits stored
        case h_2 => exact parents

end Disk

namespace Stores

variable {stores : Stores}

/-- All bytes that two stores hold meet a condition. -/
def HoldOnly (accepted : List UInt8 → Prop) : Stores → Prop
  | .memory keys files =>
      (∀ entry ∈ keys, accepted entry.2) ∧ ∀ entry ∈ files, accepted entry.2
  | .onDisk disk => disk.HoldsOnly accepted

/-- Nothing is stored: there are no bytes under any key or path, only folders on a disk. -/
def Blank : Stores → Prop
  | .memory keys files => keys = [] ∧ files = []
  | .onDisk disk => ∀ entry ∈ disk.entries, entry.2 = .folder

theorem Blank.holdOnly (blank : stores.Blank) : stores.HoldOnly accepted := by
  cases stores with
  | memory keys files =>
      obtain ⟨rfl, rfl⟩ := blank
      exact ⟨nofun, nofun⟩
  | onDisk disk =>
      intro location bytes present
      cases blank (location, .file bytes) present

theorem HoldOnly.getKey
    (holds : stores.HoldOnly accepted)
    {key : String}
    (read : stores.getKey key = .ok (some bytes)) :
    accepted bytes := by
  cases stores with
  | memory keys files =>
      simp only [Stores.getKey, MemoryKeys.get?, Except.ok.injEq] at read
      obtain ⟨entry, found, rfl⟩ := Option.map_eq_some_iff.mp read
      exact holds.1 entry (List.mem_of_find?_eq_some found)
  | onDisk disk =>
      obtain ⟨location, _, looked⟩ := bind_eq_ok_iff.mp read
      split at looked
      case h_1 found =>
        cases looked
        exact Disk.accepted_of_look holds found
      case h_2 => cases looked
      case h_3 => cases looked

theorem HoldOnly.loadFile
    (holds : stores.HoldOnly accepted)
    {path : Json}
    (read : stores.loadFile path = .ok (some bytes)) :
    accepted bytes := by
  cases stores with
  | memory keys files =>
      obtain ⟨place, _, found⟩ := bind_eq_ok_iff.mp (mapError_eq_ok_iff.mp read)
      simp only [pure, Except.pure, Except.ok.injEq] at found
      obtain ⟨entry, taken, rfl⟩ := Option.map_eq_some_iff.mp found
      exact holds.2 entry (List.mem_of_find?_eq_some taken)
  | onDisk disk =>
      obtain ⟨location, _, looked⟩ := bind_eq_ok_iff.mp read
      obtain ⟨held?, there, given⟩ := bind_eq_ok_iff.mp looked
      split at given
      · cases given
        exact Disk.accepted_of_look holds (mapError_eq_ok_iff.mp there)
      · cases given

theorem HoldOnly.setKey
    (holds : stores.HoldOnly accepted)
    (fits : accepted bytes)
    (key : String) :
    (stores.setKey key bytes).1.HoldOnly accepted := by
  cases stores with
  | memory keys files =>
      refine ⟨fun entry present => ?_, holds.2⟩
      rcases List.mem_cons.mp present with rfl | kept
      · exact fits
      · exact holds.1 entry (List.mem_filter.mp kept).1
  | onDisk disk =>
      change (DiskKeys.set disk key bytes).1.HoldsOnly accepted
      unfold DiskKeys.set
      split
      case h_1 => exact holds
      case h_2 location _ =>
        have written := Disk.HoldsOnly.write holds fits location
        rcases ran : disk.write location bytes with ⟨changed, ⟨_ | _⟩ | _⟩ <;>
          (rw [ran] at written; exact written)

theorem HoldOnly.storeFile
    (holds : stores.HoldOnly accepted)
    (fits : accepted bytes)
    (path : Json) :
    (stores.storeFile path bytes).1.HoldOnly accepted := by
  cases stores with
  | memory keys files =>
      unfold Stores.storeFile
      dsimp only
      split
      case h_1 changed written =>
        obtain ⟨place, _, added⟩ := bind_eq_ok_iff.mp written
        cases added
        refine ⟨holds.1, fun entry present => ?_⟩
        rcases List.mem_cons.mp present with rfl | kept
        · exact fits
        · exact holds.2 entry (List.mem_filter.mp kept).1
      case h_2 => exact holds
  | onDisk disk =>
      change (DiskFiles.write disk path bytes).1.HoldsOnly accepted
      unfold DiskFiles.write
      split
      case h_1 => exact holds
      case h_2 location _ =>
        have written := Disk.HoldsOnly.write holds fits location
        rcases ran : disk.write location bytes with ⟨changed, ⟨_ | _⟩ | _⟩ <;>
          (rw [ran] at written; exact written)

end Stores
end Wordbook
