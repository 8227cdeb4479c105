import Mathlib.Data.List.Nodup
import Wordbook.Proofs.Store.Listing

/-!
# Files in memory and on a disk

Writes that a disk takes one after the other leave the same files as in memory: the same bytes are
read at every path, and the same directories list the same entries.  What differs is the order of a
listing.  On a disk entries stand in the order of their names, in memory in that of the whole paths
below them, so that a directory is overtaken by every entry whose name goes on from its own with a
character that sorts before slashes.
-/

namespace Wordbook

/-! ## Entries of a disk -/

namespace Disk

variable {disk changed : Disk} {location place : Location} {entry : DiskEntry} {bytes : List UInt8}

/-- No two entries stand at one place. -/
def IsSingle (disk : Disk) : Prop := (disk.entries.map Prod.fst).Nodup

theorem IsSingle.put (single : disk.IsSingle) : (disk.put location entry).IsSingle := by
  unfold IsSingle Disk.put
  dsimp only
  split
  case isTrue =>
    have places : (disk.entries.map (replaced location entry)).map Prod.fst =
        disk.entries.map Prod.fst := by
      rw [List.map_map]
      exact List.map_congr_left fun held _ => replaced_place held
    change ((disk.entries.map (replaced location entry)).map Prod.fst).Nodup
    rw [places]
    exact single
  case isFalse absent =>
    rw [List.map_append, List.map_singleton]
    refine List.Nodup.append single (List.nodup_singleton _) ?_
    intro other held same
    obtain rfl : other = location := by simpa using same
    obtain ⟨standing, present, there⟩ := List.mem_map.mp held
    exact absent (List.any_eq_true.mpr ⟨standing, present, by simpa using there⟩)

theorem IsSingle.write (single : disk.IsSingle) : (disk.write location bytes).1.IsSingle := by
  refine write_keeps IsSingle (fun _ made single => ?_) (fun stored single => ?_) single
  · obtain ⟨-, rfl⟩ := find_of_makeFolder made
    exact single.put
  · obtain ⟨-, -, rfl⟩ := of_storeFile stored
    exact single.put

/-- What is found at a location stands there. -/
theorem entryAt?_of_find (found : disk.find location = .ok entry) :
    disk.entryAt? location = some entry := by
  obtain rfl | ⟨way, name, rfl⟩ := location.eq_nil_or_concat
  · rw [find_nil, Except.ok.injEq] at found
    rw [← found]
    rfl
  · rw [List.concat_eq_append] at found ⊢
    have folder := find_dropLast found
    rw [List.dropLast_concat] at folder
    rw [find_in_folder folder] at found
    split at found
    · cases found
    · split at found
      case h_1 there =>
        rw [there]
        exact congrArg some (Except.ok.inj found)
      case h_2 => cases found

/-- The name of what stands at a place of a folder. -/
def nameIn (location place : Location) : Option String :=
  if place.dropLast == location && !place.isEmpty then place.getLast? else none

theorem nameIn_eq_some_iff {name : String} :
    nameIn location place = some name ↔ place = location ++ [name] := by
  obtain rfl | ⟨way, last, rfl⟩ := place.eq_nil_or_concat
  · simp [nameIn]
  · simp [nameIn]

theorem names_eq (disk : Disk) (location : Location) :
    disk.names location = ((disk.entries.map Prod.fst).filterMap (nameIn location)).mergeSort
      fun left right => left ≤ right := by
  rw [names, List.filterMap_map]
  rfl

/-- The names in a folder are those of the entries there. -/
theorem mem_names_iff {name : String} :
    name ∈ disk.names location ↔ disk.entryAt? (location ++ [name]) ≠ none := by
  have stands_iff : disk.entryAt? (location ++ [name]) ≠ none ↔
      location ++ [name] ∈ disk.entries.map Prod.fst := by
    rw [entryAt?, if_neg (by simp), ne_eq, Option.map_eq_none_iff, List.find?_eq_none]
    simp
  rw [stands_iff, names_eq, List.mem_mergeSort, List.mem_filterMap]
  simp only [nameIn_eq_some_iff, exists_eq_right]

theorem IsSingle.nodup_names (single : disk.IsSingle) : (disk.names location).Nodup := by
  rw [names_eq, List.nodup_mergeSort]
  refine List.Nodup.filterMap ?_ single
  intro place other name isIn otherIsIn
  rw [Option.mem_def, nameIn_eq_some_iff] at isIn otherIsIn
  rw [isIn, otherIsIn]

theorem names_ascending (disk : Disk) (location : Location) :
    (disk.names location).Pairwise fun left right => left ≤ right := by
  have ascending := @List.pairwise_mergeSort _ (fun left right : String => left ≤ right)
    (by simpa using fun _ _ _ => String.le_trans) (by simpa using String.le_total)
    ((disk.entries.map Prod.fst).filterMap (nameIn location))
  simpa [names_eq] using ascending

theorem find_of_look (looked : disk.look location = .ok (some entry)) :
    disk.find location = .ok entry := by
  unfold look at looked
  split at looked
  · cases looked
  · split at looked
    · cases looked
      assumption
    · cases looked
    · cases looked

end Disk

/-! ## Writes on a disk one after the other -/

namespace DiskFiles

open Wordbook.MemoryFiles (LeadOn lastWritten)
open Wordbook.Path (IsName ofSegments)

variable {disk changed : Disk} {writes : List (String × List UInt8)} {path : String}
  {bytes : List UInt8}

/-- A disk after some writes, if all of them succeed. -/
def writeAll? (disk : Disk) (writes : List (String × List UInt8)) : Option Disk :=
  writes.foldlM (fun disk write =>
    match DiskFiles.write disk (.str write.1) write.2 with
    | (changed, .ok ()) => some changed
    | (_, .error _) => none) disk

/-- Nothing stands below the folder of the file store, which is no file itself. -/
structure IsVacant (disk : Disk) : Prop where
  single : disk.IsSingle
  noFile : ∀ held, disk.find folder ≠ .ok (.file held)
  vacant : ∀ name names, disk.entryAt? (folder ++ name :: names) = none

/-- A disk holds the last bytes of some writes, and below the folder of the file store nothing
else than what leads to them. -/
structure Holds (writes : List (String × List UInt8)) (disk : Disk) : Prop where
  single : disk.IsSingle
  noFile : ∀ held, disk.find folder ≠ .ok (.file held)
  found : ∀ write ∈ writes, ∃ held,
    lastWritten (ofSegments (Path.steps write.1)) writes = some held ∧
      disk.look (folder ++ Path.steps write.1) = .ok (some (.file held))
  leads : ∀ name names, disk.entryAt? (folder ++ name :: names) ≠ none →
    ∃ write ∈ writes, name :: names <+: Path.steps write.1

theorem IsVacant.holds (vacant : IsVacant disk) : Holds [] disk :=
  ⟨vacant.single, vacant.noFile, nofun, fun name names stands =>
    absurd (vacant.vacant name names) stands⟩

/-- A write that succeeds was to a path that does not climb. -/
theorem of_write (written : DiskFiles.write disk (.str path) bytes = (changed, .ok ())) :
    ¬ Path.Climbs path ∧ disk.write (folder ++ Path.steps path) bytes = (changed, .ok ()) := by
  have level : ¬ Path.Climbs path := by
    intro climbs
    rw [DiskFiles.write, locationOf_of_climbs climbs] at written
    cases written
  refine ⟨level, ?_⟩
  have located := locationOf_of_not_climbs level
  have done := (Prod.ext_iff.mp written).2
  obtain ⟨location, sameLocated, taken⟩ := write_eq_ok_iff.mp done
  cases located.symm.trans sameLocated
  refine Prod.ext ?_ taken
  rw [← write_fst_of_ok located, written]

theorem Holds.write
    (holds : Holds writes disk)
    (leadOn : LeadOn (writes ++ [(path, bytes)]))
    (written : DiskFiles.write disk (.str path) bytes = (changed, .ok ())) :
    Holds (writes ++ [(path, bytes)]) changed := by
  obtain ⟨level, taken⟩ := of_write written
  obtain ⟨areNames, given, normal⟩ := leadOn.parts (List.mem_append_right writes List.mem_cons_self)
  have there := Disk.look_write taken
  have found := (Disk.look_eq_file_iff.mp there).2
  have changes : changed = (disk.write (folder ++ Path.steps path) bytes).1 := by rw [taken]
  refine ⟨changes ▸ holds.single.write, ?_, ?_, ?_⟩
  · intro held
    obtain ⟨name, rest, steps⟩ := List.exists_cons_of_ne_nil given
    rw [steps] at found
    simp [Disk.find_folder_of_find found]
  · intro write present
    rw [MemoryFiles.lastWritten_concat _ bytes normal]
    split
    case isTrue same =>
      obtain ⟨areOthers, -, -⟩ := leadOn.parts present
      rw [Path.ofSegments_inj areNames areOthers] at same
      exact ⟨bytes, rfl, same ▸ there⟩
    case isFalse differs =>
      rcases List.mem_append.mp present with earlier | last
      · obtain ⟨held, lastHeld, look⟩ := holds.found write earlier
        obtain ⟨noNull, stood⟩ := Disk.look_eq_file_iff.mp look
        refine ⟨held, lastHeld, Disk.look_eq_file_iff.mpr ⟨noNull, ?_⟩⟩
        rw [changes]
        refine Disk.find_write_of_ne stood fun same => differs ?_
        rw [List.append_cancel_left same]
      · cases List.mem_singleton.mp last
        exact absurd rfl differs
  · intro name names stands
    by_cases leads : name :: names <+: Path.steps path
    · exact ⟨_, List.mem_append_right _ List.mem_cons_self, leads⟩
    · have aside : ¬ folder ++ name :: names <+: folder ++ Path.steps path := by
        rwa [List.prefix_append_right_inj]
      rw [changes, Disk.entryAt?_write aside] at stands
      obtain ⟨write, present, prefixed⟩ := holds.leads name names stands
      exact ⟨write, List.mem_append_left _ present, prefixed⟩

/-- Writes that all succeed leave a disk that holds their last bytes. -/
theorem holds_writeAll?
    (vacant : IsVacant disk)
    (leadOn : LeadOn writes)
    (written : writeAll? disk writes = some changed) :
    Holds writes changed := by
  induction writes using List.reverseRecOn generalizing changed with
  | nil =>
      cases written
      exact vacant.holds
  | append_singleton writes last inductionHypothesis =>
      rw [writeAll?, List.foldlM_append] at written
      obtain ⟨between, earlier, final⟩ := Option.bind_eq_some_iff.mp written
      have holds := inductionHypothesis
        (fun write present => leadOn write (List.mem_append_left [last] present)) earlier
      rw [List.foldlM_cons] at final
      simp only [List.foldlM_nil, bind_pure] at final
      split at final
      case h_1 taken =>
        cases final
        exact holds.write leadOn taken
      case h_2 => cases final

/-! ## What a disk finds -/

/-- A directory on the way to a file is found as a folder. -/
theorem Holds.find_above
    (holds : Holds writes disk)
    {write : String × List UInt8}
    (present : write ∈ writes)
    {directory rest : List String}
    {name : String}
    (led : Path.steps write.1 = directory ++ name :: rest) :
    disk.find (folder ++ directory) = .ok .folder := by
  obtain ⟨held, -, look⟩ := holds.found write present
  have found := (Disk.look_eq_file_iff.mp look).2
  rw [led, ← List.append_assoc] at found
  exact Disk.find_folder_of_find found

/-- What leads on to a file from a directory stands there, and is a folder unless it is the
file. -/
theorem Holds.find_next
    (holds : Holds writes disk)
    {write : String × List UInt8}
    (present : write ∈ writes)
    {directory rest : List String}
    {name : String}
    (led : Path.steps write.1 = directory ++ name :: rest) :
    disk.isFolder (folder ++ directory ++ [name]) = !rest.isEmpty ∧
      disk.entryAt? (folder ++ directory ++ [name]) ≠ none := by
  have next : ∃ entry, disk.find (folder ++ directory ++ [name]) = .ok entry ∧
      (entry = .folder ↔ rest ≠ []) := by
    cases rest with
    | nil =>
        obtain ⟨held, -, look⟩ := holds.found write present
        have found := (Disk.look_eq_file_iff.mp look).2
        rw [led, ← List.append_assoc] at found
        exact ⟨_, found, by simp⟩
    | cons further rest =>
        rw [← List.singleton_append, ← List.append_assoc] at led
        have found := holds.find_above present led
        rw [← List.append_assoc] at found
        exact ⟨_, found, by simp⟩
  obtain ⟨entry, found, folder_iff⟩ := next
  refine ⟨?_, ?_⟩
  · rw [Bool.eq_iff_iff, Disk.isFolder_iff, found, Except.ok.injEq, folder_iff]
    simp
  · rw [Disk.entryAt?_of_find found]
    exact Option.some_ne_none entry

/-- What is found below the folder of the store leads to a file or is one. -/
theorem Holds.leads_of_find
    (holds : Holds writes disk)
    {entry : DiskEntry}
    {way : List String}
    (given : way ≠ [])
    (found : disk.find (folder ++ way) = .ok entry) :
    ∃ write ∈ writes, way <+: Path.steps write.1 := by
  obtain ⟨name, names, rfl⟩ := List.exists_cons_of_ne_nil given
  exact holds.leads name names (by simp [Disk.entryAt?_of_find found])

/-- A directory on the way to a file is there to be looked at. -/
theorem Holds.look_above
    (holds : Holds writes disk)
    {write : String × List UInt8}
    (present : write ∈ writes)
    {directory rest : List String}
    {name : String}
    (led : Path.steps write.1 = directory ++ name :: rest) :
    disk.look (folder ++ directory) = .ok (some .folder) := by
  obtain ⟨held, -, look⟩ := holds.found write present
  have noNull := (Disk.look_eq_file_iff.mp look).1
  rw [led, ← List.append_assoc, Disk.hasNullByte, List.any_append, Bool.or_eq_false_iff] at noNull
  rw [Disk.look, Disk.hasNullByte, noNull.1, holds.find_above present led]
  rfl

/-! ## What a disk lists -/

/-- A directory shows an entry for what some writes lead to. -/
def Shown
    (writes : List (String × List UInt8))
    (directory : List String)
    (entry : Listed) : Prop :=
  ∃ write ∈ writes, ∃ name rest, Path.steps write.1 = directory ++ name :: rest ∧
    entry = ⟨name, ofSegments (directory ++ [name]), rest.isEmpty⟩

/-- The entry for what stands under a name in a directory. -/
def entryFor (disk : Disk) (directory : List String) (name : String) : Listed :=
  ⟨name, ofSegments (directory ++ [name]), !disk.isFolder (folder ++ directory ++ [name])⟩

/-- In a directory stand the names that lead on from it. -/
theorem Holds.mem_names_iff
    (holds : Holds writes disk)
    {directory : List String}
    {name : String} :
    name ∈ disk.names (folder ++ directory) ↔
      ∃ write ∈ writes, ∃ rest, Path.steps write.1 = directory ++ name :: rest := by
  rw [Disk.mem_names_iff]
  constructor
  · intro stands
    obtain ⟨first, others, formed⟩ := List.exists_cons_of_ne_nil
      (List.append_ne_nil_of_right_ne_nil directory (List.cons_ne_nil name []))
    rw [List.append_assoc, formed] at stands
    obtain ⟨write, present, rest, led⟩ := holds.leads first others stands
    rw [← formed, List.append_assoc] at led
    exact ⟨write, present, rest, led.symm⟩
  · rintro ⟨write, present, rest, led⟩
    exact (holds.find_next present led).2

theorem Holds.shown_iff
    (holds : Holds writes disk)
    {directory : List String}
    {entry : Listed} :
    Shown writes directory entry ↔
      ∃ name ∈ disk.names (folder ++ directory), entryFor disk directory name = entry := by
  simp only [holds.mem_names_iff]
  constructor
  · rintro ⟨write, present, name, rest, led, rfl⟩
    refine ⟨name, ⟨write, present, rest, led⟩, ?_⟩
    rw [entryFor, (holds.find_next present led).1, Bool.not_not]
  · rintro ⟨name, ⟨write, present, rest, led⟩, rfl⟩
    refine ⟨write, present, name, rest, led, ?_⟩
    rw [entryFor, (holds.find_next present led).1, Bool.not_not]

theorem Holds.list
    (holds : Holds writes disk)
    (leadOn : LeadOn writes)
    (level : ¬ Path.Climbs path)
    (looks : ∀ cause, disk.look (folder ++ Path.steps path) ≠ .error cause) :
    DiskFiles.list disk (.str path) = .ok
      ((disk.names (folder ++ Path.steps path)).map (entryFor disk (Path.steps path))) := by
  have areAbove := Path.isName_of_mem_steps level
  have listed : (disk.names (folder ++ Path.steps path)).map (fun name =>
        (⟨name, Path.join (ofSegments (Path.steps path)) name,
          !disk.isFolder (folder ++ Path.steps path ++ [name])⟩ : Listed)) =
      (disk.names (folder ++ Path.steps path)).map (entryFor disk (Path.steps path)) := by
    refine List.map_congr_left fun name present => ?_
    obtain ⟨write, written, rest, led⟩ := holds.mem_names_iff.mp present
    have isName : IsName name := (leadOn.parts written).1 name (by simp [led])
    rw [entryFor, Path.join_ofSegments areAbove isName]
  have none_of_noFolder (noFolder : disk.look (folder ++ Path.steps path) ≠ .ok (some .folder)) :
      disk.names (folder ++ Path.steps path) = [] := by
    refine List.eq_nil_iff_forall_not_mem.mpr fun name present => noFolder ?_
    obtain ⟨write, written, rest, led⟩ := holds.mem_names_iff.mp present
    exact holds.look_above written led
  rw [DiskFiles.list, Path.normalize_of_not_climbs level, mapError_ok, ok_bind,
    locationOf_of_not_climbs level, ok_bind, DiskFiles.look]
  cases looked : disk.look (folder ++ Path.steps path) with
  | error cause => exact absurd looked (looks cause)
  | ok found =>
      rw [mapError_ok, ok_bind]
      split
      case h_1 => exact congrArg Except.ok listed
      case h_2 noFolder =>
        rw [none_of_noFolder fun folder => noFolder (Except.ok.inj (looked.symm.trans folder))]
        rfl

end DiskFiles

/-! ## Orders of names and of paths -/

/-- A name goes on from another one with a character that sorts before slashes. -/
def Overtakes (other name : String) : Prop :=
  ∃ char rest, other.toList = name.toList ++ char :: rest ∧ char < '/'

theorem le_iff_not_toList_lt {first second : String} :
    first ≤ second ↔ ¬ second.toList < first.toList := by
  rw [← String.lt_iff, String.not_lt]

theorem append_lt_append_iff {lead first second : List Char} :
    lead ++ first < lead ++ second ↔ first < second := by
  induction lead with
  | nil => rfl
  | cons char lead inductionHypothesis => simp [inductionHypothesis]

/-- If a text of which a name is the start comes first although the name does not, then it goes on
from the other name up to a character that sorts before slashes. -/
theorem overtakes_of_not_lt
    {first second firstRest secondRest : List Char}
    (solid : ∀ char ∈ first, char ≠ '/')
    (cut : secondRest = [] ∨ ∃ more, secondRest = '/' :: more)
    (ordered : ¬ second ++ secondRest < first ++ firstRest)
    (later : second < first) :
    secondRest ≠ [] ∧ ∃ char rest, first = second ++ char :: rest ∧ char < '/' := by
  induction second generalizing first with
  | nil =>
      obtain ⟨char, rest, rfl⟩ : ∃ char rest, first = char :: rest :=
        List.exists_cons_of_ne_nil (by rintro rfl; exact absurd later (List.lt_irrefl []))
      rcases cut with rfl | ⟨more, rfl⟩
      · exact absurd (List.nil_lt_cons char (rest ++ firstRest)) ordered
      · have apart := solid char List.mem_cons_self
        rw [List.nil_append, List.cons_append, List.cons_lt_cons_iff] at ordered
        refine ⟨List.cons_ne_nil _ _, char, rest, rfl, Char.not_le.mp fun high => ?_⟩
        have low : char ≤ '/' := Char.not_lt.mp fun before => ordered (.inl before)
        exact apart (Char.le_antisymm low high)
  | cons char second inductionHypothesis =>
      obtain ⟨other, first, rfl⟩ : ∃ other rest, first = other :: rest :=
        List.exists_cons_of_ne_nil (by rintro rfl; exact absurd later (List.not_lt_nil _))
      rw [List.cons_lt_cons_iff] at later
      rw [List.cons_append, List.cons_append, List.cons_lt_cons_iff] at ordered
      rcases later with before | ⟨rfl, later⟩
      · exact absurd (.inl before) ordered
      · obtain ⟨given, next, rest, rfl, low⟩ := inductionHypothesis
          (fun char present => solid char (List.mem_cons_of_mem _ present))
          (fun onward => ordered (.inr ⟨rfl, onward⟩)) later
        exact ⟨given, next, rest, rfl, low⟩

namespace MemoryFiles

open Wordbook.DiskFiles (Shown entryFor)
open Wordbook.Path (IsName ofSegments)

variable {writes : List (String × List UInt8)} {files : MemoryFiles} {disk : Disk}
  {directory : List String}

/-- How entries may follow one another where paths ascend: names ascend, but that a directory comes
after what overtakes it. -/
def FollowPaths (first second : Listed) : Prop :=
  (second.name < first.name → second.isFile = false ∧ Overtakes first.name second.name) ∧
    ¬ (first.isFile = false ∧ Overtakes second.name first.name)

/-- The text of a path below a directory: a name, which ends there or before a slash. -/
theorem exists_toList_ofSegments_append (directory : List String) (name : String)
    (rest : List String) :
    ∃ tail, (ofSegments (directory ++ name :: rest)).toList =
        (Path.lead directory).toList ++ (name.toList ++ tail) ∧
      (rest = [] ∧ tail = [] ∨ rest ≠ [] ∧ ∃ more, tail = '/' :: more) := by
  rw [Path.ofSegments_append, String.toList_append]
  cases rest with
  | nil => exact ⟨[], by simp, .inl ⟨rfl, rfl⟩⟩
  | cons next rest =>
      refine ⟨'/' :: ("/".intercalate (next :: rest)).toList, ?_, .inr ⟨by simp, _, rfl⟩⟩
      rw [String.intercalate_cons_cons, String.toList_append, String.toList_append,
        List.append_assoc]
      rfl

theorem followPaths_of_le
    {name other : String}
    {rest more : List String}
    (isName : IsName name)
    (ordered : ofSegments (directory ++ name :: rest) ≤ ofSegments (directory ++ other :: more)) :
    FollowPaths ⟨name, ofSegments (directory ++ [name]), rest.isEmpty⟩
      ⟨other, ofSegments (directory ++ [other]), more.isEmpty⟩ := by
  obtain ⟨tail, text, cut⟩ := exists_toList_ofSegments_append directory name rest
  obtain ⟨otherTail, otherText, otherCut⟩ := exists_toList_ofSegments_append directory other more
  rw [le_iff_not_toList_lt, text, otherText, append_lt_append_iff] at ordered
  refine ⟨?_, ?_⟩
  · intro later
    have solid : ∀ char ∈ name.toList, char ≠ '/' := fun char present =>
      bne_iff_ne.mp (not_slash_of_isName isName char present)
    obtain ⟨given, char, above, longer, low⟩ := overtakes_of_not_lt solid
      (otherCut.imp And.right And.right) ordered (String.lt_iff.mp later)
    have isDirectory : more ≠ [] := (otherCut.resolve_left fun ends => given ends.2).1
    exact ⟨by simpa using isDirectory, char, above, longer, low⟩
  · rintro ⟨isDirectory, char, above, longer, low⟩
    obtain ⟨-, further, rfl⟩ := cut.resolve_left fun ends => by simp [ends.1] at isDirectory
    rw [longer, List.append_assoc, append_lt_append_iff, List.cons_append,
      List.cons_lt_cons_iff] at ordered
    exact ordered (.inl low)

theorem distinct_sublist (found : List Listed) : (distinct found).Sublist found := by
  induction found using List.reverseRecOn with
  | nil => exact List.Sublist.slnil
  | append_singleton found last inductionHypothesis =>
      rw [distinct_concat]
      split
      case isTrue => exact inductionHypothesis.trans (List.sublist_append_left found [last])
      case isFalse => exact inductionHypothesis.append (List.Sublist.refl [last])

theorem Holds.followPaths
    (holds : Holds writes files)
    (leadOn : LeadOn writes)
    (areAbove : ∀ above ∈ directory, IsName above) :
    (distinct (files.below directory)).Pairwise FollowPaths := by
  refine List.Pairwise.sublist (distinct_sublist _) ?_
  have ascending := @List.pairwise_mergeSort _ (fun left right : String => left ≤ right)
    (by simpa using fun _ _ _ => String.le_trans) (by simpa using String.le_total)
    (files.map Prod.fst)
  rw [below, List.pairwise_filterMap]
  refine ascending.imp_of_mem ?_
  intro first second firstHeld secondHeld ordered firstEntry firstShown secondEntry secondShown
  rw [List.mem_mergeSort, holds.places] at firstHeld secondHeld
  obtain ⟨write, present, normal⟩ := firstHeld
  obtain ⟨other, otherPresent, otherNormal⟩ := secondHeld
  obtain ⟨name, rest, led, rfl⟩ := (leadOn.shownFor_iff present normal areAbove).mp firstShown
  obtain ⟨otherName, otherRest, otherLed, rfl⟩ :=
    (leadOn.shownFor_iff otherPresent otherNormal areAbove).mp secondShown
  obtain ⟨areNames, -, formed⟩ := leadOn.parts present
  obtain ⟨-, -, otherFormed⟩ := leadOn.parts otherPresent
  obtain rfl : ofSegments _ = first := Except.ok.inj (formed.symm.trans normal)
  obtain rfl : ofSegments _ = second := Except.ok.inj (otherFormed.symm.trans otherNormal)
  rw [led, otherLed] at ordered
  exact followPaths_of_le (areNames name (by simp [led])) (of_decide_eq_true ordered)

/-! ## The same entries -/

/-- What a disk has taken leads nowhere under the name of a file, so that memory keeps an entry of
each name in a directory. -/
theorem Holds.mem_distinct_iff
    (holds : Holds writes files)
    (leadOn : LeadOn writes)
    (areAbove : ∀ above ∈ directory, IsName above)
    (holdsOnDisk : DiskFiles.Holds writes disk)
    {entry : Listed} :
    entry ∈ distinct (files.below directory) ↔ Shown writes directory entry := by
  have mem_iff := holds.mem_below_iff leadOn areAbove
  constructor
  · exact fun kept => (mem_iff entry).mp (mem_below_of_mem_distinct kept)
  · intro shown
    have named : entry.name ∈ (distinct (files.below directory)).map Listed.name :=
      mem_names_distinct.mpr (List.mem_map_of_mem ((mem_iff entry).mpr shown))
    obtain ⟨kept, present, same⟩ := List.mem_map.mp named
    have keptShown := (mem_iff kept).mp (mem_below_of_mem_distinct present)
    obtain ⟨name, -, rfl⟩ := holdsOnDisk.shown_iff.mp shown
    obtain ⟨_, -, rfl⟩ := holdsOnDisk.shown_iff.mp keptShown
    obtain rfl : _ = name := same
    exact present

theorem Holds.perm
    (holds : Holds writes files)
    (leadOn : LeadOn writes)
    (areAbove : ∀ above ∈ directory, IsName above)
    (holdsOnDisk : DiskFiles.Holds writes disk) :
    (distinct (files.below directory)).Perm
      ((disk.names (DiskFiles.folder ++ directory)).map (entryFor disk directory)) := by
  have nodup := (nodup_names_distinct (files.below directory)).of_map
  have diskNodup : ((disk.names (DiskFiles.folder ++ directory)).map
      (entryFor disk directory)).Nodup := by
    refine List.Nodup.of_map Listed.name ?_
    rw [List.map_map]
    simpa [Function.comp_def, entryFor] using holdsOnDisk.single.nodup_names
  rw [List.perm_ext_iff_of_nodup nodup diskNodup]
  intro entry
  rw [holds.mem_distinct_iff leadOn areAbove holdsOnDisk, holdsOnDisk.shown_iff, List.mem_map]

/-- A directory shows a directory and an entry that overtakes it. -/
def Crosses (writes : List (String × List UInt8)) (directory : List String) : Prop :=
  ∃ inner other, Shown writes directory inner ∧ Shown writes directory other ∧
    inner.isFile = false ∧ Overtakes other.name inner.name

theorem lt_of_overtakes {other name : String} (overtakes : Overtakes other name) :
    name < other := by
  obtain ⟨char, rest, longer, -⟩ := overtakes
  refine String.not_le.mp fun before => ?_
  have after : name ≤ other := le_of_prefix (longer ▸ List.prefix_append _ _)
  rw [String.le_antisymm after before] at longer
  simpa using congrArg List.length longer

theorem Holds.sameOrder_iff
    (holds : Holds writes files)
    (leadOn : LeadOn writes)
    (areAbove : ∀ above ∈ directory, IsName above)
    (holdsOnDisk : DiskFiles.Holds writes disk) :
    distinct (files.below directory) =
        (disk.names (DiskFiles.folder ++ directory)).map (entryFor disk directory) ↔
      ¬ Crosses writes directory := by
  have follow := holds.followPaths leadOn areAbove
  have mem_iff {entry : Listed} :=
    @Holds.mem_distinct_iff _ _ _ _ holds leadOn areAbove holdsOnDisk entry
  have ascending : ((disk.names (DiskFiles.folder ++ directory)).map
      (entryFor disk directory)).Pairwise fun first second => first.name ≤ second.name :=
    List.pairwise_map.mpr (Disk.names_ascending disk _)
  constructor
  · rintro same ⟨inner, other, innerShown, otherShown, isDirectory, overtakes⟩
    have later := lt_of_overtakes overtakes
    have ordered := follow.and (same ▸ ascending)
    -- Behind the directory the order of the paths is against the other entry, and before it that
    -- of the names.
    obtain ⟨before, behind, cut⟩ := List.append_of_mem (mem_iff.mpr innerShown)
    have present := mem_iff.mpr otherShown
    rw [cut, List.pairwise_append] at ordered
    rw [cut, List.mem_append, List.mem_cons] at present
    rcases present with earlier | rfl | behind
    · exact String.not_le.mpr later (ordered.2.2 other earlier inner List.mem_cons_self).2
    · exact String.lt_irrefl _ later
    · exact (List.rel_of_pairwise_cons ordered.2.1 behind).1.2 ⟨isDirectory, overtakes⟩
  · intro level
    refine List.Perm.eq_of_pairwise ?_ ?_ ascending (holds.perm leadOn areAbove holdsOnDisk)
    · intro entry other kept present before after
      obtain ⟨name, -, rfl⟩ := holdsOnDisk.shown_iff.mp (mem_iff.mp kept)
      obtain ⟨otherName, -, rfl⟩ := List.mem_map.mp present
      obtain rfl : name = otherName := String.le_antisymm before after
      rfl
    · refine follow.imp_of_mem fun firstKept secondKept followed => ?_
      refine String.not_lt.mp fun later => level ?_
      obtain ⟨isDirectory, overtakes⟩ := followed.1 later
      exact ⟨_, _, mem_iff.mp secondKept, mem_iff.mp firstKept, isDirectory, overtakes⟩

end MemoryFiles

/-! ## Agreement -/

namespace DiskFiles

open Wordbook.MemoryFiles (LeadOn lastWritten Crosses)
open Wordbook.Path (IsName ofSegments)

variable {disk changed : Disk} {files : MemoryFiles} {writes : List (String × List UInt8)}
  {path : String}

/-- A disk can be asked what stands at a path: it and the names on it are not too long. -/
def CanLook (disk : Disk) (path : String) : Prop :=
  ∀ location, locationOf (.str path) = .ok location → ∀ cause, disk.look location ≠ .error cause

/-- A path leads to what was written without being the path of a file. -/
def IsDirectory (writes : List (String × List UInt8)) (path : String) : Prop :=
  ∃ write ∈ writes, ∃ name rest, Path.steps write.1 = Path.steps path ++ name :: rest

/-- Files in memory and on a disk are the same for whoever reads, looks for or lists them, but for
directories themselves, which are not kept in memory, and the order of some listings. -/
structure Agree
    (writes : List (String × List UInt8))
    (files : MemoryFiles)
    (disk : Disk) : Prop where
  read : ∀ path, DiskFiles.read disk (.str path) = (files.read (.str path)).mapError .issue ↔
    CanLook disk path
  exist : ∀ path, CanLook disk path → Path.steps path ≠ [] →
    (DiskFiles.exists? disk (.str path) = (files.exists? (.str path)).mapError .issue ↔
      ¬ IsDirectory writes path)
  entries : ∀ directory shown, CanLook disk directory → files.list (.str directory) = .ok shown →
    ∃ listed, DiskFiles.list disk (.str directory) = .ok listed ∧ shown.Perm listed
  list : ∀ directory, CanLook disk directory →
    (DiskFiles.list disk (.str directory) = (files.list (.str directory)).mapError .issue ↔
      ¬ Crosses writes (Path.steps directory))

theorem canLook_of_fits (fits : ¬ Path.Climbs path → Disk.Fits (folder ++ Path.steps path)) :
    CanLook disk path := by
  intro location located
  by_cases climbs : Path.Climbs path
  · rw [locationOf_of_climbs climbs] at located
    cases located
  · rw [locationOf_of_not_climbs climbs] at located
    cases located
    exact Disk.look_ne_error (fits climbs)

theorem canLook_iff (level : ¬ Path.Climbs path) :
    CanLook disk path ↔ ∀ cause, disk.look (folder ++ Path.steps path) ≠ .error cause := by
  simp [CanLook, locationOf_of_not_climbs level]

/-- What is written lies below no path that climbs. -/
theorem not_climbs_of_isDirectory (leadOn : LeadOn writes) (isDirectory : IsDirectory writes path) :
    ¬ Path.Climbs path := by
  obtain ⟨write, present, name, rest, led⟩ := isDirectory
  intro climbs
  have climbing : ".." ∈ Path.steps path := List.mem_filter.mpr ⟨climbs, by decide⟩
  have isName := (leadOn.parts present).1 ".." (by rw [led]; exact List.mem_append_left _ climbing)
  exact isName.noClimb rfl

/-- A disk finds at a path the file that was written there, and else a folder where the path is a
directory. -/
theorem Holds.look_cases
    (holds : Holds writes disk)
    (leadOn : LeadOn writes)
    (level : ¬ Path.Climbs path)
    (canLook : CanLook disk path) :
    (∃ held, lastWritten (ofSegments (Path.steps path)) writes = some held ∧
        disk.look (folder ++ Path.steps path) = .ok (some (.file held)) ∧
        ¬ IsDirectory writes path) ∨
      lastWritten (ofSegments (Path.steps path)) writes = none ∧
        ∃ found, disk.look (folder ++ Path.steps path) = .ok found ∧
          (∀ held, found ≠ some (.file held)) ∧
          (Path.steps path ≠ [] → (found.isSome = true ↔ IsDirectory writes path)) := by
  have areNames := Path.isName_of_mem_steps level
  have written_iff : (lastWritten (ofSegments (Path.steps path)) writes).isSome = true ↔
      ∃ write ∈ writes, Path.steps write.1 = Path.steps path := by
    rw [MemoryFiles.isSome_lastWritten_iff]
    refine exists_congr fun write => and_congr_right fun present => ?_
    obtain ⟨areOthers, -, normal⟩ := leadOn.parts present
    rw [normal, Except.ok.injEq, Path.ofSegments_inj areOthers areNames]
  cases written : lastWritten (ofSegments (Path.steps path)) writes with
  | some held =>
      obtain ⟨write, present, same⟩ := written_iff.mp (by rw [written]; rfl)
      obtain ⟨found, last, look⟩ := holds.found write present
      rw [same, written] at last
      rw [same] at look
      cases last
      refine .inl ⟨held, rfl, look, ?_⟩
      rintro ⟨other, otherPresent, name, rest, led⟩
      cases look.symm.trans (holds.look_above otherPresent led)
  | none =>
      have unwritten {write : String × List UInt8} (present : write ∈ writes) :
          Path.steps write.1 ≠ Path.steps path := by
        intro same
        have isSome := written_iff.mpr ⟨write, present, same⟩
        rw [written] at isSome
        cases isSome
      have isDirectory_of_find {entry : DiskEntry}
          (given : Path.steps path ≠ [])
          (found : disk.find (folder ++ Path.steps path) = .ok entry) :
          IsDirectory writes path := by
        obtain ⟨write, present, rest, led⟩ := holds.leads_of_find given found
        cases rest with
        | nil => exact absurd (by rw [← led, List.append_nil]) (unwritten present)
        | cons name rest => exact ⟨write, present, name, rest, led.symm⟩
      refine .inr ⟨rfl, ?_⟩
      cases look : disk.look (folder ++ Path.steps path) with
      | error cause => exact absurd look ((canLook_iff level).mp canLook cause)
      | ok found =>
          refine ⟨found, rfl, ?_, ?_⟩
          · rintro held rfl
            have file := (Disk.look_eq_file_iff.mp look).2
            by_cases root : Path.steps path = []
            · rw [root, List.append_nil] at file
              exact holds.noFile held file
            · obtain ⟨write, present, name, rest, led⟩ := isDirectory_of_find root file
              cases look.symm.trans (holds.look_above present led)
          · intro given
            constructor
            · intro isSome
              obtain ⟨entry, rfl⟩ := Option.isSome_iff_exists.mp isSome
              exact isDirectory_of_find given (Disk.find_of_look look)
            · rintro ⟨write, present, name, rest, led⟩
              cases look.symm.trans (holds.look_above present led)
              rfl

theorem read_of_noFile
    {found : Option DiskEntry}
    (level : ¬ Path.Climbs path)
    (looked : disk.look (folder ++ Path.steps path) = .ok found)
    (noFile : ∀ held, found ≠ some (.file held)) :
    DiskFiles.read disk (.str path) = .ok none := by
  rw [DiskFiles.read, locationOf_of_not_climbs level, ok_bind, DiskFiles.look, looked, mapError_ok,
    ok_bind]
  split
  case h_1 held => exact absurd rfl (noFile held)
  case h_2 => rfl

theorem exists?_of_look
    {found : Option DiskEntry}
    (level : ¬ Path.Climbs path)
    (looked : disk.look (folder ++ Path.steps path) = .ok found) :
    DiskFiles.exists? disk (.str path) = .ok found.isSome := by
  rw [DiskFiles.exists?, locationOf_of_not_climbs level, ok_bind, DiskFiles.look, looked,
    mapError_ok, ok_bind]
  rfl

/-- A path that climbs is refused in both places, and in the same words. -/
theorem agree_of_climbs (files : MemoryFiles) (disk : Disk) (climbs : Path.Climbs path) :
    DiskFiles.read disk (.str path) = (files.read (.str path)).mapError .issue ∧
      DiskFiles.exists? disk (.str path) = (files.exists? (.str path)).mapError .issue ∧
      DiskFiles.list disk (.str path) = (files.list (.str path)).mapError .issue := by
  have normal := Path.normalize_of_climbs climbs
  have nowhere := locationOf_of_climbs climbs
  refine ⟨?_, ?_, ?_⟩
  · rw [DiskFiles.read, nowhere, MemoryFiles.read, normal]
    rfl
  · rw [DiskFiles.exists?, nowhere, MemoryFiles.exists?, normal]
    rfl
  · rw [DiskFiles.list, normal, MemoryFiles.list, normal]
    rfl

theorem canLook_of_climbs (climbs : Path.Climbs path) : CanLook disk path :=
  canLook_of_fits fun level => absurd climbs level

/-- A path that the disk cannot look at is not read there. -/
theorem canLook_of_read
    {held : Option (List UInt8)}
    (level : ¬ Path.Climbs path)
    (read : DiskFiles.read disk (.str path) = .ok held) :
    CanLook disk path := by
  rw [canLook_iff level]
  intro cause looked
  rw [DiskFiles.read, locationOf_of_not_climbs level, ok_bind, DiskFiles.look, looked,
    mapError_error] at read
  cases read

/-- A disk and a store in memory that hold the same writes agree. -/
theorem agree_of_holds
    (holds : Holds writes disk)
    (inMemory : MemoryFiles.Holds writes files)
    (leadOn : LeadOn writes) :
    Agree writes files disk := by
  refine ⟨?_, ?_, ?_, ?_⟩
  · intro path
    by_cases climbs : Path.Climbs path
    · exact iff_of_true (agree_of_climbs files disk climbs).1 (canLook_of_climbs climbs)
    · rw [inMemory.read (Path.normalize_of_not_climbs climbs), mapError_ok]
      refine ⟨canLook_of_read climbs, fun canLook => ?_⟩
      rcases holds.look_cases leadOn climbs canLook with
        ⟨held, last, looked, -⟩ | ⟨last, found, looked, noFile, -⟩
      · rw [last]
        exact read_eq_some_iff.mpr ⟨_, locationOf_of_not_climbs climbs, looked⟩
      · rw [last]
        exact read_of_noFile climbs looked noFile
  · intro path canLook given
    by_cases climbs : Path.Climbs path
    · refine iff_of_true (agree_of_climbs files disk climbs).2.1 fun isDirectory => ?_
      exact not_climbs_of_isDirectory leadOn isDirectory climbs
    · rw [inMemory.exists? (Path.normalize_of_not_climbs climbs), mapError_ok]
      rcases holds.look_cases leadOn climbs canLook with
        ⟨held, last, looked, aside⟩ | ⟨last, found, looked, -, isSome_iff⟩
      · rw [last, exists?_of_look climbs looked]
        exact iff_of_true rfl aside
      · rw [last, exists?_of_look climbs looked, ← isSome_iff given]
        cases found <;> simp
  · intro directory shown canLook listed
    have level : ¬ Path.Climbs directory := by
      intro climbs
      rw [MemoryFiles.list, Path.normalize_of_climbs climbs] at listed
      cases listed
    rw [MemoryFiles.list_of_not_climbs files level] at listed
    cases listed
    exact ⟨_, holds.list leadOn level ((canLook_iff level).mp canLook),
      inMemory.perm leadOn (Path.isName_of_mem_steps level) holds⟩
  · intro directory canLook
    by_cases climbs : Path.Climbs directory
    · refine iff_of_true (agree_of_climbs files disk climbs).2.2 ?_
      rintro ⟨inner, -, ⟨write, present, name, rest, led, -⟩, -⟩
      exact not_climbs_of_isDirectory leadOn ⟨write, present, name, rest, led⟩ climbs
    · rw [holds.list leadOn climbs ((canLook_iff climbs).mp canLook),
        MemoryFiles.list_of_not_climbs files climbs, mapError_ok, Except.ok.injEq, eq_comm]
      exact inMemory.sameOrder_iff leadOn (Path.isName_of_mem_steps climbs) holds

/-- Writes below the root that all succeed on a disk leave the same files there as in memory. -/
theorem written_agree
    (vacant : IsVacant disk)
    (leadOn : LeadOn writes)
    (written : writeAll? disk writes = some changed) :
    ∃ files, MemoryFiles.writeAll [] writes = .ok files ∧ Agree writes files changed := by
  obtain ⟨files, inMemory, holdsInMemory⟩ := MemoryFiles.exists_writeAll leadOn
  exact ⟨files, inMemory, agree_of_holds (holds_writeAll? vacant leadOn written) holdsInMemory leadOn⟩

theorem isVacant_blank (root : String) : IsVacant (Disk.blank root) := by
  refine ⟨List.nodup_nil, ?_, ?_⟩
  · intro held found
    cases found
  · intro name names
    rfl

/-- A file whose name goes on from that of a directory, with a sign that sorts before slashes. -/
def crossingWrites : List (String × List UInt8) :=
  [("/a-b", [1]), ("/a/x", [2])]

theorem crossing_written_agree :
    LeadOn crossingWrites ∧
      ∃ changed files, writeAll? (Disk.blank "home") crossingWrites = some changed ∧
        MemoryFiles.writeAll [] crossingWrites = .ok files ∧
        Agree crossingWrites files changed := by
  have leadOn : LeadOn crossingWrites := by
    simp only [LeadOn, crossingWrites, List.forall_mem_cons]
    exact ⟨⟨"/a-b", rfl, by decide⟩, ⟨"/a/x", rfl, by decide⟩, List.forall_mem_nil _⟩
  have taken : (writeAll? (Disk.blank "home") crossingWrites).isSome = true := by decide +kernel
  obtain ⟨changed, written⟩ := Option.isSome_iff_exists.mp taken
  obtain ⟨files, inMemory, agree⟩ := written_agree (isVacant_blank "home") leadOn written
  exact ⟨leadOn, changed, files, written, inMemory, agree⟩

theorem sorted_pair {first second : String} (before : second ≤ first) :
    [first, second].mergeSort (fun left right => left ≤ right) = [second, first] := by
  have ascending := @List.pairwise_mergeSort _ (fun left right : String => left ≤ right)
    (by simpa using fun _ _ _ => String.le_trans) (by simpa using String.le_total) [first, second]
  have swapped := (List.mergeSort_perm [first, second] fun left right => left ≤ right).trans
    (List.Perm.swap second first [])
  refine List.Perm.eq_of_pairwise ?_ (by simpa using ascending) ?_ swapped
  · intro left right _ _ after before
    exact String.le_antisymm after before
  · simpa using before

/-- The writes succeed in both places, no path of theirs leads through another one, and yet the
root lists its two entries in one order in memory and in the other one on the disk. -/
theorem crossing_listings_differ :
    ∃ changed files, writeAll? (Disk.blank "home") crossingWrites = some changed ∧
      MemoryFiles.writeAll [] crossingWrites = .ok files ∧
      (crossingWrites.map fun write => Path.steps write.1) = [["a-b"], ["a", "x"]] ∧
      files.list (.str "/") = .ok [⟨"a-b", "/a-b", true⟩, ⟨"a", "/a", false⟩] ∧
      DiskFiles.list changed (.str "/") = .ok [⟨"a", "/a", false⟩, ⟨"a-b", "/a-b", true⟩] := by
  refine ⟨⟨"home", [(["files"], .folder), (["files", "a-b"], .file [1]), (["files", "a"], .folder),
    (["files", "a", "x"], .file [2])]⟩, [("/a/x", [2]), ("/a-b", [1])], ?_, ?_, ?_, ?_, ?_⟩
  · rfl
  · rfl
  · decide +kernel
  · change Except.ok (MemoryFiles.distinct
      ((["/a/x", "/a-b"].mergeSort fun left right => left ≤ right).filterMap _)) = _
    rw [sorted_pair (by decide)]
    rfl
  · change Except.ok ((["a-b", "a"].mergeSort fun left right => left ≤ right).map _) = _
    rw [sorted_pair (by decide)]
    rfl

end DiskFiles
end Wordbook
