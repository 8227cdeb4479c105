import Mathlib.Data.List.Nodup
import Wordbook.Proofs.Path.Canonical
import Wordbook.Proofs.Store.Separation

/-!
# Files in memory

After any writes, a file store in memory holds for each path the bytes that were last written there
under any spelling of it.  A directory lists each name that leads on from it once, and as a file
exactly when there is one at its path: what is listed is the first of the paths that share a name,
and the path of a file comes before all paths below it.
-/

namespace Wordbook
namespace MemoryFiles

/-! ## Entries with distinct names -/

theorem any_name_iff {found : List Listed} {name : String} :
    (found.any fun held => held.name == name) = true ↔ name ∈ found.map Listed.name := by
  simp [List.any_eq_true]

theorem distinct_concat (found : List Listed) (last : Listed) :
    distinct (found ++ [last]) =
      if last.name ∈ (distinct found).map Listed.name then distinct found
      else distinct found ++ [last] := by
  have step : distinct (found ++ [last]) =
      if (distinct found).any fun held => held.name == last.name then distinct found
      else distinct found ++ [last] := by
    rw [distinct, distinct, List.foldl_append]
    rfl
  simp only [step, any_name_iff]

/-- No name is lost. -/
theorem mem_names_distinct {found : List Listed} {name : String} :
    name ∈ (distinct found).map Listed.name ↔ name ∈ found.map Listed.name := by
  induction found using List.reverseRecOn with
  | nil => rfl
  | append_singleton found last inductionHypothesis =>
      rw [distinct_concat, List.map_append, List.mem_append, ← inductionHypothesis]
      split
      case isTrue known =>
        refine ⟨Or.inl, ?_⟩
        rintro (listed | same)
        · exact listed
        · obtain rfl : name = last.name := by simpa using same
          exact known
      case isFalse => rw [List.map_append, List.mem_append]

/-- No name is kept twice. -/
theorem nodup_names_distinct (found : List Listed) :
    ((distinct found).map Listed.name).Nodup := by
  induction found using List.reverseRecOn with
  | nil => exact List.nodup_nil
  | append_singleton found last inductionHypothesis =>
      rw [distinct_concat]
      split
      case isTrue => exact inductionHypothesis
      case isFalse new => simpa using List.Nodup.concat new inductionHypothesis

/-- What is kept is the first of its name. -/
theorem exists_first_of_mem_distinct
    {found : List Listed}
    {entry : Listed}
    (kept : entry ∈ distinct found) :
    ∃ before behind, found = before ++ entry :: behind ∧
      ∀ earlier ∈ before, earlier.name ≠ entry.name := by
  induction found using List.reverseRecOn with
  | nil => cases kept
  | append_singleton found last inductionHypothesis =>
      rw [distinct_concat] at kept
      have extend (earlier : entry ∈ distinct found) :
          ∃ before behind, found ++ [last] = before ++ entry :: behind ∧
            ∀ earlier ∈ before, earlier.name ≠ entry.name := by
        obtain ⟨before, behind, rfl, first⟩ := inductionHypothesis earlier
        exact ⟨before, behind ++ [last], by simp, first⟩
      split at kept
      case isTrue => exact extend kept
      case isFalse new =>
        rcases List.mem_append.mp kept with earlier | same
        · exact extend earlier
        · obtain rfl : entry = last := by simpa using same
          refine ⟨found, [], rfl, ?_⟩
          intro earlier present named
          exact new (mem_names_distinct.mpr (List.mem_map.mpr ⟨earlier, present, named⟩))

/-- If files come before the directories of their name, a name that is a file's is kept as one. -/
theorem isFile_of_mem_distinct
    {found : List Listed}
    (filesFirst : found.Pairwise fun first second =>
      first.name = second.name → second.isFile = true → first.isFile = true)
    {entry file : Listed}
    (kept : entry ∈ distinct found)
    (present : file ∈ found)
    (named : file.name = entry.name)
    (isFile : file.isFile = true) :
    entry.isFile = true := by
  obtain ⟨before, behind, rfl, first⟩ := exists_first_of_mem_distinct kept
  rcases List.mem_append.mp present with earlier | present
  · exact absurd named (first file earlier)
  · rcases List.mem_cons.mp present with rfl | later
    · exact isFile
    · have ordered := (List.pairwise_append.mp filesFirst).2.1
      exact List.rel_of_pairwise_cons ordered later named.symm isFile

/-! ## Entries of paths below a directory -/

open Wordbook.Path (IsName ofSegments)

theorem not_slash_of_isName {name : String} (isName : IsName name) :
    ∀ char ∈ name.toList, (char != '/') = true := by
  intro char present
  have solid := isName.noSlash char present
  rw [bne_iff_ne]
  rintro rfl
  cases solid

/-- The entry of a path below a directory: its next name, which is that of a file if the path ends
there. -/
theorem entryOf_intercalate
    {directory rest : List String}
    {name : String}
    (areAbove : ∀ above ∈ directory, IsName above)
    (isName : IsName name) :
    entryOf (ofSegments directory) ("/".intercalate (name :: rest)).toList =
      ⟨name, ofSegments (directory ++ [name]), rest.isEmpty⟩ := by
  have solid := not_slash_of_isName isName
  rw [entryOf, ← Path.join_ofSegments areAbove isName]
  cases rest with
  | nil =>
      rw [String.intercalate_singleton, List.takeWhile_eq_self_iff.mpr solid,
        List.dropWhile_eq_nil_iff.mpr solid, String.ofList_toList]
      rfl
  | cons next rest =>
      have cut : ("/".intercalate (name :: next :: rest)).toList =
          name.toList ++ '/' :: ("/".intercalate (next :: rest)).toList := by
        rw [String.intercalate_cons_cons, String.toList_append, String.toList_append,
          List.append_assoc]
        rfl
      rw [cut, List.takeWhile_append_of_pos solid, List.dropWhile_append_of_pos solid]
      simp

/-- The entry that a directory shows for a path, if the path lies below it. -/
def shownFor (directory : List String) (path : String) : Option Listed :=
  if (Path.lead directory).toList.isPrefixOf path.toList then
    some (entryOf (ofSegments directory)
      (path.toList.drop (Path.lead directory).toList.length))
  else none

theorem shownFor_append
    {directory rest : List String}
    {name : String}
    (areAbove : ∀ above ∈ directory, IsName above)
    (isName : IsName name) :
    shownFor directory (ofSegments (directory ++ name :: rest)) =
      some ⟨name, ofSegments (directory ++ [name]), rest.isEmpty⟩ := by
  rw [shownFor, Path.ofSegments_append, String.toList_append, if_pos, List.drop_left,
    entryOf_intercalate areAbove isName]
  exact List.isPrefixOf_iff_prefix.mpr (List.prefix_append _ _)

/-- A directory shows the paths of names that lead on from it. -/
theorem shownFor_eq_some_iff
    {directory names : List String}
    {entry : Listed}
    (areAbove : ∀ above ∈ directory, IsName above)
    (areNames : ∀ name ∈ names, IsName name)
    (given : names ≠ []) :
    shownFor directory (ofSegments names) = some entry ↔
      ∃ name rest, names = directory ++ name :: rest ∧
        entry = ⟨name, ofSegments (directory ++ [name]), rest.isEmpty⟩ := by
  have isNext {name : String} {rest : List String} (led : names = directory ++ name :: rest) :
      IsName name :=
    areNames name (by simp [led])
  constructor
  · intro shown
    have starts : (Path.lead directory).toList <+: (ofSegments names).toList := by
      by_contra apart
      rw [shownFor, if_neg (by rwa [List.isPrefixOf_iff_prefix])] at shown
      cases shown
    obtain ⟨below, cut⟩ := starts
    have placed : ofSegments names = Path.lead directory ++ String.ofList below := by
      rw [← String.toList_inj, String.toList_append, String.toList_ofList, cut]
    obtain ⟨name, rest, led⟩ := (Path.exists_append_iff areNames areAbove given).mp ⟨_, placed⟩
    rw [led, shownFor_append areAbove (isNext led)] at shown
    exact ⟨name, rest, led, (Option.some.inj shown).symm⟩
  · rintro ⟨name, rest, led, rfl⟩
    rw [led]
    exact shownFor_append areAbove (isNext led)

/-! ## Writes one after the other -/

/-- A store after some writes. -/
def writeAll (files : MemoryFiles) (writes : List (String × List UInt8)) :
    Except Issue MemoryFiles :=
  writes.foldlM (fun files write => files.write (.str write.1) write.2) files

/-- The bytes of the last write to a path of one canonical form. -/
def lastWritten (place : String) (writes : List (String × List UInt8)) : Option (List UInt8) :=
  (writes.filter fun write => (Path.normalize (.str write.1)).toOption = some place).getLast?.map
    Prod.snd

/-- The paths of some writes have canonical forms, and none of them is the root. -/
def LeadOn (writes : List (String × List UInt8)) : Prop :=
  ∀ write ∈ writes, ∃ place, Path.normalize (.str write.1) = .ok place ∧ place ≠ "/"

/-- A store holds the last bytes of some writes, and has no other places than theirs. -/
structure Holds (writes : List (String × List UInt8)) (files : MemoryFiles) : Prop where
  found : ∀ place,
    (files.find? fun entry => entry.1 == place).map Prod.snd = lastWritten place writes
  places : ∀ place, place ∈ files.map Prod.fst ↔
    ∃ write ∈ writes, Path.normalize (.str write.1) = .ok place

variable {writes : List (String × List UInt8)} {files : MemoryFiles} {path place : String}

theorem lastWritten_concat
    (other : String)
    (bytes : List UInt8)
    (normal : Path.normalize (.str path) = .ok place) :
    lastWritten other (writes ++ [(path, bytes)]) =
      if place = other then some bytes else lastWritten other writes := by
  unfold lastWritten
  rw [List.filter_append]
  by_cases same : place = other <;> simp [normal, same, Except.toOption]

theorem isSome_lastWritten_iff :
    (lastWritten place writes).isSome = true ↔
      ∃ write ∈ writes, Path.normalize (.str write.1) = .ok place := by
  have written_iff (write : String × List UInt8) :
      (Path.normalize (.str write.1)).toOption = some place ↔
        Path.normalize (.str write.1) = .ok place := by
    cases Path.normalize (.str write.1) <;> simp [Except.toOption]
  simp only [lastWritten, Option.isSome_map, List.getLast?_isSome, ne_eq, List.filter_eq_nil_iff,
    not_forall, decide_eq_true_eq, written_iff, not_not, exists_prop]

theorem Holds.write
    (holds : Holds writes files)
    (bytes : List UInt8)
    (normal : Path.normalize (.str path) = .ok place) :
    ∃ changed, files.write (.str path) bytes = .ok changed ∧
      Holds (writes ++ [(path, bytes)]) changed := by
  refine ⟨(place, bytes) :: files.filter fun entry => entry.1 != place, ?_, ?_, ?_⟩
  · rw [MemoryFiles.write, normal]
    rfl
  · intro other
    rw [lastWritten_concat other bytes normal]
    split
    case isTrue same =>
      rw [same, List.find?_cons_of_pos (by simp)]
      rfl
    case isFalse differs => rw [find?_put_of_ne bytes (Ne.symm differs), holds.found]
  · intro other
    have kept : other ∈ (files.filter fun entry => entry.1 != place).map Prod.fst ↔
        other ∈ files.map Prod.fst ∧ other ≠ place := by
      simp only [List.mem_map, List.mem_filter, bne_iff_ne]
      grind
    have added : Path.normalize (.str path) = .ok other ↔ other = place := by
      rw [normal, Except.ok.injEq, eq_comm]
    rw [List.map_cons, List.mem_cons, kept, holds.places]
    simp only [List.mem_append, List.mem_singleton]
    grind

/-- Writes to paths that have canonical forms succeed, and leave a store that holds the last
bytes. -/
theorem exists_writeAll (leadOn : LeadOn writes) :
    ∃ files, writeAll [] writes = .ok files ∧ Holds writes files := by
  induction writes using List.reverseRecOn with
  | nil => exact ⟨[], rfl, ⟨fun _ => rfl, by simp⟩⟩
  | append_singleton writes last inductionHypothesis =>
      obtain ⟨files, written, holds⟩ := inductionHypothesis fun write present =>
        leadOn write (List.mem_append_left [last] present)
      obtain ⟨place, normal, -⟩ := leadOn last (by simp)
      obtain ⟨changed, stored, holdsNow⟩ := holds.write last.2 normal
      refine ⟨changed, ?_, holdsNow⟩
      rw [writeAll] at written
      rw [writeAll, List.foldlM_append, written, ok_bind]
      simpa using stored

/-! ## What a store tells -/

theorem Holds.read (holds : Holds writes files) (normal : Path.normalize (.str path) = .ok place) :
    files.read (.str path) = .ok (lastWritten place writes) := by
  rw [MemoryFiles.read, normal, ← holds.found]
  rfl

theorem Holds.exists?
    (holds : Holds writes files)
    (normal : Path.normalize (.str path) = .ok place) :
    files.exists? (.str path) = .ok (lastWritten place writes).isSome := by
  rw [MemoryFiles.exists?, normal, ← holds.found, Option.isSome_map, List.isSome_find?]
  rfl

/-! ## What a directory lists -/

/-- The entries of a directory for all paths below it, in the order of the paths. -/
def below (files : MemoryFiles) (directory : List String) : List Listed :=
  ((files.map Prod.fst).mergeSort fun left right => left ≤ right).filterMap (shownFor directory)

theorem list_of_not_climbs (files : MemoryFiles) (level : ¬ Path.Climbs path) :
    files.list (.str path) = .ok (distinct (files.below (Path.steps path))) := by
  rw [list, Path.normalize_of_not_climbs level, ok_bind,
    ← Path.toList_lead (Path.isName_of_mem_steps level)]
  rfl

theorem le_of_prefix {first second : String} (starts : first.toList <+: second.toList) :
    first ≤ second :=
  starts.le

/-- A path of names comes before those below it. -/
theorem ofSegments_le_append (directory rest : List String) (name : String) :
    ofSegments (directory ++ [name]) ≤ ofSegments (directory ++ name :: rest) := by
  apply le_of_prefix
  rw [Path.ofSegments_append, Path.ofSegments_append, String.intercalate_singleton,
    String.toList_append, String.toList_append, List.prefix_append_right_inj]
  cases rest with
  | nil => rw [String.intercalate_singleton]
  | cons next rest =>
      rw [String.intercalate_cons_cons, String.toList_append, String.toList_append,
        List.append_assoc]
      exact List.prefix_append _ _

theorem LeadOn.parts
    (leadOn : LeadOn writes)
    {write : String × List UInt8}
    (present : write ∈ writes) :
    (∀ name ∈ Path.steps write.1, IsName name) ∧ Path.steps write.1 ≠ [] ∧
      Path.normalize (.str write.1) = .ok (ofSegments (Path.steps write.1)) := by
  obtain ⟨place, normal, apart⟩ := leadOn write present
  obtain ⟨level, rfl⟩ := Path.normalize_str_eq_ok_iff.mp normal
  have areNames := Path.isName_of_mem_steps level
  exact ⟨areNames, mt (Path.ofSegments_eq_slash_iff areNames).mpr apart, normal⟩

/-- What a directory shows for a place of the store. -/
theorem LeadOn.shownFor_iff
    (leadOn : LeadOn writes)
    {write : String × List UInt8}
    (present : write ∈ writes)
    (normal : Path.normalize (.str write.1) = .ok place)
    {directory : List String}
    (areAbove : ∀ above ∈ directory, IsName above)
    {entry : Listed} :
    shownFor directory place = some entry ↔
      ∃ name rest, Path.steps write.1 = directory ++ name :: rest ∧
        entry = ⟨name, ofSegments (directory ++ [name]), rest.isEmpty⟩ := by
  obtain ⟨areNames, given, formed⟩ := leadOn.parts present
  rw [formed, Except.ok.injEq] at normal
  rw [← normal]
  exact shownFor_eq_some_iff areAbove areNames given

theorem Holds.mem_below_iff
    (holds : Holds writes files)
    (leadOn : LeadOn writes)
    {directory : List String}
    (areAbove : ∀ above ∈ directory, IsName above)
    (entry : Listed) :
    entry ∈ files.below directory ↔
      ∃ write ∈ writes, ∃ name rest, Path.steps write.1 = directory ++ name :: rest ∧
        entry = ⟨name, ofSegments (directory ++ [name]), rest.isEmpty⟩ := by
  simp only [below, List.mem_filterMap, List.mem_mergeSort, holds.places]
  constructor
  · rintro ⟨place, ⟨write, present, normal⟩, shown⟩
    exact ⟨write, present, (leadOn.shownFor_iff present normal areAbove).mp shown⟩
  · rintro ⟨write, present, led⟩
    obtain ⟨-, -, normal⟩ := leadOn.parts present
    exact ⟨_, ⟨write, present, normal⟩, (leadOn.shownFor_iff present normal areAbove).mpr led⟩

/-- Among the entries of one name, that of the file stands first. -/
theorem Holds.filesFirst
    (holds : Holds writes files)
    (leadOn : LeadOn writes)
    {directory : List String}
    (areAbove : ∀ above ∈ directory, IsName above) :
    (files.below directory).Pairwise fun first second =>
      first.name = second.name → second.isFile = true → first.isFile = true := by
  have ascending := @List.pairwise_mergeSort _ (fun left right : String => left ≤ right)
    (by simpa using fun _ _ _ => String.le_trans) (by simpa using String.le_total)
    (files.map Prod.fst)
  rw [below, List.pairwise_filterMap]
  refine ascending.imp_of_mem ?_
  intro first second firstHeld secondHeld ordered firstEntry firstShown secondEntry secondShown
    named isFile
  rw [List.mem_mergeSort, holds.places] at firstHeld secondHeld
  obtain ⟨write, present, normal⟩ := firstHeld
  obtain ⟨other, otherPresent, otherNormal⟩ := secondHeld
  obtain ⟨name, rest, led, rfl⟩ := (leadOn.shownFor_iff present normal areAbove).mp firstShown
  obtain ⟨_, otherRest, otherLed, rfl⟩ :=
    (leadOn.shownFor_iff otherPresent otherNormal areAbove).mp secondShown
  obtain rfl : name = _ := named
  obtain rfl : otherRest = [] := List.isEmpty_iff.mp isFile
  obtain ⟨areNames, -, formed⟩ := leadOn.parts present
  obtain ⟨areOthers, -, otherFormed⟩ := leadOn.parts otherPresent
  obtain rfl : ofSegments _ = first := Except.ok.inj (formed.symm.trans normal)
  obtain rfl : ofSegments _ = second := Except.ok.inj (otherFormed.symm.trans otherNormal)
  -- The path of the file is one that the other starts with, so the two are the same.
  have least := ofSegments_le_append directory rest name
  rw [← led, ← otherLed] at least
  have same : Path.steps write.1 = Path.steps other.1 :=
    (Path.ofSegments_inj areNames areOthers).mp
      (String.le_antisymm (of_decide_eq_true ordered) least)
  rw [led, otherLed] at same
  simpa using same

/-- A directory lists the names that lead on from it to what was written, each once and under its
path, and as a file exactly when there is one. -/
structure Lists
    (writes : List (String × List UInt8))
    (files : MemoryFiles)
    (directory : String)
    (entries : List Listed) : Prop where
  once : (entries.map Listed.name).Nodup
  complete : ∀ name, name ∈ entries.map Listed.name ↔
    ∃ write ∈ writes, ∃ rest, Path.steps write.1 = Path.steps directory ++ name :: rest
  placed : ∀ entry ∈ entries, entry.path = ofSegments (Path.steps directory ++ [entry.name])
  file_iff : ∀ entry ∈ entries,
    entry.kind = "file" ↔ files.exists? (.str entry.path) = .ok true

theorem kind_eq_file_iff {entry : Listed} : entry.kind = "file" ↔ entry.isFile = true := by
  unfold Listed.kind
  split <;> simp_all

theorem mem_below_of_mem_distinct
    {entry : Listed}
    {directory : List String}
    (kept : entry ∈ distinct (files.below directory)) :
    entry ∈ files.below directory := by
  obtain ⟨before, behind, split, -⟩ := exists_first_of_mem_distinct kept
  simp [split]

/-- An entry is a file's exactly when the store has a file at its path. -/
theorem Holds.isFile_iff
    (holds : Holds writes files)
    (leadOn : LeadOn writes)
    {directory : List String}
    (areAbove : ∀ above ∈ directory, IsName above)
    {entry : Listed}
    (kept : entry ∈ distinct (files.below directory)) :
    entry.isFile = true ↔ files.exists? (.str entry.path) = .ok true := by
  have mem_iff := holds.mem_below_iff leadOn areAbove
  obtain ⟨write, written, name, rest, led, rfl⟩ :=
    (mem_iff entry).mp (mem_below_of_mem_distinct kept)
  obtain ⟨areNames, -, formed⟩ := leadOn.parts written
  have areNext : ∀ next ∈ directory ++ [name], IsName next := by
    intro next present
    apply areNames next
    rw [led]
    grind
  have normal : Path.normalize (.str (ofSegments (directory ++ [name]))) =
      .ok (ofSegments (directory ++ [name])) := by
    obtain ⟨level, same⟩ := Path.steps_ofSegments areNext
    exact Path.normalize_str_eq_ok_iff.mpr ⟨level, by rw [same]⟩
  rw [holds.exists? normal, Except.ok.injEq, isSome_lastWritten_iff]
  constructor
  · intro isFile
    obtain rfl : rest = [] := List.isEmpty_iff.mp isFile
    exact ⟨write, written, by rw [formed, led]⟩
  · rintro ⟨other, otherWritten, otherNormal⟩
    obtain ⟨areOthers, -, otherFormed⟩ := leadOn.parts otherWritten
    have reached : Path.steps other.1 = directory ++ [name] :=
      (Path.ofSegments_inj areOthers areNext).mp
        (Except.ok.inj (otherFormed.symm.trans otherNormal))
    have file := (mem_iff _).mpr ⟨other, otherWritten, name, [], reached, rfl⟩
    exact isFile_of_mem_distinct (holds.filesFirst leadOn areAbove) kept file rfl rfl

theorem Holds.lists
    (holds : Holds writes files)
    (leadOn : LeadOn writes)
    (level : ¬ Path.Climbs path) :
    ∃ entries, files.list (.str path) = .ok entries ∧ Lists writes files path entries := by
  have areAbove := Path.isName_of_mem_steps level
  have mem_iff := holds.mem_below_iff leadOn areAbove
  refine ⟨_, list_of_not_climbs files level, nodup_names_distinct _, ?_, ?_, ?_⟩
  · intro name
    rw [mem_names_distinct, List.mem_map]
    constructor
    · rintro ⟨entry, present, rfl⟩
      obtain ⟨write, written, name, rest, led, rfl⟩ := (mem_iff entry).mp present
      exact ⟨write, written, rest, led⟩
    · rintro ⟨write, written, rest, led⟩
      exact ⟨_, (mem_iff _).mpr ⟨write, written, name, rest, led, rfl⟩, rfl⟩
  · intro entry kept
    obtain ⟨write, written, name, rest, led, rfl⟩ :=
      (mem_iff entry).mp (mem_below_of_mem_distinct kept)
    rfl
  · intro entry kept
    rw [kind_eq_file_iff]
    exact holds.isFile_iff leadOn areAbove kept

/-- A store tells of each path the bytes that were last written to it, and lists directories. -/
structure Tells (writes : List (String × List UInt8)) (files : MemoryFiles) : Prop where
  read : ∀ path place, Path.normalize (.str path) = .ok place →
    files.read (.str path) = .ok (lastWritten place writes)
  exist : ∀ path place, Path.normalize (.str path) = .ok place →
    files.exists? (.str path) = .ok (lastWritten place writes).isSome
  list : ∀ directory place, Path.normalize (.str directory) = .ok place →
    ∃ entries, files.list (.str directory) = .ok entries ∧
      Lists writes files directory entries

/-- A store that was empty tells of whatever was written to it since. -/
theorem writeAll_tells (leadOn : LeadOn writes) :
    ∃ files, writeAll [] writes = .ok files ∧ Tells writes files := by
  obtain ⟨files, written, holds⟩ := exists_writeAll leadOn
  refine ⟨files, written, ?_, ?_, ?_⟩
  · intro path place normal
    exact holds.read normal
  · intro path place normal
    exact holds.exists? normal
  · intro directory place normal
    exact holds.lists leadOn (Path.normalize_str_eq_ok_iff.mp normal).1

/-- Writes to a file, to one below it, under a name that is longer by a sign that sorts before
slashes, and to the file once more in another spelling. -/
def nestedWrites : List (String × List UInt8) :=
  [("/a/b", [1]), ("/a", [2]), ("a-/./c", [3]), ("//a", [4])]

theorem nestedWrites_leadOn : LeadOn nestedWrites := by
  simp only [LeadOn, nestedWrites, List.forall_mem_cons]
  exact ⟨⟨"/a/b", rfl, by decide⟩, ⟨"/a", rfl, by decide⟩, ⟨"/a-/c", rfl, by decide⟩,
    ⟨"/a", rfl, by decide⟩, nofun⟩

/-- A name of a file and of a directory is listed once, as the file's. -/
theorem nested_writeAll_tells :
    LeadOn nestedWrites ∧
      ∃ files, writeAll [] nestedWrites = .ok files ∧ Tells nestedWrites files :=
  ⟨nestedWrites_leadOn, writeAll_tells nestedWrites_leadOn⟩

end MemoryFiles
end Wordbook
