import Wordbook.Proofs.Path
import Wordbook.Proofs.Text.Search
import Wordbook.Store.Files

/-!
# Canonical paths

A path is read as its steps: its slashes are turned one way, it is cut at them, and what is empty or
a single dot is left out.  The path is refused exactly when one of its pieces climbs.  Otherwise its
canonical form joins its steps below the root, and so does its location on a disk; two paths have
one canonical form, and one location, exactly when they have the same steps.
-/

namespace Wordbook
namespace Path

/-! ## Pieces and steps -/

/-- A character of a path, a backslash turned around. -/
def turned (char : Char) : Char := if char = '\\' then '/' else char

/-- What stands between the slashes of a path. -/
def pieces (path : String) : List String :=
  ((path.toList.map turned).splitOn '/').map String.ofList

/-- The pieces of a path that lead on. -/
def steps (path : String) : List String :=
  (pieces path).filter fun piece => piece ≠ "" ∧ piece ≠ "."

/-- A piece of a path leads above the root. -/
def Climbs (path : String) : Prop := ".." ∈ pieces path

instance (path : String) : Decidable (Climbs path) :=
  inferInstanceAs (Decidable (".." ∈ pieces path))

theorem isSlash_iff {char : Char} : isSlash char = true ↔ turned char = '/' := by
  have slash : '/'.toNat = 47 := rfl
  have backslash : '\\'.toNat = 92 := rfl
  simp only [isSlash, Bool.or_eq_true, beq_iff_eq, ← slash, ← backslash, Char.toNat_inj, turned]
  split
  · simp_all
  · simp_all

theorem turned_of_not_isSlash {char : Char} (solid : isSlash char = false) :
    turned char = char := by
  unfold turned
  split
  · subst char
    cases solid
  · rfl

/-- Cutting at both slashes is cutting at one of them when all are turned its way. -/
theorem cutAt_isSlash (chars : List Char) :
    Text.cutAt isSlash chars = (chars.map turned).splitOn '/' := by
  induction chars with
  | nil => rfl
  | cons char chars inductionHypothesis =>
      rw [List.map_cons, List.splitOn_cons_eq_if_modifyHead, ← inductionHypothesis, Text.cutAt]
      by_cases cut : isSlash char = true
      · simp [cut, isSlash_iff.mp cut]
      · have solid : isSlash char = false := by simpa using cut
        rw [if_neg cut, if_neg (by simpa [isSlash_iff] using cut), turned_of_not_isSlash solid]
        cases found : Text.cutAt isSlash chars with
        | nil => exact absurd found (Text.cutAt_ne_nil chars)
        | cons piece rest => rfl

theorem ofList_eq_iff {chars : List Char} {text : String} :
    String.ofList chars = text ↔ chars = text.toList := by
  rw [← String.toList_inj, String.toList_ofList]

theorem not_isIdle_eq (piece : List Char) :
    (!isIdle piece) = decide (String.ofList piece ≠ "" ∧ String.ofList piece ≠ ".") := by
  have dot : ".".toList = ['.'] := rfl
  have none : "".toList = [] := rfl
  rw [Bool.eq_iff_iff, decide_eq_true_iff, Ne, Ne, ofList_eq_iff, ofList_eq_iff, dot, none]
  simp [isIdle]

theorem map_filter_not_isIdle (cut : List (List Char)) :
    (cut.filter fun piece => !isIdle piece).map String.ofList =
      (cut.map String.ofList).filter fun piece => piece ≠ "" ∧ piece ≠ "." := by
  rw [List.filter_map]
  congr 1
  apply List.filter_congr
  intro piece _
  exact not_isIdle_eq piece

theorem contains_climbing_iff (cut : List (List Char)) :
    (cut.filter fun piece => !isIdle piece).contains ['.', '.'] = true ↔
      ".." ∈ cut.map String.ofList := by
  rw [List.contains_iff_mem, List.mem_filter, List.mem_map]
  constructor
  · rintro ⟨present, -⟩
    exact ⟨_, present, rfl⟩
  · rintro ⟨piece, present, named⟩
    obtain rfl : piece = ['.', '.'] := ofList_eq_iff.mp named
    exact ⟨present, rfl⟩

/-- A path has its steps as segments, unless it climbs. -/
theorem segments?_eq (path : String) :
    segments? path = if Climbs path then none else some (steps path) := by
  simp only [segments?, cutAt_isSlash]
  by_cases climbs : Climbs path
  · rw [if_pos climbs, if_pos ((contains_climbing_iff _).mpr climbs)]
  · rw [if_neg climbs, if_neg (mt (contains_climbing_iff _).mp climbs), map_filter_not_isIdle]
    rfl

theorem segments?_of_climbs {path : String} (climbs : Climbs path) : segments? path = none := by
  rw [segments?_eq, if_pos climbs]

theorem segments?_of_not_climbs {path : String} (level : ¬ Climbs path) :
    segments? path = some (steps path) := by
  rw [segments?_eq, if_neg level]

theorem isName_of_mem_steps
    {path : String}
    (level : ¬ Climbs path) :
    ∀ step ∈ steps path, IsName step :=
  isName_of_mem_segments? (segments?_of_not_climbs level)

/-! ## Canonical forms -/

/-- The canonical form of a path that does not climb. -/
theorem normalize_of_not_climbs {path : String} (level : ¬ Climbs path) :
    normalize (.str path) = .ok (ofSegments (steps path)) :=
  normalize_eq_ok_iff.mpr ⟨_, segments?_of_not_climbs level, rfl⟩

theorem normalize_of_climbs {path : String} (climbs : Climbs path) :
    normalize (.str path) = .error (.storage (.escapesRoot path)) := by
  rw [normalize, @segments_of_climbing (.str path) (segments?_of_climbs climbs)]
  rfl

theorem normalize_str_eq_ok_iff {path place : String} :
    normalize (.str path) = .ok place ↔ ¬ Climbs path ∧ place = ofSegments (steps path) := by
  by_cases climbs : Climbs path
  · simp [normalize_of_climbs climbs, climbs]
  · simp [normalize_of_not_climbs climbs, climbs, eq_comm]

/-- Paths of names are told apart by the names. -/
theorem ofSegments_inj
    {names others : List String}
    (areNames : ∀ name ∈ names, IsName name)
    (areOthers : ∀ name ∈ others, IsName name) :
    ofSegments names = ofSegments others ↔ names = others := by
  constructor
  · intro same
    have found := segments?_ofSegments areNames
    rw [same, segments?_ofSegments areOthers] at found
    exact (Option.some.inj found).symm
  · rintro rfl
    rfl

/-! ## Paths below a directory -/

/-- What the paths below a directory start with. -/
def lead (directory : List String) : String :=
  if directory = [] then "/" else ofSegments directory ++ "/"

theorem ofSegments_append (directory : List String) (name : String) (rest : List String) :
    ofSegments (directory ++ name :: rest) = lead directory ++ "/".intercalate (name :: rest) := by
  unfold lead
  split
  case isTrue empty =>
    rw [empty]
    rfl
  case isFalse given =>
    rw [ofSegments, String.intercalate_append_of_ne_nil given (by simp), ofSegments]
    simp only [String.append_assoc]

theorem ofSegments_eq_slash_iff
    {names : List String}
    (areNames : ∀ name ∈ names, IsName name) :
    ofSegments names = "/" ↔ names = [] :=
  @ofSegments_inj names [] areNames nofun

theorem toList_lead {directory : List String} (areAbove : ∀ name ∈ directory, IsName name) :
    (lead directory).toList =
      if ofSegments directory == "/" then ['/'] else (ofSegments directory).toList ++ ['/'] := by
  have root_iff := ofSegments_eq_slash_iff areAbove
  rw [lead]
  by_cases empty : directory = []
  · rw [if_pos empty, empty]
    rfl
  · rw [if_neg empty, if_neg (by simpa [root_iff] using empty), String.toList_append]
    rfl

/-- A path of names starts like those below a directory exactly when it leads on from there. -/
theorem exists_append_iff
    {directory names : List String}
    (areNames : ∀ name ∈ names, IsName name)
    (areAbove : ∀ name ∈ directory, IsName name)
    (given : names ≠ []) :
    (∃ below, ofSegments names = lead directory ++ below) ↔
      ∃ name rest, names = directory ++ name :: rest := by
  constructor
  · rintro ⟨below, placed⟩
    by_cases empty : directory = []
    · obtain ⟨name, rest, rfl⟩ := List.exists_cons_of_ne_nil given
      exact ⟨name, rest, by rw [empty, List.nil_append]⟩
    · rw [lead, if_neg empty] at placed
      have found := segments?_ofSegments areNames
      rw [placed, segments?_append, segments?_ofSegments areAbove] at found
      obtain ⟨rest, -, rfl⟩ := Option.map_eq_some_iff.mp found
      cases rest with
      | cons name rest => exact ⟨name, rest, rfl⟩
      | nil =>
          -- The directory itself has no slash behind it.
          have lengths := congrArg String.length placed
          have slash : "/".length = 1 := rfl
          simp only [List.append_nil, String.length_append, slash] at lengths
          omega
  · rintro ⟨name, rest, rfl⟩
    exact ⟨_, ofSegments_append directory name rest⟩

theorem not_startsWith_slash_of_isName {name : String} (isName : IsName name) :
    Text.startsWith name.toList ['/'] = false := by
  apply Bool.eq_false_iff.mpr
  intro starts
  have present : '/' ∈ name.toList := (Text.startsWith_iff.mp starts).subset List.mem_cons_self
  cases isName.noSlash '/' present

/-- The path of a directory ends with a slash only if it is that of the root. -/
theorem endsWith_slash_ofSegments_iff
    {directory : List String}
    (areAbove : ∀ name ∈ directory, IsName name) :
    Text.endsWith (ofSegments directory).toList ['/'] = true ↔ directory = [] := by
  rw [Text.endsWith_iff, List.singleton_suffix_iff_getLast?_eq_some]
  constructor
  · intro ends
    rcases List.eq_nil_or_concat directory with rfl | ⟨above, last, rfl⟩
    · rfl
    · exfalso
      rw [List.concat_eq_append] at areAbove ends
      have isName := areAbove last (by simp)
      have given : last.toList ≠ [] := fun none => by
        have solid := isName.notIdle
        rw [none] at solid
        cases solid
      rw [ofSegments_append, String.intercalate_singleton, String.toList_append,
        List.getLast?_append_of_ne_nil _ given] at ends
      cases isName.noSlash '/' (List.mem_of_getLast? ends)
  · rintro rfl
    rfl

/-- A name joined to the path of a directory. -/
theorem join_ofSegments
    {directory : List String}
    {name : String}
    (areAbove : ∀ name ∈ directory, IsName name)
    (isName : IsName name) :
    join (ofSegments directory) name = ofSegments (directory ++ [name]) := by
  have rooted : (ofSegments directory).isEmpty = false := by
    simp [ofSegments]
  have ends_iff := endsWith_slash_ofSegments_iff areAbove
  rw [join, not_startsWith_slash_of_isName isName, if_neg Bool.false_ne_true, rooted,
    Bool.false_or, ofSegments_append, String.intercalate_singleton, lead]
  by_cases empty : directory = []
  · rw [if_pos (ends_iff.mpr empty), if_pos empty, empty]
    rfl
  · rw [if_neg (mt ends_iff.mp empty), if_neg empty]

/-- A path of names has just these as its steps. -/
theorem steps_ofSegments
    {names : List String}
    (areNames : ∀ name ∈ names, IsName name) :
    ¬ Climbs (ofSegments names) ∧ steps (ofSegments names) = names := by
  have found := segments?_ofSegments areNames
  rw [segments?_eq] at found
  split at found
  case isTrue => cases found
  case isFalse level => exact ⟨level, Option.some.inj found⟩

end Path

/-! ## Locations on a disk -/

namespace DiskFiles

theorem locationOf_of_not_climbs {path : String} (level : ¬ Path.Climbs path) :
    locationOf (.str path) = .ok (folder ++ Path.steps path) := by
  have found : Path.segments (.str path) = .ok (Path.steps path) :=
    Path.segments_eq_ok_iff.mpr (Path.segments?_of_not_climbs level)
  rw [locationOf, found]

theorem locationOf_of_climbs {path : String} (climbs : Path.Climbs path) :
    locationOf (.str path) = .error (.issue (.storage (.escapesRoot path))) := by
  have refused := @Path.segments_of_climbing (.str path) (Path.segments?_of_climbs climbs)
  rw [locationOf, refused]
  rfl

/-- The texts of locations of names are told apart by the names. -/
theorem pathOf_inj
    {disk : Disk}
    {names others : List String}
    (areNames : ∀ name ∈ names, Path.IsName name)
    (areOthers : ∀ name ∈ others, Path.IsName name) :
    disk.pathOf (folder ++ names) = disk.pathOf (folder ++ others) ↔ names = others := by
  have single : Path.segments? "files" = some ["files"] := rfl
  have isFolder := Path.isName_of_mem_segments? single "files" List.mem_cons_self
  constructor
  · intro same
    simp only [Disk.pathOf, folder, List.singleton_append, String.intercalate_cons_cons] at same
    have below : "/".intercalate ("files" :: names) = "/".intercalate ("files" :: others) :=
      String.append_right_inj _ |>.mp same
    have found := Path.segments?_intercalate (List.forall_mem_cons.mpr ⟨isFolder, areNames⟩)
    rw [below, Path.segments?_intercalate (List.forall_mem_cons.mpr ⟨isFolder, areOthers⟩)] at found
    simpa using found.symm
  · rintro rfl
    rfl

end DiskFiles

namespace Path

/-- A path has a canonical form, which joins its steps below the root and is its own; the steps
alone tell it, and they lead from the folder of a store to the location of the path. -/
structure HasForm (path place : String) : Prop where
  reached : normalize (.str path) = .ok place
  joined : place = "/" ++ "/".intercalate (steps path)
  own : normalize (.str place) = .ok place
  shared : ∀ other, ¬ Climbs other →
    (normalize (.str other) = .ok place ↔ steps other = steps path)
  located : DiskFiles.locationOf (.str path) = .ok (DiskFiles.folder ++ steps path)
  below : ∀ step ∈ steps path, IsName step
  apart : ∀ (disk : Disk) (other : String), ¬ Climbs other →
    ((DiskFiles.locationOf (.str other)).map disk.pathOf =
        (DiskFiles.locationOf (.str path)).map disk.pathOf ↔
      normalize (.str other) = .ok place)

theorem hasForm_of_not_climbs {path : String} (level : ¬ Climbs path) :
    HasForm path (ofSegments (steps path)) := by
  have shared (other : String) (levelOther : ¬ Climbs other) :
      normalize (.str other) = .ok (ofSegments (steps path)) ↔ steps other = steps path := by
    rw [normalize_of_not_climbs levelOther, Except.ok.injEq]
    exact ofSegments_inj (isName_of_mem_steps levelOther) (isName_of_mem_steps level)
  refine
    { reached := normalize_of_not_climbs level
      joined := rfl
      own := normalize_of_normalize (normalize_of_not_climbs level)
      shared := shared
      located := DiskFiles.locationOf_of_not_climbs level
      below := isName_of_mem_steps level
      apart := ?_ }
  intro disk other levelOther
  rw [shared other levelOther, DiskFiles.locationOf_of_not_climbs level,
    DiskFiles.locationOf_of_not_climbs levelOther]
  simp only [Except.map, Except.ok.injEq]
  exact DiskFiles.pathOf_inj (isName_of_mem_steps levelOther) (isName_of_mem_steps level)

/-- Normalizing a path fails exactly when the path climbs, and then with an issue of the stores, as
does finding its location; any other path has its canonical form. -/
theorem climbs_or_hasForm (path : String) :
    ((∃ issue, normalize (.str path) = .error issue) ↔ Climbs path) ∧
      if Climbs path then
        normalize (.str path) = .error (.storage (.escapesRoot path)) ∧
          DiskFiles.locationOf (.str path) = .error (.issue (.storage (.escapesRoot path)))
      else HasForm path (ofSegments (steps path)) := by
  by_cases climbs : Climbs path
  · have refused := normalize_of_climbs climbs
    rw [if_pos climbs]
    exact ⟨iff_of_true ⟨_, refused⟩ climbs, refused, DiskFiles.locationOf_of_climbs climbs⟩
  · have form := hasForm_of_not_climbs climbs
    rw [if_neg climbs]
    refine ⟨iff_of_false ?_ climbs, form⟩
    rintro ⟨issue, failed⟩
    rw [form.reached] at failed
    cases failed

end Path
end Wordbook
