import Wordbook.Path
import Wordbook.Proofs.Number.DecimalText
import Wordbook.Proofs.Outcome
import Wordbook.Proofs.Text.Blank

/-!
# Normalized paths

The segments of a path behind another one are those of both in turn.  So a normalized path is its
own normalized form, and whether it lies inside a directory can be told from its segments.
-/

namespace Wordbook

/-! ## Pieces -/

namespace Text

variable {cuts : Char → Bool}

theorem cutAt_ne_nil (chars : List Char) : cutAt cuts chars ≠ [] := by
  cases chars with
  | nil => exact nofun
  | cons char rest =>
      unfold cutAt
      split
      · exact nofun
      · split <;> exact nofun

theorem cutAt_append
    {cut : Char}
    (isCut : cuts cut = true)
    (before behind : List Char) :
    cutAt cuts (before ++ cut :: behind) = cutAt cuts before ++ cutAt cuts behind := by
  induction before with
  | nil => simp [cutAt, isCut]
  | cons char before inductionHypothesis =>
      rw [List.cons_append, cutAt, cutAt, inductionHypothesis]
      split
      · rfl
      · cases pieces : cutAt cuts before with
        | nil => exact absurd pieces (cutAt_ne_nil before)
        | cons piece rest => rfl

theorem cutAt_of_none
    {chars : List Char}
    (none : ∀ char ∈ chars, cuts char = false) :
    cutAt cuts chars = [chars] := by
  induction chars with
  | nil => rfl
  | cons char chars inductionHypothesis =>
      rw [List.forall_mem_cons] at none
      simp [cutAt, none.1, inductionHypothesis none.2]

/-- A piece has no character of the class. -/
theorem not_cut_of_mem_cutAt
    {chars piece : List Char}
    (present : piece ∈ cutAt cuts chars) :
    ∀ char ∈ piece, cuts char = false := by
  induction chars generalizing piece with
  | nil => simp_all [cutAt]
  | cons char chars inductionHypothesis =>
      unfold cutAt at present
      split at present
      case isTrue =>
        rcases List.mem_cons.mp present with rfl | later
        · exact nofun
        · exact inductionHypothesis later
      case isFalse inside =>
        split at present
        case h_2 none => exact absurd none (cutAt_ne_nil chars)
        case h_1 first rest pieces =>
          rw [pieces] at inductionHypothesis
          rcases List.mem_cons.mp present with rfl | later
          · refine List.forall_mem_cons.mpr ⟨by simpa using inside, ?_⟩
            exact inductionHypothesis List.mem_cons_self
          · exact inductionHypothesis (List.mem_cons_of_mem first later)

end Text

/-! ## Segments -/

namespace Path

/-- A name that is a segment as it stands. -/
structure IsName (name : String) : Prop where
  noSlash : ∀ char ∈ name.toList, isSlash char = false
  notIdle : isIdle name.toList = false
  noClimb : name.toList ≠ ['.', '.']

theorem segments?_of_isName {name : String} (isName : IsName name) :
    segments? name = some [name] := by
  simp [segments?, Text.cutAt_of_none isName.noSlash, isName.notIdle, isName.noClimb.symm]

theorem isName_of_mem_segments?
    {path : String}
    {names : List String}
    (found : segments? path = some names) :
    ∀ name ∈ names, IsName name := by
  intro name present
  simp only [segments?] at found
  split at found
  case isTrue => cases found
  case isFalse climbs =>
    cases found
    obtain ⟨piece, kept, rfl⟩ := List.mem_map.mp present
    obtain ⟨cut, solid⟩ := List.mem_filter.mp kept
    refine ⟨?_, ?_, ?_⟩
    · rw [String.toList_ofList]
      exact Text.not_cut_of_mem_cutAt cut
    · rw [String.toList_ofList]
      simpa using solid
    · rw [String.toList_ofList]
      rintro rfl
      exact climbs (List.contains_iff_mem.mpr kept)

/-- The segments of a path behind a directory are those of both. -/
theorem segments?_append (directory path : String) :
    segments? (directory ++ "/" ++ path) =
      (segments? directory).bind fun above => (segments? path).map (above ++ ·) := by
  have slash : ("/" : String).toList = ['/'] := rfl
  simp only [segments?, String.toList_append, slash, List.append_assoc, List.singleton_append]
  rw [Text.cutAt_append (by decide), List.filter_append]
  generalize (Text.cutAt isSlash directory.toList).filter _ = above
  generalize (Text.cutAt isSlash path.toList).filter _ = below
  by_cases climbsAbove : ['.', '.'] ∈ above <;> by_cases climbsBelow : ['.', '.'] ∈ below <;>
    simp [climbsAbove, climbsBelow]

theorem segments?_intercalate
    {names : List String}
    (areNames : ∀ name ∈ names, IsName name) :
    segments? ("/".intercalate names) = some names := by
  induction names with
  | nil => rfl
  | cons first names inductionHypothesis =>
      rw [List.forall_mem_cons] at areNames
      cases names with
      | nil =>
          rw [String.intercalate_singleton]
          exact segments?_of_isName areNames.1
      | cons second names =>
          rw [String.intercalate_cons_cons, segments?_append, segments?_of_isName areNames.1,
            inductionHypothesis areNames.2]
          rfl

theorem segments?_ofSegments
    {names : List String}
    (areNames : ∀ name ∈ names, IsName name) :
    segments? (ofSegments names) = some names := by
  have rooted : ofSegments names = "" ++ "/" ++ "/".intercalate names := by
    rw [ofSegments, String.empty_append]
  rw [rooted, segments?_append, segments?_intercalate areNames]
  rfl

theorem segments_eq_ok_iff {path : Json} {names : List String} :
    segments path = .ok names ↔ segments? path.plain = some names := by
  unfold segments
  cases segments? path.plain <;> simp

theorem segments_of_climbing
    {path : Json}
    (climbs : segments? path.plain = none) :
    segments path = .error (.storage (.escapesRoot path.plain)) := by
  rw [segments, climbs]

/-! ## Normalized paths -/

/-- A normalized path leads along the segments that were found. -/
theorem normalize_eq_ok_iff {path : Json} {place : String} :
    normalize path = .ok place ↔
      ∃ names, segments? path.plain = some names ∧ place = ofSegments names := by
  unfold normalize segments
  cases segments? path.plain with
  | none => simp [Except.map]
  | some names => simp [Except.map, eq_comm]

/-- A normalized path has the segments of the path. -/
theorem segments_of_normalize
    {path : Json}
    {place : String}
    (normal : normalize path = .ok place) :
    segments (.str place) = segments path := by
  obtain ⟨names, found, rfl⟩ := normalize_eq_ok_iff.mp normal
  rw [segments_eq_ok_iff.mpr found]
  exact segments_eq_ok_iff.mpr (segments?_ofSegments (isName_of_mem_segments? found))

/-- A normalized path is its own normalized form. -/
theorem normalize_of_normalize
    {path : Json}
    {place : String}
    (normal : normalize path = .ok place) :
    normalize (.str place) = .ok place := by
  rw [normalize, segments_of_normalize normal]
  exact normal

/-- A normalized path lies inside the directory that exports go to. -/
def IsInside (place : String) : Prop :=
  ∃ below, below ≠ "" ∧ place = documents ++ "/" ++ below

theorem segments?_documents : segments? documents = some ["Documents"] := by decide

/-- A normalized path lies inside the directory exactly when it has a segment behind that of the
directory. -/
theorem isInside_ofSegments_iff
    {names : List String}
    (areNames : ∀ name ∈ names, IsName name) :
    IsInside (ofSegments names) ↔ ∃ first rest, names = "Documents" :: first :: rest := by
  constructor
  · rintro ⟨below, given, placed⟩
    have found := segments?_ofSegments areNames
    rw [placed, segments?_append, segments?_documents] at found
    obtain ⟨rest, -, rfl⟩ := Option.map_eq_some_iff.mp found
    cases rest with
    | cons first rest => exact ⟨first, rest, rfl⟩
    | nil =>
        -- The directory itself has no slash behind it.
        have none : documents ++ "" = documents ++ ("/" ++ below) := by
          rw [← String.append_assoc, ← placed]
          rfl
        rw [String.append_right_inj] at none
        exact absurd (congrArg String.toList none) (by simp)
  · rintro ⟨first, rest, rfl⟩
    refine ⟨"/".intercalate (first :: rest), fun none => ?_, ?_⟩
    · have found := segments?_intercalate (List.forall_mem_cons.mp areNames).2
      rw [none] at found
      cases found
    · rw [ofSegments, String.intercalate_cons_cons, ← String.append_assoc, ← String.append_assoc]
      rfl

/-! ## Exports -/

/-- The name of an export: the one that was given, trimmed, or one of the clock's. -/
def exportName (clock : Int) : Option String → String
  | none => defaultExportName clock
  | some name => if Text.allBlank name then defaultExportName clock else Text.trim name

/-- A name that was given for an export leads somewhere else than inside the directory that exports
go to: it names the directory itself, or it is absolute and leads along other segments. -/
inductive Strays : Option String → Prop
  | relative
      {name : String}
      (given : Text.allBlank name = false)
      (isRelative : Text.startsWith (Text.trim name).toList ['/'] = false)
      (idle : segments? (Text.trim name) = some []) :
      Strays name
  | absolute
      {name : String}
      {names : List String}
      (isAbsolute : Text.startsWith (Text.trim name).toList ['/'] = true)
      (found : segments? (Text.trim name) = some names)
      (aside : ∀ first rest, names ≠ "Documents" :: first :: rest) :
      Strays name

theorem not_isSlash_of_mem_decimalText
    {number : Int}
    {char : Char}
    (present : char ∈ (Number.decimalText number).toList) :
    isSlash char = false := by
  have digit_or_sign : char = '-' ∨ char ∈ Nat.toDigits 10 number.natAbs := by
    rw [Number.decimalText, String.toList_ofList] at present
    split at present
    · exact List.mem_cons.mp present
    · exact .inr present
  rcases digit_or_sign with rfl | digit
  · decide
  · have code := Number.isPlainDigit_of_mem_toDigits _ digit
    simp only [Number.isPlainDigit, Bool.and_eq_true, decide_eq_true_eq] at code
    simp only [isSlash, Bool.or_eq_false_iff, beq_eq_false_iff_ne]
    omega

theorem toList_defaultExportName (clock : Int) :
    (defaultExportName clock).toList =
      "token-system-".toList ++
        ((Number.decimalText (clock.fdiv 1000000)).toList ++ ".json".toList) := by
  rw [defaultExportName, String.toList_append, String.toList_append, List.append_assoc]

theorem isName_defaultExportName (clock : Int) : IsName (defaultExportName clock) := by
  have chars := toList_defaultExportName clock
  refine ⟨?_, ?_, ?_⟩
  · rw [chars]
    simp only [List.forall_mem_append]
    exact ⟨by simp [isSlash], fun _ => not_isSlash_of_mem_decimalText, by simp [isSlash]⟩
  · rw [chars]
    rfl
  · rw [chars]
    exact nofun

theorem join_documents_of_relative
    {name : String}
    (isRelative : Text.startsWith name.toList ['/'] = false) :
    join documents name = documents ++ "/" ++ name := by
  rw [join, isRelative, if_neg Bool.false_ne_true, if_neg (by decide)]

theorem segments?_join_documents_of_relative
    {name : String}
    (isRelative : Text.startsWith name.toList ['/'] = false) :
    segments? (join documents name) = (segments? name).map ("Documents" :: ·) := by
  rw [join_documents_of_relative isRelative, segments?_append, segments?_documents]
  rfl

/-- The name of an export that was given none does not stray. -/
theorem segments?_defaultExport (clock : Int) :
    segments? (join documents (defaultExportName clock)) =
      some ["Documents", defaultExportName clock] := by
  have isRelative : Text.startsWith (defaultExportName clock).toList ['/'] = false := by
    rw [toList_defaultExportName]
    rfl
  rw [segments?_join_documents_of_relative isRelative,
    segments?_of_isName (isName_defaultExportName clock)]
  rfl

theorem not_strays_of_blank
    {name : String}
    (blank : Text.allBlank name = true) :
    ¬ Strays name := by
  rintro (⟨given, _, _⟩ | ⟨isAbsolute, _, _⟩)
  · rw [blank] at given
    cases given
  · rw [Text.trim_eq_empty_of_allBlank blank] at isAbsolute
    cases isAbsolute

theorem strays_iff_of_absolute
    {name : String}
    (isAbsolute : Text.startsWith (Text.trim name).toList ['/'] = true) :
    Strays name ↔ ∃ names, segments? (Text.trim name) = some names ∧
      ∀ first rest, names ≠ "Documents" :: first :: rest := by
  constructor
  · rintro (⟨_, isRelative, _⟩ | ⟨_, found, aside⟩)
    · rw [isAbsolute] at isRelative
      cases isRelative
    · exact ⟨_, found, aside⟩
  · rintro ⟨names, found, aside⟩
    exact .absolute isAbsolute found aside

theorem strays_iff_of_relative
    {name : String}
    (given : Text.allBlank name = false)
    (isRelative : Text.startsWith (Text.trim name).toList ['/'] = false) :
    Strays name ↔ segments? (Text.trim name) = some [] := by
  constructor
  · rintro (⟨_, _, idle⟩ | ⟨isAbsolute, _, _⟩)
    · exact idle
    · rw [isRelative] at isAbsolute
      cases isAbsolute
  · exact .relative given isRelative

/-- The segments along which an export goes lead inside the directory exactly when the name does not
stray. -/
theorem exists_inside_iff
    {clock : Int}
    {name : Option String}
    {names : List String}
    (found : segments? (join documents (exportName clock name)) = some names) :
    (∃ first rest, names = "Documents" :: first :: rest) ↔ ¬ Strays name := by
  have default_inside
      (unnamed : exportName clock name = defaultExportName clock) :
      ∃ first rest, names = "Documents" :: first :: rest := by
    rw [unnamed, segments?_defaultExport] at found
    exact ⟨_, [], (Option.some.inj found).symm⟩
  cases name with
  | none => exact iff_of_true (default_inside rfl) nofun
  | some name =>
      cases blank : Text.allBlank name with
      | true =>
          exact iff_of_true (default_inside (by simp [exportName, blank]))
            (not_strays_of_blank blank)
      | false =>
          have named : exportName clock (some name) = Text.trim name := by
            simp [exportName, blank]
          rw [named] at found
          cases isAbsolute : Text.startsWith (Text.trim name).toList ['/'] with
          | true =>
              rw [join, if_pos isAbsolute] at found
              simp [strays_iff_of_absolute isAbsolute, found]
          | false =>
              rw [segments?_join_documents_of_relative isAbsolute] at found
              obtain ⟨below, led, rfl⟩ := Option.map_eq_some_iff.mp found
              rw [strays_iff_of_relative blank isAbsolute, led]
              cases below <;> simp

/-- A name that strays can be normalized all the same. -/
theorem exists_normalize_of_strays
    {name : Option String}
    (strays : Strays name)
    (clock : Int) :
    ∃ place, normalize (.str (join documents (exportName clock name))) = .ok place := by
  have solid {name : String} (isAbsolute : Text.startsWith (Text.trim name).toList ['/'] = true) :
      Text.allBlank name = false := by
    by_contra blank
    rw [Text.trim_eq_empty_of_allBlank (by simpa using blank)] at isAbsolute
    cases isAbsolute
  have led : ∃ names, segments? (join documents (exportName clock name)) = some names := by
    cases strays with
    | @relative name given isRelative idle =>
        have named : exportName clock (some name) = Text.trim name := by simp [exportName, given]
        rw [named, segments?_join_documents_of_relative isRelative, idle]
        exact ⟨_, rfl⟩
    | @absolute name names isAbsolute found aside =>
        have named : exportName clock (some name) = Text.trim name := by
          simp [exportName, solid isAbsolute]
        rw [named, join, if_pos isAbsolute]
        exact ⟨names, found⟩
  obtain ⟨names, found⟩ := led
  exact ⟨ofSegments names, normalize_eq_ok_iff.mpr ⟨names, found, rfl⟩⟩

/-- An export goes inside the directory exactly when its name does not stray. -/
theorem isInside_export_iff
    {clock : Int}
    {name : Option String}
    {place : String}
    (normal : normalize (.str (join documents (exportName clock name))) = .ok place) :
    IsInside place ↔ ¬ Strays name := by
  obtain ⟨names, found, rfl⟩ := normalize_eq_ok_iff.mp normal
  rw [isInside_ofSegments_iff (isName_of_mem_segments? found)]
  exact exists_inside_iff found

end Path
end Wordbook
