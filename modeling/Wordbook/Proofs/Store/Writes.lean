import Wordbook.Proofs.Outcome
import Wordbook.Store.Collection

/-!
# What writes change

After a write that succeeds, its bytes are found at its place; after one that fails, no file is
found there, as before it.  Whatever is found at another place is found there after any write.
-/

namespace Wordbook

variable {bytes held : List UInt8}

namespace Disk

variable {disk changed : Disk} {location place : Location} {entry : DiskEntry}

/-! ## Finding -/

/-- What lies behind a location is found through the entry at the location, a folder. -/
theorem findFrom_append_cons
    (base way : Location)
    (name : String)
    (names : Location) :
    disk.findFrom base (way ++ name :: names) =
      match disk.findFrom base way with
      | .ok .folder => disk.findFrom (base ++ way) (name :: names)
      | .ok (.file _) => .error .notFolder
      | .error cause => .error cause := by
  induction way generalizing base with
  | nil => simp [findFrom]
  | cons first way inductionHypothesis =>
      have behind := inductionHypothesis (base ++ [first])
      by_cases tooLong : nameLimit < nameLength first
      · simp [findFrom, tooLong]
      · cases there : disk.entryAt? (base ++ [first]) with
        | none => simp [findFrom, tooLong, there]
        | some entry =>
            cases entry with
            | folder => simpa [findFrom, tooLong, there] using behind
            | file bytes => cases way <;> simp [findFrom, tooLong, there]

/-- Only what stands on the way to a location decides what is found there. -/
theorem findFrom_congr
    (base : Location)
    (same : ∀ way, way <+: location →
      disk.entryAt? (base ++ way) = changed.entryAt? (base ++ way)) :
    disk.findFrom base location = changed.findFrom base location := by
  induction location generalizing base with
  | nil => rfl
  | cons name names inductionHypothesis =>
      have onward : disk.findFrom (base ++ [name]) names =
          changed.findFrom (base ++ [name]) names := by
        refine inductionHypothesis (base ++ [name]) fun way leads => ?_
        have behind := same (name :: way) ((List.cons_prefix_cons).mpr ⟨rfl, leads⟩)
        simpa using behind
      have next := same [name] ((List.cons_prefix_cons).mpr ⟨rfl, List.nil_prefix⟩)
      unfold findFrom
      rw [next, onward]

theorem find_congr
    (same : ∀ way, way <+: location → disk.entryAt? way = changed.entryAt? way) :
    disk.find location = changed.find location := by
  unfold find
  rw [findFrom_congr [] same]

@[simp] theorem find_nil : disk.find [] = .ok .folder := rfl

theorem isTooLong_of_append (location rest : Location) (tooLong : isTooLong location = true) :
    isTooLong (location ++ rest) = true := by
  have grows : ∀ (names : Location) (total : Nat),
      total ≤ names.foldl (fun total name => total + 1 + nameLength name) total := by
    intro names
    induction names with
    | nil => exact fun total => Nat.le_refl total
    | cons name names inductionHypothesis =>
        exact fun total =>
          Nat.le_trans (by omega) (inductionHypothesis (total + 1 + nameLength name))
  simp only [isTooLong, decide_eq_true_eq, List.foldl_append] at tooLong ⊢
  exact Nat.le_trans tooLong (grows rest _)

/-- On the way to what is found there are only folders. -/
theorem find_folder_of_find
    {name : String}
    {names : Location}
    (found : disk.find (location ++ name :: names) = .ok entry) :
    disk.find location = .ok .folder := by
  unfold find at found ⊢
  split at found
  · cases found
  · case isFalse fits =>
      rw [if_neg fun tooLong => fits (isTooLong_of_append location _ tooLong)]
      rw [findFrom_append_cons] at found
      split at found
      · assumption
      · cases found
      · cases found

theorem find_dropLast (found : disk.find location = .ok entry) :
    disk.find location.dropLast = .ok .folder := by
  obtain rfl | ⟨way, name, rfl⟩ := location.eq_nil_or_concat
  · rfl
  · simpa using find_folder_of_find (List.concat_eq_append ▸ found)

/-! ## Putting entries -/

@[simp] theorem root_put : (disk.put location entry).root = disk.root := rfl

/-- What becomes of an entry when one is put at a location where there is one. -/
def replaced (location : Location) (entry : DiskEntry) (held : Location × DiskEntry) :
    Location × DiskEntry :=
  if held.1 == location then (location, entry) else held

theorem replaced_place (held : Location × DiskEntry) :
    (replaced location entry held).1 = held.1 := by
  unfold replaced
  split
  · case isTrue same => exact (eq_of_beq same).symm
  · rfl

theorem find?_map_replaced (entries : List (Location × DiskEntry)) :
    (entries.map (replaced location entry)).find? (fun held => held.1 == place) =
      (entries.find? fun held => held.1 == place).map (replaced location entry) := by
  rw [List.find?_map]
  congr 2
  exact funext fun held => by simp [replaced_place]

theorem entryAt?_put_of_ne (differs : place ≠ location) :
    (disk.put location entry).entryAt? place = disk.entryAt? place := by
  unfold entryAt? put
  split
  · rfl
  · dsimp only
    split
    · change ((disk.entries.map (replaced location entry)).find? _).map Prod.snd = _
      rw [find?_map_replaced]
      cases found : disk.entries.find? fun held => held.1 == place with
      | none => rfl
      | some held =>
          have there : held.1 = place := by simpa using List.find?_some found
          simp [replaced, there, differs]
    · simp [List.find?_append, Ne.symm differs]

theorem entryAt?_put_self (nonempty : location ≠ []) :
    (disk.put location entry).entryAt? location = some entry := by
  unfold entryAt? put
  rw [if_neg (by simpa using nonempty)]
  dsimp only
  split
  · case isTrue present =>
      change ((disk.entries.map (replaced location entry)).find? _).map Prod.snd = _
      rw [find?_map_replaced]
      have isFound := List.find?_isSome.mpr (List.any_eq_true.mp present)
      obtain ⟨held, found⟩ := Option.isSome_iff_exists.mp isFound
      rw [found]
      have there : held.1 = location := by simpa using List.find?_some found
      simp [replaced, there]
  · case isFalse absent =>
      have unfound : disk.entries.find? (fun held => held.1 == location) = none :=
        List.find?_eq_none.mpr fun held member same =>
          absent (List.any_eq_true.mpr ⟨held, member, same⟩)
      simp [List.find?_append, unfound]

/-- What is found keeps being found when an entry is put at another place, one that is no folder. -/
theorem find_put_of_ne
    {added : DiskEntry}
    (found : disk.find place = .ok entry)
    (noFolder : disk.find location ≠ .ok .folder)
    (differs : place ≠ location) :
    (disk.put location added).find place = .ok entry := by
  rw [← found]
  refine find_congr fun way leads => entryAt?_put_of_ne ?_
  rintro rfl
  obtain ⟨_ | ⟨name, names⟩, rfl⟩ := leads
  · exact differs (List.append_nil way)
  · exact noFolder (find_folder_of_find found)

/-! ## Making folders and writing files -/

theorem isFolder_iff : disk.isFolder location = true ↔ disk.find location = .ok .folder := by
  unfold isFolder
  split
  · case h_1 found => simp [found]
  · case h_2 other => simpa using other

/-- A folder is made only where nothing is found. -/
theorem find_of_makeFolder
    (made : disk.makeFolder location = .ok changed) :
    disk.find location = .error .missing ∧ changed = disk.put location .folder := by
  unfold makeFolder at made
  split at made
  · cases made
  · case h_2 missing =>
      split at made
      · cases made
        exact ⟨missing, rfl⟩
      · cases made
  · cases made

theorem find_makeFolder
    (made : disk.makeFolder location = .ok changed)
    (found : disk.find place = .ok entry) :
    changed.find place = .ok entry := by
  obtain ⟨missing, rfl⟩ := find_of_makeFolder made
  refine find_put_of_ne found (by simp [missing]) ?_
  rintro rfl
  simp [missing] at found

/-- A property of a disk that every made folder keeps is kept by making a folder and those on the
way to it. -/
theorem makeFolders_keeps
    (kept : Disk → Prop)
    (count : Nat)
    (made : ∀ {disk changed : Disk} {place : Location}, place <+: location →
      disk.makeFolder place = .ok changed → kept disk → kept changed)
    (holds : kept disk) :
    kept (makeFolders count disk location).1 := by
  induction count generalizing disk location with
  | zero => exact holds
  | succ count inductionHypothesis =>
      unfold makeFolders
      split
      case h_1 changed first => exact made (List.prefix_refl location) first holds
      case h_2 =>
        have parents := inductionHypothesis
          (fun leads => made (leads.trans (List.dropLast_prefix location))) holds
        split
        case h_1 changed fault failed => rwa [failed] at parents
        case h_2 changed done =>
          rw [done] at parents
          split
          case h_1 second again => exact made (List.prefix_refl location) again parents
          case h_2 => split <;> exact parents
      case h_3 => split <;> exact holds

/-- A folder that is there is not made. -/
theorem makeFolders_of_folder
    (count : Nat)
    (folder : disk.find location = .ok .folder) :
    makeFolders (count + 1) disk location = (disk, .ok ()) := by
  have there : disk.makeFolder location = .error .alreadyThere := by
    unfold makeFolder
    rw [folder]
    rfl
  unfold makeFolders
  simp [there, isFolder_iff.mpr folder]

theorem noFolder_of_makeFolders_failed
    {count : Nat}
    {fault : DiskCause × Location}
    (failed : makeFolders count disk location = (changed, .error fault)) :
    changed.find location ≠ .ok .folder := by
  induction count generalizing disk location fault with
  | zero => cases failed
  | succ count inductionHypothesis =>
      unfold makeFolders at failed
      split at failed
      case h_1 => cases failed
      case h_2 =>
        split at failed
        case h_1 parents _ stopped =>
          cases failed
          exact fun folder => inductionHypothesis stopped (find_dropLast folder)
        case h_2 =>
          split at failed
          case h_1 => cases failed
          case h_2 =>
            split at failed
            · cases failed
            · case isFalse noFolder =>
                cases failed
                exact fun folder => noFolder (isFolder_iff.mpr folder)
      case h_3 =>
        split at failed
        · cases failed
        · case isFalse noFolder =>
            cases failed
            exact fun folder => noFolder (isFolder_iff.mpr folder)

/-- A file is written where there is a file or nothing, into a folder. -/
theorem of_storeFile
    (stored : disk.storeFile location bytes = .ok changed) :
    disk.find location.dropLast = .ok .folder ∧
      ((∃ held, disk.find location = .ok (.file held)) ∨ disk.find location = .error .missing) ∧
      changed = disk.put location (.file bytes) := by
  unfold storeFile at stored
  split at stored
  · cases stored
  · case h_2 held found =>
      cases stored
      exact ⟨find_dropLast found, .inl ⟨held, found⟩, rfl⟩
  · case h_3 missing =>
      split at stored
      · case isTrue parent =>
          cases stored
          exact ⟨isFolder_iff.mp parent, .inr missing, rfl⟩
      · cases stored
  · cases stored

theorem find_storeFile_of_ne
    (stored : disk.storeFile location bytes = .ok changed)
    (found : disk.find place = .ok entry)
    (differs : place ≠ location) :
    changed.find place = .ok entry := by
  obtain ⟨_, noFolder, rfl⟩ := of_storeFile stored
  refine find_put_of_ne found ?_ differs
  rcases noFolder with ⟨held, file⟩ | missing
  · simp [file]
  · simp [missing]

/-- What is found in a folder is the entry there, unless the name or the path is too long. -/
theorem find_in_folder
    {way : Location}
    {name : String}
    (folder : disk.find way = .ok .folder) :
    disk.find (way ++ [name]) =
      if isTooLong (way ++ [name]) = true ∨ nameLimit < nameLength name then .error .nameTooLong
      else
        match disk.entryAt? (way ++ [name]) with
        | some entry => .ok entry
        | none => .error .missing := by
  have ahead : disk.findFrom [] way = .ok .folder := by
    unfold find at folder
    split at folder
    · cases folder
    · exact folder
  rw [find, findFrom_append_cons, ahead]
  by_cases short : isTooLong (way ++ [name]) = true
  · simp [short]
  · by_cases shortName : nameLimit < nameLength name
    · simp [short, shortName, findFrom]
    · cases there : disk.entryAt? (way ++ [name]) with
      | none => simp [findFrom, there, short, shortName]
      | some entry => cases entry <;> simp [findFrom, there, short, shortName]

theorem find_storeFile
    (stored : disk.storeFile location bytes = .ok changed) :
    changed.find location = .ok (.file bytes) := by
  have parentStays := fun differs => find_storeFile_of_ne stored (of_storeFile stored).1 differs
  obtain ⟨parent, there, rfl⟩ := of_storeFile stored
  obtain rfl | ⟨way, name, rfl⟩ := location.eq_nil_or_concat
  · rcases there with ⟨_, file⟩ | missing
    · cases file
    · cases missing
  · rw [List.concat_eq_append] at parent parentStays there ⊢
    rw [List.dropLast_concat] at parent parentStays
    rw [find_in_folder (parentStays (by simp)), entryAt?_put_self (by simp)]
    rw [find_in_folder parent] at there
    split
    · simp_all
    · rfl

/-! ## Whole writes -/

/-- A property of a disk that is kept by every folder that is made on the way to a place, and by
putting a file there, is kept by the whole write. -/
theorem write_keeps
    (kept : Disk → Prop)
    (made : ∀ {disk changed : Disk} {place : Location}, place <+: location.dropLast →
      disk.makeFolder place = .ok changed → kept disk → kept changed)
    (stored : ∀ {disk changed : Disk}, disk.storeFile location bytes = .ok changed →
      kept disk → kept changed)
    (holds : kept disk) :
    kept (disk.write location bytes).1 := by
  have parents := makeFolders_keeps kept (location.dropLast.length + 1) made holds
  unfold write
  dsimp only
  split
  · exact holds
  · split
    case h_1 changed cause fault failed => rwa [failed] at parents
    case h_2 changed finished =>
      rw [finished] at parents
      split
      · exact parents
      · split
        case h_1 written put => exact stored put parents
        case h_2 => exact parents

@[simp] theorem root_write : (disk.write location bytes).1.root = disk.root := by
  refine write_keeps (fun changed => changed.root = disk.root) (fun _ made same => ?_)
    (fun stored same => ?_) rfl
  · obtain ⟨-, rfl⟩ := find_of_makeFolder made
    exact same
  · obtain ⟨-, -, rfl⟩ := of_storeFile stored
    exact same

/-- A write changes no entry that does not stand on the way to its place. -/
theorem entryAt?_write (aside : ¬ place <+: location) :
    (disk.write location bytes).1.entryAt? place = disk.entryAt? place := by
  refine write_keeps (fun changed => changed.entryAt? place = disk.entryAt? place)
    (fun leads made same => ?_) (fun stored same => ?_) rfl
  · obtain ⟨-, rfl⟩ := find_of_makeFolder made
    rw [entryAt?_put_of_ne, same]
    rintro rfl
    exact aside (leads.trans (List.dropLast_prefix location))
  · obtain ⟨-, -, rfl⟩ := of_storeFile stored
    rw [entryAt?_put_of_ne, same]
    rintro rfl
    exact aside (List.prefix_refl _)

/-- What is found keeps being found, whatever comes of a write at another place. -/
theorem find_write_of_ne
    (found : disk.find place = .ok entry)
    (differs : place ≠ location) :
    (disk.write location bytes).1.find place = .ok entry :=
  write_keeps (fun changed => changed.find place = .ok entry)
    (fun _ made there => find_makeFolder made there)
    (fun stored there => find_storeFile_of_ne stored there differs) found

theorem hasNullByte_of_dropLast (nulled : hasNullByte location.dropLast = true) :
    hasNullByte location = true := by
  obtain ⟨name, member, null⟩ := List.any_eq_true.mp nulled
  exact List.any_eq_true.mpr ⟨name, (List.dropLast_sublist location).subset member, null⟩

theorem look_eq_file_iff :
    disk.look location = .ok (some (.file held)) ↔
      hasNullByte location = false ∧ disk.find location = .ok (.file held) := by
  unfold look
  cases hasNullByte location with
  | true => simp
  | false =>
      cases found : disk.find location with
      | ok entry => simp
      | error cause => cases cause <;> simp

/-- After a write that succeeds its bytes stand at its place. -/
theorem look_write
    (written : disk.write location bytes = (changed, .ok ())) :
    changed.look location = .ok (some (.file bytes)) := by
  unfold write at written
  dsimp only at written
  split at written
  · cases written
  · split at written
    · cases written
    · split at written
      · cases written
      · case isFalse noNull =>
          split at written
          · case h_1 final stored =>
              cases written
              exact look_eq_file_iff.mpr ⟨by simpa using noNull, find_storeFile stored⟩
          · cases written

/-- A file that stands at a place can be written over. -/
theorem write_of_file (there : disk.look location = .ok (some (.file held))) :
    (disk.write location bytes).2 = .ok () := by
  obtain ⟨noNull, found⟩ := look_eq_file_iff.mp there
  have noNullBefore : hasNullByte location.dropLast = false := by
    cases nulled : hasNullByte location.dropLast with
    | false => rfl
    | true => rw [hasNullByte_of_dropLast nulled] at noNull; cases noNull
  have stored : disk.storeFile location bytes = .ok (disk.put location (.file bytes)) := by
    unfold storeFile
    rw [found]
    rfl
  unfold write
  simp [noNull, noNullBefore, makeFolders_of_folder _ (find_dropLast found), stored]

/-- After a write that fails no file stands at its place. -/
theorem look_of_write_failed
    {fault : WriteFault}
    (failed : disk.write location bytes = (changed, .error fault)) :
    changed.look location ≠ .ok (some (.file held)) := by
  rw [Ne, look_eq_file_iff]
  rintro ⟨noNull, found⟩
  unfold write at failed
  dsimp only at failed
  split at failed
  · case isTrue nulled => simp [hasNullByte_of_dropLast nulled] at noNull
  · split at failed
    · case h_1 parents cause place stopped =>
        cases failed
        exact noFolder_of_makeFolders_failed stopped (find_dropLast found)
    · split at failed
      · case isTrue nulled =>
          cases failed
          simp [nulled] at noNull
      · split at failed
        · cases failed
        · case h_2 cause refused =>
            cases failed
            unfold storeFile at refused
            rw [found] at refused
            cases refused

/-- A write below one folder leaves what stands below another one. -/
theorem look_write_of_ne
    {folder other : String}
    (differs : other ≠ folder) :
    (disk.write (folder :: location) bytes).1.look (other :: place) =
      disk.look (other :: place) := by
  have same : (disk.write (folder :: location) bytes).1.find (other :: place) =
      disk.find (other :: place) := by
    refine find_congr fun way leads => ?_
    cases way with
    | nil => rfl
    | cons first way =>
        obtain ⟨rfl, _⟩ := List.cons_prefix_cons.mp leads
        exact entryAt?_write fun aside => differs (List.cons_prefix_cons.mp aside).1
  unfold look
  rw [same]

@[simp] theorem message_write (cause : DiskCause) (place : Location) :
    (disk.write location bytes).1.message cause place = disk.message cause place := by
  simp [message, pathOf]

/-! ## Names that are not too long -/

/-- A path and the names on it are short enough for a disk. -/
def Fits (location : Location) : Prop :=
  isTooLong location = false ∧ ∀ name ∈ location, nameLength name ≤ nameLimit

instance (location : Location) : Decidable (Fits location) := inferInstanceAs (Decidable (_ ∧ _))

theorem findFrom_ne_nameTooLong
    (base : Location)
    (short : ∀ name ∈ location, nameLength name ≤ nameLimit) :
    disk.findFrom base location ≠ .error .nameTooLong := by
  induction location generalizing base with
  | nil => simp [findFrom]
  | cons name names inductionHypothesis =>
      have shortName := Nat.not_lt.mpr (short name List.mem_cons_self)
      have onward := inductionHypothesis (base ++ [name])
        fun name member => short name (List.mem_cons_of_mem _ member)
      unfold findFrom
      rw [if_neg shortName]
      split
      · simp
      · exact onward
      · simp
      · simp

/-- Looking at a place that fits does not fail. -/
theorem look_ne_error (fits : Fits location) (cause : DiskCause) :
    disk.look location ≠ .error cause := by
  have found : disk.find location ≠ .error .nameTooLong := by
    unfold find
    rw [fits.1]
    exact findFrom_ne_nameTooLong [] fits.2
  unfold look
  split
  · simp
  · split
    · simp
    · exact absurd ‹_› found
    · simp

end Disk
end Wordbook
