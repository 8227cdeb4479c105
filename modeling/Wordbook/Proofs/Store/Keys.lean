import Wordbook.Proofs.Encoding.Utf8
import Wordbook.Proofs.Store.Untouched

/-!
# Keys in memory and on a disk

A key store on a disk keeps the bytes of each key in a file of its own, which is named after the
key.  Words of plain signs name files, and so do words with a line break behind them; no other key
does.  Under keys that name files, calls are answered on a disk as they are in memory, as long as
the disk takes what is to be kept: each key has the bytes that were kept under it last.  What a disk
cannot do is to look for the file of a key that is too long to be the name of a file.
-/

namespace Wordbook

namespace Disk

variable {disk : Disk} {way : Location} {name : String} {held : List UInt8}

/-- Only names that are too long cannot be looked for. -/
theorem find_of_look_error
    {cause : DiskCause}
    (failed : disk.look way = .error cause) :
    disk.find way = .error .nameTooLong := by
  unfold look at failed
  split at failed
  · cases failed
  · split at failed
    · cases failed
    · assumption
    · cases failed

/-- The bytes of a file in a folder are read unless its name cannot be looked for. -/
theorem look_in_folder_iff (folder : disk.find way = .ok .folder) :
    disk.look (way ++ [name]) = .ok (some (.file held)) ↔
      hasNullByte (way ++ [name]) = false ∧
        ¬ (isTooLong (way ++ [name]) = true ∨ nameLimit < nameLength name) ∧
        disk.bytesAt? (way ++ [name]) = some held := by
  rw [look_eq_file_iff, find_in_folder folder, bytesAt?]
  split
  · simp_all
  · cases disk.entryAt? (way ++ [name]) with
    | none => simp_all
    | some entry => cases entry <;> simp_all

end Disk

namespace DiskKeys

variable {disk : Disk} {key other word : String} {location : Location} {bytes held : List UInt8}

/-! ## Keys that name files -/

/-- A sign of a plain word: a letter or a digit of ASCII, or one of three others. -/
def IsSign (char : Char) : Prop :=
  ('a' ≤ char ∧ char ≤ 'z') ∨ ('A' ≤ char ∧ char ≤ 'Z') ∨ ('0' ≤ char ∧ char ≤ '9') ∨
    char = '_' ∨ char = '.' ∨ char = '-'

/-- A word of plain signs. -/
def IsWord (key : String) : Prop := key ≠ "" ∧ ∀ char ∈ key.toList, IsSign char

/-- A key names a file if it is a plain word, up to a line break behind it. -/
inductive NamesFile : String → Prop
  | word {word : String} (isWord : IsWord word) : NamesFile word
  | broken {word : String} (isWord : IsWord word) : NamesFile (word ++ "\n")

theorem isSafe_iff {char : Char} : isSafe char = true ↔ IsSign char := by
  delta isSafe IsSign Char.isAlphanum Char.isAlpha Char.isUpper Char.isLower Char.isDigit
  simp only [Bool.or_eq_true, Bool.and_eq_true, decide_eq_true_eq, beq_iff_eq, ge_iff_le,
    Char.le_def]
  tauto

theorem withoutBreak_concat (chars : List Char) : withoutBreak (chars ++ ['\n']) = chars := by
  simp [withoutBreak]

theorem withoutBreak_cases (chars : List Char) :
    (chars.getLast? ≠ some '\n' ∧ withoutBreak chars = chars) ∨
      chars = withoutBreak chars ++ ['\n'] := by
  unfold withoutBreak
  by_cases broken : chars.getLast? = some '\n'
  · obtain ⟨rest, rfl⟩ := List.getLast?_eq_some_iff.mp broken
    exact .inr (by simp)
  · exact .inl ⟨broken, by simp [broken]⟩

/-- What stands behind plain signs is no line break. -/
theorem IsWord.withoutBreak_eq (isWord : IsWord word) :
    withoutBreak word.toList = word.toList := by
  rcases withoutBreak_cases word.toList with ⟨-, same⟩ | broken
  · exact same
  · have sign := isWord.2 '\n' (broken ▸ List.mem_append_right _ List.mem_cons_self)
    exact absurd sign (by simp [IsSign])

theorem isKey_iff : isKey key = true ↔ NamesFile key := by
  have isWord_iff : isKey key = true ↔ IsWord (String.ofList (withoutBreak key.toList)) := by
    simp [isKey, IsWord, isSafe_iff]
  rw [isWord_iff]
  constructor
  · intro isWord
    rcases withoutBreak_cases key.toList with ⟨-, same⟩ | broken
    · rw [same, String.ofList_toList] at isWord
      exact .word isWord
    · have whole : key = String.ofList (withoutBreak key.toList) ++ "\n" := by
        rw [← String.toList_inj, String.toList_append, String.toList_ofList]
        exact broken
      rw [whole]
      exact .broken isWord
  · rintro (isWord | isWord)
    · rwa [isWord.withoutBreak_eq, String.ofList_toList]
    · rw [String.toList_append]
      change IsWord (String.ofList (withoutBreak (_ ++ ['\n'])))
      rwa [withoutBreak_concat, String.ofList_toList]

theorem locationOf_eq_ok_iff :
    locationOf key = .ok location ↔ NamesFile key ∧ location = folder ++ [key ++ ".json"] := by
  unfold locationOf
  split
  · case isTrue safe => simp [isKey_iff.mp safe, eq_comm]
  · case isFalse unfit =>
      have nameless : ¬ NamesFile key := fun names => unfit (isKey_iff.mpr names)
      simp [nameless]

theorem locationOf_of_namesFile (names : NamesFile key) :
    locationOf key = .ok (folder ++ [key ++ ".json"]) :=
  locationOf_eq_ok_iff.mpr ⟨names, rfl⟩

theorem locationOf_of_not_namesFile (nameless : ¬ NamesFile key) :
    locationOf key = .error (.storage (.invalidKey (Text.quoted key))) := by
  rw [locationOf, if_neg fun safe => nameless (isKey_iff.mp safe)]

/-- Different keys have different files. -/
theorem locationOf_inj
    (located : locationOf key = .ok location)
    (placed : locationOf other = .ok location) :
    other = key := by
  by_contra differs
  exact Stores.location_ne_of_key_ne differs located placed rfl

/-! ## Keys that are too long -/

theorem IsSign.toNat_lt {char : Char} (sign : IsSign char) : 0 < char.toNat ∧ char.toNat < 128 := by
  rcases sign with ⟨low, high⟩ | ⟨low, high⟩ | ⟨low, high⟩ | rfl | rfl | rfl
  · exact ⟨Nat.lt_of_lt_of_le (by decide) low, Nat.lt_of_le_of_lt high (by decide)⟩
  · exact ⟨Nat.lt_of_lt_of_le (by decide) low, Nat.lt_of_le_of_lt high (by decide)⟩
  · exact ⟨Nat.lt_of_lt_of_le (by decide) low, Nat.lt_of_le_of_lt high (by decide)⟩
  all_goals decide

theorem NamesFile.toNat_lt (names : NamesFile key) :
    ∀ char ∈ key.toList, 0 < char.toNat ∧ char.toNat < 128 := by
  cases names with
  | word isWord => exact fun char member => (isWord.2 char member).toNat_lt
  | broken isWord =>
      intro char member
      rw [String.toList_append, List.mem_append] at member
      rcases member with within | behind
      · exact (isWord.2 char within).toNat_lt
      · obtain rfl : char = '\n' := by simpa using behind
        decide

/-- The location of the file that is named after a key. -/
def fileOf (key : String) : Location := folder ++ [key ++ ".json"]

theorem toNat_lt_file (names : NamesFile key) :
    ∀ char ∈ (key ++ ".json").toList, 0 < char.toNat ∧ char.toNat < 128 := by
  have ending : NamesFile ".json" := isKey_iff.mp (by decide)
  intro char member
  rw [String.toList_append, List.mem_append] at member
  exact member.elim (names.toNat_lt char) (ending.toNat_lt char)

theorem nameLength_file (names : NamesFile key) :
    Disk.nameLength (key ++ ".json") = key.length + 5 := by
  have ascii := fun char member => (toNat_lt_file names char member).2
  have ending : ".json".length = 5 := by decide
  rw [Disk.nameLength, Encoding.length_encodeUtf8_of_ascii ascii, String.length_toList,
    String.length_append, ending]

theorem hasNullByte_fileOf (names : NamesFile key) : Disk.hasNullByte (fileOf key) = false := by
  have solid : Char.ofNat 0 ∉ (key ++ ".json").toList :=
    fun null => absurd (toNat_lt_file names _ null).1 (by decide)
  simpa [Disk.hasNullByte, fileOf, folder] using solid

theorem isTooLong_fileOf_iff (names : NamesFile key) :
    Disk.isTooLong (fileOf key) = true ↔ 4068 ≤ key.length := by
  have folderLength : Disk.nameLength "store" = 5 := by decide
  simp only [Disk.isTooLong, Disk.pathLimit, Disk.rootLength, fileOf, folder, List.cons_append,
    List.nil_append, List.foldl_cons, List.foldl_nil, nameLength_file names, folderLength,
    decide_eq_true_eq]
  omega

/-- A disk cannot look for the file of a key: the path to it is too long, or its name is, and the
folder is there in which the name is looked for. -/
def CannotLook (disk : Disk) (key : String) : Prop :=
  4068 ≤ key.length ∨ 250 < key.length ∧ disk.find folder = .ok .folder

theorem find_fileOf_eq_nameTooLong_iff (names : NamesFile key) :
    disk.find (fileOf key) = .error .nameTooLong ↔ CannotLook disk key := by
  have longPath := isTooLong_fileOf_iff names
  have longName : Disk.nameLimit < Disk.nameLength (key ++ ".json") ↔ 250 < key.length := by
    rw [nameLength_file names, Disk.nameLimit]
    omega
  unfold CannotLook
  rw [← longPath, ← longName, fileOf]
  by_cases there : disk.find folder = .ok .folder
  · rw [Disk.find_in_folder there]
    split
    · case isTrue long => simpa [there] using long
    · case isFalse short =>
        have apart : ¬ (Disk.isTooLong (folder ++ [key ++ ".json"]) = true ∨
            Disk.nameLimit < Disk.nameLength (key ++ ".json") ∧ disk.find folder = .ok .folder) :=
          fun long => short (long.imp_right And.left)
        cases disk.entryAt? (folder ++ [key ++ ".json"]) <;> simpa using apart
  · have shortName : disk.find folder ≠ .error .nameTooLong :=
      Disk.findFrom_ne_nameTooLong [] (by decide)
    rw [Disk.find]
    split
    · case isTrue long => simp [long]
    · case isFalse short =>
        have onward : disk.findFrom [] folder = disk.find folder := rfl
        rw [Disk.findFrom_append_cons, onward]
        cases found : disk.find folder with
        | ok entry => cases entry <;> simp_all
        | error cause => cases cause <;> simp_all

theorem get_of_cannotLook (names : NamesFile key) (cannot : CannotLook disk key) :
    get disk key = .error (.breach (.device (disk.message .nameTooLong (fileOf key)))) := by
  have tooLong := (find_fileOf_eq_nameTooLong_iff names).mpr cannot
  have looked : disk.look (fileOf key) = .error .nameTooLong := by
    simp [Disk.look, hasNullByte_fileOf names, tooLong]
  rw [get_of_ok (locationOf_of_namesFile names), ← fileOf, looked]

theorem exists_get_of_canLook (names : NamesFile key) (can : ¬ CannotLook disk key) :
    ∃ held?, get disk key = .ok held? := by
  rw [get_of_ok (locationOf_of_namesFile names), ← fileOf]
  cases looked : disk.look (fileOf key) with
  | ok entry? => rcases entry? with _ | ⟨_ | _⟩ <;> simp
  | error cause =>
      have tooLong := Disk.find_of_look_error looked
      exact absurd ((find_fileOf_eq_nameTooLong_iff names).mp tooLong) can

/-! ## The same keys in memory and on a disk -/

/-- A key on a disk holds the bytes that were kept under it. -/
theorem get_set (kept : (set disk key bytes).2 = .ok ()) :
    get (set disk key bytes).1 key = .ok (some bytes) :=
  Stores.getKey_setKey (show ((Stores.onDisk disk).setKey key bytes).2 = .ok () from kept)

/-- What is read under a key stands in the folder of the store. -/
theorem find_folder_of_get (read : get disk key = .ok (some held)) :
    disk.find folder = .ok .folder := by
  obtain ⟨location, located, there⟩ := get_eq_some_iff.mp read
  obtain ⟨-, rfl⟩ := locationOf_eq_ok_iff.mp located
  exact Disk.find_dropLast (Disk.look_eq_file_iff.mp there).2

/-- Under keys that name files the same bytes are kept in memory and on a disk.  What stands in the
folder of the store stands in a folder that is there. -/
structure Mirrors (keys : MemoryKeys) (disk : Disk) : Prop where
  rooted : ∀ name, disk.entryAt? (folder ++ [name]) ≠ none → disk.find folder = .ok .folder
  same : ∀ key bytes, NamesFile key → (keys.get? key = some bytes ↔ get disk key = .ok (some bytes))

theorem mirrors_blank (root : String) : Mirrors [] (Disk.blank root) where
  rooted name there := absurd rfl there
  same key bytes names := by
    refine iff_of_false (by simp [MemoryKeys.get?]) fun read => ?_
    have there := find_folder_of_get read
    rw [show (Disk.blank root).find folder = .error .missing from rfl] at there
    cases there

namespace Mirrors

variable {keys : MemoryKeys}

/-- The file of a key that cannot be looked for is not there. -/
theorem get?_of_cannotLook
    (mirrors : Mirrors keys disk)
    (names : NamesFile key)
    (cannot : CannotLook disk key) :
    keys.get? key = none := by
  rw [Option.eq_none_iff_forall_ne_some]
  intro bytes kept
  rw [mirrors.same key bytes names, get_of_cannotLook names cannot] at kept
  cases kept

theorem get_of_canLook
    (mirrors : Mirrors keys disk)
    (names : NamesFile key)
    (can : ¬ CannotLook disk key) :
    get disk key = .ok (keys.get? key) := by
  obtain ⟨held?, got⟩ := exists_get_of_canLook names can
  rw [got, Except.ok.injEq]
  refine Option.ext fun bytes => ?_
  rw [mirrors.same key bytes names, got, Except.ok.injEq]

/-- Bytes that are kept under one key leave those under another one. -/
theorem get_set_of_ne
    (mirrors : Mirrors keys disk)
    (kept : (DiskKeys.set disk key bytes).2 = .ok ())
    (differs : other ≠ key) :
    get (DiskKeys.set disk key bytes).1 other = .ok (some held) ↔
      get disk other = .ok (some held) := by
  obtain ⟨location, located⟩ := locationOf_of_set kept
  rw [set_fst_of_ok located, get_eq_some_iff, get_eq_some_iff]
  refine exists_congr fun place => and_congr_right fun placed => ?_
  have apart := Stores.location_ne_of_key_ne differs located placed
  refine ⟨fun after => ?_, Disk.look_write_of_file apart⟩
  obtain ⟨-, rfl⟩ := locationOf_eq_ok_iff.mp placed
  have unchanged : (disk.write location bytes).1.bytesAt? (folder ++ [other ++ ".json"]) =
      disk.bytesAt? (folder ++ [other ++ ".json"]) := Disk.bytesAt?_write_of_ne apart
  have before : disk.bytesAt? (folder ++ [other ++ ".json"]) = some held :=
    unchanged.symm.trans (Disk.bytesAt?_of_look after)
  have folderBefore : disk.find folder = .ok .folder := by
    refine mirrors.rooted (other ++ ".json") fun absent => ?_
    rw [Disk.bytesAt?, absent] at before
    cases before
  have folderAfter := Disk.find_dropLast (Disk.look_eq_file_iff.mp after).2
  obtain ⟨noNull, short, -⟩ := (Disk.look_in_folder_iff folderAfter).mp after
  exact (Disk.look_in_folder_iff folderBefore).mpr ⟨noNull, short, before⟩

/-- Bytes that a disk keeps are kept in memory as well. -/
theorem set
    (mirrors : Mirrors keys disk)
    (kept : (DiskKeys.set disk key bytes).2 = .ok ()) :
    Mirrors (keys.set key bytes) (DiskKeys.set disk key bytes).1 where
  rooted name there := find_folder_of_get (get_set kept)
  same other held names := by
    by_cases same : other = key
    · subst same
      simp [MemoryKeys.get?, MemoryKeys.set, get_set kept]
    · rw [mirrors.get_set_of_ne kept same, MemoryKeys.get?, MemoryKeys.set,
        find?_put_of_ne bytes same]
      exact mirrors.same other held names

/-- A key that names no file is refused by a disk, and in memory it is a key of its own. -/
theorem set_of_not_namesFile
    (mirrors : Mirrors keys disk)
    (nameless : ¬ NamesFile key)
    (bytes : List UInt8) :
    Mirrors (keys.set key bytes) (DiskKeys.set disk key bytes).1 where
  rooted := by
    rw [set_fst_of_error (locationOf_of_not_namesFile nameless)]
    exact mirrors.rooted
  same other held names := by
    have differs : other ≠ key := by
      rintro rfl
      exact nameless names
    rw [set_fst_of_error (locationOf_of_not_namesFile nameless), MemoryKeys.get?, MemoryKeys.set,
      find?_put_of_ne bytes differs]
    exact mirrors.same other held names

end Mirrors

end DiskKeys

/-! ## Calls -/

/-- A call of a key store. -/
inductive KeyCall where
  | get (key : String)
  | set (key : String) (bytes : List UInt8)

/-- What a key store answers a call: the bytes of a key, or nothing when bytes were kept. -/
abbrev KeyAnswer := Except Failure (Option (List UInt8))

namespace KeyCall

/-- The key that a call is about. -/
def key : KeyCall → String
  | get key => key
  | set key _ => key

/-- The bytes that a call keeps under a key. -/
def kept? (key : String) : KeyCall → Option (List UInt8)
  | get _ => none
  | set other bytes => if other = key then some bytes else none

/-- The bytes that calls kept under a key last. -/
def lastKept? (key : String) (calls : List KeyCall) : Option (List UInt8) :=
  (calls.filterMap (kept? key)).getLast?

section

variable {Store : Type} (step : Store → KeyCall → Store × KeyAnswer)

/-- The store after calls. -/
def after (store : Store) (calls : List KeyCall) : Store :=
  calls.foldl (fun store call => (step store call).1) store

@[simp] theorem after_cons (store : Store) (call : KeyCall) (calls : List KeyCall) :
    after step store (call :: calls) = after step (step store call).1 calls := rfl

/-- The answers to calls made one after the other. -/
def answers : Store → List KeyCall → List KeyAnswer
  | _, [] => []
  | store, call :: calls => (step store call).2 :: answers (step store call).1 calls

/-- Each call is answered by the store after the calls before it. -/
theorem answers_getElem? (store : Store) (calls : List KeyCall) (place : Nat) :
    (answers step store calls)[place]? =
      calls[place]?.map fun call => (step (after step store (calls.take place)) call).2 := by
  induction calls generalizing store place with
  | nil => simp [answers]
  | cons call calls inductionHypothesis =>
      cases place with
      | zero => rfl
      | succ place => simpa [answers] using inductionHypothesis (step store call).1 place

end

end KeyCall

namespace MemoryKeys

variable {keys : MemoryKeys}

/-- A call in memory. -/
def step (keys : MemoryKeys) : KeyCall → MemoryKeys × KeyAnswer
  | .get key => (keys, .ok (keys.get? key))
  | .set key bytes => (keys.set key bytes, .ok none)

theorem get?_step (keys : MemoryKeys) (call : KeyCall) (key : String) :
    (keys.step call).1.get? key = (call.kept? key).or (keys.get? key) := by
  cases call with
  | get other => rfl
  | set other bytes =>
      by_cases same : other = key
      · simp [step, set, get?, KeyCall.kept?, same]
      · rw [KeyCall.kept?, if_neg same, Option.none_or, step, get?, set,
          find?_put_of_ne bytes (Ne.symm same), get?]

/-- A key in memory holds the bytes that were kept under it last. -/
theorem get?_after (keys : MemoryKeys) (calls : List KeyCall) (key : String) :
    (KeyCall.after step keys calls).get? key =
      (KeyCall.lastKept? key calls).or (keys.get? key) := by
  induction calls generalizing keys with
  | nil => rfl
  | cons call calls inductionHypothesis =>
      rw [KeyCall.after_cons, inductionHypothesis, get?_step, KeyCall.lastKept?, KeyCall.lastKept?,
        List.filterMap_cons]
      cases call.kept? key with
      | none => rfl
      | some bytes =>
          rw [List.getLast?_cons]
          cases (calls.filterMap (KeyCall.kept? key)).getLast? <;> rfl

end MemoryKeys

namespace DiskKeys

variable {disk : Disk} {keys : MemoryKeys} {call : KeyCall} {calls : List KeyCall}

/-- A call on a disk. -/
def step (disk : Disk) : KeyCall → Disk × KeyAnswer
  | .get key => (disk, get disk key)
  | .set key bytes =>
      match set disk key bytes with
      | (changed, outcome) => (changed, outcome.map fun _ => none)

theorem step_set (disk : Disk) (key : String) (bytes : List UInt8) :
    step disk (.set key bytes) =
      ((set disk key bytes).1, (set disk key bytes).2.map fun _ => none) := rfl

/-- A call with a key that names no file is refused and changes nothing. -/
theorem step_of_not_namesFile (nameless : ¬ NamesFile call.key) :
    step disk call =
      (disk, .error (.issue (.storage (.invalidKey (Text.quoted call.key))))) := by
  cases call with
  | get key =>
      have nowhere : locationOf key = _ := locationOf_of_not_namesFile nameless
      rw [step, get, nowhere]
      rfl
  | set key bytes =>
      have nowhere : locationOf key = _ := locationOf_of_not_namesFile nameless
      rw [step, set, nowhere]
      rfl

/-- A disk takes what calls keep under keys that name files. -/
def Takes (disk : Disk) (calls : List KeyCall) : Prop :=
  ∀ (place : Nat) (key : String) (bytes : List UInt8), calls[place]? = some (.set key bytes) →
    NamesFile key → (KeyCall.answers step disk calls)[place]? = some (.ok none)

theorem Takes.tail (takes : Takes disk (call :: calls)) : Takes (step disk call).1 calls :=
  fun place key bytes made names => takes (place + 1) key bytes made names

theorem Takes.set_eq_ok
    (takes : Takes disk (.set key bytes :: calls))
    (names : NamesFile key) :
    (set disk key bytes).2 = .ok () := by
  have answered : (set disk key bytes).2.map (fun _ => none) = .ok none :=
    Option.some.inj (takes 0 key bytes rfl names)
  cases kept : (set disk key bytes).2 with
  | ok done => rfl
  | error failure =>
      rw [kept] at answered
      cases answered

/-- How a call is answered on a disk and in memory.  A disk refuses a key that names no file; it
fails when it cannot look for the file of a key, which has no bytes in memory then; every other
call is answered in one way. -/
inductive Alike (disk : Disk) : KeyCall → KeyAnswer → KeyAnswer → Prop
  | refused {call : KeyCall} {inMemory : KeyAnswer} (nameless : ¬ NamesFile call.key) :
      Alike disk call (.error (.issue (.storage (.invalidKey (Text.quoted call.key))))) inMemory
  | unlooked {key : String} (names : NamesFile key) (cannot : CannotLook disk key) :
      Alike disk (.get key) (.error (.breach (.device (disk.message .nameTooLong (fileOf key)))))
        (.ok none)
  | same {call : KeyCall} {held? : Option (List UInt8)} (names : NamesFile call.key)
      (can : ∀ key, call = .get key → ¬ CannotLook disk key) :
      Alike disk call (.ok held?) (.ok held?)

namespace Mirrors

/-- A call leaves what is kept in memory and on a disk the same. -/
theorem next (mirrors : Mirrors keys disk) (takes : Takes disk (call :: calls)) :
    Mirrors (keys.step call).1 (step disk call).1 := by
  cases call with
  | get key => exact mirrors
  | set key bytes =>
      by_cases names : NamesFile key
      · exact mirrors.set (takes.set_eq_ok names)
      · exact mirrors.set_of_not_namesFile names bytes

/-- A call is answered alike when the same is kept in memory and on a disk. -/
theorem alike (mirrors : Mirrors keys disk) (takes : Takes disk (call :: calls)) :
    Alike disk call (step disk call).2 (keys.step call).2 := by
  by_cases names : NamesFile call.key
  · cases call with
    | get key =>
        change NamesFile key at names
        change Alike disk (.get key) (get disk key) (.ok (keys.get? key))
        by_cases cannot : CannotLook disk key
        · rw [get_of_cannotLook names cannot, mirrors.get?_of_cannotLook names cannot]
          exact .unlooked names cannot
        · rw [mirrors.get_of_canLook names cannot]
          exact .same names (by rintro _ ⟨⟩; exact cannot)
    | set key bytes =>
        rw [step_set, takes.set_eq_ok names]
        exact .same names nofun
  · rw [step_of_not_namesFile names]
    exact .refused names

/-- Every call of a run is answered alike. -/
theorem alike_after
    (mirrors : Mirrors keys disk)
    (takes : Takes disk calls)
    {place : Nat}
    (made : calls[place]? = some call) :
    Alike (KeyCall.after step disk (calls.take place)) call
      (step (KeyCall.after step disk (calls.take place)) call).2
      (MemoryKeys.step (KeyCall.after MemoryKeys.step keys (calls.take place)) call).2 := by
  induction calls generalizing keys disk place with
  | nil => cases made
  | cons first calls inductionHypothesis =>
      cases place with
      | zero =>
          obtain rfl : first = call := by simpa using made
          exact mirrors.alike takes
      | succ place => exact inductionHypothesis (mirrors.next takes) takes.tail made

end Mirrors

/-- Words of plain signs, with a line break behind them or not, are the keys that name files, each
a file of its own.  Where the same is kept in memory and on a disk that takes what is to be kept,
calls are answered alike, and a key is answered with the bytes that were kept under it last. -/
theorem key_calls_alike (mirrors : Mirrors keys disk) (takes : Takes disk calls) :
    (∀ key, (∃ location, locationOf key = .ok location) ↔ NamesFile key) ∧
      (∀ key other location, locationOf key = .ok location → locationOf other = .ok location →
        other = key) ∧
      ∀ place call, calls[place]? = some call →
        ∃ onDisk inMemory, (KeyCall.answers step disk calls)[place]? = some onDisk ∧
          (KeyCall.answers MemoryKeys.step keys calls)[place]? = some inMemory ∧
          Alike (KeyCall.after step disk (calls.take place)) call onDisk inMemory ∧
          ∀ key, call = .get key →
            inMemory = .ok ((KeyCall.lastKept? key (calls.take place)).or (keys.get? key)) := by
  refine ⟨fun key => ?_, fun key other location => locationOf_inj, fun place call made => ?_⟩
  · simp [locationOf_eq_ok_iff]
  · have alike := mirrors.alike_after takes made
    refine ⟨_, _, ?_, ?_, alike, ?_⟩
    · rw [KeyCall.answers_getElem?, made]
      rfl
    · rw [KeyCall.answers_getElem?, made]
      rfl
    · rintro key rfl
      rw [MemoryKeys.step, MemoryKeys.get?_after]

/-- Two keys with one and the same word, once with a line break behind it. -/
def brokenCalls : List KeyCall :=
  [.set "a\n" [1], .set "a" [2], .get "a\n"]

theorem answers_brokenCalls :
    KeyCall.answers step (Disk.blank "home") brokenCalls =
      [.ok none, .ok none, .ok (some [1])] := by
  rfl

theorem takes_brokenCalls : Takes (Disk.blank "home") brokenCalls := by
  intro place key bytes made names
  rw [answers_brokenCalls]
  match place with
  | 0 => rfl
  | 1 => rfl
  | 2 => cases made
  | _ + 3 => cases made

theorem broken_key_calls_alike :
    Mirrors [] (Disk.blank "home") ∧ Takes (Disk.blank "home") brokenCalls ∧
      Alike (KeyCall.after step (Disk.blank "home") (brokenCalls.take 2)) (.get "a\n")
        (.ok (some [1])) (.ok (some [1])) := by
  obtain ⟨-, -, answered⟩ := key_calls_alike (mirrors_blank "home") takes_brokenCalls
  obtain ⟨onDisk, inMemory, there, -, alike, last⟩ := answered 2 (.get "a\n") rfl
  rw [answers_brokenCalls] at there
  obtain rfl : .ok (some [1]) = onDisk := Option.some.inj there
  obtain rfl : inMemory = .ok (some [1]) := last "a\n" rfl
  exact ⟨mirrors_blank "home", takes_brokenCalls, alike⟩

/-- A key of one sign that is repeated. -/
def repeated (count : Nat) : String := String.ofList (List.replicate count 'a')

theorem length_repeated (count : Nat) : (repeated count).length = count := by
  simp [repeated]

theorem isWord_repeated {count : Nat} (positive : 0 < count) : IsWord (repeated count) := by
  refine ⟨fun empty => ?_, fun char member => ?_⟩
  · have length := length_repeated count
    rw [empty] at length
    exact positive.ne length
  · rw [repeated, String.toList_ofList] at member
    rw [List.eq_of_mem_replicate member]
    exact .inl (by decide)

/-- A line break is no plain sign, and yet bytes are kept under a key with one behind its word.  A
plain word that is too long cannot be looked for on a disk, and has no bytes in memory. -/
theorem broken_key_accepted :
    ¬ IsWord "a\n" ∧
      KeyCall.answers step (Disk.blank "home") [.set "a\n" [1], .get "a\n"] =
        [.ok none, .ok (some [1])] ∧
      IsWord (repeated 251) ∧
      (∃ message, KeyCall.answers step (Disk.blank "home") [.set "a" [1], .get (repeated 251)] =
        [.ok none, .error (.breach (.device message))]) ∧
      KeyCall.answers MemoryKeys.step [] [.set "a" [1], .get (repeated 251)] =
        [.ok none, .ok none] := by
  have long : IsWord (repeated 251) := isWord_repeated (by decide)
  have cannot : CannotLook (set (Disk.blank "home") "a" [1]).1 (repeated 251) :=
    .inr ⟨by rw [length_repeated]; decide, rfl⟩
  have failed := get_of_cannotLook (.word long) cannot
  have differs : "a" ≠ repeated 251 := by
    intro same
    have length := length_repeated 251
    rw [← same] at length
    cases length
  refine ⟨?_, rfl, long, ⟨_, congrArg (fun answer => [Except.ok none, answer]) failed⟩, ?_⟩
  · rintro ⟨-, signs⟩
    have sign := signs '\n' (by decide)
    simp [IsSign] at sign
  · simp [KeyCall.answers, MemoryKeys.step, MemoryKeys.set, MemoryKeys.get?, differs]

end DiskKeys
end Wordbook
