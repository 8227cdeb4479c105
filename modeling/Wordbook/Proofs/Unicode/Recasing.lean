import Wordbook.Proofs.Unicode.Case

/-!
# Lower case and back

Raising text that was lowered gives the upper case of the text, unless one of six capitals is in it:
they have the lower case of another capital.  The tables are compared shift by shift, each within
the parts of the upper-case tables that are near it.
-/

namespace Wordbook
namespace Unicode

/-! ## Parts of the tables -/

/-- The expansions of the code points from one to another. -/
def expansionsWithin (low high : Nat) (expansions : List (Nat × List Nat)) :
    List (Nat × List Nat) :=
  expansions.filter fun entry => Nat.ble low entry.1 && Nat.ble entry.1 high

/-- The shifts that may move code points from one to another. -/
def shiftsWithin (low high : Nat) (shifts : List Shift) : List Shift :=
  shifts.filter fun shift => Nat.ble low shift.last && Nat.ble shift.first high

variable {expansions : List (Nat × List Nat)} {shifts : List Shift} {low high code : Nat}

/-- A search among the members that pass a test finds what a search among all members finds, if that
passes. -/
theorem find?_filter_of_imp
    {Entry : Type}
    {passes sought : Entry → Bool}
    (imp : ∀ entry, sought entry = true → passes entry = true)
    (entries : List Entry) :
    (entries.filter passes).find? sought = entries.find? sought := by
  rw [List.find?_filter]
  congr 1
  funext entry
  have pass := imp entry
  cases isSought : sought entry with
  | false => simp
  | true => simp [pass isSought]

/-- A code point is mapped by the parts of the tables around it. -/
theorem mapCode_within
    (above : low ≤ code)
    (below : code ≤ high) :
    mapCode (expansionsWithin low high expansions) (shiftsWithin low high shifts) code =
      mapCode expansions shifts code := by
  unfold mapCode expansionsWithin shiftsWithin
  rw [find?_filter_of_imp, find?_filter_of_imp]
  · intro shift moved
    simp only [Shift.contains, Bool.and_eq_true, decide_eq_true_eq] at moved
    simp only [Bool.and_eq_true, Nat.ble_eq]
    omega
  · intro entry same
    have : entry.1 = code := eq_of_beq same
    simp only [Bool.and_eq_true, Nat.ble_eq]
    omega

/-- Blocks of code points, each of which has a few dozen entries in the upper-case tables. -/
def caseBlocks : List (Nat × Nat) :=
  [(0x0, 0x17f), (0x180, 0x24f), (0x250, 0x36f), (0x370, 0x3ff), (0x400, 0x10ff), (0x1100, 0x1dff),
    (0x1e00, 0x1eff), (0x1f00, 0x1fff), (0x2000, 0x2cff), (0x2d00, 0xa7af), (0xa7b0, 0xffff),
    (0x10000, 0x1ffff)]

/-- The upper case of a code point between two, which are in one block for most of them. -/
def upperNear (low high code : Nat) : List Nat :=
  match caseBlocks.find? fun block => Nat.ble block.1 low && Nat.ble high block.2 with
  | some block =>
      mapCode (expansionsWithin low high (expansionsWithin block.1 block.2 upperExpansions))
        (shiftsWithin low high (shiftsWithin block.1 block.2 upperShifts)) code
  | none => mapCode upperExpansions upperShifts code

theorem upperNear_eq
    (above : low ≤ code)
    (below : code ≤ high) :
    upperNear low high code = mapCode upperExpansions upperShifts code := by
  unfold upperNear
  split
  case h_1 block found =>
    have around := List.find?_some found
    simp only [Bool.and_eq_true, Nat.ble_eq] at around
    rw [mapCode_within above below, mapCode_within (by omega) (by omega)]
  case h_2 => rfl

/-! ## Six capitals -/

/-- The capitals that are not the upper case of their lower case: I with a dot, the theta symbol,
the capital sharp s, and the signs of ohm, kelvin and ångström. -/
def strayCapitals : List Nat := [0x130, 0x3f4, 0x1e9e, 0x2126, 0x212a, 0x212b]

/-- The code points that a shift moves have the upper case of what they are moved to, the stray
capitals apart. -/
def Shift.isRaisedBack (shift : Shift) : Bool :=
  shift.members.all fun code =>
    strayCapitals.contains code ||
      upperNear (shift.apply shift.first) (shift.apply shift.last) (shift.apply code) ==
        upperNear shift.first shift.last code

theorem lowerShifts_raisedBack : lowerShifts.all Shift.isRaisedBack = true := by decide +kernel

theorem lowerShifts_valid :
    (lowerShifts.all fun shift =>
      shift.members.all fun code => decide (shift.apply code).isValidChar) = true := by
  decide +kernel

theorem stray_of_mem_lowerExpansions : ∀ entry ∈ lowerExpansions, entry.1 ∈ strayCapitals := by
  decide

theorem Shift.apply_le_apply
    (shift : Shift)
    {sooner later : Nat}
    (ordered : sooner ≤ later) :
    shift.apply sooner ≤ shift.apply later := by
  unfold Shift.apply
  have : Int.ofNat sooner ≤ Int.ofNat later := Int.ofNat_le.mpr ordered
  omega

/-- A shift to lower case moves a code point to one with the same upper case, unless it is a stray
capital. -/
theorem upper_apply_of_mem_lowerShifts
    {shift : Shift}
    (present : shift ∈ lowerShifts)
    (moved : shift.contains code = true)
    (settled : code ∉ strayCapitals) :
    mapCode upperExpansions upperShifts (shift.apply code) =
      mapCode upperExpansions upperShifts code := by
  have raisedBack := List.all_eq_true.mp lowerShifts_raisedBack shift present
  have same := List.all_eq_true.mp raisedBack code (Shift.mem_members moved)
  simp only [Shift.contains, Bool.and_eq_true, decide_eq_true_eq] at moved
  obtain ⟨⟨above, below⟩, -⟩ := moved
  rw [Bool.or_eq_true, beq_iff_eq, upperNear_eq above below,
    upperNear_eq (shift.apply_le_apply above) (shift.apply_le_apply below)] at same
  exact same.resolve_left (by simpa using settled)

/-- Raising the lower case of a character gives its own upper case. -/
theorem upper_lowerChar
    {char : Char}
    (settled : char.toNat ∉ strayCapitals) :
    upper (lowerChar char) = upperChar char := by
  unfold lowerChar mapCode
  split
  case h_1 entry found =>
    have matched := List.find?_some found
    have same : entry.1 = char.toNat := eq_of_beq matched
    have stray := stray_of_mem_lowerExpansions entry (List.mem_of_find?_eq_some found)
    exact absurd (same ▸ stray) settled
  case h_2 =>
    split
    case h_1 shift found =>
      have present := List.mem_of_find?_eq_some found
      have moved : shift.contains char.toNat = true :=
        List.find?_some (p := fun shift : Shift => shift.contains char.toNat) found
      have valid : (shift.apply char.toNat).isValidChar := by
        have allValid := List.all_eq_true.mp lowerShifts_valid shift present
        exact of_decide_eq_true (List.all_eq_true.mp allValid _ (Shift.mem_members moved))
      have code : (Char.ofNat (shift.apply char.toNat)).toNat = shift.apply char.toNat := by
        rw [Char.ofNat, dif_pos valid]
        rfl
      rw [List.map_singleton, upper, List.flatMap_singleton, upperChar, code,
        upper_apply_of_mem_lowerShifts present moved settled]
      rfl
    case h_2 => rw [List.map_singleton, Char.ofNat_toNat, upper, List.flatMap_singleton]

/-! ## Texts in other cases -/

/-- The forms of a character in other cases: as it is, raised and lowered, and for a capital sigma
also as it is lowered at the end of a word. -/
def caseForms (char : Char) : List (List Char) :=
  [char] :: upperChar char :: lowerChar char ::
    if char.toNat == 0x3a3 then [[Char.ofNat 0x3c2], [Char.ofNat 0x3c3]] else []

/-- One text is another with every character in some case of its own. -/
inductive Recased : List Char → List Char → Prop
  | nil : Recased [] []
  | cons
      {char : Char}
      {form chars recased : List Char}
      (isForm : form ∈ caseForms char)
      (rest : Recased chars recased) :
      Recased (char :: chars) (form ++ recased)

theorem recased_upper (chars : List Char) : Recased chars (upper chars) := by
  induction chars with
  | nil => exact .nil
  | cons char chars inductionHypothesis =>
      rw [upper, List.flatMap_cons]
      exact .cons (by simp [caseForms]) inductionHypothesis

theorem lowerInContext_mem_caseForms (before : List Char) (char : Char) (after : List Char) :
    lowerInContext before char after ∈ caseForms char := by
  unfold lowerInContext caseForms
  split
  · split
    · simp
    · simp
  · simp

theorem recased_lowerAfter (before chars : List Char) :
    Recased chars (lowerAfter before chars) := by
  induction chars generalizing before with
  | nil => exact .nil
  | cons char chars inductionHypothesis =>
      rw [lowerAfter]
      exact .cons (lowerInContext_mem_caseForms before char chars)
        (inductionHypothesis (char :: before))

theorem recased_lower (chars : List Char) : Recased chars (lower chars) :=
  recased_lowerAfter [] chars

/-- No letter of a text is a stray capital. -/
def CaseSettled (chars : List Char) : Prop := ∀ char ∈ chars, char.toNat ∉ strayCapitals

instance (chars : List Char) : Decidable (CaseSettled chars) :=
  List.decidableBAll (fun char : Char => char.toNat ∉ strayCapitals) chars

/-- A settled character has one upper case in all its forms. -/
theorem upper_of_mem_caseForms
    {char : Char}
    (settled : char.toNat ∉ strayCapitals)
    {form : List Char}
    (isForm : form ∈ caseForms char) :
    upper form = upperChar char := by
  simp only [caseForms, List.mem_cons] at isForm
  rcases isForm with rfl | rfl | rfl | sigma
  · exact List.flatMap_singleton _ _
  · exact upper_of_fixed fun _ raised => upperChar_of_mem_upperChar raised
  · exact upper_lowerChar settled
  · split at sigma
    case isTrue same =>
      have isSigma : char = Char.ofNat 0x3a3 := by
        rw [← eq_of_beq same, Char.ofNat_toNat]
      subst isSigma
      simp only [List.mem_cons, List.not_mem_nil, or_false] at sigma
      rcases sigma with rfl | rfl
      · decide +kernel
      · decide +kernel
    case isFalse => cases sigma

/-- A settled text has one upper case in all cases that it can be written in. -/
theorem Recased.upper_eq
    {chars recased : List Char}
    (variant : Recased chars recased)
    (settled : CaseSettled chars) :
    upper recased = upper chars := by
  induction variant with
  | nil => rfl
  | cons isForm rest inductionHypothesis =>
      rw [CaseSettled, List.forall_mem_cons] at settled
      rw [upper_append, upper_of_mem_caseForms settled.1 isForm, inductionHypothesis settled.2]
      rfl

theorem all_isBlank_of_mem_caseForms
    {char : Char}
    {form : List Char}
    (isForm : form ∈ caseForms char) :
    form.all Text.isBlank = Text.isBlank char := by
  simp only [caseForms, List.mem_cons] at isForm
  rcases isForm with rfl | rfl | rfl | sigma
  · exact Bool.and_true _
  · exact upperChar_sparesBlanks.all_isBlank char
  · exact lowerChar_sparesBlanks.all_isBlank char
  · split at sigma
    case isTrue same =>
      have isSigma : char = Char.ofNat 0x3a3 := by
        rw [← eq_of_beq same, Char.ofNat_toNat]
      subst isSigma
      simp only [List.mem_cons, List.not_mem_nil, or_false] at sigma
      rcases sigma with rfl | rfl
      · decide
      · decide
    case isFalse => cases sigma

/-- A text is blank in all cases that it can be written in, or in none. -/
theorem Recased.all_isBlank
    {chars recased : List Char}
    (variant : Recased chars recased) :
    recased.all Text.isBlank = chars.all Text.isBlank := by
  induction variant with
  | nil => rfl
  | cons isForm rest inductionHypothesis =>
      rw [List.all_append, List.all_cons, all_isBlank_of_mem_caseForms isForm, inductionHypothesis]

/-! ## Stray capitals in a text -/

theorem stray_apart
    {code : Nat}
    (stray : code ∈ strayCapitals) :
    code ∉ mapped upperExpansions upperShifts ++ (0 :: images upperExpansions upperShifts) ++
      images lowerExpansions lowerShifts :=
  disjoint_of_bitsOf (by decide +kernel) stray

theorem stray_lowered :
    ∀ code ∈ strayCapitals, mapCode lowerExpansions lowerShifts code ≠ [code] := by
  decide +kernel

/-- A stray capital is in the upper case of a text exactly when it is in the text. -/
theorem mem_upper_iff_of_stray
    {char : Char}
    (stray : char.toNat ∈ strayCapitals)
    (chars : List Char) :
    char ∈ upper chars ↔ char ∈ chars := by
  have apart := stray_apart stray
  simp only [List.mem_append, not_or] at apart
  obtain ⟨⟨unmapped, noImage⟩, -⟩ := apart
  constructor
  · intro present
    obtain ⟨original, isOriginal, raised⟩ := List.mem_flatMap.mp present
    rcases mem_map_mapCode raised with isImage | ⟨rfl, -⟩
    · exact absurd isImage noImage
    · exact isOriginal
  · intro present
    refine List.mem_flatMap.mpr ⟨char, present, ?_⟩
    rw [upperChar_of_mapCode (mapCode_of_not_mapped unmapped)]
    exact List.mem_singleton_self char

/-- No stray capital is in lowered text. -/
theorem not_mem_lowerAfter_of_stray
    {char : Char}
    (stray : char.toNat ∈ strayCapitals)
    (before chars : List Char) :
    char ∉ lowerAfter before chars := by
  have apart := stray_apart stray
  simp only [List.mem_append, List.mem_cons, not_or] at apart
  obtain ⟨⟨-, nonzero, -⟩, noImage⟩ := apart
  have other (code : Nat) (valid : code.isValidChar) (tame : code ∉ strayCapitals) :
      char ≠ Char.ofNat code := by
    rintro rfl
    rw [Char.ofNat, dif_pos valid] at stray
    exact tame stray
  induction chars generalizing before with
  | nil => exact List.not_mem_nil
  | cons first chars inductionHypothesis =>
      rw [lowerAfter, List.mem_append, not_or]
      refine ⟨?_, inductionHypothesis (first :: before)⟩
      unfold lowerInContext
      split
      · split
        · simpa using other 0x3c2 (by decide) (by decide)
        · simpa using other 0x3c3 (by decide) (by decide)
      · intro lowered
        rcases mem_map_mapCode lowered with isImage | ⟨rfl, stays⟩
        · rcases List.mem_cons.mp isImage with isZero | isImage
          · exact nonzero isZero
          · exact noImage isImage
        · exact stray_lowered _ stray stays

/-- Raising lowered text gives the upper case of the text exactly when no stray capital is in it. -/
theorem upper_lower_iff (chars : List Char) :
    upper (lower chars) = upper chars ↔ CaseSettled chars := by
  constructor
  · intro same char present stray
    have raised := (mem_upper_iff_of_stray stray chars).mpr present
    rw [← same, mem_upper_iff_of_stray stray] at raised
    exact not_mem_lowerAfter_of_stray stray [] chars raised
  · exact (recased_lower chars).upper_eq

end Unicode
end Wordbook
