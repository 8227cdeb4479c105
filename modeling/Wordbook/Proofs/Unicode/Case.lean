import Wordbook.Proofs.Text.Blank
import Wordbook.Unicode.Case

/-!
# Upper case is stable

No image of the upper-case mapping is itself mapped to anything else, so raising text a second time
changes nothing.  The images are held against the mapped code points as two sets of bits, so that
one intersection of big numbers decides the question for the whole table.
-/

namespace Wordbook
namespace Unicode

/-! ## Sets of code points as bits -/

/-- The number whose bits are the given code points. -/
def bitsOf (codes : List Nat) : Nat :=
  codes.foldr (fun code bits => bits ||| Nat.pow 2 code) 0

theorem testBit_bitsOf (codes : List Nat) (code : Nat) :
    (bitsOf codes).testBit code = true ↔ code ∈ codes := by
  induction codes with
  | nil => simp [bitsOf]
  | cons first codes inductionHypothesis =>
      have rest : (codes.foldr (fun code bits => bits ||| Nat.pow 2 code) 0).testBit code = true ↔
          code ∈ codes := inductionHypothesis
      rw [bitsOf, List.foldr_cons, Nat.testBit_or, Bool.or_eq_true, rest, List.mem_cons, or_comm]
      simp [Nat.testBit_two_pow, eq_comm]

theorem disjoint_of_bitsOf
    {left right : List Nat}
    (disjoint : bitsOf left &&& bitsOf right = 0)
    {code : Nat}
    (present : code ∈ left) :
    code ∉ right := by
  intro also
  have both := congrArg (Nat.testBit · code) disjoint
  rw [← testBit_bitsOf] at present also
  simp [present, also] at both

/-! ## Mapped code points and their images -/

/-- The code points that a shift moves, in ascending order. -/
def Shift.members (shift : Shift) : List Nat :=
  List.range' shift.first ((shift.last - shift.first) / shift.step + 1) shift.step

theorem Shift.mem_members
    {shift : Shift}
    {code : Nat}
    (moved : shift.contains code = true) :
    code ∈ shift.members := by
  simp only [Shift.contains, Bool.and_eq_true, decide_eq_true_eq, beq_iff_eq] at moved
  obtain ⟨⟨above, below⟩, aligned⟩ := moved
  refine List.mem_range'.mpr ⟨(code - shift.first) / shift.step, ?_, ?_⟩
  · have := Nat.div_le_div_right (c := shift.step) (Nat.sub_le_sub_right below shift.first)
    omega
  · have := Nat.div_add_mod (code - shift.first) shift.step
    omega

/-- The code points that a case mapping maps, possibly to themselves. -/
def mapped (expansions : List (Nat × List Nat)) (shifts : List Shift) : List Nat :=
  expansions.map Prod.fst ++ shifts.flatMap Shift.members

/-- What a case mapping maps code points to. -/
def images (expansions : List (Nat × List Nat)) (shifts : List Shift) : List Nat :=
  expansions.flatMap Prod.snd ++ shifts.flatMap fun shift => shift.members.map shift.apply

variable {expansions : List (Nat × List Nat)} {shifts : List Shift}

theorem mapCode_of_not_mapped
    {code : Nat}
    (unmapped : code ∉ mapped expansions shifts) :
    mapCode expansions shifts code = [code] := by
  simp only [mapped, List.mem_append, List.mem_map, List.mem_flatMap, not_or, not_exists,
    not_and] at unmapped
  have noExpansion : (expansions.find? fun entry => entry.1 == code) = none :=
    List.find?_eq_none.mpr fun entry present same => unmapped.1 entry present (by simpa using same)
  have noShift : (shifts.find? fun shift => shift.contains code) = none :=
    List.find?_eq_none.mpr fun shift present moved =>
      unmapped.2 shift present (Shift.mem_members moved)
  simp [mapCode, noExpansion, noShift]

/-- A code point is mapped to images, or it stays. -/
theorem mem_mapCode
    {code image : Nat}
    (present : image ∈ mapCode expansions shifts code) :
    image ∈ images expansions shifts ∨
      (image = code ∧ mapCode expansions shifts code = [code]) := by
  simp only [images, List.mem_append, List.mem_flatMap, List.mem_map]
  cases expanded : expansions.find? fun entry => entry.1 == code with
  | some entry =>
      rw [mapCode, expanded] at present
      exact .inl (.inl ⟨entry, List.mem_of_find?_eq_some expanded, present⟩)
  | none =>
      cases shifted : shifts.find? fun shift => shift.contains code with
      | some shift =>
          have moved : shift.contains code = true :=
            List.find?_some (p := fun shift : Shift => shift.contains code) shifted
          rw [mapCode, expanded, shifted] at present
          refine .inl (.inr ⟨shift, List.mem_of_find?_eq_some shifted, code, ?_, ?_⟩)
          · exact Shift.mem_members moved
          · exact (List.mem_singleton.mp present).symm
      | none =>
          have stays : mapCode expansions shifts code = [code] := by
            simp only [mapCode, expanded, shifted]
          rw [stays] at present
          exact .inr ⟨List.mem_singleton.mp present, stays⟩

/-- An image of a character is made by the tables, or it is the character itself, which they leave
alone.  The null character stands for numbers that are no code point. -/
theorem mem_map_mapCode
    {char image : Char}
    (present : image ∈ (mapCode expansions shifts char.toNat).map Char.ofNat) :
    image.toNat ∈ 0 :: images expansions shifts ∨
      (image = char ∧ mapCode expansions shifts char.toNat = [char.toNat]) := by
  obtain ⟨code, made, rfl⟩ := List.mem_map.mp present
  rcases mem_mapCode made with isImage | ⟨rfl, stays⟩
  · left
    by_cases valid : code.isValidChar
    · rw [Char.ofNat, dif_pos valid]
      exact List.mem_cons_of_mem 0 isImage
    · simp [Char.ofNat, valid]
  · exact .inr ⟨Char.ofNat_toNat char, stays⟩

/-! ## Upper case -/

theorem upper_images_not_mapped
    {code : Nat}
    (image : code ∈ 0 :: images upperExpansions upperShifts) :
    code ∉ mapped upperExpansions upperShifts :=
  disjoint_of_bitsOf (by decide +kernel) image

theorem upperChar_of_mapCode
    {char : Char}
    (stays : mapCode upperExpansions upperShifts char.toNat = [char.toNat]) :
    upperChar char = [char] := by
  rw [upperChar, stays, List.map_singleton, Char.ofNat_toNat]

/-- What the upper-case mapping yields stays as it is. -/
theorem upperChar_of_mem_upperChar
    {char raised : Char}
    (present : raised ∈ upperChar char) :
    upperChar raised = [raised] := by
  rcases mem_map_mapCode present with isImage | ⟨rfl, stays⟩
  · exact upperChar_of_mapCode (mapCode_of_not_mapped (upper_images_not_mapped isImage))
  · exact upperChar_of_mapCode stays

theorem upper_of_fixed
    {chars : List Char}
    (fixed : ∀ char ∈ chars, upperChar char = [char]) :
    upper chars = chars := by
  induction chars with
  | nil => rfl
  | cons char chars inductionHypothesis =>
      rw [List.forall_mem_cons] at fixed
      rw [upper, List.flatMap_cons, fixed.1]
      exact congrArg (char :: ·) (inductionHypothesis fixed.2)

theorem upperChar_of_mem_upper
    {chars : List Char}
    {char : Char}
    (present : char ∈ upper chars) :
    upperChar char = [char] := by
  obtain ⟨original, _, raised⟩ := List.mem_flatMap.mp present
  exact upperChar_of_mem_upperChar raised

/-- Text that was raised to upper case is not changed by raising it again. -/
theorem upper_upper (chars : List Char) : upper (upper chars) = upper chars :=
  upper_of_fixed fun _ present => upperChar_of_mem_upper present

theorem upper_append (front back : List Char) : upper (front ++ back) = upper front ++ upper back :=
  List.flatMap_append

/-! ## Blanks -/

/-- A case mapping leaves blanks alone and makes no new ones. -/
structure SparesBlanks (map : Char → List Char) : Prop where
  blank : ∀ {char}, Text.isBlank char = true → map char = [char]
  given : ∀ char, map char ≠ []
  solid : ∀ {char image}, Text.isBlank char = false → image ∈ map char → Text.isBlank image = false

/-- What a character becomes is blank throughout when the character is blank, and not blank
otherwise. -/
theorem SparesBlanks.all_isBlank
    {map : Char → List Char}
    (spares : SparesBlanks map)
    (char : Char) :
    (map char).all Text.isBlank = Text.isBlank char := by
  cases blank : Text.isBlank char with
  | true => rw [spares.blank blank, List.all_cons, blank, List.all_nil, Bool.and_true]
  | false =>
      obtain ⟨first, rest, whole⟩ := List.exists_cons_of_ne_nil (spares.given char)
      have solid := spares.solid blank (whole ▸ List.mem_cons_self)
      rw [whole, List.all_cons, solid, Bool.false_and]

namespace SparesBlanks

variable {map : Char → List Char} {chars : List Char}

theorem flatMap_of_blank
    (spares : SparesBlanks map)
    (blank : ∀ char ∈ chars, Text.isBlank char = true) :
    chars.flatMap map = chars := by
  induction chars with
  | nil => rfl
  | cons char chars inductionHypothesis =>
      rw [List.forall_mem_cons] at blank
      rw [List.flatMap_cons, spares.blank blank.1, inductionHypothesis blank.2,
        List.singleton_append]

theorem startsSolid
    (spares : SparesBlanks map)
    (solid : Text.StartsSolid chars) :
    Text.StartsSolid (chars.flatMap map) := by
  cases chars with
  | nil => nofun
  | cons char chars =>
      have charSolid : Text.isBlank char = false := solid char rfl
      rw [List.flatMap_cons]
      exact .append (fun _ first => spares.solid charSolid (List.mem_of_head? first))
        (spares.given char)

theorem endsSolid
    (spares : SparesBlanks map)
    (solid : Text.EndsSolid chars) :
    Text.EndsSolid (chars.flatMap map) := by
  rcases List.eq_nil_or_concat chars with rfl | ⟨chars, char, rfl⟩
  · nofun
  · have charSolid : Text.isBlank char = false := solid char (by simp)
    rw [List.concat_eq_append, List.flatMap_append, List.flatMap_singleton]
    exact .append (fun _ last => spares.solid charSolid (List.mem_of_getLast? last))
      (spares.given char)

/-- It makes no difference whether a text is trimmed before or after. -/
theorem trimBy_flatMap (spares : SparesBlanks map) (chars : List Char) :
    Text.trimBy Text.isBlank (chars.flatMap map) =
      (Text.trimBy Text.isBlank chars).flatMap map := by
  obtain ⟨front, back, frontBlank, backBlank, whole⟩ := Text.exists_trimBy Text.isBlank chars
  conv_lhs => rw [whole]
  rw [List.flatMap_append, List.flatMap_append, spares.flatMap_of_blank frontBlank,
    spares.flatMap_of_blank backBlank, Text.trimBy_append frontBlank backBlank]
  exact Text.trimBy_of_solid (spares.startsSolid (Text.startsSolid_trimBy chars))
    (spares.endsSolid (Text.endsSolid_trimBy chars))

end SparesBlanks

/-- The blank code points. -/
def blankCodes : List Nat :=
  [0x9, 0xa, 0xb, 0xc, 0xd, 0x1c, 0x1d, 0x1e, 0x1f, 0x20, 0x85, 0xa0, 0x1680, 0x2000, 0x2001,
    0x2002, 0x2003, 0x2004, 0x2005, 0x2006, 0x2007, 0x2008, 0x2009, 0x200a, 0x2028, 0x2029, 0x202f,
    0x205f, 0x3000]

theorem mem_blankCodes {code : Nat} (blank : Text.isBlankCode code = true) : code ∈ blankCodes := by
  simp only [Text.isBlankCode, Bool.or_eq_true, Bool.and_eq_true, decide_eq_true_eq,
    beq_iff_eq] at blank
  simp only [blankCodes, List.mem_cons, List.not_mem_nil, or_false]
  omega

/-- Tables that map no blank, map nothing to one and map nothing to nothing spare blanks. -/
theorem sparesBlanks_of_tables
    (apart : ∀ code ∈ blankCodes,
      code ∉ mapped expansions shifts ++ 0 :: images expansions shifts)
    (nonempty : ∀ entry ∈ expansions, entry.2 ≠ []) :
    SparesBlanks fun char => (mapCode expansions shifts char.toNat).map Char.ofNat where
  blank := by
    intro char blank
    have unmapped : char.toNat ∉ mapped expansions shifts := fun isMapped =>
      apart _ (mem_blankCodes blank) (List.mem_append_left _ isMapped)
    simp only [mapCode_of_not_mapped unmapped, List.map_singleton, Char.ofNat_toNat]
  given := by
    intro char
    rw [Ne, List.map_eq_nil_iff, mapCode]
    split
    case h_1 entry found => exact nonempty entry (List.mem_of_find?_eq_some found)
    case h_2 => split <;> exact List.cons_ne_nil _ _
  solid := by
    intro char image solid present
    by_contra blank
    rw [Bool.not_eq_false] at blank
    rcases mem_map_mapCode present with isImage | ⟨rfl, -⟩
    · exact apart _ (mem_blankCodes blank) (List.mem_append_right _ isImage)
    · rw [solid] at blank
      contradiction

theorem upperChar_sparesBlanks : SparesBlanks upperChar :=
  sparesBlanks_of_tables (fun _ => disjoint_of_bitsOf (by decide +kernel)) (by decide +kernel)

theorem lowerChar_sparesBlanks : SparesBlanks lowerChar :=
  sparesBlanks_of_tables (fun _ => disjoint_of_bitsOf (by decide +kernel)) (by decide +kernel)

end Unicode
end Wordbook
