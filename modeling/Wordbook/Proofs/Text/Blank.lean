import Mathlib.Data.List.DropRight
import Wordbook.Text.Blank

/-!
# Trimmed text

What trimming and collapsing leave behind, so that a second trimming or collapsing finds nothing to
do.
-/

namespace Wordbook
namespace Text

variable {dropped : Char → Bool} {chars : List Char}

theorem trimEndBy_eq_rdropWhile (dropped : Char → Bool) (chars : List Char) :
    trimEndBy dropped chars = chars.rdropWhile dropped := rfl

/-- Trimming leaves a text alone that neither starts nor ends with a dropped character. -/
theorem trimBy_eq_self
    (first : ∀ given : chars ≠ [], dropped (chars.head given) = false)
    (last : ∀ given : chars ≠ [], dropped (chars.getLast given) = false) :
    trimBy dropped chars = chars := by
  have start : chars.dropWhile dropped = chars :=
    List.dropWhile_eq_self_iff.mpr fun given => by
      have head := first (List.ne_nil_of_length_pos given)
      simpa [List.head_eq_getElem] using head
  rw [trimBy, trimEndBy_eq_rdropWhile, start]
  exact List.rdropWhile_eq_self_iff.mpr fun given => by simp [last given]

theorem trimBy_of_none (none : ∀ char ∈ chars, dropped char = false) :
    trimBy dropped chars = chars :=
  trimBy_eq_self (fun given => none _ (List.head_mem given))
    fun given => none _ (List.getLast_mem given)

/-- Trimming keeps a first character that it does not drop. -/
theorem exists_trimBy_cons
    {first : Char}
    (solid : dropped first = false)
    (rest : List Char) :
    ∃ trimmed, trimBy dropped (first :: rest) = first :: trimmed := by
  have kept : ¬ dropped first = true := Bool.eq_false_iff.mp solid
  rw [trimBy, trimEndBy_eq_rdropWhile, List.dropWhile_cons_of_neg kept]
  obtain ⟨behind, whole⟩ := List.rdropWhile_prefix dropped (first :: rest)
  cases trimmed : (first :: rest).rdropWhile dropped with
  | nil => exact absurd (List.rdropWhile_eq_nil_iff.mp trimmed first List.mem_cons_self) kept
  | cons head tail =>
      rw [trimmed, List.cons_append] at whole
      cases whole
      exact ⟨tail, rfl⟩

theorem trimBy_of_all (all : ∀ char ∈ chars, dropped char = true) : trimBy dropped chars = [] := by
  rw [trimBy, List.dropWhile_eq_nil_iff.mpr all]
  rfl

/-- A trimmed text does not start with a dropped character. -/
theorem head_trimBy (given : trimBy dropped chars ≠ []) :
    dropped ((trimBy dropped chars).head given) = false := by
  -- The start of the trimmed text is that of the text without the dropped characters before.
  have before : trimBy dropped chars <+: chars.dropWhile dropped :=
    List.rdropWhile_prefix dropped _
  obtain ⟨rest, whole⟩ := before
  have kept : chars.dropWhile dropped ≠ [] := by
    rw [← whole]
    exact List.append_ne_nil_of_left_ne_nil given rest
  have head := List.head_dropWhile_not dropped kept
  simpa [← whole, List.head_append_of_ne_nil given] using head

/-- A trimmed text does not end with a dropped character. -/
theorem getLast_trimBy (given : trimBy dropped chars ≠ []) :
    dropped ((trimBy dropped chars).getLast given) = false :=
  Bool.eq_false_iff.mpr (List.rdropWhile_last_not dropped (chars.dropWhile dropped) given)

/-- A trimmed text is not changed by trimming it again. -/
theorem trimBy_trimBy (dropped : Char → Bool) (chars : List Char) :
    trimBy dropped (trimBy dropped chars) = trimBy dropped chars :=
  trimBy_eq_self head_trimBy getLast_trimBy

/-- What trimming takes off are dropped characters in front and behind. -/
theorem exists_trimBy (dropped : Char → Bool) (chars : List Char) :
    ∃ front back, (∀ char ∈ front, dropped char = true) ∧ (∀ char ∈ back, dropped char = true) ∧
      chars = front ++ trimBy dropped chars ++ back := by
  refine ⟨chars.takeWhile dropped, (chars.dropWhile dropped).rtakeWhile dropped,
    fun char present => List.mem_takeWhile_imp present,
    fun char present => List.mem_rtakeWhile_imp present, ?_⟩
  rw [List.append_assoc, trimBy, trimEndBy_eq_rdropWhile, List.rdropWhile_append_rtakeWhile,
    List.takeWhile_append_dropWhile]

/-- Trimming keeps every character that it does not drop. -/
theorem mem_trimBy_iff
    {char : Char}
    (kept : dropped char = false) :
    char ∈ trimBy dropped chars ↔ char ∈ chars := by
  obtain ⟨front, back, frontDropped, backDropped, whole⟩ := exists_trimBy dropped chars
  have notFront : char ∉ front := fun present => by simp [frontDropped char present] at kept
  have notBack : char ∉ back := fun present => by simp [backDropped char present] at kept
  conv_rhs => rw [whole, List.mem_append, List.mem_append]
  tauto

/-- Dropped characters at either end make no difference. -/
theorem trimBy_append
    {front back : List Char}
    (frontDropped : ∀ char ∈ front, dropped char = true)
    (backDropped : ∀ char ∈ back, dropped char = true) :
    trimBy dropped (front ++ chars ++ back) = trimBy dropped chars := by
  have backReversed : ∀ char ∈ back.reverse, dropped char = true :=
    fun char present => backDropped char (List.mem_reverse.mp present)
  rw [List.append_assoc, trimBy, List.dropWhile_append_of_pos frontDropped, List.dropWhile_append]
  split
  case isTrue gone =>
    have none : back.dropWhile dropped = [] := List.dropWhile_eq_nil_iff.mpr backDropped
    rw [none, trimBy, List.isEmpty_iff.mp gone]
  case isFalse =>
    rw [trimEndBy, List.reverse_append, List.dropWhile_append_of_pos backReversed]
    rfl

theorem trim_trim (text : String) : trim (trim text) = trim text := by
  rw [trim, trim, String.toList_ofList, trimBy_trimBy]

theorem trim_eq_empty_of_allBlank {text : String} (blank : allBlank text = true) :
    trim text = "" := by
  rw [trim, trimBy_of_all (List.all_eq_true.mp blank), String.ofList_nil]

/-- Nothing is left of a text exactly when it has no character but blanks. -/
theorem trim_eq_empty_iff {text : String} : trim text = "" ↔ allBlank text = true := by
  refine ⟨fun empty => ?_, trim_eq_empty_of_allBlank⟩
  rw [trim, String.ofList_eq_empty_iff, trimBy, trimEndBy_eq_rdropWhile,
    List.rdropWhile_eq_nil_iff] at empty
  -- What stands behind the blanks in front starts with a character that is not blank.
  by_contra solid
  have some_left : text.toList.dropWhile isBlank ≠ [] := fun none =>
    solid (List.all_eq_true.mpr (List.dropWhile_eq_nil_iff.mp none))
  have first := List.head_dropWhile_not isBlank some_left
  rw [empty _ (List.head_mem some_left)] at first
  exact absurd first (by decide)

/-- A character of collapsed text is the separator, or one of the text that is not blank. -/
theorem mem_collapseBlanks
    {separator char : Char}
    (present : char ∈ collapseBlanks separator chars) :
    char = separator ∨ (char ∈ chars ∧ isBlank char = false) := by
  fun_induction collapseBlanks separator chars with
  | case1 => simp at present
  | case2 only =>
      cases blank : isBlank only with
      | true =>
          simp only [blank, if_true, List.mem_singleton] at present
          exact .inl present
      | false =>
          simp only [blank, Bool.false_eq_true, if_false, List.mem_singleton] at present
          exact .inr ⟨List.mem_singleton.mpr present, present ▸ blank⟩
  | case3 first next rest blank nextBlank inductionHypothesis =>
      exact (inductionHypothesis present).imp id fun found =>
        ⟨List.mem_cons_of_mem first found.1, found.2⟩
  | case4 first next rest blank nextSolid inductionHypothesis =>
      rcases List.mem_cons.mp present with same | later
      · exact .inl same
      · exact (inductionHypothesis later).imp id fun found =>
          ⟨List.mem_cons_of_mem first found.1, found.2⟩
  | case5 first next rest solid inductionHypothesis =>
      rcases List.mem_cons.mp present with rfl | later
      · exact .inr ⟨List.mem_cons_self, by simpa using solid⟩
      · exact (inductionHypothesis later).imp id fun found =>
          ⟨List.mem_cons_of_mem first found.1, found.2⟩

theorem collapseBlanks_of_none
    (separator : Char)
    (none : ∀ char ∈ chars, isBlank char = false) :
    collapseBlanks separator chars = chars := by
  fun_induction collapseBlanks separator chars with
  | case1 => rfl
  | case2 only => simp [none only]
  | case3 first next rest blank => simp [none first] at blank
  | case4 first next rest blank => simp [none first] at blank
  | case5 first next rest solid inductionHypothesis =>
      rw [inductionHypothesis fun char present => none char (List.mem_cons_of_mem first present)]

/-! ## Texts with solid ends -/

/-- A text does not start with a blank. -/
def StartsSolid (chars : List Char) : Prop := ∀ first ∈ chars.head?, isBlank first = false

/-- A text does not end with a blank. -/
def EndsSolid (chars : List Char) : Prop := ∀ last ∈ chars.getLast?, isBlank last = false

instance (chars : List Char) : Decidable (StartsSolid chars) :=
  Option.decidableForallMem chars.head?

instance (chars : List Char) : Decidable (EndsSolid chars) :=
  Option.decidableForallMem chars.getLast?

theorem StartsSolid.append
    {front back : List Char}
    (solid : StartsSolid front)
    (given : front ≠ []) :
    StartsSolid (front ++ back) := by
  rwa [StartsSolid, List.head?_append_of_ne_nil front given]

theorem EndsSolid.append
    {front back : List Char}
    (solid : EndsSolid back)
    (given : back ≠ []) :
    EndsSolid (front ++ back) := by
  rwa [EndsSolid, List.getLast?_append_of_ne_nil front given]

theorem startsSolid_trimBy (chars : List Char) : StartsSolid (trimBy isBlank chars) := by
  intro first isFirst
  have given : trimBy isBlank chars ≠ [] := by
    rintro none
    rw [none] at isFirst
    contradiction
  rw [List.head?_eq_some_head given] at isFirst
  exact Option.some.inj isFirst ▸ head_trimBy given

theorem endsSolid_trimBy (chars : List Char) : EndsSolid (trimBy isBlank chars) := by
  intro last isLast
  have given : trimBy isBlank chars ≠ [] := by
    rintro none
    rw [none] at isLast
    contradiction
  rw [List.getLast?_eq_some_getLast given] at isLast
  exact Option.some.inj isLast ▸ getLast_trimBy given

/-- Trimming leaves a text alone that has no blank at either end. -/
theorem trimBy_of_solid
    (starts : StartsSolid chars)
    (ends : EndsSolid chars) :
    trimBy isBlank chars = chars :=
  trimBy_eq_self (fun given => starts _ (List.head?_eq_some_head given))
    fun given => ends _ (List.getLast?_eq_some_getLast given)

/-! ## Collapsing piece by piece -/

theorem collapseBlanks_cons (separator char : Char) (chars : List Char) :
    collapseBlanks separator (char :: chars) =
      if isBlank char then
        if chars.head?.any isBlank then collapseBlanks separator chars
        else separator :: collapseBlanks separator chars
      else char :: collapseBlanks separator chars := by
  cases chars with
  | nil => cases blank : isBlank char <;> simp [collapseBlanks, blank]
  | cons next rest => rfl

/-- Two texts are collapsed apart from each other where no run of blanks goes from one into the
other. -/
theorem collapseBlanks_append
    (separator : Char)
    {front back : List Char}
    (apart : EndsSolid front ∨ StartsSolid back) :
    collapseBlanks separator (front ++ back) =
      collapseBlanks separator front ++ collapseBlanks separator back := by
  induction front with
  | nil => rfl
  | cons char front inductionHypothesis =>
      rw [List.cons_append, collapseBlanks_cons, collapseBlanks_cons]
      cases front with
      | nil =>
          cases blank : isBlank char with
          | false => simp [collapseBlanks]
          | true =>
              have solid : StartsSolid back := apart.resolve_left fun ends => by
                rw [ends char rfl] at blank
                contradiction
              have unblank : back.head?.any isBlank = false := by
                cases first : back.head? with
                | none => rfl
                | some first' => exact solid first' first
              simp [unblank, collapseBlanks]
      | cons next rest =>
          rw [inductionHypothesis (apart.imp_left fun ends => by simpa [EndsSolid] using ends)]
          cases isBlank char with
          | false => rfl
          | true =>
              rw [if_pos rfl, if_pos rfl, List.cons_append, List.head?_cons, List.head?_cons]
              split
              · rfl
              · rfl

/-- A run of blanks becomes one separator. -/
theorem collapseBlanks_of_blank
    (separator : Char)
    {run : List Char}
    (given : run ≠ [])
    (blank : ∀ char ∈ run, isBlank char = true) :
    collapseBlanks separator run = [separator] := by
  induction run with
  | nil => contradiction
  | cons char rest inductionHypothesis =>
      rw [List.forall_mem_cons] at blank
      rw [collapseBlanks_cons, if_pos blank.1]
      cases rest with
      | nil => rfl
      | cons next rest =>
          have nextBlank := blank.2 next List.mem_cons_self
          simpa [nextBlank] using inductionHypothesis (List.cons_ne_nil next rest) blank.2

/-- Characters that are not blank are kept. -/
theorem mem_collapseBlanks_of_mem
    (separator : Char)
    {char : Char}
    (solid : isBlank char = false)
    (present : char ∈ chars) :
    char ∈ collapseBlanks separator chars := by
  induction chars with
  | nil => cases present
  | cons first chars inductionHypothesis =>
      rw [collapseBlanks_cons]
      rcases List.mem_cons.mp present with rfl | later
      · simp [solid]
      · have kept := inductionHypothesis later
        cases isBlank first with
        | false => exact List.mem_cons_of_mem first kept
        | true =>
            rw [if_pos rfl]
            split
            · exact kept
            · exact List.mem_cons_of_mem separator kept

/-- Where a blank was there is a separator. -/
theorem separator_mem_collapseBlanks
    (separator : Char)
    (given : ∃ char ∈ chars, isBlank char = true) :
    separator ∈ collapseBlanks separator chars := by
  fun_induction collapseBlanks separator chars with
  | case1 => simp at given
  | case2 only =>
      obtain ⟨_, present, blank⟩ := given
      cases List.mem_singleton.mp present
      rw [if_pos blank]
      exact List.mem_cons_self
  | case3 first next rest blank nextBlank inductionHypothesis =>
      exact inductionHypothesis ⟨next, List.mem_cons_self, nextBlank⟩
  | case4 => exact List.mem_cons_self
  | case5 first next rest solid inductionHypothesis =>
      obtain ⟨char, present, blank⟩ := given
      rcases List.mem_cons.mp present with rfl | later
      · exact absurd blank solid
      · exact List.mem_cons_of_mem first (inductionHypothesis ⟨char, later, blank⟩)

theorem collapseBlanks_eq_nil_iff {separator : Char} :
    collapseBlanks separator chars = [] ↔ chars = [] := by
  induction chars with
  | nil => simp [collapseBlanks]
  | cons first chars inductionHypothesis =>
      rw [collapseBlanks_cons]
      cases chars with
      | nil => cases blank : isBlank first <;> simp
      | cons next rest =>
          have given : collapseBlanks separator (next :: rest) ≠ [] := by
            simp [inductionHypothesis]
          split
          · split
            · exact iff_of_false given (List.cons_ne_nil _ _)
            · exact iff_of_false (List.cons_ne_nil _ _) (List.cons_ne_nil _ _)
          · exact iff_of_false (List.cons_ne_nil _ _) (List.cons_ne_nil _ _)

end Text
end Wordbook
