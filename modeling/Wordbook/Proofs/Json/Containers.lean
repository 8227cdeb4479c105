import Wordbook.Proofs.Json.Scalars

/-!
# Printed values read back

Reading what was printed gives the value back in both layouts.  The statement is kept together for a
value at a level of indentation and with room for so many nested containers; strings and integers
have it, and containers have it if everything inside them has it.
-/

namespace Wordbook
namespace Json

/-- The printed form of a value at a level is read back, with room for `room` nested containers and
in front of anything that ends a value. -/
structure ReadsBack (layout : Layout) (level room : Nat) (value : Json) : Prop where
  /-- The printed form starts neither with a separator nor with a bracket that closes a list. -/
  opens : ∃ char rest,
    chars false layout level value = char :: rest ∧ isSeparator char = false ∧ char ≠ ']'
  /-- Two units of fuel for each character are enough. -/
  reads : ∀ fuel rest, EndsValue rest → 2 * (chars false layout level value).length ≤ fuel →
    readValue fuel room (chars false layout level value ++ rest) = .ok (value, rest)

/-! ## Scalars -/

theorem readValue_quote
    (fuel room : Nat)
    (text rest : List Char)
    (enough : text.length < fuel) :
    readValue (fuel + 1) room
        (Char.ofNat 34 :: text.flatMap (escapeChar false) ++ [Char.ofNat 34] ++ rest) =
      .ok (.str (String.ofList text), rest) := by
  simp only [List.cons_append, List.append_assoc, List.nil_append, readValue]
  rw [readString_escaped _ fuel [] text rest enough]
  rfl

theorem escapeChar_ne_nil (ascii : Bool) (char : Char) : escapeChar ascii char ≠ [] := by
  simp only [escapeChar, unitEscape]
  repeat' split
  all_goals simp

theorem length_le_length_escaped (text : List Char) :
    text.length ≤ (text.flatMap (escapeChar false)).length := by
  induction text with
  | nil => simp
  | cons char text inductionHypothesis =>
      have positive := List.length_pos_iff.mpr (escapeChar_ne_nil false char)
      simp only [List.flatMap_cons, List.length_append, List.length_cons]
      omega

theorem ReadsBack.str
    (layout : Layout)
    (level room : Nat)
    (text : String) :
    ReadsBack layout level room (.str text) where
  opens := ⟨Char.ofNat 34, _, rfl, by decide, by decide⟩
  reads := by
    intro fuel rest _ enough
    have longer := length_le_length_escaped text.toList
    simp only [chars, stringChars, List.length_append, List.length_cons] at enough
    obtain ⟨fuel, rfl⟩ := Nat.exists_eq_succ_of_ne_zero (by omega : fuel ≠ 0)
    have read := readValue_quote fuel room text.toList rest (by omega)
    rwa [String.ofList_toList] at read

/-- The text of an integer starts with a minus sign or a digit. -/
theorem exists_decimalText_eq_cons (value : Int) :
    ∃ char rest, (Number.decimalText value).toList = char :: rest ∧
      (char = '-' ∨ Number.isPlainDigit char = true) := by
  by_cases negative : value < 0
  · exact ⟨'-', Nat.toDigits 10 value.natAbs, by simp [Number.decimalText, negative], .inl rfl⟩
  · obtain ⟨digit, digits, equal⟩ :=
      List.exists_cons_of_ne_nil (Nat.toDigits_ne_nil (n := value.natAbs) (b := 10))
    have isDigit : Number.isPlainDigit digit = true :=
      Number.isPlainDigit_of_mem_toDigits value.natAbs
        (by rw [equal]; exact List.mem_cons_self)
    exact ⟨digit, digits, by simp [Number.decimalText, negative, equal], .inr isDigit⟩

theorem isSeparator_of_isPlainDigit
    {digit : Char}
    (isDigit : Number.isPlainDigit digit = true) :
    isSeparator digit = false := by
  simp only [Number.isPlainDigit, Bool.and_eq_true, decide_eq_true_eq] at isDigit
  simp only [isSeparator, Bool.or_eq_false_iff, beq_eq_false_iff_ne]
  omega

theorem ReadsBack.int
    (layout : Layout)
    (level room : Nat)
    {value : Int}
    (short : Number.hasText value = true) :
    ReadsBack layout level room (.int value) := by
  obtain ⟨char, others, starts, sign⟩ := exists_decimalText_eq_cons value
  have other (mark : Char) (notSign : mark ≠ '-')
      (notDigit : Number.isPlainDigit mark = false) : char ≠ mark := by
    rintro rfl
    rcases sign with equal | isDigit
    · exact notSign equal
    · rw [notDigit] at isDigit
      exact Bool.false_ne_true isDigit
  have stays : isSeparator char = false :=
    sign.elim (fun equal => by rw [equal]; rfl) isSeparator_of_isPlainDigit
  refine ⟨⟨char, others, ?_, stays, other ']' (by decide) rfl⟩, ?_⟩
  · rw [chars, starts]
  · intro fuel rest ends enough
    rw [chars] at enough ⊢
    rw [starts, List.length_cons] at enough
    obtain ⟨fuel, rfl⟩ := Nat.exists_eq_succ_of_ne_zero (by omega : fuel ≠ 0)
    have notQuote : char.toNat ≠ 34 := by
      intro equal
      apply other '"' (by decide) rfl
      rw [← Char.ofNat_toNat char, equal]
    have read := readScalar_decimalText short ends
    rw [starts, List.cons_append] at read ⊢
    simpa [readValue, notQuote, other '[' (by decide) rfl, other '\x7b' (by decide) rfl]
      using read

/-! ## Lists -/

theorem skipSeparators_cons
    {char : Char}
    (stays : isSeparator char = false)
    (rest : List Char) :
    skipSeparators (char :: rest) = char :: rest := by
  simp [skipSeparators, stays]

theorem skipSeparators_newLine
    (layout : Layout)
    (level : Nat)
    {char : Char}
    (stays : isSeparator char = false)
    (rest : List Char) :
    skipSeparators (newLine layout level ++ char :: rest) = char :: rest := by
  cases layout with
  | compact => exact skipSeparators_cons stays rest
  | spread =>
      have blanks : ∀ blank ∈ '\n' :: List.replicate (2 * level) ' ', isSeparator blank = true := by
        intro blank present
        rcases List.mem_cons.mp present with rfl | present
        · rfl
        · rw [List.eq_of_mem_replicate present]
          rfl
      rw [newLine, skipSeparators, List.dropWhile_append_of_pos blanks]
      exact skipSeparators_cons stays rest

theorem endsValue_newLine
    (layout : Layout)
    (level : Nat)
    {bracket : Char}
    (closes : bracket = ']' ∨ bracket = '\x7d')
    (rest : List Char) :
    EndsValue (newLine layout level ++ bracket :: rest) := by
  cases layout with
  | compact =>
      rcases closes with rfl | rfl
      · exact .inr (.inl rfl)
      · exact .inr (.inr (.inl rfl))
  | spread => exact .inr (.inr (.inr rfl))

/-- The items of a printed list are read back from the first one on. -/
theorem readItems_chars
    {layout : Layout}
    {level room : Nat}
    (outer : Nat)
    (item : Json)
    (items taken : List Json)
    (readBack : ∀ value ∈ item :: items, ReadsBack layout level room value)
    (fuel : Nat)
    (rest : List Char)
    (enough :
      2 * (chars false layout level item ++ itemsChars false layout level items).length < fuel) :
    readItems fuel room taken
        (chars false layout level item ++ itemsChars false layout level items ++
          (newLine layout outer ++ ']' :: rest)) =
      .ok (.arr (taken.reverse ++ item :: items), rest) := by
  induction items generalizing item taken fuel with
  | nil =>
      obtain ⟨fuel, rfl⟩ := Nat.exists_eq_succ_of_ne_zero (by omega : fuel ≠ 0)
      simp only [itemsChars, List.append_nil] at enough ⊢
      have read := (readBack item List.mem_cons_self).reads fuel
        (newLine layout outer ++ ']' :: rest) (endsValue_newLine layout outer (.inl rfl) rest)
        (by omega)
      rw [readItems, read]
      simp only [skipSeparators_newLine layout outer (by decide : isSeparator ']' = false)]
      simp
  | cons next items inductionHypothesis =>
      obtain ⟨fuel, rfl⟩ := Nat.exists_eq_succ_of_ne_zero (by omega : fuel ≠ 0)
      obtain ⟨char, after, starts, stays, _⟩ := (readBack next (by simp)).opens
      simp only [itemsChars, List.append_assoc, List.cons_append, List.length_append,
        List.length_cons] at enough ⊢
      have read := (readBack item List.mem_cons_self).reads fuel
        (',' :: (newLine layout level ++ (chars false layout level next ++
          (itemsChars false layout level items ++ (newLine layout outer ++ ']' :: rest)))))
        (.inl rfl) (by omega)
      have others := inductionHypothesis next (item :: taken)
        (fun value present => readBack value (List.mem_cons_of_mem item present)) fuel
        (by simp only [List.length_append]; omega)
      rw [readItems, read]
      simp only [skipSeparators_cons (show isSeparator ',' = false from rfl)]
      rw [starts] at others ⊢
      simp only [List.cons_append, List.append_assoc] at others ⊢
      rw [skipSeparators_newLine layout level stays, others]
      simp

/-- A list that is not closed at once is read from its first item on. -/
theorem readValue_bracket
    (fuel room : Nat)
    {rest others : List Char}
    {char : Char}
    (skipped : skipSeparators rest = char :: others)
    (notClosing : char ≠ ']') :
    readValue (fuel + 1) (room + 1) ('[' :: rest) = readItems fuel room [] (char :: others) := by
  have notQuote : '['.toNat ≠ 34 := by decide
  simp only [readValue, beq_iff_eq, notQuote, if_false, if_true, skipped]
  split
  · rename_i after equal
    exact absurd (List.cons.inj equal).1 notClosing
  · rfl

theorem ReadsBack.arr
    {layout : Layout}
    {level room : Nat}
    {items : List Json}
    (readBack : ∀ item ∈ items, ReadsBack layout (level + 1) room item) :
    ReadsBack layout level (room + 1) (.arr items) := by
  cases items with
  | nil =>
      refine ⟨⟨'[', [']'], rfl, rfl, by decide⟩, ?_⟩
      intro fuel rest _ enough
      simp only [chars, List.length_cons] at enough
      obtain ⟨fuel, rfl⟩ := Nat.exists_eq_succ_of_ne_zero (by omega : fuel ≠ 0)
      rfl
  | cons item items =>
      refine ⟨⟨'[', _, rfl, rfl, by decide⟩, ?_⟩
      intro fuel rest _ enough
      obtain ⟨char, after, starts, stays, notClosing⟩ := (readBack item (by simp)).opens
      simp only [chars, List.length_cons, List.length_append, List.cons_append,
        List.append_assoc, List.nil_append] at enough ⊢
      obtain ⟨fuel, rfl⟩ := Nat.exists_eq_succ_of_ne_zero (by omega : fuel ≠ 0)
      have read := readItems_chars level item items [] readBack fuel rest
        (by simp only [List.length_append]; omega)
      rw [starts] at read ⊢
      simp only [List.cons_append, List.append_assoc] at read ⊢
      have skipped := skipSeparators_newLine layout (level + 1) stays
      rw [readValue_bracket fuel room (skipped _) notClosing, read]
      rfl

/-! ## Objects -/

/-- A member under a name that is not there yet goes to the end. -/
theorem putMember_of_new
    {name : String}
    {members : List (String × Json)}
    (new : name ∉ members.map Prod.fst)
    (value : Json) :
    putMember name value members = members ++ [(name, value)] := by
  induction members with
  | nil => rfl
  | cons member members inductionHypothesis =>
      simp only [List.map_cons, List.mem_cons, not_or] at new
      have different : (member.1 == name) = false := by simpa using Ne.symm new.1
      rw [putMember, different, inductionHypothesis new.2]
      rfl

/-- A printed name and the mark behind it are read, up to the value. -/
theorem readMembers_name
    (layout : Layout)
    (fuel room : Nat)
    (members : List (String × Json))
    (name : String)
    {char : Char}
    (stays : isSeparator char = false)
    (rest : List Char)
    (enough : name.toList.length < fuel) :
    readMembers (fuel + 1) room members
        (stringChars false name ++ (nameMark layout ++ char :: rest)) =
      match readValue fuel room (char :: rest) with
      | .error fault => .error fault
      | .ok (value, after) =>
          match skipSeparators after with
          | '\x7d' :: others => .ok (.obj (putMember name value members), others)
          | ',' :: others =>
              readMembers fuel room (putMember name value members) (skipSeparators others)
          | others => .error (.malformed .expectingComma others.length) := by
  have afterColon : skipSeparators (nameMark layout ++ char :: rest) =
      ':' :: (nameMark layout ++ char :: rest).tail := by
    cases layout <;> exact skipSeparators_cons rfl _
  have afterMark : skipSeparators (nameMark layout ++ char :: rest).tail = char :: rest := by
    cases layout with
    | compact => exact skipSeparators_cons stays rest
    | spread =>
        change skipSeparators (' ' :: char :: rest) = char :: rest
        simp [skipSeparators, stays, show isSeparator ' ' = true from rfl]
  simp only [stringChars, List.cons_append, List.append_assoc, List.nil_append, readMembers]
  rw [readString_escaped _ fuel [] name.toList _ enough]
  simp only [List.reverse_nil, List.nil_append, String.ofList_toList, afterColon, afterMark]
  rfl

theorem skipSeparators_newLine_string
    (layout : Layout)
    (level : Nat)
    (name : String)
    (rest : List Char) :
    skipSeparators (newLine layout level ++ (stringChars false name ++ rest)) =
      stringChars false name ++ rest :=
  skipSeparators_newLine layout level (by decide) _

/-- The members of a printed object are read back from the first one on. -/
theorem readMembers_chars
    {layout : Layout}
    {level room : Nat}
    (outer : Nat)
    (name : String)
    (value : Json)
    (members taken : List (String × Json))
    (distinct : (taken.map Prod.fst ++ name :: members.map Prod.fst).Nodup)
    (readBack : ∀ member ∈ (name, value) :: members, ReadsBack layout level room member.2)
    (fuel : Nat)
    (rest : List Char)
    (enough : 2 * (stringChars false name ++ nameMark layout ++ chars false layout level value ++
      membersChars false layout level members).length < fuel) :
    readMembers fuel room taken
        (stringChars false name ++ nameMark layout ++ chars false layout level value ++
          membersChars false layout level members ++ (newLine layout outer ++ '\x7d' :: rest)) =
      .ok (.obj (taken ++ (name, value) :: members), rest) := by
  have longer := length_le_length_escaped name.toList
  have quoted : (stringChars false name).length =
      (name.toList.flatMap (escapeChar false)).length + 2 := by simp [stringChars]
  have new : name ∉ taken.map Prod.fst := fun present =>
    (List.nodup_append.mp distinct).2.2 name present name List.mem_cons_self rfl
  obtain ⟨fuel, rfl⟩ := Nat.exists_eq_succ_of_ne_zero (by omega : fuel ≠ 0)
  obtain ⟨char, after, starts, stays, _⟩ := (readBack (name, value) List.mem_cons_self).opens
  have readValueBack := (readBack (name, value) List.mem_cons_self).reads fuel
  have comma (rest : List Char) : EndsValue (',' :: rest) := Or.inl rfl
  simp only [starts, List.cons_append, List.length_cons] at readValueBack
  cases members with
  | nil =>
      simp only [membersChars, List.append_nil, List.append_assoc, List.length_append, starts,
        List.cons_append, List.length_cons] at enough ⊢
      rw [readMembers_name layout fuel room taken name stays _ (by omega),
        readValueBack _ (endsValue_newLine layout outer (.inr rfl) rest) (by omega)]
      simp only [skipSeparators_newLine layout outer (by decide : isSeparator '\x7d' = false),
        putMember_of_new new]
  | cons next members =>
      obtain ⟨nextName, nextValue⟩ := next
      have others := readMembers_chars outer nextName nextValue members (taken ++ [(name, value)])
        (by simpa using distinct)
        (fun member present => readBack member (List.mem_cons_of_mem _ present)) fuel rest
        (by
          simp only [membersChars, List.length_append, List.length_cons] at enough ⊢
          omega)
      simp only [membersChars, List.append_assoc, List.length_append, List.length_cons, starts,
        List.cons_append] at enough others ⊢
      rw [readMembers_name layout fuel room taken name stays _ (by omega),
        readValueBack _ (comma _) (by omega)]
      simp only [skipSeparators_cons (show isSeparator ',' = false from rfl),
        putMember_of_new new, skipSeparators_newLine_string]
      rw [others]
      simp

/-- An object that is not closed at once is read from its first member on. -/
theorem readValue_brace
    (fuel room : Nat)
    {rest others : List Char}
    {char : Char}
    (skipped : skipSeparators rest = char :: others)
    (notClosing : char ≠ '\x7d') :
    readValue (fuel + 1) (room + 1) ('\x7b' :: rest) =
      readMembers fuel room [] (char :: others) := by
  have notQuote : '\x7b'.toNat ≠ 34 := by decide
  have notBracket : '\x7b' ≠ '[' := by decide
  simp only [readValue, beq_iff_eq, notQuote, notBracket, if_false, if_true, skipped]
  split
  · rename_i after equal
    exact absurd (List.cons.inj equal).1 notClosing
  · rfl

theorem ReadsBack.obj
    {layout : Layout}
    {level room : Nat}
    {members : List (String × Json)}
    (distinct : (members.map Prod.fst).Nodup)
    (readBack : ∀ member ∈ members, ReadsBack layout (level + 1) room member.2) :
    ReadsBack layout level (room + 1) (.obj members) := by
  cases members with
  | nil =>
      refine ⟨⟨'\x7b', ['\x7d'], rfl, rfl, by decide⟩, ?_⟩
      intro fuel rest _ enough
      simp only [chars, List.length_cons] at enough
      obtain ⟨fuel, rfl⟩ := Nat.exists_eq_succ_of_ne_zero (by omega : fuel ≠ 0)
      rfl
  | cons member members =>
      obtain ⟨name, value⟩ := member
      refine ⟨⟨'\x7b', _, rfl, rfl, by decide⟩, ?_⟩
      intro fuel rest _ enough
      simp only [chars, List.length_cons, List.length_append, List.cons_append,
        List.append_assoc, List.nil_append] at enough ⊢
      obtain ⟨fuel, rfl⟩ := Nat.exists_eq_succ_of_ne_zero (by omega : fuel ≠ 0)
      have read := readMembers_chars level name value members [] (by simpa using distinct)
        readBack fuel rest (by simp only [List.length_append]; omega)
      simp only [List.append_assoc] at read
      rw [readValue_brace fuel room (skipSeparators_newLine_string layout (level + 1) name _)
        (by decide)]
      exact read

/-! ## Whole texts -/

/-- Reading the text of a value gives the value. -/
theorem read_print
    {layout : Layout}
    {value : Json}
    (readBack : ReadsBack layout 0 nestingLimit value) :
    read (print layout value).toList = .ok value := by
  obtain ⟨char, after, starts, stays, _⟩ := readBack.opens
  have whole := readBack.reads (2 * (chars false layout 0 value).length + 2) [] trivial (by omega)
  have skipped : skipSeparators (chars false layout 0 value) = chars false layout 0 value := by
    rw [starts]
    exact skipSeparators_cons stays after
  rw [List.append_nil] at whole
  rw [print, String.toList_ofList, read, skipped, whole]
  rfl

end Json
end Wordbook
