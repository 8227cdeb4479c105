import Wordbook.Proofs.Json.Display
import Wordbook.Proofs.Number.Reading
import Wordbook.Proofs.Outcome
import Wordbook.Relation

/-!
# Reading identifiers

An identifier is read from an integer and from its text, blanks around it dropped.  Lists, objects
and truth values are read as none, so it makes no difference whether they are refused for what they
are or for what their text says: all requests read the same identifier from a value.
-/

namespace Wordbook
namespace Relation

variable {value : Json} {id : Int}

theorem isMissing_str (text : String) : isMissing (.str text) = Text.allBlank text := rfl

/-- A reference that an identifier is read from is not missing. -/
theorem not_isMissing_of_idOfText? (read : idOfText? value = some id) : isMissing value = false := by
  cases value with
  | str text =>
      by_contra blank
      rw [isMissing_str, Bool.not_eq_false] at blank
      rw [idOfText?, Json.plain, Text.trim_eq_empty_of_allBlank blank] at read
      contradiction
  | null => contradiction
  | bool | int | float | arr | obj => rfl

/-! ## Spellings of an identifier -/

/-- A value is an integer, or its decimal text with blanks around it or none. -/
inductive Spells : Json → Int → Prop
  | integer (id : Int) : Spells (.int id) id
  | text
      {text : String}
      {front back : List Char}
      {id : Int}
      (frontBlank : ∀ char ∈ front, Text.isBlank char = true)
      (backBlank : ∀ char ∈ back, Text.isBlank char = true)
      (whole : text.toList = front ++ (Number.decimalText id).toList ++ back) :
      Spells (.str text) id

theorem spells_decimalText (id : Int) : Spells (.str (Number.decimalText id)) id :=
  @Spells.text _ [] [] id nofun nofun (List.append_nil _).symm

theorem Spells.trim_plain (spells : Spells value id) :
    Text.trim value.plain = Number.decimalText id := by
  cases spells with
  | integer =>
      have plain : (Json.int id).plain = Number.decimalText id := String.ofList_toList
      rw [plain, Number.trim_decimalText]
  | text frontBlank backBlank whole =>
      rw [Json.plain, Text.trim, whole, Text.trimBy_append frontBlank backBlank]
      exact Number.trim_decimalText id

/-- An identifier is read from each of its spellings, if it has a text at all. -/
theorem Spells.idOfText?_eq (spells : Spells value id) :
    idOfText? value = if Number.hasText id = true then some id else none := by
  rw [idOfText?, spells.trim_plain, Number.readDecimal_decimalText]
  by_cases short : Number.hasText id = true
  · rw [if_pos short, if_pos short]
  · rw [if_neg short, if_neg short]

/-! ## Values that are read -/

/-- No identifier is read from a text that starts with a character foreign to numbers. -/
theorem idOfText?_of_foreign
    {first : Char}
    {rest : List Char}
    (foreign : Number.IsForeign first)
    (solid : Text.isBlank first = false)
    (starts : value.plain.toList = first :: rest) :
    idOfText? value = none := by
  obtain ⟨trimmed, same⟩ := Text.exists_trimBy_cons solid rest
  rw [idOfText?, Number.readDecimal, Text.trim, String.toList_ofList, starts, same,
    Number.readInt_of_foreign foreign]

theorem idOfText?_arr (items : List Json) : idOfText? (.arr items) = none := by
  obtain ⟨rest, starts⟩ : ∃ rest, (Json.arr items).plain.toList = '[' :: rest := by
    cases items <;> exact ⟨_, String.toList_ofList⟩
  exact idOfText?_of_foreign (by decide) (by decide) starts

theorem idOfText?_obj (members : List (String × Json)) : idOfText? (.obj members) = none := by
  obtain ⟨rest, starts⟩ : ∃ rest, (Json.obj members).plain.toList = '\x7b' :: rest := by
    cases members <;> exact ⟨_, String.toList_ofList⟩
  exact idOfText?_of_foreign (by decide) (by decide) starts

theorem idOfText?_bool (truth : Bool) : idOfText? (.bool truth) = none := by
  cases truth <;> decide +kernel

/-- What an identifier is read from can be shown. -/
theorem written_of_idOfText? (read : idOfText? value = some id) :
    value.written = .ok value.plain := by
  cases value with
  | int integer =>
      rw [(Spells.integer integer).idOfText?_eq] at read
      split at read
      case isTrue short =>
        have shown : Json.obstacle? (984 + 1) (.int integer) = none :=
          Json.obstacle?_succ_eq_none_iff.mpr ⟨fun _ same => Json.int.inj same ▸ short, nofun⟩
        rw [Json.written, Json.displayLimit, shown]
      case isFalse => cases read
  | arr items => simp [idOfText?_arr] at read
  | obj members => simp [idOfText?_obj] at read
  | null | bool | float | str => rfl

/-- An identifier is taken from a value exactly when it is read from its text. -/
theorem takeId_eq_ok_iff_idOfText? : takeId value = .ok id ↔ idOfText? value = some id := by
  rw [takeId, bind_eq_ok_iff]
  simp only [mapError_eq_ok_iff]
  constructor
  · rintro ⟨_, -, taken⟩
    unfold readId at taken
    split at taken
    · cases taken
    · split at taken
      · cases taken
      · split at taken
        case h_1 read => rw [read, Except.ok.inj taken]
        case h_2 => cases taken
  · intro read
    refine ⟨_, written_of_idOfText? read, ?_⟩
    unfold readId
    rw [if_neg (ne_true_of_eq_false (not_isMissing_of_idOfText? read))]
    split
    · simp [idOfText?_bool] at read
    · rw [read]

/-- An identifier that is taken was given. -/
theorem not_isMissing_of_takeId (taken : takeId value = .ok id) : isMissing value = false :=
  not_isMissing_of_idOfText? (takeId_eq_ok_iff_idOfText?.mp taken)

/-- An identifier is sought by a reference exactly when it is read from its text. -/
theorem soughtId_eq_ok_iff : soughtId value = .ok (some id) ↔ idOfText? value = some id := by
  constructor
  · intro sought
    unfold soughtId at sought
    split at sought
    · exact Except.ok.inj sought
    · cases sought
    · cases sought
  · intro read
    rw [soughtId, written_of_idOfText? read, read]

end Relation
end Wordbook
