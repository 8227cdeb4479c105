import Mathlib.Tactic.Common
import Wordbook.Json.Reader

/-!
# Why reading gives up

Reading leaves an end of the text.  It gives up for an integer only in a text with as many digits in
a row, and for nesting only in a text with more opening brackets than there was room for.
-/

namespace Wordbook
namespace Json

/-- A bracket that opens an array or an object. -/
def isOpening (char : Char) : Bool := char == '[' || char == '\x7b'

/-- A text has a number of digits in a row. -/
def HasDigits (chars : List Char) (count : Nat) : Prop :=
  ∃ digits, digits <:+: chars ∧ digits.length = count ∧
    ∀ digit ∈ digits, Number.isPlainDigit digit = true

/-- An outcome of reading a text, with room for a depth of containers, has its reason in the
text. -/
def Explained {Result : Type} (room : Nat) (chars : List Char) : Reading Result → Prop
  | .ok (_, rest) => rest <:+ chars
  | .error (.malformed _ _) => True
  | .error (.tooManyDigits count) => Number.digitLimit < count ∧ HasDigits chars count
  | .error .tooDeep => room < chars.countP isOpening

namespace Explained

variable {Result : Type} {room : Nat} {chars rest : List Char} {outcome : Reading Result}

/-- What explains an outcome in the end of a text explains it in the whole. -/
theorem of_suffix
    (explained : Explained room rest outcome)
    (ending : rest <:+ chars) :
    Explained room chars outcome := by
  match outcome with
  | .ok (_, _) => exact List.IsSuffix.trans explained ending
  | .error (.malformed _ _) => trivial
  | .error (.tooManyDigits _) =>
      obtain ⟨long, digits, inside, counted, areDigits⟩ := explained
      exact ⟨long, digits, inside.trans ending.isInfix, counted, areDigits⟩
  | .error .tooDeep => exact Nat.lt_of_lt_of_le explained (ending.sublist.countP_le)

/-- An opening bracket takes one from the room. -/
theorem of_opening
    {bracket : Char}
    (explained : Explained room rest outcome)
    (opening : isOpening bracket = true) :
    Explained (room + 1) (bracket :: rest) outcome := by
  have whole := explained.of_suffix (List.suffix_cons bracket rest)
  match outcome with
  | .ok (_, _) => exact whole
  | .error (.malformed _ _) => trivial
  | .error (.tooManyDigits _) => exact whole
  | .error .tooDeep =>
      rw [Explained, List.countP_cons_of_pos opening]
      exact Nat.succ_lt_succ explained

/-- A fault explains the same fault of another reading. -/
theorem of_fault
    {Other : Type}
    {fault : ReadFault}
    (explained : Explained room chars (.error fault : Reading Result)) :
    Explained room chars (.error fault : Reading Other) := by
  cases fault <;> exact explained

end Explained

/-! ## Values without parts -/

theorem skipSeparators_suffix (chars : List Char) : skipSeparators chars <:+ chars :=
  List.dropWhile_suffix isSeparator

theorem readUnit_suffix
    {chars rest : List Char}
    {unit : Nat}
    (read : readUnit? chars = some (unit, rest)) :
    rest <:+ chars := by
  unfold readUnit? at read
  split at read
  · simp only [Option.bind_eq_bind, Option.bind_eq_some_iff] at read
    obtain ⟨_, _, _, _, _, _, _, _, read⟩ := read
    split at read
    · contradiction
    · cases read
      exact ⟨[_, _, _, _], rfl⟩
  · contradiction

theorem explained_readUnicodeEscape (room : Nat) (chars : List Char) :
    Explained room chars (readUnicodeEscape chars) := by
  unfold readUnicodeEscape
  cases first : readUnit? chars with
  | none => trivial
  | some found =>
    obtain ⟨unit, rest⟩ := found
    have ending : rest <:+ chars := readUnit_suffix first
    dsimp only
    split_ifs with high
    · split
      · rename_i others
        split_ifs with short
        · exact ending
        · cases second : readUnit? others with
          | none => trivial
          | some found =>
            obtain ⟨low, after⟩ := found
            dsimp only
            split_ifs with pair
            · exact (readUnit_suffix second).trans (((List.suffix_cons _ _).trans
                (List.suffix_cons _ _)).trans ending)
            · exact ending
      · exact ending
    · exact ending

theorem explained_readString
    (room : Nat)
    (opening : List Char)
    (fuel : Nat)
    (taken chars : List Char) :
    Explained room chars (readString opening fuel taken chars) := by
  induction fuel generalizing taken chars with
  | zero => trivial
  | succ fuel inductionHypothesis =>
    cases chars with
    | nil => trivial
    | cons char rest =>
      have onward {after : List Char} (ending : after <:+ rest) (taken : List Char) :
          Explained room (char :: rest) (readString opening fuel taken after) :=
        (inductionHypothesis taken after).of_suffix (ending.trans (List.suffix_cons char rest))
      unfold readString
      split_ifs with quote escape control
      · exact List.suffix_cons char rest
      · cases rest with
        | nil => trivial
        | cons mark others =>
          have inside : others <:+ mark :: others := List.suffix_cons mark others
          dsimp only
          split_ifs with unicode
          · have escaped := explained_readUnicodeEscape room others
            rcases read : readUnicodeEscape others with fault | ⟨decoded, after⟩
            · rw [read] at escaped
              exact (escaped.of_suffix (inside.trans (List.suffix_cons char _))).of_fault
            · rw [read] at escaped
              exact onward (List.IsSuffix.trans escaped inside) _
          · cases shortEscape? mark with
            | none => trivial
            | some decoded => exact onward inside _
      · trivial
      · exact onward (List.suffix_refl rest) _

/-- The digits of a number stand in front of what is left. -/
theorem readWhole_append
    {chars whole rest : List Char}
    (read : readWhole? chars = some (whole, rest)) :
    whole ++ rest = chars ∧ ∀ digit ∈ whole, Number.isPlainDigit digit = true := by
  unfold readWhole? at read
  split at read
  · cases read
    refine ⟨rfl, ?_⟩
    intro digit present
    rw [List.mem_singleton.mp present]
    rfl
  · rename_i char others _
    split at read
    · rename_i isDigit
      cases read
      refine ⟨congrArg (char :: ·) List.takeWhile_append_dropWhile, ?_⟩
      intro digit present
      rcases List.mem_cons.mp present with rfl | later
      · exact isDigit
      · exact List.all_eq_true.mp List.all_takeWhile digit later
    · contradiction
  · contradiction

theorem readFraction_suffix (chars : List Char) : (readFraction chars).2 <:+ chars := by
  unfold readFraction
  split
  · dsimp only
    split_ifs
    · exact List.suffix_refl _
    · exact (List.dropWhile_suffix _).trans (List.suffix_cons _ _)
  · exact List.suffix_refl _

theorem splitSign_suffix (chars : List Char) : (Number.splitSign chars).2 <:+ chars := by
  unfold Number.splitSign
  split
  · exact List.suffix_cons _ _
  · exact List.suffix_cons _ _
  · exact List.suffix_refl _

theorem readPower_suffix
    {chars rest : List Char}
    {power : Int}
    (read : readPower? chars = some (power, rest)) :
    rest <:+ chars := by
  unfold readPower? at read
  split at read
  · rename_i mark others
    split at read
    · dsimp only at read
      split at read
      · contradiction
      · cases read
        exact ((List.dropWhile_suffix _).trans (splitSign_suffix others)).trans
          (List.suffix_cons mark others)
    · contradiction
  · contradiction

theorem explained_readNumber
    (room : Nat)
    (negative : Bool)
    (start body : List Char) :
    Explained room body (readNumber negative start body) := by
  unfold readNumber
  cases read : readWhole? body with
  | none => trivial
  | some found =>
    obtain ⟨whole, afterWhole⟩ := found
    obtain ⟨split, areDigits⟩ := readWhole_append read
    have wholeEnding : afterWhole <:+ body := ⟨whole, split⟩
    have fractionEnding : (readFraction afterWhole).2 <:+ body :=
      (readFraction_suffix afterWhole).trans wholeEnding
    dsimp only
    cases powered : readPower? (readFraction afterWhole).2 with
    | some found => exact (readPower_suffix powered).trans fractionEnding
    | none =>
      dsimp only
      split_ifs with integral long
      · exact ⟨long, whole, ⟨[], afterWhole, split⟩, rfl, areDigits⟩
      · exact wholeEnding
      · exact fractionEnding

theorem afterWord_suffix
    {word chars rest : List Char}
    (read : afterWord? word chars = some rest) :
    rest <:+ chars := by
  induction word generalizing chars with
  | nil =>
      cases read
      exact List.suffix_refl _
  | cons letter word inductionHypothesis =>
      cases chars with
      | nil => contradiction
      | cons char chars =>
          rw [afterWord?] at read
          split at read
          · exact (inductionHypothesis read).trans (List.suffix_cons char chars)
          · contradiction

theorem explained_readScalar (room : Nat) (chars : List Char) :
    Explained room chars (readScalar chars) := by
  unfold readScalar
  cases word : readWord? chars with
  | some reading =>
      obtain ⟨entry, _, taken⟩ := List.exists_of_findSome?_eq_some word
      obtain ⟨rest, after, rfl⟩ := Option.map_eq_some_iff.mp taken
      exact afterWord_suffix after
  | none =>
      dsimp only
      split
      · rename_i body
        exact (explained_readNumber room true _ body).of_suffix (List.suffix_cons _ body)
      · exact explained_readNumber room false chars chars

/-! ## Containers -/

/-- Reading with some fuel is explained for every depth and text, for values, for items and for
members alike. -/
structure ExplainedAt (fuel : Nat) : Prop where
  value : ∀ room chars, Explained room chars (readValue fuel room chars)
  items : ∀ room before chars, Explained room chars (readItems fuel room before chars)
  members : ∀ room before chars, Explained room chars (readMembers fuel room before chars)

namespace ExplainedAt

variable {fuel : Nat} (below : ExplainedAt fuel)

include below

theorem readValue_succ (room : Nat) (chars : List Char) :
    Explained room chars (readValue (fuel + 1) room chars) := by
  unfold readValue
  cases chars with
  | nil => trivial
  | cons char rest =>
    have ending : rest <:+ char :: rest := List.suffix_cons char rest
    have inside : skipSeparators rest <:+ rest := skipSeparators_suffix rest
    dsimp only
    split_ifs with quote array object
    · have string := explained_readString room (char :: rest) fuel [] rest
      rcases read : readString (char :: rest) fuel [] rest with fault | ⟨text, after⟩
      · rw [read] at string
        exact (string.of_suffix ending).of_fault
      · rw [read] at string
        exact List.IsSuffix.trans string ending
    · have opening : isOpening char = true := by rw [isOpening, array, Bool.true_or]
      cases room with
      | zero => simp [Explained, opening]
      | succ room =>
        dsimp only
        split
        · rename_i after closed
          exact ((List.suffix_cons _ after).trans (closed ▸ inside)).trans ending
        · exact ((below.items room [] _).of_suffix inside).of_opening opening
    · have opening : isOpening char = true := by rw [isOpening, object, Bool.or_true]
      cases room with
      | zero => simp [Explained, opening]
      | succ room =>
        dsimp only
        split
        · rename_i after closed
          exact ((List.suffix_cons _ after).trans (closed ▸ inside)).trans ending
        · exact ((below.members room [] _).of_suffix inside).of_opening opening
    · exact explained_readScalar room (char :: rest)

theorem readItems_succ (room : Nat) (before : List Json) (chars : List Char) :
    Explained room chars (readItems (fuel + 1) room before chars) := by
  unfold readItems
  have first := below.value room chars
  rcases read : readValue fuel room chars with fault | ⟨item, after⟩
  · rw [read] at first
    exact first
  · rw [read] at first
    have ending : after <:+ chars := first
    have inside : skipSeparators after <:+ chars := (skipSeparators_suffix after).trans ending
    dsimp only
    split
    · rename_i rest closed
      exact (List.suffix_cons _ rest).trans (closed ▸ inside)
    · rename_i rest another
      exact (below.items room _ _).of_suffix ((skipSeparators_suffix rest).trans
        ((List.suffix_cons _ rest).trans (another ▸ inside)))
    · trivial

theorem readMembers_succ (room : Nat) (before : List (String × Json)) (chars : List Char) :
    Explained room chars (readMembers (fuel + 1) room before chars) := by
  unfold readMembers
  cases chars with
  | nil => trivial
  | cons char rest =>
    have ending : rest <:+ char :: rest := List.suffix_cons char rest
    dsimp only
    split_ifs with quote
    · have string := explained_readString room (char :: rest) fuel [] rest
      rcases read : readString (char :: rest) fuel [] rest with fault | ⟨name, afterName⟩
      · rw [read] at string
        exact (string.of_suffix ending).of_fault
      · rw [read] at string
        have named : skipSeparators afterName <:+ char :: rest :=
          (skipSeparators_suffix afterName).trans (List.IsSuffix.trans string ending)
        dsimp only
        split
        · rename_i afterColon colon
          have valueEnding : skipSeparators afterColon <:+ char :: rest :=
            (skipSeparators_suffix afterColon).trans
              ((List.suffix_cons _ afterColon).trans (colon ▸ named))
          have second := (below.value room (skipSeparators afterColon)).of_suffix valueEnding
          rcases taken : readValue fuel room (skipSeparators afterColon) with
            fault | ⟨value, after⟩
          · rw [taken] at second
            exact second
          · rw [taken] at second
            have inside : skipSeparators after <:+ char :: rest :=
              (skipSeparators_suffix after).trans second
            dsimp only
            split
            · rename_i others closed
              exact (List.suffix_cons _ others).trans (closed ▸ inside)
            · rename_i others another
              exact (below.members room _ _).of_suffix ((skipSeparators_suffix others).trans
                ((List.suffix_cons _ others).trans (another ▸ inside)))
            · trivial
        · trivial
    · trivial

end ExplainedAt

theorem explainedAt (fuel : Nat) : ExplainedAt fuel := by
  induction fuel with
  | zero => exact ⟨fun _ _ => trivial, fun _ _ _ => trivial, fun _ _ _ => trivial⟩
  | succ fuel below => exact ⟨below.readValue_succ, below.readItems_succ, below.readMembers_succ⟩

/-- The fault of a whole text is explained in it. -/
theorem explained_read
    {chars : List Char}
    {fault : ReadFault}
    (fails : read chars = .error fault) :
    Explained nestingLimit chars (.error fault : Reading Json) := by
  have value := ((explainedAt (2 * chars.length + 2)).value nestingLimit _).of_suffix
    (skipSeparators_suffix chars)
  unfold read at fails
  split at fails
  · rename_i found
    cases fails
    rwa [found] at value
  · split at fails
    · contradiction
    · cases fails
      trivial

/-- A text fails for an integer of too many digits only if it has as many digits in a row. -/
theorem hasDigits_of_read_tooManyDigits
    {chars : List Char}
    {count : Nat}
    (fails : read chars = .error (.tooManyDigits count)) :
    Number.digitLimit < count ∧ HasDigits chars count :=
  explained_read fails

/-- A text fails for its nesting only if it has more opening brackets than the limit. -/
theorem nestingLimit_lt_of_read_tooDeep
    {chars : List Char}
    (fails : read chars = .error .tooDeep) :
    nestingLimit < chars.countP isOpening :=
  explained_read fails

end Json
end Wordbook
