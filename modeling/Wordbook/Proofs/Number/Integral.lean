import Mathlib.Data.Rat.Cast.CharZero
import Mathlib.Tactic.FieldSimp
import Mathlib.Tactic.Push
import Mathlib.Tactic.Ring
import Wordbook.Json.Basic
import Wordbook.Number.Binary64

/-!
# Floating point numbers that are integers

A finite number is an integer over a power of two.  It is an integer exactly when the division
leaves no remainder, and then the integer is the quotient.
-/

namespace Wordbook
namespace Number

theorem signed_mul (negative : Bool) (first second : Nat) :
    signed negative (first * second) = signed negative first * second := by
  cases negative <;> simp [signed]

theorem natAbs_signed (negative : Bool) (number : Nat) :
    (signed negative number).natAbs = number := by
  cases negative <;> simp [signed]

/-- A number with a sign is a multiple of another exactly when the division leaves no remainder, and
then the quotient with that sign is the factor. -/
theorem signed_eq_mul_iff
    {negative : Bool}
    {numerator denominator : Nat}
    {factor : Int}
    (positive : 0 < denominator) :
    signed negative numerator = factor * denominator ↔
      numerator % denominator = 0 ∧ signed negative (numerator / denominator) = factor := by
  constructor
  · intro multiple
    have divides : denominator ∣ numerator := by
      rw [← natAbs_signed negative numerator, ← Int.natCast_dvd, multiple]
      exact dvd_mul_left _ _
    refine ⟨Nat.mod_eq_zero_of_dvd divides, ?_⟩
    rw [← Nat.div_mul_cancel divides, signed_mul] at multiple
    exact Int.eq_of_mul_eq_mul_right (by omega) multiple
  · rintro ⟨divides, rfl⟩
    rw [← signed_mul, Nat.div_mul_cancel (Nat.dvd_of_mod_eq_zero divides)]

namespace Parts

/-- The value of a finite number. -/
def value (parts : Parts) : ℚ :=
  (if parts.negative then -1 else 1) * (parts.mantissa * 2 ^ parts.exponent)

variable {parts : Parts}

theorem ratio_snd_pos (parts : Parts) : 0 < parts.ratio.2 := by
  unfold ratio
  split
  · exact Nat.one_pos
  · exact Nat.pow_pos (by decide)

/-- The absolute value of a finite number is its ratio. -/
theorem mantissa_mul_eq_ratio (parts : Parts) :
    (parts.mantissa * 2 ^ parts.exponent : ℚ) = parts.ratio.1 / parts.ratio.2 := by
  unfold ratio
  split
  case isTrue large =>
    obtain ⟨power, same⟩ : ∃ power : Nat, parts.exponent = power :=
      ⟨parts.exponent.natAbs, by omega⟩
    simp [same]
  case isFalse small =>
    obtain ⟨power, same⟩ : ∃ power : Nat, parts.exponent = -(power : Int) :=
      ⟨parts.exponent.natAbs, by omega⟩
    simp [same, div_eq_mul_inv]

theorem value_eq_ratio (parts : Parts) :
    parts.value = (signed parts.negative parts.ratio.1 : ℚ) / parts.ratio.2 := by
  rw [value, mantissa_mul_eq_ratio, signed]
  split <;> push_cast <;> ring

/-- A finite number is an integer exactly when its ratio is one, and then it is the integer that
cutting off gives. -/
theorem value_eq_intCast_iff {number : Int} :
    parts.value = number ↔ parts.isIntegral = true ∧ parts.truncate = number := by
  have positive := parts.ratio_snd_pos
  rw [value_eq_ratio, div_eq_iff (by exact_mod_cast positive.ne')]
  norm_cast
  rw [signed_eq_mul_iff positive, isIntegral, truncate, beq_iff_eq]

end Parts
end Number

/-! ## Values that are integers -/

namespace Json

/-- A value is a number equal to an integer. -/
inductive IsInteger : Json → Int → Prop
  | int (number : Int) : IsInteger (.int number) number
  | float {value : Float} {parts : Number.Parts} {number : Int}
      (finite : Number.shape value = .finite parts)
      (same : parts.value = number) : IsInteger (.float value) number

/-- The integer that a number is, a float that is equal to one included. -/
def integer? : Json → Option Int
  | .int number => some number
  | .float number =>
      match Number.shape number with
      | .finite parts => if parts.isIntegral then some parts.truncate else none
      | _ => none
  | _ => none

theorem integer?_eq_some_iff {value : Json} {number : Int} :
    value.integer? = some number ↔ value.IsInteger number := by
  constructor
  · intro found
    unfold integer? at found
    split at found
    · cases found
      exact .int number
    · split at found
      · rename_i parts finite
        split at found
        · rename_i integral
          cases found
          exact .float finite (Number.Parts.value_eq_intCast_iff.mpr ⟨integral, rfl⟩)
        · cases found
      · cases found
    · cases found
  · rintro (_ | ⟨finite, same⟩)
    · rfl
    · obtain ⟨integral, rfl⟩ := Number.Parts.value_eq_intCast_iff.mp same
      simp [integer?, finite, integral]

end Json
end Wordbook
