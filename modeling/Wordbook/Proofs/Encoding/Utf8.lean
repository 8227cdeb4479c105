import Mathlib.Tactic.Common
import Wordbook.Encoding

/-!
# UTF-8 read back

The bytes of a character are decoded by one step to the same character, so the bytes of a text are
decoded to the text.  Bytes that start with two ASCII characters announce no other encoding.
-/

namespace Wordbook
namespace Encoding

@[simp] theorem encodeUtf8_nil : encodeUtf8 [] = [] := rfl

@[simp] theorem encodeUtf8_cons (char : Char) (chars : List Char) :
    encodeUtf8 (char :: chars) = utf8Char char ++ encodeUtf8 chars := rfl

theorem toNat_ofNat_of_lt (code : Nat) (small : code < 256) :
    (UInt8.ofNat code).toNat = code := by
  simpa using Nat.mod_eq_of_lt small

/-- A byte that carries six bits of a character goes on with it. -/
theorem isContinuation_of_toNat
    {byte : UInt8}
    {bits : Nat}
    (carried : byte.toNat = 0x80 + bits)
    (small : bits < 64) :
    isContinuation byte = true := by
  rw [isContinuation, carried, beq_iff_eq]
  omega

theorem lowBits_of_toNat
    {byte : UInt8}
    {bits : Nat}
    (carried : byte.toNat = 0x80 + bits)
    (small : bits < 64) :
    lowBits byte = bits := by
  rw [lowBits, carried]
  omega

theorem char_toNat_lt (char : Char) : char.toNat < 0x110000 := by
  have valid := char.valid
  simp only [UInt32.isValidChar, Nat.isValidChar] at valid
  rw [Char.toNat]
  omega

/-- A character is not a surrogate, so it stands at its own code point. -/
theorem charOf_toNat (char : Char) : Text.charOf char.toNat = char := by
  have valid := char.valid
  simp only [UInt32.isValidChar, Nat.isValidChar] at valid
  have outside : ¬(0xd800 ≤ char.toNat ∧ char.toNat ≤ 0xdfff) := by
    rw [Char.toNat]
    omega
  simp only [Text.charOf, Bool.and_eq_true, decide_eq_true_eq, if_neg outside, Char.ofNat_toNat]

/-! ## One character -/

theorem utf8Step_one
    (lead : UInt8)
    (small : lead.toNat < 0x80)
    (rest : List UInt8) :
    utf8Step true lead rest = .code lead.toNat 1 := by
  simp [utf8Step, small]

theorem utf8Step_two
    {lead second : UInt8}
    {top low : Nat}
    (leadCarries : lead.toNat = 0xc0 + top)
    (secondCarries : second.toNat = 0x80 + low)
    (topLarge : 2 ≤ top)
    (topSmall : top < 32)
    (lowSmall : low < 64)
    (rest : List UInt8) :
    utf8Step true lead (second :: rest) = .code (top * 64 + low) 2 := by
  have goesOn := isContinuation_of_toNat secondCarries lowSmall
  have bits := lowBits_of_toNat secondCarries lowSmall
  have notAscii : ¬0xc0 + top < 0x80 := by omega
  have isLead : ¬(0xc0 + top < 0xc2 ∨ 0xf5 ≤ 0xc0 + top) := by omega
  have width : 0xc0 + top < 0xe0 := by omega
  simp [utf8Step, leadCarries, goesOn, bits, notAscii, isLead, width]

theorem utf8Step_three
    {lead second third : UInt8}
    {top middle low : Nat}
    (leadCarries : lead.toNat = 0xe0 + top)
    (secondCarries : second.toNat = 0x80 + middle)
    (thirdCarries : third.toNat = 0x80 + low)
    (topSmall : top < 16)
    (middleSmall : middle < 64)
    (lowSmall : low < 64)
    (shortest : top = 0 → 0x20 ≤ middle)
    (rest : List UInt8) :
    utf8Step true lead (second :: third :: rest) =
      .code (top * 4096 + middle * 64 + low) 3 := by
  have secondGoesOn := isContinuation_of_toNat secondCarries middleSmall
  have secondBits := lowBits_of_toNat secondCarries middleSmall
  have thirdGoesOn := isContinuation_of_toNat thirdCarries lowSmall
  have thirdBits := lowBits_of_toNat thirdCarries lowSmall
  have notAscii : ¬0xe0 + top < 0x80 := by omega
  have isLead : ¬(0xe0 + top < 0xc2 ∨ 0xf5 ≤ 0xe0 + top) := by omega
  have notTwo : ¬0xe0 + top < 0xe0 := by omega
  have width : 0xe0 + top < 0xf0 := by omega
  have notOverlong : ¬(top = 0 ∧ 0x80 + middle < 0xa0) := by omega
  simp [utf8Step, leadCarries, secondCarries, secondGoesOn, secondBits, thirdGoesOn, thirdBits,
    notAscii, isLead, width, notOverlong]

theorem utf8Step_four
    {lead second third fourth : UInt8}
    {top high middle low : Nat}
    (leadCarries : lead.toNat = 0xf0 + top)
    (secondCarries : second.toNat = 0x80 + high)
    (thirdCarries : third.toNat = 0x80 + middle)
    (fourthCarries : fourth.toNat = 0x80 + low)
    (topSmall : top < 5)
    (highSmall : high < 64)
    (middleSmall : middle < 64)
    (lowSmall : low < 64)
    (shortest : top = 0 → 0x10 ≤ high)
    (inRange : top = 4 → high < 0x10)
    (rest : List UInt8) :
    utf8Step true lead (second :: third :: fourth :: rest) =
      .code (top * 262144 + high * 4096 + middle * 64 + low) 4 := by
  have secondGoesOn := isContinuation_of_toNat secondCarries highSmall
  have secondBits := lowBits_of_toNat secondCarries highSmall
  have thirdGoesOn := isContinuation_of_toNat thirdCarries middleSmall
  have thirdBits := lowBits_of_toNat thirdCarries middleSmall
  have fourthGoesOn := isContinuation_of_toNat fourthCarries lowSmall
  have fourthBits := lowBits_of_toNat fourthCarries lowSmall
  have notAscii : ¬0xf0 + top < 0x80 := by omega
  have isLead : ¬(0xf0 + top < 0xc2 ∨ 0xf5 ≤ 0xf0 + top) := by omega
  have notTwo : ¬0xf0 + top < 0xe0 := by omega
  have notThree : ¬0xf0 + top < 0xf0 := by omega
  have notOverlong :
      ¬((top = 0 ∧ 0x80 + high < 0x90) ∨ 0xf0 + top = 0xf4 ∧ 0x90 ≤ 0x80 + high) := by
    omega
  simp [utf8Step, leadCarries, secondCarries, secondGoesOn, secondBits, thirdGoesOn, thirdBits,
    fourthGoesOn, fourthBits, notAscii, isLead, notTwo, notThree, notOverlong]

/-- One step over the bytes of a character gives the character and takes just these bytes. -/
theorem utf8Step_utf8Char
    (char : Char)
    (rest : List UInt8) :
    ∃ lead others,
      utf8Char char = lead :: others ∧
        utf8Step true lead (others ++ rest) = .code char.toNat (others.length + 1) := by
  have bound := char_toNat_lt char
  simp only [utf8Char]
  split_ifs with one two three
  · refine ⟨_, [], rfl, ?_⟩
    have carried := toNat_ofNat_of_lt char.toNat (by omega)
    have step := utf8Step_one (UInt8.ofNat char.toNat) (by omega) rest
    rwa [carried] at step
  · refine ⟨_, [_], rfl, ?_⟩
    have step := utf8Step_two
      (toNat_ofNat_of_lt (0xc0 + char.toNat / 64) (by omega))
      (toNat_ofNat_of_lt (0x80 + char.toNat % 64) (by omega))
      (by omega) (by omega) (by omega) rest
    rwa [show char.toNat / 64 * 64 + char.toNat % 64 = char.toNat by omega] at step
  · refine ⟨_, [_, _], rfl, ?_⟩
    have step := utf8Step_three
      (toNat_ofNat_of_lt (0xe0 + char.toNat / 4096) (by omega))
      (toNat_ofNat_of_lt (0x80 + char.toNat / 64 % 64) (by omega))
      (toNat_ofNat_of_lt (0x80 + char.toNat % 64) (by omega))
      (by omega) (by omega) (by omega) (by omega) rest
    rwa [show char.toNat / 4096 * 4096 + char.toNat / 64 % 64 * 64 + char.toNat % 64 =
      char.toNat by omega] at step
  · refine ⟨_, [_, _, _], rfl, ?_⟩
    have step := utf8Step_four
      (toNat_ofNat_of_lt (0xf0 + char.toNat / 262144) (by omega))
      (toNat_ofNat_of_lt (0x80 + char.toNat / 4096 % 64) (by omega))
      (toNat_ofNat_of_lt (0x80 + char.toNat / 64 % 64) (by omega))
      (toNat_ofNat_of_lt (0x80 + char.toNat % 64) (by omega))
      (by omega) (by omega) (by omega) (by omega) (by omega) (by omega) rest
    rwa [show char.toNat / 262144 * 262144 + char.toNat / 4096 % 64 * 4096 +
      char.toNat / 64 % 64 * 64 + char.toNat % 64 = char.toNat by omega] at step

/-! ## A text -/

/-- Decoding from the middle of a text goes on to its end, whatever the rule for faults. -/
theorem decodeFrom_encodeUtf8
    (rule : FaultRule)
    (whole : List UInt8)
    (chars : List Char)
    (fuel position : Nat)
    (decoded : List Char)
    (enough : (encodeUtf8 chars).length < fuel) :
    decodeFrom .utf8 true rule whole fuel position decoded (encodeUtf8 chars) =
      .ok (decoded.reverse ++ chars) := by
  induction chars generalizing fuel position decoded with
  | nil =>
      obtain ⟨fuel, rfl⟩ := Nat.exists_eq_succ_of_ne_zero (by omega : fuel ≠ 0)
      simp [decodeFrom]
  | cons char chars inductionHypothesis =>
      obtain ⟨fuel, rfl⟩ := Nat.exists_eq_succ_of_ne_zero (by omega : fuel ≠ 0)
      obtain ⟨lead, others, bytes, step⟩ := utf8Step_utf8Char char (encodeUtf8 chars)
      rw [encodeUtf8_cons, bytes, List.cons_append] at enough ⊢
      simp only [List.length_cons, List.length_append] at enough
      rw [decodeFrom]
      simp only [Codec.step, step, Nat.add_sub_cancel, List.drop_left', charOf_toNat]
      rw [inductionHypothesis _ _ _ (by omega)]
      simp

/-- Every mark starts with a zero byte or a byte outside ASCII. -/
theorem byteOrderMarks_start :
    ∀ entry ∈ byteOrderMarks, ∃ lead others, entry.1 = lead :: others ∧
      (lead = 0 ∨ 0x80 ≤ lead.toNat) := by
  simp [byteOrderMarks]

theorem announcedByZeros_of_nonzero
    {first second : UInt8}
    (firstNonzero : first ≠ 0)
    (secondNonzero : second ≠ 0)
    (rest : List UInt8) :
    announcedByZeros (first :: second :: rest) = .utf8 := by
  match rest with
  | [] => simp [announcedByZeros, firstNonzero, secondNonzero]
  | [_] => rfl
  | _ :: _ :: _ => simp [announcedByZeros, firstNonzero, secondNonzero]

theorem announced_of_ascii
    {first second : UInt8}
    (firstAscii : first.toNat < 0x80)
    (firstNonzero : first ≠ 0)
    (secondNonzero : second ≠ 0)
    (rest : List UInt8) :
    announced (first :: second :: rest) = (.utf8, 0) := by
  have unmarked :
      byteOrderMarks.find? (fun entry => entry.1.isPrefixOf (first :: second :: rest)) = none := by
    rw [List.find?_eq_none]
    intro entry listed starts
    obtain ⟨lead, others, mark, leads⟩ := byteOrderMarks_start entry listed
    rw [mark, List.isPrefixOf_cons_cons, Bool.and_eq_true, beq_iff_eq] at starts
    obtain ⟨rfl, -⟩ := starts
    exact leads.elim firstNonzero (by omega)
  rw [announced, unmarked, announcedByZeros_of_nonzero firstNonzero secondNonzero]

theorem utf8Char_of_ascii {char : Char} (ascii : char.toNat < 0x80) :
    utf8Char char = [UInt8.ofNat char.toNat] := by
  simp only [utf8Char, if_pos ascii]

theorem length_encodeUtf8_of_ascii
    {chars : List Char}
    (ascii : ∀ char ∈ chars, char.toNat < 0x80) :
    (encodeUtf8 chars).length = chars.length := by
  induction chars with
  | nil => rfl
  | cons char chars inductionHypothesis =>
      obtain ⟨first, others⟩ := List.forall_mem_cons.mp ascii
      simp [utf8Char_of_ascii first, inductionHypothesis others]

/-- A text that starts with two ASCII characters is read back from its bytes. -/
theorem decodeAnnounced_encodeUtf8
    {first second : Char}
    (firstAscii : 0 < first.toNat ∧ first.toNat < 0x80)
    (secondAscii : 0 < second.toNat ∧ second.toNat < 0x80)
    (rest : List Char) :
    decodeAnnounced (encodeUtf8 (first :: second :: rest)) = .ok (first :: second :: rest) := by
  have firstByte := toNat_ofNat_of_lt first.toNat (by omega)
  have secondByte := toNat_ofNat_of_lt second.toNat (by omega)
  have found : announced (encodeUtf8 (first :: second :: rest)) = (.utf8, 0) := by
    rw [encodeUtf8_cons, encodeUtf8_cons, utf8Char_of_ascii firstAscii.2,
      utf8Char_of_ascii secondAscii.2]
    apply announced_of_ascii
    · omega
    · intro zero
      rw [zero] at firstByte
      simp at firstByte
      omega
    · intro zero
      rw [zero] at secondByte
      simp at secondByte
      omega
  rw [decodeAnnounced, found]
  simpa [decodeWith] using
    decodeFrom_encodeUtf8 (fun _ => none) (encodeUtf8 (first :: second :: rest))
      (first :: second :: rest) _ 0 [] (Nat.lt_succ_self _)

end Encoding
end Wordbook
