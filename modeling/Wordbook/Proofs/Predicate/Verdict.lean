import Wordbook.Predicate.Verdict
import Wordbook.Proofs.Predicate.Display

/-!
# Evaluations that are answered

An evaluation is answered by a verdict or by an issue that tells why there is none.  Bodies that are
refused and programs that are stopped both give such an issue.  What is not answered are bodies too
deep to be parsed, runs that do not end, and runs that are stopped by a key that cannot be shown.
-/

namespace Wordbook
namespace Predicate

/-- What stopped a program can be put in words: a missing key must be shown for that. -/
def Heap.CanTell (heap : Heap) : Stop → Prop
  | .failed (.missingKey key) => heap.IsShowable key
  | _ => True

theorem Heap.isOk_words_iff {heap : Heap} {why : Stop} :
    (heap.words why).isOk = true ↔ heap.CanTell why := by
  cases why with
  | unbound name place => simp [words, CanTell]
  | failed fault =>
      cases fault with
      | missingKey key => rw [words, isOk_bind_pure, isOk_shown_iff, CanTell]
      | other kind why => simp [words, CanTell]

theorem Heap.canTell_iff {heap : Heap} {why : Stop} :
    heap.CanTell why ↔ ∀ key, why = .failed (.missingKey key) → heap.IsShowable key := by
  constructor
  · rintro told key rfl
    exact told
  · intro shown
    unfold CanTell
    split
    · exact shown _ rfl
    · trivial

namespace Verdict

/-- An evaluation is answered: by a verdict, or by an issue of the evaluation. -/
def isAnswer : Except Failure Verdict → Bool
  | .ok _ => true
  | .error (.issue (.evaluation _)) => true
  | .error _ => false

theorem isAnswer_ofRefusal_iff (fault : CompileFault) :
    isAnswer (.error (ofRefusal fault)) = true ↔ fault ≠ .tooDeep := by
  cases fault with
  | refused refusal => exact iff_of_true rfl nofun
  | tooDeep => exact iff_of_false nofun fun other => other rfl

theorem isAnswer_ofStop_iff (heap : Heap) (why : Stop) :
    isAnswer (.error (ofStop heap why)) = true ↔ heap.CanTell why := by
  rw [← Heap.isOk_words_iff, ofStop]
  split
  case h_1 words told => exact iff_of_true rfl (isOk_iff.mpr ⟨words, told⟩)
  case h_2 reason untold => exact iff_of_false nofun (by simp [untold, isOk_iff])
  case h_3 fault _ untold => exact iff_of_false nofun (by simp [untold, isOk_iff])

/-- A program is answered for unless its run does not end or is stopped by what cannot be told. -/
theorem isAnswer_ofProgram_iff (program : List Statement) (first second : Json) :
    isAnswer (ofProgram program first second) = true ↔
      outcome program first second ≠ .exhausted ∧
        ∀ why machine, outcome program first second = .stopped why machine →
          machine.memory.heap.CanTell why := by
  unfold ofProgram
  cases outcome program first second with
  | returned result machine => exact iff_of_true rfl ⟨nofun, nofun⟩
  | stopped why machine =>
      rw [isAnswer_ofStop_iff]
      refine ⟨fun told => ⟨nofun, ?_⟩, fun all => all.2 why machine rfl⟩
      rintro _ _ ⟨⟩
      exact told
  | exhausted => exact iff_of_false nofun fun all => all.1 rfl

/-- An evaluation is answered exactly when its body is not too deep to be parsed, the run of its
program ends, and a missing key that the run is stopped by can be shown. -/
theorem isAnswer_ofBody_iff (body : String) (first second : Json) :
    isAnswer (ofBody body first second) = true ↔
      Definition.compile body.toList ≠ .error .tooDeep ∧
        ∀ program, Definition.compile body.toList = .ok program →
          outcome program first second ≠ .exhausted ∧
            ∀ key machine,
              outcome program first second = .stopped (.failed (.missingKey key)) machine →
                machine.memory.heap.IsShowable key := by
  unfold ofBody
  cases Definition.compile body.toList with
  | ok program =>
      rw [isAnswer_ofProgram_iff]
      simp only [Heap.canTell_iff]
      refine ⟨fun ⟨ends, told⟩ => ⟨nofun, ?_⟩, fun ⟨_, all⟩ => ⟨(all program rfl).1, ?_⟩⟩
      · rintro _ ⟨⟩
        exact ⟨ends, fun key machine stopped => told _ machine stopped key rfl⟩
      · rintro _ machine stopped key rfl
        exact (all program rfl).2 key machine stopped
  | error fault =>
      rw [isAnswer_ofRefusal_iff]
      simp

/-- A body that looks up an integer of 6021 digits in a dictionary without keys. -/
def longKey : String := "\x7b\x7d[1 << 20000]"

/-- A missing key of too many digits cannot be told, so the evaluation is not answered. -/
theorem longKey_not_answered :
    isAnswer (ofBody longKey (.str "0") (.str "1")) = false := by
  decide +kernel

end Verdict
end Predicate
end Wordbook
