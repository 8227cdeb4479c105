import Wordbook.Session.Basic

/-!
# Generating the vocabulary
-/

namespace Wordbook
namespace Session

/-- Generate the tokens over an alphabet up to a length.  A vocabulary beyond the threshold is
generated only if it is asked for. -/
def generate (alphabet maxLength : Json) (force : Bool) : Act Answer := do
  let state ← requireState
  let symbols ← require (Lexicon.readAlphabet alphabet)
  let length ← require (Lexicon.readLength maxLength)
  let (count, exact) := Lexicon.count symbols.length length (some Lexicon.threshold)
  if Lexicon.threshold < count && !force then throw (Lexicon.excess count exact)
  else
    let lexicon ← require (Lexicon.make symbols length)
    let tokens := Lexicon.tokens symbols length
    replaceState { state with lexicon := lexicon, tokens := tokens }
    let generated := tokens.length
    return { Answer.done ("Generated " ++ toString generated ++ " tokens") with
      tokenCount := some generated }

end Session
end Wordbook
