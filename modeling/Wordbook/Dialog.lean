import Wordbook.Json.Display
import Wordbook.Text.Blank
import Wordbook.Unicode.Case

/-!
# Dialogs

A presenter shows notifications and answers questions: a silent one declines everything, a scripted
one takes its answers from two queues, and a console prints and reads lines.
-/

namespace Wordbook

/-- What a presenter did. -/
inductive Event where
  | notified (text : String)
  | asked (text : String)
  | prompted (text default : Json)
  | printed (text : String)

/-- A presenter with the answers that it has left; a console prints `afterPrompt` behind every text
that it waits after. -/
inductive Presenter where
  | silent
  | scripted (confirms prompts : List Json)
  | console (lines : List String) (assumeYes : Bool) (afterPrompt : String)

namespace Presenter

/-- Show a notification. -/
def notify (presenter : Presenter) (text : String) : Event :=
  match presenter with
  | .console _ _ _ => .printed (text ++ "\n")
  | _ => .notified text

/-- A line of a console accepts. -/
def accepts (line : String) : Bool :=
  let word := String.ofList (Unicode.lower (Text.trimBy Text.isBlank line.toList))
  word == "y" || word == "yes"

/-- Ask for a confirmation. -/
def confirm (presenter : Presenter) (text : String) : Presenter × List Event × Bool :=
  match presenter with
  | .silent => (presenter, [], false)
  | .scripted [] prompts => (.scripted [] prompts, [.asked text], false)
  | .scripted (answer :: confirms) prompts =>
      (.scripted confirms prompts, [.asked text], answer.isTruthy)
  | .console lines true afterPrompt =>
      (.console lines true afterPrompt, [.printed (text ++ " [y/N] y\n")], true)
  | .console [] false afterPrompt =>
      (.console [] false afterPrompt, [.printed (text ++ " [y/N] " ++ afterPrompt)], false)
  | .console (line :: lines) false afterPrompt =>
      (.console lines false afterPrompt, [.printed (text ++ " [y/N] " ++ afterPrompt)],
        accepts line)

/-- The text that a console waits after, which shows the default if there is one. -/
def promptText (text default : Json) : String :=
  text.plain ++ (if default.isTruthy then " [" ++ default.plain ++ "]" else "") ++ ": "

/-- Ask for a text with a default; null means that nothing was given. -/
def prompt (presenter : Presenter) (text default : Json) : Presenter × List Event × Json :=
  match presenter with
  | .silent => (presenter, [], .null)
  | .scripted confirms [] => (.scripted confirms [], [.prompted text default], .null)
  | .scripted confirms (answer :: prompts) =>
      (.scripted confirms prompts, [.prompted text default], answer)
  | .console _ true _ => (presenter, [], default)
  | .console [] false afterPrompt =>
      (presenter, [.printed (promptText text default ++ afterPrompt)], .null)
  | .console (line :: lines) false afterPrompt =>
      (.console lines false afterPrompt, [.printed (promptText text default ++ afterPrompt)],
        if Text.allBlank line then default else .str line)

end Presenter
end Wordbook
