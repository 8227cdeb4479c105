import Wordbook.Unicode.Class

/-!
# The grammar of a command line

A command line mixes options with arguments that are told by their places.  Options may be shortened
as long as they stay unambiguous, short ones may be written together, and behind two dashes
everything is an argument.  What looks like a negative number or holds a blank is an argument too.
-/

namespace Wordbook
namespace CommandLine

/-- An option: how it may be spelled, the name of what it sets, how its value is called if it takes
one, and what it does. -/
structure Flag where
  spellings : List String
  name : String
  value : Option String
  help : String
deriving DecidableEq

/-- A place for arguments: one, one that may be missing, or a command with everything behind it. -/
inductive Slot where
  | one (name help : String)
  | maybe (name help : String)
  | command
deriving DecidableEq

/-- What a command line is made of. -/
structure Grammar where
  flags : List Flag
  slots : List Slot

/-- An option as it is used: its spelling and a value that is attached to it. -/
structure Usage where
  flag : Flag
  spelling : List Char
  attached : Option (List Char)

/-- What an argument looks like. -/
inductive Mark where
  | argument
  | dashes
  | option (use : Usage)
  | strange

/-- What was read from a command line: the options in their order, the arguments at their places,
the command with everything behind it, and what nothing fits. -/
structure Reading where
  options : List (String × Option String)
  arguments : List (String × String)
  command : Option (String × List String)
  leftover : List String

/-- How reading a command line ends. -/
inductive Outcome where
  | read (reading : Reading)
  | help
  | misused

namespace Grammar

/-- The option that asks for help. -/
def helpFlag : Flag := ⟨["-h", "--help"], "help", none, "show this help message and exit"⟩

/-- The name of the option that asks for help. -/
def helpName : String := helpFlag.name

/-- The spellings of all options. -/
def spellings (grammar : Grammar) : List (Flag × List Char) :=
  grammar.flags.flatMap fun flag => flag.spellings.map fun spelling => (flag, spelling.toList)

/-- The option with a spelling. -/
def flagNamed? (grammar : Grammar) (spelling : List Char) : Option Flag :=
  (grammar.spellings.find? fun entry => entry.2 == spelling).map Prod.fst

/-- Characters before the first equals sign, and those behind it if there is one. -/
def cutValue (chars : List Char) : List Char × Option (List Char) :=
  match chars.dropWhile (· != '=') with
  | [] => (chars, none)
  | _ :: value => (chars.takeWhile (· != '='), some value)

/-- The options that characters may be short for. -/
def candidates (grammar : Grammar) (chars : List Char) : List Usage :=
  match chars with
  | '-' :: '-' :: _ =>
      let (start, value) := cutValue chars
      grammar.spellings.filterMap fun (flag, spelling) =>
        if start.isPrefixOf spelling then some ⟨flag, spelling, value⟩ else none
  | _ =>
      grammar.spellings.filterMap fun (flag, spelling) =>
        if spelling == chars.take 2 then some ⟨flag, spelling, some (chars.drop 2)⟩
        else if chars.isPrefixOf spelling then some ⟨flag, spelling, none⟩
        else none

/-- Digits, with at least one of them. -/
def areDigits (chars : List Char) : Bool := !chars.isEmpty && chars.all Unicode.isDecimal

/-- Characters look like a negative number. -/
def isNegativeNumber (chars : List Char) : Bool :=
  let body := if chars.getLast? == some '\n' then chars.dropLast else chars
  match body with
  | '-' :: rest =>
      areDigits rest ||
        match rest.dropWhile Unicode.isDecimal with
        | '.' :: places => areDigits places
        | _ => false
  | _ => false

/-- What an argument looks like; none if it is short for several options. -/
def mark? (grammar : Grammar) (chars : List Char) : Option Mark :=
  match chars with
  | '-' :: _ :: _ =>
      match grammar.flagNamed? chars, grammar.flagNamed? (cutValue chars).1, (cutValue chars).2 with
      | some flag, _, _ => some (.option ⟨flag, chars, none⟩)
      | none, some flag, some value => some (.option ⟨flag, (cutValue chars).1, some value⟩)
      | none, _, _ =>
          match grammar.candidates chars with
          | [use] => some (.option use)
          | _ :: _ :: _ => none
          | [] =>
              if isNegativeNumber chars || chars.contains ' ' then some .argument
              else some .strange
  | _ => some .argument

/-- What the arguments of a command line look like; none if one is short for several options. -/
def marks? (grammar : Grammar) : List String → Option (List (String × Mark))
  | [] => some []
  | argument :: rest =>
      if argument == "--" then
        some ((argument, .dashes) :: rest.map fun behind => (behind, .argument))
      else do
        let found ← grammar.mark? argument.toList
        return (argument, found) :: (← grammar.marks? rest)

end Grammar

namespace Mark

/-- The mark of an argument. -/
def isArgument : Mark → Bool
  | argument => true
  | _ => false

/-- The mark of two dashes. -/
def isDashes : Mark → Bool
  | dashes => true
  | _ => false

/-- The mark of an option, known or not. -/
def isOption : Mark → Bool
  | option _ => true
  | strange => true
  | _ => false

end Mark

namespace Slot

/-- How many of the next arguments belong to a place, if it can be filled. -/
def count (slot : Slot) (marks : List Mark) : Option Nat :=
  let lead := (marks.takeWhile Mark.isDashes).length
  match slot, marks.drop lead with
  | .command, mark :: _ => if mark.isArgument then some marks.length else none
  | .command, [] => none
  | .one _ _, mark :: rest =>
      if mark.isArgument then some (lead + 1 + (rest.takeWhile Mark.isDashes).length) else none
  | .one _ _, [] => none
  | .maybe _ _, mark :: rest =>
      if mark.isArgument then some (lead + 1 + (rest.takeWhile Mark.isDashes).length) else some lead
  | .maybe _ _, [] => some lead

/-- How many of the next arguments belong to each of some places, if all can be filled. -/
def counts (marks : List Mark) : List Slot → Option (List Nat)
  | [] => some []
  | slot :: slots => do
      let first ← slot.count marks
      return first :: (← counts (marks.drop first) slots)

/-- How many of the next arguments belong to each of the first places: of as many as can be
filled. -/
def firstCounts (marks : List Mark) (slots : List Slot) : (most : Nat) → List Nat
  | 0 => []
  | most + 1 =>
      match counts marks (slots.take (most + 1)) with
      | some found => found
      | none => firstCounts marks slots most

end Slot

namespace Reading

/-- Nothing read yet. -/
def empty : Reading := ⟨[], [], none, []⟩

/-- Put the arguments of a place into a reading; two dashes among them are dropped once. -/
def fill (reading : Reading) (slot : Slot) (given : List String) : Reading :=
  let kept := given.erase "--"
  match slot with
  | .one name _ => { reading with arguments := reading.arguments ++ [(name, kept.headD "")] }
  | .maybe name _ =>
      match kept with
      | value :: _ => { reading with arguments := reading.arguments ++ [(name, value)] }
      | [] => reading
  | .command => { reading with command := some (given.headD "", given.tail) }

/-- Fill places with so many of the next arguments each. -/
def fillAll (reading : Reading) : List Slot → List Nat → List String → Reading
  | slot :: slots, count :: counts, arguments =>
      fillAll (reading.fill slot (arguments.take count)) slots counts (arguments.drop count)
  | _, _, _ => reading

/-- The last value of an option. -/
def option? (reading : Reading) (name : String) : Option String :=
  (reading.options.reverse.find? fun entry => entry.1 == name).bind Prod.snd

/-- An option was used. -/
def has (reading : Reading) (name : String) : Bool :=
  reading.options.any fun entry => entry.1 == name

/-- The argument at a place. -/
def argument? (reading : Reading) (name : String) : Option String :=
  (reading.arguments.find? fun entry => entry.1 == name).map Prod.snd

end Reading

namespace Grammar

/-- The options that one argument uses, short ones being written together, and how many arguments
behind it they take; none if they do not fit.  `fuel` bounds the options. -/
def unfold (grammar : Grammar) (next : Option (String × Mark)) :
    (fuel : Nat) → Usage → Option (List (String × Option String) × Nat)
  | 0, _ => none
  | fuel + 1, ⟨flag, spelling, attached⟩ =>
      match flag.value, attached with
      | some _, some value => some ([(flag.name, some (String.ofList value))], 0)
      | some _, none =>
          match next with
          | some (value, .argument) => some ([(flag.name, some value)], 1)
          | _ => none
      | none, none => some ([(flag.name, none)], 0)
      | none, some [] => none
      | none, some (letter :: letters) =>
          if spelling.getD 1 '-' == '-' then none
          else do
            let shorter := ['-', letter]
            let other ← grammar.flagNamed? shorter
            let (found, taken) ← grammar.unfold next fuel
              ⟨other, shorter, if letters.isEmpty then none else some letters⟩
            return ((flag.name, none) :: found, taken)

/-- Read the arguments of a command line; `fuel` bounds the steps. -/
def readFrom (grammar : Grammar) :
    (fuel : Nat) → List (String × Mark) → List Slot → Reading → Outcome
  | 0, _, _, _ => .misused
  | fuel + 1, rest, slots, reading =>
      let fillNext : List Nat × Reading :=
        let counts := Slot.firstCounts (rest.map Prod.snd) slots slots.length
        (counts, reading.fillAll slots counts (rest.map Prod.fst))
      match rest with
      | (text, .strange) :: behind =>
          grammar.readFrom fuel behind slots
            { reading with leftover := reading.leftover ++ [text] }
      | (_, .option use) :: behind =>
          match grammar.unfold behind.head? (use.attached.getD []).length.succ use with
          | none => .misused
          | some (found, taken) =>
              if found.any fun entry => entry.1 == helpName then .help
              else
                grammar.readFrom fuel (behind.drop taken) slots
                  { reading with options := reading.options ++ found }
      | _ =>
          let (counts, filled) := fillNext
          let behind := rest.drop counts.sum
          let open_ := slots.drop counts.length
          if rest.any fun entry => entry.2.isOption then
            if counts.sum = 0 then
              let skipped := rest.takeWhile fun entry => !entry.2.isOption
              grammar.readFrom fuel (rest.drop skipped.length) open_
                { filled with leftover := filled.leftover ++ skipped.map Prod.fst }
            else grammar.readFrom fuel behind open_ filled
          else
            let complete := open_.all fun slot =>
              match slot with
              | .one _ _ => false
              | _ => true
            if complete then
              .read { filled with leftover := filled.leftover ++ behind.map Prod.fst }
            else .misused

/-- Read a command line. -/
def read (grammar : Grammar) (arguments : List String) : Outcome :=
  match grammar.marks? arguments with
  | none => .misused
  | some marked => grammar.readFrom (2 * marked.length + 2) marked grammar.slots .empty

end Grammar
end CommandLine
end Wordbook
