import Wordbook.Number.Decimal

/-!
# What can go wrong

An issue is a failure that an instruction reports in its answer.  A breach is any other failure; it
passes through the engine to its caller.
-/

namespace Wordbook

/-- The kinds of issue that answers name. -/
inductive IssueKind where
  | unknownOpcode
  | noState
  | emptyAlphabet
  | invalidLength
  | emptyName
  | emptyBody
  | invalidDefinition
  | missingId
  | missingArgument
  | missingPath
  | notFound
  | fileNotFound
  | duplicateName
  | evaluationError
  | invalidFormat
  | storageError
  | tokenThreshold
  | fileExists
deriving DecidableEq

/-- The name of a kind. -/
def IssueKind.name : IssueKind → String
  | .unknownOpcode => "UnknownOpcode"
  | .noState => "NoState"
  | .emptyAlphabet => "EmptyAlphabet"
  | .invalidLength => "InvalidLength"
  | .emptyName => "EmptyName"
  | .emptyBody => "EmptyBody"
  | .invalidDefinition => "InvalidDefinition"
  | .missingId => "MissingId"
  | .missingArgument => "MissingArgument"
  | .missingPath => "MissingPath"
  | .notFound => "NotFound"
  | .fileNotFound => "FileNotFound"
  | .duplicateName => "DuplicateName"
  | .evaluationError => "EvaluationError"
  | .invalidFormat => "InvalidFormat"
  | .storageError => "StorageError"
  | .tokenThreshold => "TokenThreshold"
  | .fileExists => "FileExists"

/-- Every kind. -/
def IssueKind.all : List IssueKind :=
  [.unknownOpcode, .noState, .emptyAlphabet, .invalidLength, .emptyName, .emptyBody,
    .invalidDefinition, .missingId, .missingArgument, .missingPath, .notFound, .fileNotFound,
    .duplicateName, .evaluationError, .invalidFormat, .storageError, .tokenThreshold, .fileExists]

/-- The kind of a name. -/
def IssueKind.named? (name : String) : Option IssueKind :=
  IssueKind.all.find? fun kind => kind.name == name

/-- The families of issues. -/
inductive Family where
  | validation
  | notFound
  | conflict
  | definition
  | storage
  | threshold
deriving DecidableEq

/-- The two tokens of a comparison. -/
inductive Side where
  | left
  | right
deriving DecidableEq

/-- What is asked of a system that has no state. -/
inductive Need where
  | work
  | save
  | exporting
deriving DecidableEq

/-- Why reading, writing or naming a stored thing failed. -/
inductive StorageCause where
  | escapesRoot (path : String)
  | invalidKey (shown : String)
  | cannotRead (what why : String)
  | cannotWrite (what why : String)
  | emptyFile
  | unreadableText (why : String)
  | given (message : String)
deriving DecidableEq

/-- A failure that an instruction reports. -/
inductive Issue where
  | noState (need : Need)
  | emptyAlphabet
  | invalidLength
  | emptyName
  | emptyBody
  | invalidDefinition (why : String)
  | evaluation (why : String)
  | missingId
  | invalidId (shown : String)
  | missingToken (side : Side)
  | missingRelation
  | missingPath
  | relationNotFound
  | fileNotFound
  | duplicateName
  | invalidFormat (why : String)
  | storage (cause : StorageCause)
  | tooManyTokens (count : Int) (exact : Bool)
  | fileExists (path : String)
deriving DecidableEq

namespace Issue

/-- The kind of an issue. -/
def kind : Issue → IssueKind
  | .noState _ => .noState
  | .emptyAlphabet => .emptyAlphabet
  | .invalidLength => .invalidLength
  | .emptyName => .emptyName
  | .emptyBody => .emptyBody
  | .invalidDefinition _ => .invalidDefinition
  | .evaluation _ => .evaluationError
  | .missingId => .missingId
  | .invalidId _ => .missingId
  | .missingToken _ => .missingArgument
  | .missingRelation => .missingArgument
  | .missingPath => .missingPath
  | .relationNotFound => .notFound
  | .fileNotFound => .fileNotFound
  | .duplicateName => .duplicateName
  | .invalidFormat _ => .invalidFormat
  | .storage _ => .storageError
  | .tooManyTokens _ _ => .tokenThreshold
  | .fileExists _ => .fileExists

/-- The family of an issue. -/
def family : Issue → Family
  | .invalidDefinition _ => .definition
  | .evaluation _ => .definition
  | .relationNotFound => .notFound
  | .fileNotFound => .notFound
  | .duplicateName => .conflict
  | .invalidFormat _ => .storage
  | .storage _ => .storage
  | .tooManyTokens _ _ => .threshold
  | .fileExists _ => .threshold
  | _ => .validation

/-- The words for a storage failure. -/
def storageMessage : StorageCause → String
  | .escapesRoot path => "Path escapes the file store root: " ++ path
  | .invalidKey shown => "Invalid store key: " ++ shown
  | .cannotRead what why => "Failed to read " ++ what ++ ": " ++ why
  | .cannotWrite what why => "Failed to write " ++ what ++ ": " ++ why
  | .emptyFile => "Failed to read file"
  | .unreadableText why => "Import error: " ++ why
  | .given message => message

/-- The words for an issue. -/
def message : Issue → String
  | .noState .work => "System not initialized"
  | .noState .save => "No state to save"
  | .noState .exporting => "No state to export"
  | .emptyAlphabet => "Alphabet cannot be empty"
  | .invalidLength => "Max length must be a positive integer"
  | .emptyName => "Relation name cannot be empty"
  | .emptyBody => "Relation definition cannot be empty"
  | .invalidDefinition why => "Invalid definition: " ++ why
  | .evaluation why => "Error executing relation: " ++ why
  | .missingId => "Relation ID is required"
  | .invalidId shown => "Invalid relation ID: " ++ shown
  | .missingToken .left => "Token A is required"
  | .missingToken .right => "Token B is required"
  | .missingRelation => "Relation ID is required"
  | .missingPath => "No file path provided"
  | .relationNotFound => "Relation not found"
  | .fileNotFound => "File does not exist"
  | .duplicateName => "A relation with this name already exists"
  | .invalidFormat why => "Invalid token system file format: " ++ why
  | .storage cause => storageMessage cause
  | .tooManyTokens count exact =>
      "This will generate " ++ (if exact then "" else "at least ") ++ Number.decimalText count ++
        " tokens, which may slow down your system."
  | .fileExists _ => "File already exists"

end Issue

/-- A failure that passes through the engine. -/
inductive Breach where
  | noMethod (typeName method : String)
  | notIterable (typeName : String)
  | unhashable (typeName : String)
  | notPair (place : Nat)
  | pairLength (place length : Nat)
  | infiniteInteger
  | tooManyDigits (count : Option Nat)
  | zeroStep
  | unknownKind (shown : String)
  | noHandlers (names : List String)
  | device (message : String)
  | nullByte
  | outOfMemory
  | tooDeep
  | endless
deriving DecidableEq

/-- The limit on decimal digits in words, with the count if it is known. -/
def digitLimitMessage (count : Option Nat) : String :=
  "Exceeds the limit (4300 digits) for integer string conversion" ++
    (match count with
      | some digits => ": value has " ++ toString digits ++ " digits"
      | none => "") ++
    "; use sys.set_int_max_str_digits() to increase the limit"

/-- The words for a breach. -/
def Breach.message : Breach → String
  | .noMethod typeName method => "'" ++ typeName ++ "' object has no attribute '" ++ method ++ "'"
  | .notIterable typeName => "'" ++ typeName ++ "' object is not iterable"
  | .unhashable typeName => "unhashable type: '" ++ typeName ++ "'"
  | .notPair place =>
      "cannot convert dictionary update sequence element #" ++ toString place ++ " to a sequence"
  | .pairLength place length =>
      "dictionary update sequence element #" ++ toString place ++ " has length " ++
        toString length ++ "; 2 is required"
  | .infiniteInteger => "cannot convert float infinity to integer"
  | .tooManyDigits count => digitLimitMessage count
  | .zeroStep => "range() arg 3 must not be zero"
  | .unknownKind shown => shown ++ " is not a valid ErrorKind"
  | .noHandlers names => "No handler for opcodes: " ++ ", ".intercalate names
  | .device message => message
  | .nullByte => "embedded null byte"
  | .outOfMemory => ""
  | .tooDeep => "nested too deep"
  | .endless => "the predicate did not end"

/-- Any failure of an operation. -/
inductive Failure where
  | issue (issue : Issue)
  | breach (breach : Breach)
deriving DecidableEq

end Wordbook
