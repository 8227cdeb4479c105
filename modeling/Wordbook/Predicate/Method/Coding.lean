import Wordbook.Encoding.Naming
import Wordbook.Predicate.Signature

/-!
# Text to bytes and back

An encoding and a rule for faults are given by their names.  What goes wrong in an encoding that is
not among the most common ones is told again together with the name of the encoding.
-/

namespace Wordbook
namespace Predicate
namespace Coding

/-- An argument of a function that must be text without null characters. -/
def textArgument (function parameter : String) (value : Option Value) (default : String) :
    Except Fault String :=
  match value with
  | none => .ok default
  | some (.text text _) =>
      if text.contains (Char.ofNat 0) then .error (.value "embedded null character") else .ok text
  | some other =>
      .error (.typing (function ++ "() argument '" ++ parameter ++ "' must be str, not " ++
        (if other.typeOf == .nothing then "None" else other.label)))

/-- The fault of a kind in a coding that was asked for in some words. -/
def retold (doing encoding : String) (kind : FaultKind) (why : String) : Fault :=
  if Encoding.Named.isCommonName encoding then .other kind why
  else
    .other kind (doing ++ " with '" ++ encoding ++ "' codec failed (" ++ kind.label ++ ": " ++
      why ++ ")")

/-- The fault of a coding. -/
def faultOf (doing encoding : String) : Encoding.CodingFault → Fault
  | .encoding fault => .other .encoding fault.message
  | .decoding fault => .other .decoding fault.message
  | .unknownHandling name =>
      retold doing encoding .lookup ("unknown error handler name '" ++ name ++ "'")
  | .wrongDirection =>
      retold doing encoding .typing "don't know how to handle UnicodeDecodeError in error callback"
  | .other why => retold doing encoding .unicode why
  | .toldOnce why => .other .unicode why

/-- The encoding of a name, which must be one of text. -/
def named (function encoding : String) : Except Fault Encoding.Named :=
  match Encoding.Named.ofName? encoding with
  | none => .error (.other .lookup ("unknown encoding: " ++ encoding))
  | some .foreign =>
      .error (.other .lookup ("'" ++ encoding ++ "' is not a text encoding; use codecs." ++
        function ++ "() to handle arbitrary codecs"))
  | some found => .ok found

/-- The bytes of a text in an encoding. -/
def encode (chars : List Char) (arguments : Arguments) : Except Fault Value := do
  let given ← arguments.bind "encode" 0 ["encoding", "errors"] 0 2
  let encoding ← textArgument "encode" "encoding" given[0]?.join "utf-8"
  let rule ← textArgument "encode" "errors" given[1]?.join "strict"
  let found ← named "encode" encoding
  match found.encode (.ofName rule) chars with
  | .ok bytes => return if found.sharesResults then .bytes bytes else .ofBytesApart bytes
  | .error fault => throw (faultOf "encoding" encoding fault)

/-- Bytes as text in an encoding. -/
def decode (bytes : List UInt8) (encoding rule : String) : Except Fault Value := do
  let found ← named "decode" encoding
  match found.decode (.ofName rule) bytes with
  | .ok chars => return .ofChars chars
  | .error fault => throw (faultOf "decoding" encoding fault)

end Coding
end Predicate
end Wordbook
