import Switchboard.Json.Printer
import Switchboard.Text.Printable

/-!
# Why a JSON text is refused

A `Fault` is a cause and how many bytes of the text had not been read when it arose; `Error`
turns that into a line and a column, both counted in bytes. `Error.message` words it.
-/
namespace Switchboard.Json

/-- What stands in a text in the place of something else. -/
inductive Found where
  | unit
  | bool (b : Bool)
  | number (n : Number)
  | string (s : String)
  | sequence
  | map
  deriving DecidableEq

inductive Cause where
  | endInList
  | endInObject
  | endInString
  | endInValue
  | expectedColon
  | expectedListEnd
  | expectedObjectEnd
  | expectedWord
  | expectedValue
  | invalidEscape
  | invalidNumber
  | numberOutOfRange
  | invalidCodePoint
  | controlCharacter
  | keyNotString
  | loneSurrogate
  | unpairedSurrogate
  | trailingComma
  | trailingCharacters
  | tooDeep
  | missingField (name : String)
  | duplicateField (name : String)
  | invalidType (found : Found) (wanted : String)
  | invalidLength (length : Nat) (wanted : String)
  | unknownVariant (name : String) (known : List String)
  deriving DecidableEq

/-- A cause, and the count of bytes after the place it names. -/
structure Fault where
  cause : Cause
  left : Nat
  deriving DecidableEq

/-- A place in a text: lines count from one, columns are the bytes read since the last line
break. -/
structure Position where
  line : Nat
  column : Nat
  deriving DecidableEq, Repr

structure Error where
  cause : Cause
  position : Position
  deriving DecidableEq

/-- The place after the given bytes. -/
def Position.after (read : List UInt8) : Position :=
  { line := read.count 0x0A + 1
    column := (read.reverse.takeWhile (· != 0x0A)).length }

/-- The place that a fault names in the text it arose in. -/
def Fault.locate (f : Fault) (text : List UInt8) : Error :=
  { cause := f.cause, position := .after (text.take (text.length - f.left)) }

def Found.message : Found → String
  | .unit => "null"
  | .bool b => "boolean `" ++ (if b then "true" else "false") ++ "`"
  | .number (.whole n) => "integer `" ++ String.ofList (wholeChars n.val) ++ "`"
  | .number (.real bits) => "floating point `" ++ String.ofList (realChars bits) ++ "`"
  | .string s => "string " ++ Text.quoted s
  | .sequence => "sequence"
  | .map => "map"

/-- Alternatives in words, each between backquotes. -/
def alternatives (names : List String) : String :=
  match names.map fun n => "`" ++ n ++ "`" with
  | [a, b] => a ++ " or " ++ b
  | [a] => a
  | many => "one of " ++ ", ".intercalate many

def Cause.message : Cause → String
  | .endInList => "EOF while parsing a list"
  | .endInObject => "EOF while parsing an object"
  | .endInString => "EOF while parsing a string"
  | .endInValue => "EOF while parsing a value"
  | .expectedColon => "expected `:`"
  | .expectedListEnd => "expected `,` or `]`"
  | .expectedObjectEnd => "expected `,` or `\x7d`"
  | .expectedWord => "expected ident"
  | .expectedValue => "expected value"
  | .invalidEscape => "invalid escape"
  | .invalidNumber => "invalid number"
  | .numberOutOfRange => "number out of range"
  | .invalidCodePoint => "invalid unicode code point"
  | .controlCharacter => "control character (\\u0000-\\u001F) found while parsing a string"
  | .keyNotString => "key must be a string"
  | .loneSurrogate => "lone leading surrogate in hex escape"
  | .unpairedSurrogate => "unexpected end of hex escape"
  | .trailingComma => "trailing comma"
  | .trailingCharacters => "trailing characters"
  | .tooDeep => "recursion limit exceeded"
  | .missingField name => "missing field `" ++ name ++ "`"
  | .duplicateField name => "duplicate field `" ++ name ++ "`"
  | .invalidType found wanted => "invalid type: " ++ found.message ++ ", expected " ++ wanted
  | .invalidLength n wanted => "invalid length " ++ n.repr ++ ", expected " ++ wanted
  | .unknownVariant name known =>
    "unknown variant `" ++ name ++ "`, expected " ++ alternatives known

def Error.message (e : Error) : String :=
  e.cause.message ++ " at line " ++ e.position.line.repr ++ " column " ++ e.position.column.repr

end Switchboard.Json
