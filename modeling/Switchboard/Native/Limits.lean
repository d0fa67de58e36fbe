import Switchboard.Call.Error

/-!
# Limits on native input

Arguments are checked before they cross into an extension (specification, E6.3). What is refused is
a failure of the call, so no other strategy takes it over. `Limits.check` finds the first violation:
the number of arguments, then the arguments from the left, each with a collection's own size before
its contents and a key before its value, and last the size of the whole as JSON text.
-/
namespace Switchboard.Native

structure Limits where
  /-- Bytes of the argument list as JSON text. -/
  maxInputBytes : Nat := 10000000
  /-- Elements or entries of any one collection. -/
  maxCollectionLen : Nat := 100000
  deriving DecidableEq

inductive Violation where
  | tooManyArguments (count max : Nat)
  | nulInString
  | arrayTooLarge (length : Nat)
  | objectTooLarge (length : Nat)
  | nulInKey
  | inputTooLarge (size max : Nat)
  deriving DecidableEq

def Violation.message : Violation → String
  | tooManyArguments count max =>
    "too many arguments: " ++ count.repr ++ " (max: " ++ max.repr ++ ")"
  | nulInString => "string contains null bytes"
  | arrayTooLarge length => "array too large: " ++ length.repr ++ " elements"
  | objectTooLarge length => "object too large: " ++ length.repr ++ " entries"
  | nulInKey => "object key contains null bytes"
  | inputTooLarge size max =>
    "input too large: " ++ size.repr ++ " bytes (max: " ++ max.repr ++ " bytes)"

def hasNul (s : String) : Bool := s.toList.contains '\x00'

namespace Limits

mutual

/-- The first violation inside a value. -/
def scan (l : Limits) : Json.Value → Except Violation Unit
  | .string s => if hasNul s then .error .nulInString else .ok ()
  | .array items =>
    if items.length > l.maxCollectionLen then .error (.arrayTooLarge items.length)
    else l.scanItems items
  | .object entries =>
    if entries.length > l.maxCollectionLen then .error (.objectTooLarge entries.length)
    else l.scanEntries entries
  | _ => .ok ()

def scanItems (l : Limits) : List Json.Value → Except Violation Unit
  | [] => .ok ()
  | v :: vs => do
    l.scan v
    l.scanItems vs

def scanEntries (l : Limits) : List (String × Json.Value) → Except Violation Unit
  | [] => .ok ()
  | (k, v) :: es => do
    if hasNul k then throw .nulInKey
    l.scan v
    l.scanEntries es

end

/-- The first violation of an argument list (E6.3). -/
def check (l : Limits) (args : List Json.Value) : Except Violation Unit := do
  if args.length > l.maxCollectionLen then
    throw (.tooManyArguments args.length l.maxCollectionLen)
  l.scanItems args
  -- last, as it takes the whole text
  let size := Utf8.size (Json.Value.array args).text
  if size > l.maxInputBytes then throw (.inputTooLarge size l.maxInputBytes)

end Limits

end Switchboard.Native
