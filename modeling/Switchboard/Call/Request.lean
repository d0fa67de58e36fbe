import Switchboard.Json.Typed

/-!
# Requests

A request names a service and one of its functions and carries a list of arguments (specification,
§3 and E2). As JSON it is an object with three fields, or an array of their values in the order of
their declaration.

* `argsJson` is the text of the argument list that both transports send.
* `estimatedBytes` is the size by which calls are routed.
* `Json.parseRequest` reads a request back.
-/
namespace Switchboard

structure Request where
  service : String
  function : String
  args : List Json.Value
  deriving DecidableEq

mutual

/-- The rough size of a value: the bytes of its strings and keys, eight for a number, one for a
truth value. -/
def Json.Value.estimatedSize : Json.Value → Nat
  | .null => 0
  | .bool _ => 1
  | .number _ => 8
  | .string s => Utf8.size s
  | .array items => estimatedItems items
  | .object entries => estimatedEntries entries

def Json.Value.estimatedItems : List Json.Value → Nat
  | [] => 0
  | v :: vs => v.estimatedSize + estimatedItems vs

def Json.Value.estimatedEntries : List (String × Json.Value) → Nat
  | [] => 0
  | (k, v) :: es => Utf8.size k + v.estimatedSize + estimatedEntries es

end

namespace Request

def estimatedBytes (r : Request) : Nat := Json.Value.estimatedItems r.args

def argsValue (r : Request) : Json.Value := .array r.args

def argsJson (r : Request) : String := r.argsValue.text

def fieldNames : List String := ["service_name", "function_name", "arguments"]

/-- The entries of a request as a JSON object, in the order of their declaration. -/
def entries (r : Request) : List (String × Json.Value) :=
  [("service_name", .string r.service), ("function_name", .string r.function),
    ("arguments", r.argsValue)]

def json (r : Request) : String := (Json.Value.object r.entries).text

end Request

namespace Json

def requestType : String := "struct ServiceCallRequest"

/-- The fields of a request read so far. -/
structure RequestFields where
  service : Option String := none
  function : Option String := none
  args : Option (List Value) := none

/-- A field that was there already: the place is behind its key, or behind the closing brace if
that follows. -/
def duplicate {α : Type} (name : String) (text : List UInt8) : Except Fault α :=
  match skipBlank text with
  | 0x7D :: r => here (.duplicateField name) r
  | rest => here (.duplicateField name) rest

/-- A field of a request behind its key. One with another name is passed over. -/
def readRequestField (fuel levels : Nat) (f : RequestFields) (key : String) :
    Reader RequestFields := fun text =>
  if key = "service_name" then
    if f.service.isSome then duplicate key text
    else do
      let (s, r) ← readStringAs fuel "a string" (← readColon text)
      return ({ f with service := some s }, r)
  else if key = "function_name" then
    if f.function.isSome then duplicate key text
    else do
      let (s, r) ← readStringAs fuel "a string" (← readColon text)
      return ({ f with function := some s }, r)
  else if key = "arguments" then
    if f.args.isSome then duplicate key text
    else do
      let (vs, r) ← readValues fuel levels (← readColon text)
      return ({ f with args := some vs }, r)
  else do
    let r ← skipValue fuel (← readColon text)
    return (f, r)

/-- The request with the fields read, or the first that is missing. -/
def RequestFields.complete (f : RequestFields) (rest : List UInt8) :
    Except Fault (Request × List UInt8) :=
  match f.service, f.function, f.args with
  | some service, some function, some args => .ok ({ service, function, args }, rest)
  | none, _, _ => here (.missingField "service_name") rest
  | _, none, _ => here (.missingField "function_name") rest
  | _, _, none => here (.missingField "arguments") rest

/-- Goes to the next of the elements of an array that has `count` so far, or refuses an array that
ends there. -/
def readElement {α : Type} (item : Reader α) (count : Nat) : Reader α := fun text =>
  let tooShort (r : List UInt8) : Except Fault (α × List UInt8) :=
    here (.invalidLength count (requestType ++ " with 3 elements")) r
  match skipBlank text with
  | [] => here .endInList []
  | 0x5D :: r => tooShort r
  | 0x2C :: r =>
    if count = 0 then item (0x2C :: r)
    else
      match skipBlank r with
      | [] => here .endInValue []
      | 0x5D :: r₁ => atNext .trailingComma (0x5D :: r₁)
      | rest => item rest
  | rest => if count = 0 then item rest else atNext .expectedListEnd rest

/-- The end of an array of which all elements have been read. -/
def readClose (text : List UInt8) : Except Fault (List UInt8) :=
  match skipBlank text with
  | [] => here .endInList []
  | 0x5D :: r => .ok r
  | 0x2C :: r =>
    match skipBlank r with
    | 0x5D :: r₁ => atNext .trailingComma (0x5D :: r₁)
    | rest => atNext .trailingCharacters rest
  | rest => atNext .trailingCharacters rest

/-- A request at the front of a text, with `levels` levels left for it. -/
def readRequest (fuel levels : Nat) : Reader Request := fun text =>
  match skipBlank text, levels with
  | [], _ => here .endInValue []
  | 0x5B :: r, 0 => atNext .tooDeep (0x5B :: r)
  | 0x5B :: r, n + 1 => do
    let (service, r) ← readElement (readStringAs fuel "a string") 0 r
    let (function, r) ← readElement (readStringAs fuel "a string") 1 r
    let (args, r) ← readElement (readValues fuel n) 2 r
    let r ← readClose r
    return ({ service, function, args }, r)
  | 0x7B :: r, 0 => atNext .tooDeep (0x7B :: r)
  | 0x7B :: r, n + 1 => do
    let (fields, r) ← readFields (readRequestField fuel n) fuel {} r
    fields.complete r
  | rest, _ => refuse fuel requestType rest

def parseRequest (text : List UInt8) : Except Error Request :=
  readAll (fun fuel => readRequest fuel maxDepth) text

end Json

end Switchboard
