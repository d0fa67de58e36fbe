import Switchboard.Json.Skip

/-!
# Reading a value of a known type

These readers accept one type of value only. Of anything else they say what they found: a simple
value is read first, so that the place is after it; an array or object is not opened.
-/
namespace Switchboard.Json

/-- The refusal of the value at the front of a text in the place of `wanted`. -/
def refuse {α : Type} (fuel : Nat) (wanted : String) (text : List UInt8) : Except Fault α :=
  let found (what : Found) (rest : List UInt8) : Except Fault α :=
    here (.invalidType what wanted) rest
  match text with
  | 0x6E :: r => do found .unit (← readWord [0x75, 0x6C, 0x6C] r)
  | 0x74 :: r => do found (.bool true) (← readWord [0x72, 0x75, 0x65] r)
  | 0x66 :: r => do found (.bool false) (← readWord [0x61, 0x6C, 0x73, 0x65] r)
  | 0x22 :: r => do
    let (s, r) ← readString fuel r
    found (.string s) r
  | 0x5B :: _ => found .sequence text
  | 0x7B :: _ => found .map text
  | [] => here .expectedValue []
  | b :: _ =>
    if b = 0x2D || (digit? b).isSome then do
      let (n, r) ← readNumber text
      found (.number n) r
    else atNext .expectedValue text

/-- A string, described as `wanted` in a refusal. -/
def readStringAs (fuel : Nat) (wanted : String) : Reader String := fun text =>
  match skipBlank text with
  | [] => here .endInValue []
  | 0x22 :: r => readString fuel r
  | rest => refuse fuel wanted rest

def readNull (fuel : Nat) : Reader Unit := fun text =>
  match skipBlank text with
  | [] => here .endInValue []
  | 0x6E :: r => (readWord [0x75, 0x6C, 0x6C] r).map fun r => ((), r)
  | rest => refuse fuel "unit" rest

/-- An array of values, with `levels` levels left for it and what it holds. -/
def readValues (fuel levels : Nat) : Reader (List Value) := fun text =>
  match skipBlank text with
  | [] => here .endInValue []
  | 0x5B :: r =>
    match levels with
    | 0 => atNext .tooDeep (0x5B :: r)
    | n + 1 => readItems (readValue fuel n) fuel r
  | rest => refuse fuel "a sequence" rest

def parseValues (text : List UInt8) : Except Error (List Value) :=
  readAll (fun fuel => readValues fuel maxDepth) text

end Switchboard.Json
