import Switchboard.Json.Literal

/-!
# Reading JSON

A reader takes bytes off the front of a text and gives a result and the bytes that follow, or a
fault. `readItems` and `readFields` read the inside of an array and of an object with a reader for
what stands in it; `readValue` reads any value, with a bound on how deep arrays and objects may
stand in one another. `parse` reads a text that is one value.

Of two entries with one key the later counts.

Loops carry a count as fuel. It starts as the length of the text, and each round takes at least one
byte off it.
-/
namespace Switchboard.Json

/-- Takes a result off the front of a text. -/
abbrev Reader (α : Type) := List UInt8 → Except Fault (α × List UInt8)

/-- The levels of arrays and objects that a text may have. -/
def maxDepth : Nat := 127

def isBlank (b : UInt8) : Bool := b = 0x20 || b = 0x0A || b = 0x09 || b = 0x0D

/-- A text from its first token on. -/
def skipBlank (text : List UInt8) : List UInt8 := text.dropWhile isBlank

/-- The rest of a word whose first letter has been read. -/
def readWord : List UInt8 → List UInt8 → Except Fault (List UInt8)
  | [], rest => .ok rest
  | _ :: _, [] => here .endInValue []
  | w :: ws, b :: r => if b = w then readWord ws r else here .expectedWord r

def readColon (text : List UInt8) : Except Fault (List UInt8) :=
  match skipBlank text with
  | [] => here .endInObject []
  | 0x3A :: r => .ok r
  | rest => atNext .expectedColon rest

/-- The elements behind the first, given those read so far in reverse. -/
def readMoreItems {α : Type} (item : Reader α) : Nat → List α → Reader (List α)
  | 0, _, text => here .endInList text
  | fuel + 1, read, text =>
    match skipBlank text with
    | [] => here .endInList []
    | 0x5D :: r => .ok (read.reverse, r)
    | 0x2C :: r =>
      match skipBlank r with
      | [] => here .endInValue []
      | 0x5D :: r₁ => atNext .trailingComma (0x5D :: r₁)
      | rest =>
        match item rest with
        | .ok (x, r₁) => readMoreItems item fuel (x :: read) r₁
        | .error e => .error e
    | rest => atNext .expectedListEnd rest

/-- The elements of an array, behind its opening bracket. -/
def readItems {α : Type} (item : Reader α) (fuel : Nat) : Reader (List α) := fun text =>
  match skipBlank text with
  | [] => here .endInList []
  | 0x5D :: r => .ok ([], r)
  | rest => do
    let (x, r) ← item rest
    readMoreItems item fuel [x] r

/-- The fields behind the first. `field` goes on behind a key. -/
def readMoreFields {σ : Type} (field : σ → String → Reader σ) : Nat → σ → Reader σ
  | 0, _, text => here .endInObject text
  | fuel + 1, s, text =>
    match skipBlank text with
    | [] => here .endInObject []
    | 0x7D :: r => .ok (s, r)
    | 0x2C :: r =>
      match skipBlank r with
      | [] => here .endInValue []
      | 0x22 :: r₁ =>
        match readString (fuel + 1) r₁ with
        | .ok (key, r₂) =>
          match field s key r₂ with
          | .ok (s', r₃) => readMoreFields field fuel s' r₃
          | .error e => .error e
        | .error e => .error e
      | 0x7D :: r₁ => atNext .trailingComma (0x7D :: r₁)
      | rest => atNext .keyNotString rest
    | rest => atNext .expectedObjectEnd rest

/-- The fields of an object, behind its opening brace, folded into a state. -/
def readFields {σ : Type} (field : σ → String → Reader σ) (fuel : Nat) (start : σ) : Reader σ :=
  fun text =>
    match skipBlank text with
    | [] => here .endInObject []
    | 0x7D :: r => .ok (start, r)
    | 0x22 :: r => do
      let (key, r) ← readString fuel r
      let (s, r) ← field start key r
      readMoreFields field fuel s r
    | rest => atNext .keyNotString rest

/-- An entry of an object of values, behind its key. -/
def readEntry (value : Reader Value) (entries : List (String × Value)) (key : String) :
    Reader (List (String × Value)) := fun text => do
  let r ← readColon text
  let (v, r) ← value r
  return (Keyed.insert key v entries, r)

/-- A value with at most `levels` levels of arrays and objects. -/
def readValue (fuel : Nat) : (levels : Nat) → Reader Value
  | levels, text =>
    match skipBlank text with
    | [] => here .endInValue []
    | 0x6E :: r => (readWord [0x75, 0x6C, 0x6C] r).map fun r => (.null, r)
    | 0x74 :: r => (readWord [0x72, 0x75, 0x65] r).map fun r => (.bool true, r)
    | 0x66 :: r => (readWord [0x61, 0x6C, 0x73, 0x65] r).map fun r => (.bool false, r)
    | 0x22 :: r => (readString fuel r).map fun (s, r) => (.string s, r)
    | 0x5B :: r =>
      match levels with
      | 0 => atNext .tooDeep (0x5B :: r)
      | n + 1 => (readItems (readValue fuel n) fuel r).map fun (vs, r) => (.array vs, r)
    | 0x7B :: r =>
      match levels with
      | 0 => atNext .tooDeep (0x7B :: r)
      | n + 1 =>
        (readFields (readEntry (readValue fuel n)) fuel [] r).map fun (es, r) => (.object es, r)
    | b :: r =>
      if b = 0x2D || (digit? b).isSome then
        (readNumber (b :: r)).map fun (n, r) => (.number n, r)
      else atNext .expectedValue (b :: r)

def readEnd (text : List UInt8) : Except Fault Unit :=
  match skipBlank text with
  | [] => .ok ()
  | rest => atNext .trailingCharacters rest

/-- What a reader makes of a whole text. The reader gets the fuel for its loops. -/
def readAll {α : Type} (reader : Nat → Reader α) (text : List UInt8) : Except Error α :=
  match (do
      let (x, rest) ← reader (text.length + 1) text
      readEnd rest
      return x) with
  | .ok x => .ok x
  | .error fault => .error (fault.locate text)

def parse (text : List UInt8) : Except Error Value :=
  readAll (fun fuel => readValue fuel maxDepth) text

def parseString (s : String) : Except Error Value := parse (Utf8.bytes s)

end Switchboard.Json
