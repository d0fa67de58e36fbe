import Switchboard.Json.Parser

/-!
# Passing over a value

A value that is not wanted is read by its form alone: numbers may be of any size, strings may hold
unpaired halves of surrogates, and there is no bound on how deep arrays and objects stand in one
another.
-/
namespace Switchboard.Json

/-- What encloses the place reached. -/
inductive Enclosing where
  | list
  | object
  deriving DecidableEq

/-- What may come next: a value, a key, or what follows a value. -/
inductive Expecting where
  | value
  | key
  | next

/-- What a list or an object expects at the start of its next part. -/
def Enclosing.part : Enclosing → Expecting
  | .list => .value
  | .object => .key

/-- The refusal of a text that ends inside. -/
def Enclosing.atEnd : Enclosing → Cause
  | .list => .endInList
  | .object => .endInObject

/-- The refusal of what is neither a comma nor the closing bracket. -/
def Enclosing.notClosed : Enclosing → Cause
  | .list => .expectedListEnd
  | .object => .expectedObjectEnd

def Enclosing.close : Enclosing → UInt8
  | .list => 0x5D
  | .object => 0x7D

/-- What follows the value that the enclosing lists and objects are part of. -/
def skipFrom : Nat → List Enclosing → Expecting → List UInt8 → Except Fault (List UInt8)
  | 0, _, _, text => here .endInValue text
  | fuel + 1, outer, .value, text =>
    let opened (e : Enclosing) (r : List UInt8) : Except Fault (List UInt8) :=
      match skipBlank r with
      | [] => here e.atEnd []
      | b :: r₁ =>
        if b = e.close then skipFrom fuel outer .next r₁
        else skipFrom fuel (e :: outer) e.part (b :: r₁)
    match skipBlank text with
    | [] => here .endInValue []
    | 0x6E :: r => do skipFrom fuel outer .next (← readWord [0x75, 0x6C, 0x6C] r)
    | 0x74 :: r => do skipFrom fuel outer .next (← readWord [0x72, 0x75, 0x65] r)
    | 0x66 :: r => do skipFrom fuel outer .next (← readWord [0x61, 0x6C, 0x73, 0x65] r)
    | 0x22 :: r => do skipFrom fuel outer .next (← skipString (fuel + 1) r)
    | 0x5B :: r => opened .list r
    | 0x7B :: r => opened .object r
    | b :: r =>
      if b = 0x2D || (digit? b).isSome then do
        let (_, r) ← Numeral.read .invalidNumber (b :: r)
        skipFrom fuel outer .next r
      else atNext .expectedValue (b :: r)
  | fuel + 1, outer, .key, text =>
    match skipBlank text with
    | [] => here .endInObject []
    | 0x22 :: r => do
      let r ← skipString (fuel + 1) r
      skipFrom fuel outer .value (← readColon r)
    | rest => atNext .keyNotString rest
  | _ + 1, [], .next, text => .ok text
  | fuel + 1, e :: outer, .next, text =>
    match skipBlank text with
    | [] => here e.atEnd []
    | b :: r =>
      if b = 0x2C then skipFrom fuel (e :: outer) e.part r
      else if b = e.close then skipFrom fuel outer .next r
      else atNext e.notClosed (b :: r)

/-- What follows the value at the front of a text. -/
def skipValue (fuel : Nat) (text : List UInt8) : Except Fault (List UInt8) :=
  skipFrom (2 * fuel + 2) [] .value text

end Switchboard.Json
