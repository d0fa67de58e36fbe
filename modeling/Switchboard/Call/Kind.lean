import Switchboard.Json.Typed

/-!
# Strategy kinds

A call is carried out by an extension inside the process or by a server over the network. The name
of a kind is its text in logs, reports and JSON (specification, E2). There it is a string, or an
object with the name as its only key and `null` as its value.
-/
namespace Switchboard

/-- How a strategy carries out calls. -/
inductive Kind where
  | native
  | network
  deriving DecidableEq, Ord, Repr

namespace Kind

instance : LT Kind := ltOfOrd

def name : Kind → String
  | native => "native"
  | network => "network"

def ofName? (s : String) : Option Kind :=
  if s = native.name then some native else if s = network.name then some network else none

theorem name_inj {k l : Kind} : k.name = l.name ↔ k = l := by
  cases k <;> cases l <;> decide

/-- The name, with spaces before it up to the given width. -/
def padded (k : Kind) (width : Nat) : String :=
  String.ofList (List.replicate (width - k.name.length) ' ') ++ k.name

def json (k : Kind) : String := (Json.Value.string k.name).text

end Kind

namespace Json

def kindNamed (name : String) (rest : List UInt8) : Except Fault (Kind × List UInt8) :=
  match Kind.ofName? name with
  | some k => .ok (k, rest)
  | none => here (.unknownVariant name [Kind.native.name, Kind.network.name]) rest

/-- The key of an object, which has to be there, behind its opening brace. -/
def readKey (fuel : Nat) : Reader String := fun text =>
  match skipBlank text with
  | [] => here .endInObject []
  | 0x22 :: r => readString fuel r
  | 0x7D :: r => atNext .expectedValue (0x7D :: r)
  | rest => atNext .keyNotString rest

def readKind (fuel : Nat) : Reader Kind := fun text =>
  match skipBlank text with
  | [] => here .endInValue []
  | 0x22 :: r => do
    let (s, r) ← readString fuel r
    kindNamed s r
  | 0x7B :: r => do
    let (name, r) ← readKey fuel r
    let (k, r) ← kindNamed name r
    let r ← readColon r
    let (_, r) ← readNull fuel r
    match skipBlank r with
    | [] => here .endInObject []
    | 0x7D :: r => return (k, r)
    | rest => here .expectedValue rest
  | rest => atNext .expectedValue rest

def parseKind (text : List UInt8) : Except Error Kind := readAll readKind text

end Json

end Switchboard
