import Switchboard.Text.Split
import Switchboard.Url.Mapping
import Switchboard.Url.Percent

/-!
# Hosts

A host is an address of four numbers, an address of eight groups in brackets, or a name. A text
whose last label is a number has to be an address. `Host.ofText` reads a host and `Host.chars`
writes it in its one canonical form.

A name is in ASCII and lower case. One that is not is put into its simplest form first, and labels
that are still outside ASCII are written in Punycode.
-/
namespace Switchboard.Url

inductive Fault where
  | emptyHost
  | invalidName
  | invalidIpv4
  | invalidIpv6
  | invalidPort
  deriving DecidableEq, Repr

def Fault.message : Fault → String
  | emptyHost => "empty host"
  | invalidName => "invalid international domain name"
  | invalidIpv4 => "invalid IPv4 address"
  | invalidIpv6 => "invalid IPv6 address"
  | invalidPort => "invalid port number"

inductive Host where
  | name (cs : List Char)
  /-- An address as one number below 2^32. -/
  | ipv4 (address : Nat)
  /-- An address as its groups, each below 2^16. -/
  | ipv6 (groups : List Nat)
  deriving DecidableEq

def isDigit (c : Char) : Bool := '0' ≤ c && c ≤ '9'

/-- The number that digits of a base below 17 stand for. -/
def valueOf (base : Nat) (cs : List Char) : Nat :=
  cs.foldl (fun n c => n * base + (Text.hexValue? c).getD 0) 0

namespace Ipv4

/-- A number in a base with the digits that it may have. -/
def digits? (base : Nat) (cs : List Char) : Option Nat :=
  if cs.all fun c => (Text.hexValue? c).any (· < base) then some (valueOf base cs) else none

/-- A number: after `0x` in base 16, after `0` in base 8, else in base 10. No digits are zero. -/
def number? : List Char → Option Nat
  | [] => none
  | '0' :: 'x' :: cs | '0' :: 'X' :: cs => digits? 16 cs
  | '0' :: c :: cs => digits? 8 (c :: cs)
  | cs => digits? 10 cs

/-- The labels of a name without the empty one behind a final dot. -/
def labels (cs : List Char) : List (List Char) :=
  let pieces := Text.split (· == '.') cs
  if pieces.getLast? = some [] then pieces.dropLast else pieces

/-- Whether the last label of a name is a number, so that the name has to be an address. -/
def isMeant (cs : List Char) : Bool :=
  match (labels cs).getLast? with
  | none => false
  | some label => (!label.isEmpty && label.all isDigit) || (number? label).isSome

/-- The address of up to four numbers. The last one fills all bytes that are left. -/
def ofText (cs : List Char) : Except Fault Nat :=
  match (labels cs).mapM number? with
  | none => .error .invalidIpv4
  | some numbers =>
    let leading := numbers.dropLast
    let last := numbers.getLast?.getD 0
    if numbers.length > 4 || leading.any (255 < ·) || Nat.pow 256 (4 - leading.length) ≤ last then
      .error .invalidIpv4
    else
      .ok (leading.zipIdx.foldl (fun total (n, i) => total + n * Nat.pow 256 (3 - i)) last)

def chars (address : Nat) : List Char :=
  let byte (i : Nat) := Nat.toDigits 10 (address / Nat.pow 256 i % 256)
  byte 3 ++ '.' :: byte 2 ++ '.' :: byte 1 ++ '.' :: byte 0

end Ipv4

namespace Ipv6

/-- A group of one to four digits. -/
def group? (cs : List Char) : Option Nat :=
  if 1 ≤ cs.length && cs.length ≤ 4 && cs.all (fun c => (Text.hexValue? c).isSome) then
    some (valueOf 16 cs)
  else none

/-- A byte in decimal without leading zeros. -/
def byte? (cs : List Char) : Option Nat :=
  let n := valueOf 10 cs
  if cs.all isDigit && Nat.toDigits 10 n == cs && n ≤ 255 then some n else none

/-- The two groups that four bytes between dots stand for. -/
def dotted? (cs : List Char) : Option (List Nat) :=
  match (Text.split (· == '.') cs).mapM byte? with
  | some [a, b, c, d] => some [256 * a + b, 256 * c + d]
  | _ => none

/-- Groups between colons. The last of them may be four bytes between dots. -/
def groups? (cs : List Char) : Option (List Nat) :=
  if cs.isEmpty then some []
  else
    let pieces := Text.split (· == ':') cs
    let last := pieces.getLast?.getD []
    if last.contains '.' then do
      return (← pieces.dropLast.mapM group?) ++ (← dotted? last)
    else pieces.mapM group?

/-- The text before the first two colons in a row and the text behind them. -/
def cutAtGap : List Char → Option (List Char × List Char)
  | ':' :: ':' :: cs => some ([], cs)
  | c :: cs => (cutAtGap cs).map fun (before, after) => (c :: before, after)
  | [] => none

/-- An address: eight groups, or at most seven around two colons that stand for zeros. -/
def ofText (cs : List Char) : Except Fault (List Nat) :=
  let groups :=
    match cutAtGap cs with
    | none => (groups? cs).filter (·.length = 8)
    | some (before, after) =>
      if before.contains '.' then none
      else
        match groups? before, groups? after with
        | some left, some right =>
          if left.length + right.length ≤ 7 then
            some (left ++ List.replicate (8 - left.length - right.length) 0 ++ right)
          else none
        | _, _ => none
  match groups with
  | some gs => .ok gs
  | none => .error .invalidIpv6

/-- The lengths of the runs of zeros that start at each group. -/
def zeroRuns : List Nat → List Nat
  | [] => []
  | 0 :: gs =>
    let runs := zeroRuns gs
    (runs.headD 0 + 1) :: runs
  | _ :: gs => 0 :: zeroRuns gs

def joined : List Nat → List Char
  | [] => []
  | [g] => Nat.toDigits 16 g
  | g :: gs => Nat.toDigits 16 g ++ ':' :: joined gs

/-- An address, with two colons in place of the first of its longest runs of two or more zeros. -/
def chars (groups : List Nat) : List Char :=
  let runs := zeroRuns groups
  let longest := runs.foldl max 0
  if longest < 2 then joined groups
  else
    let start := runs.idxOf longest
    joined (groups.take start) ++ ':' :: ':' :: joined (groups.drop (start + longest))

end Ipv6

namespace Host

/-- Whether a character may not stand in a name. -/
def forbidden (c : Char) : Bool :=
  c.toNat ≤ 0x20 || c.toNat = 0x7F ||
    ['%', '#', '/', ':', '<', '>', '?', '@', '[', '\\', ']', '^', '|'].contains c

/-- A name with its triples decoded, in its simplest form and in ASCII. -/
def nameOf (cs : List Char) : Except Fault (List Char) :=
  match (Utf8.decode? (Percent.decode (Utf8.encode cs))).bind Mapping.simplest? with
  | none => .error .invalidName
  | some simplest =>
    let labels := Text.split (· == '.') simplest
    if simplest.any forbidden || !Label.areSound labels then .error .invalidName
    else .ok (['.'].intercalate (labels.map Label.written))

/-- The host that a text stands for. -/
def ofText : List Char → Except Fault Host
  | [] => .error .emptyHost
  | '[' :: cs =>
    if cs.getLast? = some ']' then (Ipv6.ofText cs.dropLast).map .ipv6 else .error .invalidIpv6
  | cs => do
    let name ← nameOf cs
    if name.isEmpty then throw .emptyHost
    if Ipv4.isMeant name then return .ipv4 (← Ipv4.ofText name)
    return .name name

def chars : Host → List Char
  | name cs => cs
  | ipv4 address => Ipv4.chars address
  | ipv6 groups => '[' :: Ipv6.chars groups ++ [']']

end Host

end Switchboard.Url
