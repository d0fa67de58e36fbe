/-!
# Punycode

A label of a host name outside ASCII is written in ASCII as the characters that are ASCII, a hyphen
and digits of base 36, which say where the others are inserted. `decode?` reads such a label and
`encode` writes it.

The others are inserted in the order of their code points. A number says how far to go for the next
one: once through all places of the label so far leads to the next code point.
-/
namespace Switchboard.Url.Punycode

def isAscii (cs : List Char) : Bool := cs.all fun c => c.toNat < 0x80

/-- The value of a digit. Labels are in lower case. -/
def digit? (c : Char) : Option Nat :=
  if 'a' ≤ c ∧ c ≤ 'z' then some (c.toNat - 97)
  else if '0' ≤ c ∧ c ≤ '9' then some (c.toNat - 22)
  else none

/-- The least digit at a position that does not end a number. -/
def threshold (position bias : Nat) : Nat := min 26 (max 1 (position - bias))

/-- Divides by 35 until at most 455 is left, and counts 36 for each division. -/
def shrink (delta count : Nat) : Nat × Nat :=
  if 455 < delta then shrink (delta / 35) (count + 36) else (delta, count)
termination_by delta
decreasing_by exact Nat.div_lt_self (by omega) (by omega)

/-- The bias after a number has been read, for a label of the given length. -/
def adapt (delta length : Nat) (first : Bool) : Nat :=
  let halved := if first then delta / 700 else delta / 2
  let (small, count) := shrink (halved + halved / length) 0
  count + 36 * small / (small + 38)

/-! ## Reading -/

/-- Numbers and weights are below this bound. -/
def wordEnd : Nat := 0x100000000

/-- How far a label is decoded. -/
structure State where
  label : List Char
  /-- The code point to insert next. -/
  codePoint : Nat := 128
  /-- Where the next character goes. -/
  index : Nat := 0
  bias : Nat := 72
  first : Bool := true
  /-- The number read so far, the weight of its next digit, and that digit's position. -/
  number : Nat := 0
  weight : Nat := 1
  position : Nat := 36

/-- The state after one more digit. A number that is complete inserts a character. -/
def State.step (s : State) (c : Char) : Option State := do
  let d ← digit? c
  let number := s.number + d * s.weight
  let t := threshold s.position s.bias
  guard (s.index + number < wordEnd)
  if t ≤ d then
    let weight := s.weight * (36 - t)
    guard (weight < wordEnd)
    return { s with number, weight, position := s.position + 36 }
  let length := s.label.length + 1
  let index := s.index + number
  let codePoint := s.codePoint + index / length
  if h : codePoint.isValidChar then
    return {
      label := s.label.insertIdx (index % length) (Char.ofNatAux codePoint h)
      codePoint
      index := index % length + 1
      bias := adapt number length s.first
      first := false }
  none

/-- The characters of a label, unless it is malformed or ends within a number. The last hyphen needs
a character before it. -/
def decode? (cs : List Char) : Option (List Char) := do
  let digits := (cs.reverse.takeWhile (· != '-')).reverse
  let basic := cs.take (cs.length - digits.length - 1)
  guard (!basic.isEmpty || !cs.contains '-')
  let s ← digits.foldlM State.step { label := basic }
  if s.position = 36 then some s.label else none

/-! ## Writing -/

def digit (n : Nat) : Char := Char.ofNat (if n < 26 then n + 97 else n + 22)

/-- A number in digits, the first of them at a position. -/
def digits (position bias n : Nat) : List Char :=
  let t := threshold position bias
  if n < t then [digit n]
  else digit (t + (n - t) % (36 - t)) :: digits (position + 36) bias ((n - t) / (36 - t))
termination_by n
decreasing_by
  have least : 1 ≤ threshold position bias := Nat.le_min.mpr ⟨by decide, Nat.le_max_left ..⟩
  have := Nat.div_le_self (n - threshold position bias) (36 - threshold position bias)
  omega

/-- How far a label is encoded. -/
structure Progress where
  digits : List Char := []
  /-- How many characters the label has so far. -/
  written : Nat
  /-- How far it is to the next character. -/
  delta : Nat := 0
  bias : Nat := 72
  first : Bool := true

/-- Goes past one character of the label, and inserts it if it has the code point. -/
def Progress.pass (codePoint : Nat) (s : Progress) (c : Char) : Progress :=
  if c.toNat < codePoint then { s with delta := s.delta + 1 }
  else if c.toNat = codePoint then
    { digits := s.digits ++ Punycode.digits 36 s.bias s.delta
      written := s.written + 1
      delta := 0
      bias := adapt s.delta (s.written + 1) s.first
      first := false }
  else s

/-- Inserts the characters that have one of the code points, which are in order from `next` on. -/
def Progress.insert (cs : List Char) (next : Nat) (s : Progress) : List Nat → Progress
  | [] => s
  | codePoint :: rest =>
    let reached := { s with delta := s.delta + (codePoint - next) * (s.written + 1) }
    let passed := cs.foldl (Progress.pass codePoint) reached
    insert cs (codePoint + 1) { passed with delta := passed.delta + 1 } rest

/-- The characters of a label as ASCII. -/
def encode (cs : List Char) : List Char :=
  let (basic, others) := cs.partition fun c => c.toNat < 0x80
  let codePoints := (others.map Char.toNat).mergeSort.eraseDups
  let inserted := Progress.insert cs 0x80 { written := basic.length } codePoints
  (if basic.isEmpty then [] else basic ++ ['-']) ++ inserted.digits

end Switchboard.Url.Punycode
