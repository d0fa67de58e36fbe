import Switchboard.Text.Hex
import Switchboard.Text.Utf8

/-!
# Percent encoding

A character outside ASCII, or in the set that a part of a URL encodes, is written as its UTF-8 bytes
with each as `%` and two digits. `decode` reads such triples back and leaves all else alone.
-/
namespace Switchboard.Url.Percent

/-- Which ASCII characters a part of a URL encodes. -/
abbrev EncodeSet := Char → Bool

/-- Control characters are encoded everywhere. -/
def controls : EncodeSet := fun c => c.toNat < 0x20 || c.toNat = 0x7F

def fragment : EncodeSet := fun c => controls c || [' ', '\x22', '<', '>', '\x60'].contains c

def query : EncodeSet := fun c => controls c || [' ', '\x22', '#', '<', '>', '\x27'].contains c

def path : EncodeSet := fun c => fragment c || ['#', '?', '\x7b', '\x7d'].contains c

def userinfo : EncodeSet := fun c =>
  path c || ['/', ':', ';', '=', '@', '[', '\\', ']', '^', '|'].contains c

/-- What a text that becomes one segment of a path encodes. -/
def segment : EncodeSet := fun c => path c || ['/', '%', '\\'].contains c

/-- A digit below 16, with capital letters. -/
def digit (n : Nat) : Char := (Nat.digitChar n).toUpper

def triple (b : UInt8) : List Char := ['%', digit (b.toNat / 16), digit (b.toNat % 16)]

/-- A character as it is written where `set` is encoded. -/
def encodeChar (set : EncodeSet) (c : Char) : List Char :=
  if 0x80 ≤ c.toNat || set c then (Utf8.encode [c]).flatMap triple else [c]

/-- A text as it is written where `set` is encoded. -/
def encode (set : EncodeSet) (cs : List Char) : List Char := cs.flatMap (encodeChar set)

/-- The bytes of a text with its triples decoded. A `%` that starts no triple stands for itself. -/
def decode : List UInt8 → List UInt8
  | [] => []
  | [b] => [b]
  | [b, c] => [b, c]
  | b :: c :: d :: rest =>
    match if b = 0x25 then Text.hexBytes [Char.ofNat c.toNat, Char.ofNat d.toNat] else [] with
    | [byte] => byte :: decode rest
    | _ => b :: decode (c :: d :: rest)

end Switchboard.Url.Percent
