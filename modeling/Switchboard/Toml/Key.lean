import Switchboard.Toml.Quoted

/-!
# Keys

A key is one name or several with dots between them. A name is quoted, or of letters, digits,
hyphens and underscores of ASCII.
-/
namespace Switchboard.Toml

/-- Names of fewer than this many parts and values nested less deep are read. -/
def maxDepth : Nat := 80

/-- Whether a character may stand in a name without quotes. -/
def isBare (c : Char) : Bool :=
  c == '-' || c == '_' || ('0' ≤ c && c ≤ '9') || ('a' ≤ c && c ≤ 'z') || ('A' ≤ c && c ≤ 'Z')

/-- One name with the blanks around it. -/
def readName (fuel : Nat) : Reader String := fun text => do
  let text := skipBlank text
  let bare := text.takeWhile isBare
  let (name, r) ←
    if bare.isEmpty then readQuoted fuel text else some (bare, text.dropWhile isBare)
  return (String.ofList name, skipBlank r)

/-- The names of a key. -/
def readNames : (fuel : Nat) → Reader (List String)
  | 0, _ => none
  | n + 1, text => do
    let (name, r) ← readName (n + 1) text
    match r with
    | '.' :: r => do
      let (names, r) ← readNames n r
      return (name :: names, r)
    | _ => return ([name], r)

/-- A key as the names that lead to it and its own name. -/
def readKey (fuel : Nat) : Reader (List String × String) := fun text => do
  let (names, r) ← readNames fuel text
  let own ← names.getLast?
  if names.length < maxDepth then some ((names.dropLast, own), r) else none

end Switchboard.Toml
