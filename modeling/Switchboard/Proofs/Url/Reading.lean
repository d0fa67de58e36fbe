import Mathlib.Data.List.TakeDrop
import Switchboard.Proofs.Url.Path

/-!
# The parts of an address that is read
-/
namespace Switchboard.Url

/-- What counts of an address: tabs and line breaks do not, and slashes in front do not. -/
def significant (cs : List Char) : List Char := (cs.filter fun c => !isIgnored c).dropWhile isSlash

def endsHost (c : Char) : Bool := isSlash c || endsPath c

/-- What stands before the path, the query and the fragment of an address, and what stands there. -/
def halves (cs : List Char) : List Char × List Char := Text.cut endsHost (significant cs)

/-- What each part of an address is read from. -/
structure IsRead (cs : List Char) (u : Url) : Prop where
  credentials : readCredentials (cutAtLastAt (halves cs).1).1 = (u.username, u.password)
  host : Host.ofText (cutHost false (cutAtLastAt (halves cs).1).2).1 = .ok u.host
  port : readPort (cutHost false (cutAtLastAt (halves cs).1).2).2 = .ok u.port
  path : readPath (Text.cut endsPath (halves cs).2).1 = u.path
  query : readQuery (Text.cut endsPath (halves cs).2).2 = u.query
  fragment : readFragment (Text.cut endsPath (halves cs).2).2 = u.fragment

theorem isRead_of_ofText {cs : List Char} {u : Url} (h : ofText cs = .ok u) : IsRead cs u := by
  change (do
    let host ← Host.ofText (cutHost false (cutAtLastAt (halves cs).1).2).1
    let port ← readPort (cutHost false (cutAtLastAt (halves cs).1).2).2
    return {
      username := (readCredentials (cutAtLastAt (halves cs).1).1).1
      password := (readCredentials (cutAtLastAt (halves cs).1).1).2
      host, port
      path := readPath (Text.cut endsPath (halves cs).2).1
      query := readQuery (Text.cut endsPath (halves cs).2).2
      fragment := readFragment (Text.cut endsPath (halves cs).2).2 : Url }) = Except.ok u at h
  cases hostRead : Host.ofText (cutHost false (cutAtLastAt (halves cs).1).2).1 with
  | error e => rw [hostRead] at h; cases h
  | ok host =>
    cases portRead : readPort (cutHost false (cutAtLastAt (halves cs).1).2).2 with
    | error e => rw [hostRead, portRead] at h; cases h
    | ok port =>
      rw [hostRead, portRead] at h
      cases h
      exact ⟨rfl, hostRead, portRead, rfl, rfl, rfl⟩

/-- A path that is read has a segment, and no segment has a slash. -/
theorem path_of_ofText {cs : List Char} {u : Url} (h : ofText cs = .ok u) :
    u.path ≠ [] ∧ Slashless u.path := by
  rw [← (isRead_of_ofText h).path]
  exact ⟨readPath_ne_nil _, slashless_readPath _⟩

/-- Every address starts with the one scheme. -/
theorem scheme_prefix_chars (u : Url) : "http://".toList <+: u.chars := by
  unfold chars
  simp only [List.append_assoc]
  exact List.prefix_append _ _

end Switchboard.Url
