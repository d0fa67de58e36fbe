import Switchboard.Url.Basic

/-!
# Reading web addresses

`Url.ofText` reads what follows `http:` in an address. Tabs and line breaks count for nothing, a
backslash is a slash, and any number of slashes may stand before the host. The host ends where a
path, a query or a fragment starts; what stands before the last `@` up to there is the user name and
the password.
-/
namespace Switchboard.Url

/-- Whether a character counts for nothing in an address. -/
def isIgnored (c : Char) : Bool := c == '\t' || c == '\n' || c == '\r'

def isSlash (c : Char) : Bool := c == '/' || c == '\\'

/-- Whether a character starts a query or a fragment. -/
def endsPath (c : Char) : Bool := c == '?' || c == '#'

/-- The text before the last `@` and the text behind it. -/
def cutAtLastAt (cs : List Char) : List Char × List Char :=
  let behind := (cs.reverse.takeWhile (· != '@')).reverse
  (cs.take (cs.length - behind.length - 1), behind)

/-- The user name and the password. An empty password is none. -/
def readCredentials (cs : List Char) : List Char × Option (List Char) :=
  let (name, rest) := Text.cut (· == ':') cs
  let encode := Percent.encode Percent.userinfo
  match rest with
  | _ :: c :: password => (encode name, some (encode (c :: password)))
  | _ => (encode name, none)

/-- The host's text up to a colon outside brackets, and the text from there on. -/
def cutHost (inBrackets : Bool) : List Char → List Char × List Char
  | [] => ([], [])
  | c :: cs =>
    if c = ':' && !inBrackets then ([], c :: cs)
    else
      let inside := if c = '[' then true else if c = ']' then false else inBrackets
      let (host, rest) := cutHost inside cs
      (c :: host, rest)

/-- The port that a colon and digits give. The standard one is left out. -/
def readPort : List Char → Except Fault (Option Nat)
  | [] => .ok none
  | _ :: cs =>
    if cs.all isDigit && valueOf 10 cs < 65536 then
      .ok (if cs.isEmpty || valueOf 10 cs = 80 then none else some (valueOf 10 cs))
    else .error .invalidPort

/-- The pieces of a path put together. -/
def resolve : Path → List (List Char) → Path
  | path, [] => path
  | path, [piece] => addPiece path (Percent.encode Percent.path piece) true
  | path, piece :: pieces =>
    resolve (addPiece path (Percent.encode Percent.path piece) false) pieces

/-- The segments of a path. One slash in front separates it from the host. -/
def readPath (cs : List Char) : Path :=
  let inner :=
    match cs with
    | c :: rest => if isSlash c then rest else cs
    | [] => []
  resolve [] (Text.split isSlash inner)

def readQuery : List Char → Option (List Char)
  | '?' :: cs => some (Percent.encode Percent.query (cs.takeWhile (· != '#')))
  | _ => none

def readFragment (cs : List Char) : Option (List Char) :=
  match cs.dropWhile (· != '#') with
  | _ :: rest => some (Percent.encode Percent.fragment rest)
  | [] => none

/-- The address whose text after `http:` is given. -/
def ofText (cs : List Char) : Except Fault Url := do
  let cs := (cs.filter fun c => !isIgnored c).dropWhile isSlash
  let (authority, rest) := Text.cut (fun c => isSlash c || endsPath c) cs
  let (credentials, address) := cutAtLastAt authority
  let (username, password) := readCredentials credentials
  let (hostText, portText) := cutHost false address
  let host ← Host.ofText hostText
  let port ← readPort portText
  let (path, rest) := Text.cut endsPath rest
  return {
    username, password, host, port
    path := readPath path
    query := readQuery rest
    fragment := readFragment rest }

end Switchboard.Url
