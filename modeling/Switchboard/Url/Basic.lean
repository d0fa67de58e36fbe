import Switchboard.Url.Host

/-!
# Web addresses

An address has the scheme `http`, possibly a user name and a password, a host, a port unless it is
80, a path of at least one segment, and possibly a query and a fragment. Its parts are kept as they
are written, with percent encoding where the part needs it.

`addPiece` puts a piece of a path behind the segments before it, and resolves `.` and `..`. A
segment that is a letter with a colon or a bar behind it stays when `..` follows.
-/
namespace Switchboard

/-- The segments of a path. -/
abbrev Url.Path := List (List Char)

structure Url where
  username : List Char := []
  password : Option (List Char) := none
  host : Url.Host
  port : Option Nat
  path : Url.Path
  query : Option (List Char) := none
  fragment : Option (List Char) := none
  deriving DecidableEq

namespace Url

/-- Whether a piece stands for its own place. -/
def isHere (piece : List Char) : Bool :=
  ["." , "%2e", "%2E"].any fun s => s.toList == piece

/-- Whether a piece stands for the place above. -/
def isAbove (piece : List Char) : Bool :=
  ["..", "%2e%2e", "%2e%2E", "%2E%2e", "%2E%2E", "%2e.", "%2E.", ".%2e", ".%2E"].any
    fun s => s.toList == piece

def isDrive : List Char → Bool
  | [letter, mark] => letter.isAlpha && (mark == ':' || mark == '|')
  | _ => false

/-- A path without its last segment, unless that names a drive. -/
def shorten (path : Path) : Path :=
  if (path.getLast?.map isDrive).getD false then path else path.dropLast

/-- A path with one more piece. Where the last piece stands for a place, that place is entered. -/
def addPiece (path : Path) (piece : List Char) (isLast : Bool) : Path :=
  let entered := if isLast then [[]] else []
  if isAbove piece then shorten path ++ entered
  else if isHere piece then path ++ entered
  else path ++ [piece]

def pathChars (path : Path) : List Char := path.flatMap ('/' :: ·)

/-- The user name and password as they stand in an address. -/
def credentialChars (u : Url) : List Char :=
  match u.username, u.password with
  | [], none => []
  | name, none => name ++ ['@']
  | name, some password => name ++ ':' :: password ++ ['@']

/-- The path and the query as they stand in an address. -/
def targetChars (u : Url) : List Char :=
  pathChars u.path ++ (u.query.map ('?' :: ·)).getD []

def chars (u : Url) : List Char :=
  "http://".toList ++ u.credentialChars ++ u.host.chars ++
    (u.port.map fun p => ':' :: Nat.toDigits 10 p).getD [] ++ u.targetChars ++
    (u.fragment.map ('#' :: ·)).getD []

def text (u : Url) : String := String.ofList u.chars

/-- Whether an address can carry a path: a slash stands behind its scheme. -/
def carriesPath (u : Url) : Bool := (u.chars.drop "http:".length).head? = some '/'

@[simp]
theorem carriesPath_eq (u : Url) : u.carriesPath = true := rfl

def target (u : Url) : String := String.ofList u.targetChars

/-- Whether a part of an address is UTF-8 once its triples are decoded. -/
def isText (part : List Char) : Bool :=
  (Utf8.decode? (Percent.decode (Utf8.encode part))).isSome

/-- An address without a user name and a password. It keeps them where the user name is not text, or
where there is only a password and that is not text. -/
def withoutCredentials (u : Url) : Url :=
  if isText u.username && (!u.username.isEmpty || u.password.any isText) then
    { u with username := [], password := none }
  else u

end Url

end Switchboard
