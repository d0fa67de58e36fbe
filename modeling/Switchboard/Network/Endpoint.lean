import Switchboard.Call.Error
import Switchboard.Call.Request
import Switchboard.Url.Parser

/-!
# Endpoints

A function is called at the path `/api/<service>/<function>` below the base address, which is made
of the configured host and port (specification, §4.1 and §6). The two names are percent-encoded. A
name that is `.` or `..` adds nothing to the path, and tabs and line breaks in a name count for
nothing.

`resolve` gives the endpoint of a request. It would fail below an address that cannot carry a path,
but every address of this scheme can (`resolve_eq`).
-/
namespace Switchboard.Network

/-- Where the server is and how long to wait for its reply. -/
structure Settings where
  host : String := "localhost"
  port : Nat := 3000
  timeoutMs : Nat := 30000
  deriving DecidableEq

/-- The base address after its scheme, as the settings give it. -/
def Settings.afterScheme (s : Settings) : List Char :=
  "//".toList ++ s.host.toList ++ ':' :: Nat.toDigits 10 s.port

def Settings.baseText (s : Settings) : String := String.ofList ("http:".toList ++ s.afterScheme)

def Settings.base (s : Settings) : Except Url.Fault Url := Url.ofText s.afterScheme

/-- A path without its empty last segment. The root keeps its only one. -/
def dropEmptyLast (path : Url.Path) : Url.Path :=
  if 2 ≤ path.length && path.getLast? = some [] then path.dropLast else path

/-- A path with a name as one more segment. -/
def pushName (path : Url.Path) (name : String) : Url.Path :=
  if name = "." || name = ".." then path
  else
    -- what is left may be `.` or `..` after all, which `addPiece` then enters
    let kept := name.toList.filter fun c => !Url.isIgnored c
    let piece := Url.Percent.encode Url.Percent.segment kept
    Url.addPiece (if path = [[]] then [] else path) piece true

/-- The address at which the function of a request is called (§6). -/
def endpoint (base : Url) (r : Request) : Url :=
  { base with path := ["api", r.service, r.function].foldl pushName (dropEmptyLast base.path) }

/-- The endpoint of a request, if the base address can carry a path. -/
def resolve (base : Url) (r : Request) : Except Failure Url :=
  if base.carriesPath then .ok (endpoint base r)
  else .error (.transport (base.text ++ " cannot carry a path"))

theorem resolve_eq (base : Url) (r : Request) : resolve base r = .ok (endpoint base r) := by
  simp only [resolve, Url.carriesPath_eq, if_true]

end Switchboard.Network
