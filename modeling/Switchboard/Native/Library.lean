import Switchboard.Native.Limits
import Switchboard.Text.Utf8

/-!
# Extension libraries

An extension is a shared library with four functions, whose symbols are a configurable text followed
by `runtime_new`, `runtime_free`, `call_function` and `string_free` (specification, E6.4). Texts
cross the boundary in memory that ends with a NUL byte, and the reader of such memory sees the bytes
before the first NUL.

* `Library` is what a loaded library does, and `Disk` what the loader finds at each path.
* `load` finds the first `Obstacle` on the way to a runtime, or gives the runtime and its module.
  `Loading.probes` lists what was tried on the way.
* `Module` is the boundary that a native strategy calls.
-/
namespace Switchboard.Native

/-- The bytes that memory ending with a NUL holds. -/
def beforeNul (memory : List UInt8) : List UInt8 := memory.takeWhile (· != 0)

/-- Memory that holds a text and ends with a NUL, where the text has none inside. -/
def nulTerminated? (s : String) : Option (List UInt8) :=
  if hasNul s then none else some (Utf8.bytes s ++ [0])

/-- What a library gives back from a call: a status, and memory with a text unless it is null. -/
structure Return where
  status : Int
  text : Option (List UInt8)
  deriving DecidableEq

/-- A loaded library whose runtimes have states in `ρ`. A function is named by its symbol. -/
structure Library (ρ : Type) where
  /-- Whether the library has a symbol. -/
  exports : String → Bool
  /-- A new runtime, unless it is null. -/
  newRuntime : String → Option ρ
  /-- A call, given the memory of the service's name, the function's name and the argument list. -/
  call : String → ρ → List UInt8 → List UInt8 → List UInt8 → Return × ρ

inductive Image (ρ : Type) where
  | absent
  | unloadable (why : String)
  | library (l : Library ρ)

abbrev Disk (ρ : Type) := String → Image ρ

inductive Obstacle where
  | disabled
  | notConfigured
  | notFound (path : String)
  | notLoaded (path why : String)
  | noSymbol (path symbol : String)
  | nullRuntime (symbol : String)
  deriving DecidableEq

/-- An obstacle in words. A symbol with a NUL character inside cannot even be looked up. -/
def Obstacle.message : Obstacle → String
  | disabled => "native strategy disabled in config"
  | notConfigured => "no native library configured"
  | notFound path => "native library not found: " ++ path
  | notLoaded path why => "failed to load " ++ path ++ ": " ++ path ++ ": " ++ why
  | noSymbol path symbol =>
    "missing symbol " ++ symbol ++ ": " ++
      if hasNul symbol then "could not create a C string from bytes"
      else path ++ ": undefined symbol: " ++ symbol
  | nullRuntime symbol => symbol ++ " returned null"

/-- Something that is tried on the way to an extension. -/
inductive Probe where
  | findFile (path : String)
  | openLibrary (path : String)
  | findSymbol (symbol : String)
  | createRuntime (symbol : String)
  deriving DecidableEq

/-- The boundary to an extension whose runtime has states in `σ`. -/
structure Module (σ : Type) where
  call : σ → String → String → List Json.Value → Except Failure Json.Value × σ

/-- A text as memory for an extension, or the refusal of a text with a NUL inside. -/
def handOver (what s : String) : Except Failure (List UInt8) :=
  match nulTerminated? s with
  | some memory => .ok memory
  | none => .error (.invalidArguments (what ++ " contains null bytes"))

/-- The three texts of a call as memory for an extension. -/
def handOverAll (service function : String) (args : List Json.Value) :
    Except Failure (List UInt8 × List UInt8 × List UInt8) := do
  let s ← handOver "service name" service
  let f ← handOver "function name" function
  let a ← handOver "arguments" (Json.Value.array args).text
  return (s, f, a)

/-- The outcome that a library's answer stands for: with status 0 its text is the result in JSON,
with any other it is an error (E6.4). -/
def Return.outcome (answer : Return) : Except Failure Json.Value :=
  match answer.text with
  -- whatever the status
  | none =>
    .error (.remote ("native call returned no result (status " ++ answer.status.repr ++ ")"))
  | some memory =>
    let text := beforeNul memory
    if answer.status ≠ 0 then .error (.remote (Utf8.textLossy text))
    else
      match Json.parseString (Utf8.textLossy text) with
      | .ok v => .ok v
      | .error e => .error (.malformedResponse ("native result is not JSON: " ++ e.message))

/-- The module of a library, with the symbol of the function that carries out calls. -/
def Library.module {ρ : Type} (l : Library ρ) (symbol : String) : Module ρ where
  call runtime service function args :=
    match handOverAll service function args with
    | .error e => (.error e, runtime)
    | .ok (s, f, a) =>
      let (answer, next) := l.call symbol runtime s f a
      (answer.outcome, next)

/-- The names of the functions of an extension (E6.4) in the order in which they are looked up. -/
def functionNames : List String := ["runtime_new", "runtime_free", "call_function", "string_free"]

/-- The first symbol that a library lacks, and the symbols looked up until then. -/
def Library.resolve {ρ : Type} (l : Library ρ) : List String → Option String × List Probe
  | [] => (none, [])
  | symbol :: rest =>
    if hasNul symbol || !l.exports symbol then (some symbol, [.findSymbol symbol])
    else
      let (missing, probes) := l.resolve rest
      (missing, .findSymbol symbol :: probes)

structure Loaded (ρ : Type) where
  module : Module ρ
  runtime : ρ

structure Loading (ρ : Type) where
  result : Except Obstacle (Loaded ρ)
  probes : List Probe

/-- Looks up the functions of an opened library and creates a runtime. -/
def Library.start {ρ : Type} (l : Library ρ) (path symbolPrefix : String) : Loading ρ :=
  match l.resolve (functionNames.map (symbolPrefix ++ ·)) with
  | (some symbol, probes) => { result := .error (.noSymbol path symbol), probes }
  | (none, probes) =>
    let creator := symbolPrefix ++ "runtime_new"
    let probes := probes ++ [.createRuntime creator]
    match l.newRuntime creator with
    | none => { result := .error (.nullRuntime creator), probes }
    | some runtime =>
      { result := .ok { module := l.module (symbolPrefix ++ "call_function"), runtime }, probes }

def load {ρ : Type} (disk : Disk ρ) (path symbolPrefix : String) : Loading ρ :=
  match disk path with
  | .absent => { result := .error (.notFound path), probes := [.findFile path] }
  | .unloadable why =>
    { result := .error (.notLoaded path why), probes := [.findFile path, .openLibrary path] }
  | .library l =>
    let loading := l.start path symbolPrefix
    { loading with probes := .findFile path :: .openLibrary path :: loading.probes }

end Switchboard.Native
