import Switchboard.Config.Build

/-!
# The program

The program benchmarks what its user has configured, and prints a heading and the report
(specification, E7). `run` is the whole of it: from what surrounds the program it gives what is
printed, the exit code, the records of the log and the state of the network. Only the option for
verbose logs is known; all other arguments count for nothing.
-/
namespace Switchboard.Program

/-- Whether the place for the log can be used. Where it cannot, the temporary directory may. -/
inductive LogPlace where
  | configDirectory
  | temporaryDirectory
  | nowhere (why : String)
  deriving DecidableEq

structure World (ρ μ : Type) where
  args : List String
  config : Config.File
  logPlace : LogPlace := .configDirectory
  disk : Native.Disk ρ
  link : Network.Link μ
  web : μ
  elapsed : Kind → Float

structure Result (μ : Type) where
  code : Nat
  stdout : String
  stderr : String
  /-- The records that are written to the log. -/
  log : List Event
  /-- What was tried to find the extension. -/
  probes : List Native.Probe
  web : μ

def isVerbose (args : List String) : Bool := args.any fun a => a = "--verbose" || a = "-v"

/-- Whether a record of a level is written (E4). -/
def isWritten (verbose : Bool) : Level → Bool
  | .warn | .error => true
  | .info | .debug => verbose

/-- The records that are written to a log. -/
def written (place : LogPlace) (verbose : Bool) (events : List Event) : List Event :=
  match place with
  | .nowhere _ => []
  | _ => events.filter fun e => isWritten verbose e.level

/-- What is said on the error stream about the log. -/
def logNotice : LogPlace → String
  | .nowhere why => "svcbridge: logging disabled: " ++ why ++ "\n"
  | _ => ""

def heading (s : Bench.Settings) : String :=
  "Benchmarking " ++ s.service ++ "::" ++ s.function ++ " (" ++ s.iterations.repr ++
    " iterations, " ++ s.payloadSize.repr ++ " byte payload)\n"

/-- The program from its arguments to its exit code (E7). -/
def run {ρ μ : Type} (w : World ρ μ) : Result μ :=
  let verbose := isVerbose w.args
  let notice := logNotice w.logPlace
  let started := Event.started (if verbose then .debug else .warn)
  let (config, loadLog) := Config.load w.config
  match Bench.Harness.ofConfig w.disk w.link w.web config with
  -- not even the heading is printed
  | .error fault =>
    let log := started :: loadLog ++ [.networkNotBuilt fault.message]
    { code := 1, stdout := ""
      stderr := notice ++ "svcbridge: could not build network strategy: " ++ fault.message ++ "\n"
      log := written w.logPlace verbose log, probes := [], web := w.web }
  | .ok built =>
    let bench := config.benchmark
    let done := built.value.run w.elapsed bench.iterations bench.payload
    let log := started :: loadLog ++ built.log ++ done.log
    let top := heading bench
    match done.result with
    | .ok report =>
      { code := 0, stdout := top ++ report.render, stderr := notice
        log := written w.logPlace verbose log, probes := built.probes
        web := done.next.network.state }
    | .error e =>
      { code := 1, stdout := top, stderr := notice ++ "svcbridge: " ++ e.message ++ "\n"
        log := written w.logPlace verbose log, probes := built.probes
        web := done.next.network.state }

end Switchboard.Program
