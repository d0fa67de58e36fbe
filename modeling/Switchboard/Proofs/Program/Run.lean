import Switchboard.Program
import Switchboard.Proofs.Bench.Posts
import Switchboard.Proofs.Config.Build
import Switchboard.Proofs.Config.Loading
import Switchboard.Proofs.Toml.Literal
import Switchboard.Sample.Server

/-!
# What a run of the program comes to

A run loads a configuration, builds a benchmark, makes its calls and prints what comes of them.
Nothing else decides the exit code and the two streams.

* `lines_cleanReport`: the lines of a report;
* `NotBuilt`: a run whose base address has a fault, and `run_of_fault`;
* `Ended`: how a run ends by what its benchmark gives;
* `Delivered`: what the network has received once the calls of a run are made;
* `Finished`: a run whose calls were made, by the failures of the two series, and `run_of_base`;
* `run_end_to_end`: every run is one of the two.
-/
namespace Switchboard.Program

open Bench (Harness Report Series)
open Network (Post)

/-! ## The report -/

/-- The lines for a benchmark without a failure: one for each strategy that made its calls, the
reason why there was no native one, and how much faster that one was if this can be said. -/
def reportLines (missing : Option String) (n : Nat) (elapsed : Kind → Float) : List String :=
  let line (name : String) (time : Float) : String :=
    name ++ ": " ++ Decimal.fixed 4 time ++ "s (" ++ Decimal.fixed 0 (Bench.perSecond n time) ++
      " ops/sec)"
  let network := line "network" (elapsed .network)
  match missing with
  | some reason => [network, "native: not available (" ++ reason ++ ")"]
  | none =>
    let native := Bench.perSecond n (elapsed .native)
    let other := Bench.perSecond n (elapsed .network)
    [line "native" (elapsed .native), network] ++
      if (native.isFinite && 0 < native) && (other.isFinite && 0 < other) then
        ["Speedup: " ++ Decimal.fixed 2 (native / other) ++ "x faster with native"]
      else []

theorem lines_cleanReport (missing : Option String) (n : Nat) (elapsed : Kind → Float) :
    (Bench.cleanReport missing n elapsed).lines = reportLines missing n elapsed := by
  have names : ¬ "network" = "native" := by decide
  cases missing with
  | some reason => rfl
  | none =>
    simp only [Bench.cleanReport, reportLines, Report.lines, Report.speedup?, Report.sample?,
      Report.skipped?, Report.sampleLine, Keyed.get?, Kind.name, if_neg names, if_true,
      List.map_cons, List.map_nil, Option.map_none, Option.toList_none, List.append_nil]
    refine congrArg (HAppend.hAppend _) ?_
    by_cases usable : (Report.isUsable (Bench.perSecond n (elapsed .native)) &&
        Report.isUsable (Bench.perSecond n (elapsed .network))) = true
    · rw [if_pos usable]
      exact (if_pos usable).symm
    · rw [if_neg usable]
      exact (if_neg usable).symm

/-! ## The ends of a run -/

variable {ρ μ : Type}

namespace World

def loaded (w : World ρ μ) : Config := (Config.load w.config).1

/-- The benchmark that a run builds over a base address. -/
def harness (w : World ρ μ) (base : Url) : Harness ρ μ where
  native := (Native.detectFor w.disk w.loaded).strategy
  network := { strategy := w.loaded.network.strategy w.link base, state := w.web }
  service := w.loaded.benchmark.service
  function := w.loaded.benchmark.function

/-- The call that a run makes again and again. -/
def request (w : World ρ μ) : Request where
  service := w.loaded.benchmark.service
  function := w.loaded.benchmark.function
  args := [.string (Utf8.textLossy w.loaded.benchmark.payload)]

def benchmark (w : World ρ μ) (base : Url) : Bench.Run ρ μ :=
  (w.harness base).run w.elapsed w.loaded.benchmark.iterations w.loaded.benchmark.payload

def networkCalls (w : World ρ μ) (base : Url) : Bench.Repeated μ :=
  Bench.repeatCall w.request w.loaded.benchmark.iterations 0 (w.harness base).network

theorem iterations_ne_zero (w : World ρ μ) : w.loaded.benchmark.iterations ≠ 0 :=
  Config.iterations_load_ne_zero w.config

/-- Why a run has no native strategy, if it has none. -/
def missing (w : World ρ μ) : Option String := (Native.detectFor w.disk w.loaded).found.reason?

end World

/-- A run whose base address has a fault prints only the fault, looks for no extension and sends
nothing. -/
structure NotBuilt (w : World ρ μ) (fault : Url.Fault) (out : Result μ) : Prop where
  code : out.code = 1
  stdout : out.stdout = ""
  stderr : out.stderr = logNotice w.logPlace ++ "svcbridge: could not build network strategy: " ++
    fault.message ++ "\n"
  probes : out.probes = []
  web : out.web = w.web

theorem run_of_fault (w : World ρ μ) {fault : Url.Fault}
    (h : w.loaded.network.base = .error fault) : NotBuilt w fault (run w) := by
  have refused := Harness.ofConfig_of_fault w.disk w.link w.web h
  rw [World.loaded] at refused
  unfold run
  simp only [refused]
  exact ⟨rfl, rfl, rfl, rfl, rfl⟩

/-- A run that makes its calls ends with what its benchmark gives, a report or a failure. -/
structure Ended (w : World ρ μ) (base : Url) (out : Result μ) : Prop where
  reported : ∀ report, (w.benchmark base).result = .ok report →
    out.code = 0 ∧ out.stdout = heading w.loaded.benchmark ++ report.render ∧
      out.stderr = logNotice w.logPlace
  failed : ∀ e, (w.benchmark base).result = .error e →
    out.code = 1 ∧ out.stdout = heading w.loaded.benchmark ∧
      out.stderr = logNotice w.logPlace ++ "svcbridge: " ++ e.message ++ "\n"
  probes : out.probes = (Native.detectFor w.disk w.loaded).probes
  web : out.web = (w.benchmark base).next.network.state

theorem ended_of_base (w : World ρ μ) {base : Url} (h : w.loaded.network.base = .ok base) :
    Ended w base (run w) := by
  have built := Harness.ofConfig_of_base w.disk w.link w.web h
  rw [World.loaded] at built
  unfold run
  simp only [built]
  split
  case h_1 report given =>
    replace given : (w.benchmark base).result = .ok report := given
    refine ⟨fun r result => ?_, fun e result => ?_, rfl, rfl⟩
    · cases given.symm.trans result
      exact ⟨rfl, rfl, rfl⟩
    · cases given.symm.trans result
  case h_2 e given =>
    replace given : (w.benchmark base).result = .error e := given
    refine ⟨fun r result => ?_, fun e result => ?_, rfl, rfl⟩
    · cases given.symm.trans result
    · cases given.symm.trans result
      exact ⟨rfl, rfl, rfl⟩

/-- The names of the strategies that failed, the native one first, each with the index of its first
failing call and the error. -/
def failureText (nf wf : Option (Nat × CallError)) : String :=
  let text (name : String) (x : Nat × CallError) : String :=
    name ++ " failed at iteration " ++ x.1.repr ++ ": " ++ x.2.message
  String.intercalate "; " ((nf.map (text "native")).toList ++ (wf.map (text "network")).toList)

theorem message_of_failed {nf wf : Option (Nat × CallError)} (h : ¬(nf = none ∧ wf = none)) :
    (Bench.RunError.strategyFailed
      (Bench.failuresOf .native nf ++ Bench.failuresOf .network wf)).message =
        "benchmark failed: " ++ failureText nf wf := by
  unfold failureText
  cases nf with
  | some x => cases wf <;> rfl
  | none =>
    cases wf with
    | some y => rfl
    | none => exact absurd ⟨rfl, rfl⟩ h

/-- What the network has received after the calls of a run, of which `wf` is the first failure. -/
structure Delivered (w : World ρ μ) (posts : μ → List Post) (base : Url)
    (wf : Option (Nat × CallError)) (web : μ) : Prop where
  /-- Each call is posted, up to the first that fails. -/
  sent : w.loaded.network.timeoutMs ≠ 0 →
    Network.isSendable (Network.endpoint base w.request) = true →
    ∃ m, posts web = posts w.web ++ List.replicate m (Network.postFor base w.request) ∧
      (wf = none → m = w.loaded.benchmark.iterations) ∧ ∀ k e, wf = some (k, e) → m = k + 1
  /-- To an address that no message can name nothing is sent, and the first call fails. -/
  unsent : w.loaded.network.timeoutMs ≠ 0 →
    Network.isSendable (Network.endpoint base w.request) = false →
    web = w.web ∧ wf = some (0, .execution .network (.transport ("builder error for url (" ++
      Network.shownUrl (Network.endpoint base w.request) ++ ")")))
  /-- Without time nothing is sent either. -/
  hurried : w.loaded.network.timeoutMs = 0 →
    web = w.web ∧ wf = some (0, .execution .network (.transport ("error sending request for url (" ++
      Network.shownUrl (Network.endpoint base w.request) ++ ")")))

theorem delivered_networkCalls (w : World ρ μ) {posts : μ → List Post}
    (received : w.link.Receives posts) (base : Url) :
    Delivered w posts base (w.networkCalls base).failure (w.networkCalls base).next.state := by
  have calls : w.networkCalls base = Bench.repeatCall w.request w.loaded.benchmark.iterations 0
    { strategy := w.loaded.network.strategy w.link base, state := w.web } := rfl
  rw [calls, Network.Settings.strategy]
  by_cases time : w.loaded.network.timeoutMs = 0
  · rw [if_pos time]
    exact ⟨fun h => absurd time h, fun h => absurd time h, fun _ =>
      (Bench.repeatCall_of_hurried base w.request w.iterations_ne_zero 0 w.web).symm⟩
  · rw [if_neg time]
    refine ⟨fun _ sendable => ?_, fun _ unsendable => ?_, fun h => absurd h time⟩
    · obtain ⟨m, posted, complete, stopped⟩ :=
        Bench.posts_repeatCall received sendable w.loaded.benchmark.iterations 0 w.web
      refine ⟨m, posted, complete, fun k e failed => ?_⟩
      rw [← stopped k e failed, Nat.zero_add]
    · exact (Bench.repeatCall_of_not_sendable w.link unsendable w.iterations_ne_zero 0 w.web).symm

/-- Calls without a failure are all posted. -/
theorem Delivered.all {w : World ρ μ} {posts : μ → List Post} {base : Url} {web : μ}
    (h : Delivered w posts base none web) :
    posts web = posts w.web ++
      List.replicate w.loaded.benchmark.iterations (Network.postFor base w.request) := by
  have time : w.loaded.network.timeoutMs ≠ 0 := fun zero => by cases (h.hurried zero).2
  cases sendable : Network.isSendable (Network.endpoint base w.request) with
  | true =>
    obtain ⟨m, posted, complete, -⟩ := h.sent time sendable
    rw [posted, complete rfl]
  | false => cases (h.unsent time sendable).2

/-- A run that made its calls, all in all `calls`. `nf` and `wf` are the first failures of the
native strategy and of the network, and `posts` is what the network receives. -/
structure Finished (w : World ρ μ) (posts : μ → List Post) (base : Url) (calls : List Invocation)
    (nf wf : Option (Nat × CallError)) (out : Result μ) : Prop where
  code : out.code = 0 ∨ out.code = 1
  success : out.code = 0 ↔ ∀ i ∈ calls, ∃ v, i.outcome = .ok v
  probes : out.probes = (Native.detectFor w.disk w.loaded).probes
  reported : out.code = 0 →
    out.stdout = heading w.loaded.benchmark ++ String.join
      ((reportLines w.missing w.loaded.benchmark.iterations w.elapsed).map (· ++ "\n")) ∧
    out.stderr = logNotice w.logPlace ∧
    posts out.web = posts w.web ++
      List.replicate w.loaded.benchmark.iterations (Network.postFor base w.request)
  /-- Of a run that fails nothing is printed but the heading. -/
  failed : out.code = 1 →
    out.stdout = heading w.loaded.benchmark ∧
    out.stderr = logNotice w.logPlace ++ "svcbridge: " ++
      ("benchmark failed: " ++ failureText nf wf) ++ "\n"
  delivered : Delivered w posts base wf out.web

theorem run_of_base (w : World ρ μ) {posts : μ → List Post} (received : w.link.Receives posts)
    {base : Url} (h : w.loaded.network.base = .ok base) :
    ∃ toNative nf toNetwork wf,
      (w.harness base).NativeSeries w.request w.loaded.benchmark.iterations toNative nf ∧
      Series (w.harness base).network w.request w.loaded.benchmark.iterations toNetwork wf ∧
      Finished w posts base (toNative ++ toNetwork) nf wf (run w) := by
  obtain ⟨toNative, nf, toNetwork, hs, ht, result, next⟩ :=
    (w.harness base).run_series w.elapsed w.iterations_ne_zero w.loaded.benchmark.payload
      (fun s hs => Native.kind_of_strategy hs) (Network.Settings.kind_strategy _ _ _)
  have missing : (w.harness base).native.reason? = w.missing := Availability.reason?_map _ _
  have delivered := delivered_networkCalls w received base
  change Series _ _ _ _ (w.networkCalls base).failure at ht
  change (w.benchmark base).result = Harness.combine _ (Bench.partOf _ _ _
    (w.networkCalls base).failure) at result
  change (w.benchmark base).next.network = (w.networkCalls base).next at next
  rw [missing] at result
  have ended := ended_of_base w h
  rw [← next, ← ended.web] at delivered
  generalize (w.networkCalls base).failure = wf at ht result delivered
  have clean : (nf = none ∧ wf = none) ↔ ∀ i ∈ toNative ++ toNetwork, ∃ v, i.outcome = .ok v := by
    rw [hs.clean, ht.clean, List.forall_mem_append]
  refine ⟨toNative, nf, toNetwork, wf, hs, ht, ?_⟩
  by_cases both : nf = none ∧ wf = none
  · obtain ⟨rfl, rfl⟩ := both
    rw [Harness.combine_clean] at result
    obtain ⟨code, stdout, stderr⟩ := ended.reported _ result
    refine ⟨.inl code, ⟨fun _ => clean.mp ⟨rfl, rfl⟩, fun _ => code⟩, ended.probes,
      fun _ => ⟨?_, stderr, delivered.all⟩, fun failed => ?_, delivered⟩
    · rw [stdout, Report.render, lines_cleanReport]
    · rw [code] at failed
      cases failed
  · have noNative : w.missing = none ∨ nf = none := by
      cases hn : (w.harness base).native with
      | available s => rw [← missing, hn]; exact .inl rfl
      | unavailable reason => exact .inr (hs.unavailable reason hn).2
    rw [Harness.combine_failed _ _ noNative both] at result
    obtain ⟨code, stdout, stderr⟩ := ended.failed _ result
    have notZero : (run w).code ≠ 0 := by rw [code]; decide
    refine ⟨.inr code, ⟨fun e => absurd e notZero, fun all => absurd (clean.mpr all) both⟩,
      ended.probes, fun e => absurd e notZero, fun _ => ⟨stdout, ?_⟩, delivered⟩
    rw [stderr, message_of_failed both]

/-- **The program from end to end.** Whatever the configuration of the user, the state of the files,
the network and the times are: there is at least one iteration. Where the base address has a fault,
nothing is printed, looked for or sent. Where it has none, both strategies make their series of
calls, and the run is a success if all calls that are made succeed, and only then: it prints the
heading and the lines of the report, and the network receives one post for each iteration. A run
that fails prints the heading alone and names every strategy that failed with its first failure; the
network receives a post for each call up to its first failure. It receives none where nothing can be
sent to the address of the call, or the configuration gives the call no time. -/
theorem run_end_to_end (w : World ρ μ) (posts : μ → List Post)
    (received : w.link.Receives posts) :
    w.loaded.benchmark.iterations ≠ 0 ∧
    (∀ fault, w.loaded.network.base = .error fault → NotBuilt w fault (run w)) ∧
    ∀ base, w.loaded.network.base = .ok base →
      ∃ toNative nf toNetwork wf,
        (w.harness base).NativeSeries w.request w.loaded.benchmark.iterations toNative nf ∧
        Series (w.harness base).network w.request w.loaded.benchmark.iterations toNetwork wf ∧
        Finished w posts base (toNative ++ toNetwork) nf wf (run w) :=
  ⟨w.iterations_ne_zero, fun _ => run_of_fault w, fun _ => run_of_base w received⟩

/-! ## Two runs -/

def localhost : Url := { host := .name "localhost".toList, port := some 3000, path := [[]] }

theorem base_standard : ({} : Network.Settings).base = .ok localhost := by decide

/-- A user without a configuration or an extension, and a server that refuses the second post. -/
def unconfigured : World Nat (List Post) where
  args := []
  config := .missing
  disk := fun _ => .absent
  link := Sample.server
    [{ body := .bytes (Utf8.bytes "null") }, { status := 500, body := .bytes [] }]
  web := []
  elapsed := fun _ => 1

theorem loaded_unconfigured : unconfigured.loaded = {} := Config.embedded_eq

/-- The calls of the user stop at the second. -/
theorem answers_unconfigured :
    ((unconfigured.harness localhost).network.answers
      (List.replicate unconfigured.loaded.benchmark.iterations unconfigured.request)).take 2 =
        [.ok .null, .error (.execution .network (.status 500 ""))] := by
  have count : unconfigured.loaded.benchmark.iterations = 9998 + 1 + 1 := by
    rw [loaded_unconfigured]
  rw [count, Bench.answers_replicate_succ, Bench.answers_replicate_succ, World.request,
    World.harness, loaded_unconfigured]
  simp only [List.take_succ_cons, List.take_zero]
  decide +kernel

theorem sendable_unconfigured :
    Network.isSendable (Network.endpoint localhost unconfigured.request) = true := by
  rw [World.request, loaded_unconfigured]
  decide +kernel

/-- The run of the user fails with the second call, and says so. -/
theorem run_end_to_end_unconfigured :
    unconfigured.link.Receives id ∧ unconfigured.loaded.network.base = .ok localhost ∧
      (run unconfigured).code = 1 ∧
      (run unconfigured).stdout =
        "Benchmarking CryptoService::hash_data (10000 iterations, 9000 byte payload)\n" ∧
      (run unconfigured).stderr = "svcbridge: benchmark failed: network failed at iteration 1: " ++
        "network strategy: HTTP status 500\n" ∧
      (run unconfigured).web.length = 2 := by
  have received : unconfigured.link.Receives id := fun _ _ => rfl
  have base : unconfigured.loaded.network.base = .ok localhost := by
    rw [loaded_unconfigured]
    exact base_standard
  obtain ⟨-, -, built⟩ := run_end_to_end unconfigured id received
  obtain ⟨toNative, nf, toNetwork, wf, hs, ht, out⟩ := built localhost base
  have first : ∀ o ∈ ((unconfigured.harness localhost).network.answers (List.replicate
      unconfigured.loaded.benchmark.iterations unconfigured.request)).take 1, ∃ v, o = .ok v := by
    have one := congrArg (List.take 1) answers_unconfigured
    rw [List.take_take] at one
    rw [show min 1 2 = 1 from rfl] at one
    rw [one]
    intro o ho
    exact ⟨_, List.mem_singleton.mp ho⟩
  have second : ((unconfigured.harness localhost).network.answers (List.replicate
      unconfigured.loaded.benchmark.iterations unconfigured.request))[1]? =
        some (.error (.execution .network (.status 500 ""))) := by
    have two := congrArg (·[1]?) answers_unconfigured
    rwa [List.getElem?_take_of_lt (by decide)] at two
  obtain ⟨-, rfl⟩ := ht.stopped 1 _ second first
  have skipped : nf = none := by
    refine (hs.unavailable "no native library configured" ?_).2
    rw [World.harness, loaded_unconfigured]
    rfl
  subst skipped
  have code : (run unconfigured).code = 1 := by
    refine out.code.resolve_left fun zero => ?_
    have all := out.success.mp zero
    cases ht.clean.mpr fun i hi => all i (List.mem_append_right _ hi)
  obtain ⟨stdout, stderr⟩ := out.failed code
  refine ⟨received, base, code, ?_, ?_, ?_⟩
  · rw [stdout, loaded_unconfigured]
    decide +kernel
  · rw [stderr]
    decide +kernel
  · have time : unconfigured.loaded.network.timeoutMs ≠ 0 := by
      rw [loaded_unconfigured]
      decide
    obtain ⟨m, posted, -, stopped⟩ := out.delivered.sent time sendable_unconfigured
    rw [id_eq, id_eq, stopped 1 _ rfl] at posted
    rw [posted, List.length_append, List.length_replicate]
    rfl

/-- A user who benchmarks a function with a name of `n` letters, and a server that echoes every
post. -/
def naming (n : Nat) : World Nat (List Post) where
  args := []
  config := .content (Utf8.bytes (Toml.functionDocument (List.replicate n 'a')))
  disk := fun _ => .absent
  link := Sample.server [{}]
  web := []
  elapsed := fun _ => 1

theorem loaded_naming {n : Nat} (h : n ≠ 0) :
    (naming n).loaded.network = {} ∧
      (naming n).loaded.benchmark.function = String.ofList (List.replicate n 'a') := by
  have plain : Toml.IsLiteral (List.replicate n 'a') := fun c hc => by
    rw [List.eq_of_mem_replicate hc]
    decide
  have nonempty : List.replicate n 'a' ≠ [] := fun e => h (List.replicate_eq_nil_iff _ |>.mp e)
  have given : Config.overrides?
      [("benchmark", .table [("function", .string (List.replicate n 'a'))])] =
        some { benchmark := { function := some (String.ofList (List.replicate n 'a')) } } := rfl
  have accepted :=
    Config.ofToml?_of_overrides? (Toml.parse_functionDocument plain nonempty) given
  have loaded : (naming n).loaded = _ :=
    (Config.load_eq_loadFrom _).trans (Config.loadFrom_of_gives ⟨_, rfl, accepted⟩)
  rw [loaded, Config.network_over_template]
  exact ⟨rfl, Config.function_over_template rfl⟩

/-- A name that is too long for an address cannot be called over the network. -/
theorem isSendable_naming {n : Nat} (long : Network.maxAddressBytes < n) :
    Network.isSendable (Network.endpoint localhost (naming n).request) = false := by
  have name : (naming n).request.function.toList = List.replicate n 'a' := by
    rw [World.request, (loaded_naming (Nat.ne_of_gt (Nat.zero_lt_of_lt long))).2,
      String.toList_ofList]
  refine Network.isSendable_of_long localhost (fun c hc => ?_) ?_
  · rw [name] at hc
    rw [List.eq_of_mem_replicate hc]
    rfl
  · rw [name, List.length_replicate]
    exact long

/-- Such a run fails with the first call over the network, but the server has received nothing. -/
theorem run_naming {n : Nat} (long : Network.maxAddressBytes < n) :
    (naming n).loaded.network.base = .ok localhost ∧ (run (naming n)).code = 1 ∧
      (∃ toNetwork e, Series ((naming n).harness localhost).network (naming n).request
        (naming n).loaded.benchmark.iterations toNetwork (some (0, e))) ∧
      (run (naming n)).web = [] := by
  have standard := (loaded_naming (Nat.ne_of_gt (Nat.zero_lt_of_lt long))).1
  have base : (naming n).loaded.network.base = .ok localhost := by
    rw [standard]
    exact base_standard
  have time : (naming n).loaded.network.timeoutMs ≠ 0 := by
    rw [standard]
    decide
  have received : (naming n).link.Receives id := fun _ _ => rfl
  obtain ⟨toNative, nf, toNetwork, wf, -, ht, out⟩ := run_of_base (naming n) received base
  obtain ⟨web, rfl⟩ := out.delivered.unsent time (isSendable_naming long)
  refine ⟨base, out.code.resolve_left fun zero => ?_, ⟨toNetwork, _, ht⟩, web⟩
  have all := out.success.mp zero
  cases ht.clean.mpr fun i hi => all i (List.mem_append_right _ hi)

/-- With a name of 70000 letters the network fails at iteration 0, but the server has not received
one post. -/
theorem not_received_longName :
    (naming 70000).loaded.network.base = .ok localhost ∧ (run (naming 70000)).code = 1 ∧
      (∃ toNetwork e, Series ((naming 70000).harness localhost).network (naming 70000).request
        (naming 70000).loaded.benchmark.iterations toNetwork (some (0, e))) ∧
      ¬ (run (naming 70000)).web.length = 0 + 1 := by
  obtain ⟨base, code, failed, web⟩ := run_naming (n := 70000) (by decide)
  refine ⟨base, code, failed, ?_⟩
  rw [web]
  exact nofun

end Switchboard.Program
