import Switchboard.Proofs.Config.Build
import Switchboard.Proofs.Config.Settings
import Switchboard.Sample.Extension
import Switchboard.Sample.Server

/-!
# The transport that a mode leaves out

Two documents that differ in the section of one transport, in a mode that leaves this transport out,
cannot be told apart by calls. Both runs are followed side by side.

* `Simulates`: what a relation of two dispatchers has to keep; `Simulates.run` is the induction;
* `SharesNetwork`: dispatchers over one network that lack a native strategy for the same reason;
* `SharesNative`: dispatchers in mode native over one native strategy;
* `of_eq_of_differIn`: a section that two documents share gives both the same settings;
* `mode_isolates`: hence a mode isolates the transport that it leaves out.
-/
namespace Switchboard

namespace Dispatch.Dispatcher

/-! ## Two runs side by side -/

section
variable {ν ν' μ μ' : Type}

/-- A relation of two dispatchers that each step of a kind keeps. Related dispatchers route a call
in the same way, and it comes to the same. -/
structure Simulates (R : Dispatcher ν μ → Dispatcher ν' μ' → Prop) (allowed : Step → Prop) :
    Prop where
  controls : ∀ {d e}, R d e → e.controls = d.controls
  nativeAvailable : ∀ {d e}, R d e → e.nativeAvailable = d.nativeAvailable
  call : ∀ {d e}, R d e → ∀ r p, (e.dispatch r p).outcome = (d.dispatch r p).outcome ∧
    R (d.dispatch r p).state (e.dispatch r p).state
  change : ∀ {d e s}, R d e → allowed s → d.controls.call? d.nativeAvailable s = none →
    R (d.step s).next (e.step s).next

namespace Simulates

variable {R : Dispatcher ν μ → Dispatcher ν' μ' → Prop} {allowed : Step → Prop}
  (sim : Simulates R allowed) {d : Dispatcher ν μ} {e : Dispatcher ν' μ'}

include sim in
theorem step (h : R d e) {s : Step} (hs : allowed s) :
    (e.step s).outcome = (d.step s).outcome ∧ R (d.step s).next (e.step s).next := by
  have same : e.controls.call? e.nativeAvailable s = d.controls.call? d.nativeAvailable s := by
    rw [sim.controls h, sim.nativeAvailable h]
  cases hc : d.controls.call? d.nativeAvailable s with
  | some call =>
    obtain ⟨r, p⟩ := call
    obtain ⟨ho, hn⟩ := step_of_call hc
    obtain ⟨ho', hn'⟩ := step_of_call (same.trans hc)
    obtain ⟨outcome, next⟩ := sim.call h r p
    rw [ho, ho', hn, hn', outcome]
    exact ⟨rfl, next⟩
  | none =>
    rw [(step_of_change hc).1, (step_of_change (same.trans hc)).1]
    exact ⟨rfl, sim.change h hs hc⟩

include sim in
/-- Each step of two runs comes to the same, and leaves related dispatchers. -/
theorem run (h : R d e) {ss : List Step} (hss : ∀ s ∈ ss, allowed s) :
    List.Forall₂ (fun x y => y.outcome = x.outcome ∧ R x.next y.next)
      (d.run ss).1 (e.run ss).1 := by
  induction ss generalizing d e with
  | nil => exact .nil
  | cons s ss ih =>
    have first := sim.step h (hss s List.mem_cons_self)
    exact .cons first (ih first.2 fun t ht => hss t (List.mem_cons_of_mem _ ht))

end Simulates

end

section
variable {ν ν' μ : Type}

/-- Two dispatchers have the same network strategy in the same state and the same controls, and lack
a native strategy for the same reason. -/
structure SharesNetwork (reason : String) (d : Dispatcher ν μ) (e : Dispatcher ν' μ) : Prop where
  missing : d.native = .unavailable reason
  missing' : e.native = .unavailable reason
  network : e.network = d.network
  controls : e.controls = d.controls

theorem SharesNetwork.invokeNetwork {reason : String} {d : Dispatcher ν μ} {e : Dispatcher ν' μ}
    (h : SharesNetwork reason d e) (r : Request) :
    (e.invokeNetwork r).outcome = (d.invokeNetwork r).outcome ∧
      SharesNetwork reason (d.invokeNetwork r).state (e.invokeNetwork r).state := by
  unfold Dispatcher.invokeNetwork
  rw [h.network]
  exact ⟨rfl, h.missing, h.missing', rfl, h.controls⟩

theorem SharesNetwork.dispatch {reason : String} {d : Dispatcher ν μ} {e : Dispatcher ν' μ}
    (h : SharesNetwork reason d e) (r : Request) (p : Bool) :
    (e.dispatch r p).outcome = (d.dispatch r p).outcome ∧
      SharesNetwork reason (d.dispatch r p).state (e.dispatch r p).state := by
  have mode : e.mode = d.mode := congrArg Controls.mode h.controls
  have attempt := invokeNative_of_unavailable h.missing r
  have attempt' := invokeNative_of_unavailable h.missing' r
  cases hm : d.mode with
  | network =>
    rw [dispatch_of_direct (.inl hm), dispatch_of_direct (.inl (mode.trans hm))]
    exact h.invokeNetwork r
  | native =>
    rw [dispatch_of_native hm, dispatch_of_native (mode.trans hm), attempt, attempt']
    exact ⟨rfl, h⟩
  | both =>
    obtain ⟨outcome, next⟩ := h.invokeNetwork r
    cases p with
    | false =>
      rw [dispatch_of_direct (.inr ⟨hm, rfl⟩), dispatch_of_direct (.inr ⟨mode.trans hm, rfl⟩)]
      exact ⟨outcome, next⟩
    | true =>
      have gone : unusable? (d.invokeNative r).outcome = some reason := by rw [attempt]; rfl
      have gone' : unusable? (e.invokeNative r).outcome = some reason := by rw [attempt']; rfl
      rw [dispatch_of_both hm, dispatch_of_both (mode.trans hm), invokeWithFallback_of_some gone,
        invokeWithFallback_of_some gone', attempt, attempt']
      exact ⟨congrArg (Except.mapError (CallError.fallbackFailed reason)) outcome, next⟩

/-- No step at all tells apart dispatchers that share the network. -/
theorem sharesNetwork_simulates (reason : String) :
    Simulates (SharesNetwork reason : Dispatcher ν μ → Dispatcher ν' μ → Prop) fun _ => True where
  controls h := h.controls
  nativeAvailable h := by
    rw [nativeAvailable_eq, nativeAvailable_eq, h.missing, h.missing']
    rfl
  call h := h.dispatch
  change {d e s} h _ hc := by
    have hc' : e.controls.call? e.nativeAvailable s = none := by
      rw [h.controls, nativeAvailable_eq, h.missing']
      rw [nativeAvailable_eq, h.missing] at hc
      exact hc
    obtain ⟨-, native, network⟩ := step_of_change hc
    obtain ⟨-, native', network'⟩ := step_of_change hc'
    refine ⟨native.trans h.missing, native'.trans h.missing', ?_, ?_⟩
    · rw [network, network', h.network]
    · rw [(d.step_frame s).1, (e.step_frame s).1, h.controls]

end

section
variable {ν μ μ' : Type}

/-- Two dispatchers have the same native strategy in the same state and the same controls, with the
mode native. The network of each is as it was at first. -/
structure SharesNative (idle : Running μ) (idle' : Running μ') (d : Dispatcher ν μ)
    (e : Dispatcher ν μ') : Prop where
  mode : d.mode = .native
  native : e.native = d.native
  controls : e.controls = d.controls
  network : d.network = idle
  network' : e.network = idle'

variable {idle : Running μ} {idle' : Running μ'}

theorem SharesNative.dispatch {d : Dispatcher ν μ} {e : Dispatcher ν μ'}
    (h : SharesNative idle idle' d e) (r : Request) (p : Bool) :
    (e.dispatch r p).outcome = (d.dispatch r p).outcome ∧
      SharesNative idle idle' (d.dispatch r p).state (e.dispatch r p).state := by
  have mode' : e.mode = .native := (congrArg Controls.mode h.controls).trans h.mode
  rw [dispatch_of_native h.mode, dispatch_of_native mode']
  cases hn : d.native with
  | available s =>
    rw [invokeNative_of_available hn, invokeNative_of_available (h.native.trans hn)]
    exact ⟨rfl, h.mode, rfl, h.controls, h.network, h.network'⟩
  | unavailable reason =>
    rw [invokeNative_of_unavailable hn, invokeNative_of_unavailable (h.native.trans hn)]
    exact ⟨rfl, h⟩

/-- No step but one that sets the mode tells apart dispatchers that share the native strategy. -/
theorem sharesNative_simulates :
    Simulates (SharesNative idle idle' : Dispatcher ν μ → Dispatcher ν μ' → Prop)
      fun s => ∀ m, s ≠ .setMode m where
  controls h := h.controls
  nativeAvailable h := congrArg Availability.isAvailable h.native
  call h := h.dispatch
  change {d e s} h hs hc := by
    have hc' : e.controls.call? e.nativeAvailable s = none := by
      rw [h.controls, nativeAvailable_eq, h.native, ← nativeAvailable_eq]
      exact hc
    obtain ⟨-, native, network⟩ := step_of_change hc
    obtain ⟨-, native', network'⟩ := step_of_change hc'
    refine ⟨?_, ?_, ?_, network.trans h.network, network'.trans h.network'⟩
    · have kept : (d.controls.after s).mode = d.controls.mode := by
        cases s with
        | setMode m => exact absurd rfl (hs m)
        | _ => rfl
      have after := congrArg Controls.mode (d.step_frame s).1
      exact (after.trans kept).trans h.mode
    · rw [native, native', h.native]
    · rw [(d.step_frame s).1, (e.step_frame s).1, h.controls]

end

end Dispatch.Dispatcher

/-! ## Documents that differ in one section -/

namespace Config

/-- Two documents that are read, and have the same under every key but that of one section. -/
def DifferIn (s : Section) (document document' : String) : Prop :=
  ∃ es es', Toml.parse document = some es ∧ Toml.parse document' = some es' ∧
    ∀ key, key ≠ s.name → Keyed.get? key es = Keyed.get? key es'

section
variable {s : Section} {document document' : String} {c c' : Config}
  (h : DifferIn s document document') (hc : ofToml? document = some c)
  (hc' : ofToml? document' = some c')

include h hc hc' in
/-- The settings of the other sections are the same. -/
theorem of_eq_of_differIn {t : Setting} (ht : t.home ≠ s) : t.of c = t.of c' := by
  obtain ⟨es, es', hes, hes', same⟩ := h
  obtain ⟨es₁, user, hes₁, huser, rfl⟩ := ofToml?_eq_some hc
  obtain ⟨es₂, user', hes₂, huser', rfl⟩ := ofToml?_eq_some hc'
  rw [hes] at hes₁
  rw [hes'] at hes₂
  cases hes₁
  cases hes₂
  refine of_config_congr huser huser' ?_
  rw [Setting.given?, Setting.given?, same t.home.name fun e => ht (Section.name_inj e)]

include h hc hc' in
theorem routing_eq_of_differIn (hs : s ≠ .routing) : c.routing = c'.routing := by
  have mode := of_eq_of_differIn h hc hc' (t := .mode) hs.symm
  have prefer := of_eq_of_differIn h hc hc' (t := .preferNative) hs.symm
  obtain ⟨_, _, ⟨_, _⟩, _⟩ := c
  obtain ⟨_, _, ⟨_, _⟩, _⟩ := c'
  cases mode
  cases prefer
  rfl

include h hc hc' in
theorem network_eq_of_differIn (hs : s ≠ .network) : c.network = c'.network := by
  have host := of_eq_of_differIn h hc hc' (t := .host) hs.symm
  have port := of_eq_of_differIn h hc hc' (t := .port) hs.symm
  have timeout := of_eq_of_differIn h hc hc' (t := .timeoutMs) hs.symm
  obtain ⟨⟨_, _, _⟩, _, _, _⟩ := c
  obtain ⟨⟨_, _, _⟩, _, _, _⟩ := c'
  cases host
  cases port
  cases timeout
  rfl

include h hc hc' in
theorem native_eq_of_differIn (hs : s ≠ .native) : c.native = c'.native := by
  have enabled := of_eq_of_differIn h hc hc' (t := .enabled) hs.symm
  have library := of_eq_of_differIn h hc hc' (t := .library) hs.symm
  have symbols := of_eq_of_differIn h hc hc' (t := .symbolPrefix) hs.symm
  have bytes := of_eq_of_differIn h hc hc' (t := .maxInputBytes) hs.symm
  obtain ⟨_, ⟨_, _, _, _⟩, _, _⟩ := c
  obtain ⟨_, ⟨_, _, _, _⟩, _, _⟩ := c'
  cases enabled
  cases library
  cases symbols
  cases bytes
  rfl

end

/-! ## What the documents build -/

section
variable {ρ ρ' μ μ' : Type}

open Dispatch (Dispatcher)

/-- Two dispatchers cannot be told apart by any steps: each step comes to the same, and leaves the
network in the same state. With records of the calls, the network is asked the same. -/
structure AlikeOverNetwork (d : Dispatcher ρ μ) (e : Dispatcher ρ' μ) : Prop where
  steps : ∀ ss, List.Forall₂
    (fun x y => y.outcome = x.outcome ∧ y.next.network = x.next.network) (d.run ss).1 (e.run ss).1
  asked : ∀ ss, List.Forall₂ (fun x y => y.next.networkRecord = x.next.networkRecord)
    (d.recorded.run ss).1 (e.recorded.run ss).1

/-- Two dispatchers cannot be told apart by any steps that leave the mode alone: each step comes to
the same, and leaves the native strategy in the same state. The network is never asked. -/
structure AlikeOverNative (d : Dispatcher ρ μ) (e : Dispatcher ρ μ') : Prop where
  steps : ∀ ss, (∀ m, .setMode m ∉ ss) → List.Forall₂
    (fun x y => y.outcome = x.outcome ∧ y.next.native = x.next.native ∧
      x.next.network = d.network ∧ y.next.network = e.network) (d.run ss).1 (e.run ss).1
  asked : ∀ ss, (∀ m, .setMode m ∉ ss) → List.Forall₂
    (fun x y => x.next.networkRecord = [] ∧ y.next.networkRecord = [])
    (d.recorded.run ss).1 (e.recorded.run ss).1

theorem alikeOverNetwork_of_shares {reason : String} {d : Dispatcher ρ μ} {e : Dispatcher ρ' μ}
    (h : d.SharesNetwork reason e) : AlikeOverNetwork d e := by
  have recorded : d.recorded.SharesNetwork reason e.recorded :=
    ⟨congrArg (Availability.map fun s : Running ρ => s.recording []) h.missing,
      congrArg (Availability.map fun s : Running ρ' => s.recording []) h.missing',
      congrArg (·.recording []) h.network, h.controls⟩
  refine ⟨fun ss => ?_, fun ss => ?_⟩
  · have run := (Dispatcher.sharesNetwork_simulates reason).run h fun _ (_ : _ ∈ ss) => trivial
    exact run.imp fun x y hxy => ⟨hxy.1, hxy.2.network⟩
  · have run := (Dispatcher.sharesNetwork_simulates reason).run recorded
      fun _ (_ : _ ∈ ss) => trivial
    exact run.imp fun x y hxy => congrArg (·.state.record) hxy.2.network

theorem alikeOverNative_of_shares {d : Dispatcher ρ μ} {e : Dispatcher ρ μ'}
    (h : d.SharesNative d.network e.network e) : AlikeOverNative d e := by
  have recorded : d.recorded.SharesNative d.recorded.network e.recorded.network e.recorded :=
    ⟨h.mode, congrArg (Availability.map fun s : Running ρ => s.recording []) h.native,
      h.controls, rfl, rfl⟩
  refine ⟨fun ss hss => ?_, fun ss hss => ?_⟩
  · have run := Dispatcher.sharesNative_simulates.run h
      fun s (hs : s ∈ ss) m hm => hss m (hm ▸ hs)
    exact run.imp fun x y hxy => ⟨hxy.1, hxy.2.native, hxy.2.network, hxy.2.network'⟩
  · have run := Dispatcher.sharesNative_simulates.run recorded
      fun s (hs : s ∈ ss) m hm => hss m (hm ▸ hs)
    exact run.imp fun x y hxy =>
      ⟨congrArg (·.state.record) hxy.2.network, congrArg (·.state.record) hxy.2.network'⟩

/-- What two documents build in mode network: both are refused for one fault of the base address, or
their dispatchers are alike. -/
inductive BuildAlike (x : Except Url.Fault (Built (Dispatcher ρ μ)))
    (y : Except Url.Fault (Built (Dispatcher ρ' μ))) : Prop
  | refused (fault : Url.Fault) (first : x = .error fault) (second : y = .error fault)
  | built (b : Built (Dispatcher ρ μ)) (b' : Built (Dispatcher ρ' μ)) (first : x = .ok b)
      (second : y = .ok b') (log : b'.log = b.log) (probes : b.probes = [] ∧ b'.probes = [])
      (alike : AlikeOverNetwork b.value b'.value)

theorem detectFor_of_network {c : Config} (h : c.routing.mode = .network) (disk : Native.Disk ρ) :
    Native.detectFor disk c = .none "interface mode is network" [] := if_pos h

/-- **A mode isolates the transport that it leaves out.** Let two documents with configurations
differ in one section only. If it is the native section and their mode is network, then with any two
states of the files, over any network, neither looks for the extension, and both are refused alike
or build dispatchers that no steps tell apart, by what they come to or by what the network receives.
If it is the network section and their mode is native, then over one state of the files and any two
networks, the dispatchers that they build cannot be told apart by steps that leave the mode alone,
and neither network receives anything. -/
theorem mode_isolates (document document' : String) (c c' : Config)
    (read : ofToml? document = some c) (read' : ofToml? document' = some c') :
    (DifferIn .native document document' → c.routing.mode = .network →
      ∀ {ρ ρ' μ : Type} (disk : Native.Disk ρ) (disk' : Native.Disk ρ') (link : Network.Link μ)
        (web : μ),
        (Native.detectFor disk c).found = .unavailable "interface mode is network" ∧
        (Native.detectFor disk' c').found = .unavailable "interface mode is network" ∧
        BuildAlike (Dispatcher.ofConfig disk link web c)
          (Dispatcher.ofConfig disk' link web c')) ∧
    (DifferIn .network document document' → c.routing.mode = .native →
      ∀ {ρ μ μ' : Type} (disk : Native.Disk ρ) (link : Network.Link μ) (web : μ)
        (link' : Network.Link μ') (web' : μ') (b : Built (Dispatcher ρ μ))
        (b' : Built (Dispatcher ρ μ')),
        Dispatcher.ofConfig disk link web c = .ok b →
        Dispatcher.ofConfig disk link' web' c' = .ok b' →
        b.value.network.state = web ∧ b'.value.network.state = web' ∧
          AlikeOverNative b.value b'.value) := by
  refine ⟨fun differ mode _ _ _ disk disk' link web => ?_, ?_⟩
  · have routing := routing_eq_of_differIn differ read read' (by decide)
    have network := network_eq_of_differIn differ read read' (by decide)
    have mode' : c'.routing.mode = .network := routing ▸ mode
    have missing := detectFor_of_network mode disk
    have missing' := detectFor_of_network mode' disk'
    refine ⟨by rw [missing]; rfl, by rw [missing']; rfl, ?_⟩
    cases hbase : c.network.base with
    | error fault =>
      exact .refused fault (Dispatcher.ofConfig_of_fault disk link web hbase)
        (Dispatcher.ofConfig_of_fault disk' link web (network ▸ hbase))
    | ok base =>
      have first := Dispatcher.ofConfig_of_base disk link web hbase
      have second := Dispatcher.ofConfig_of_base disk' link web (c := c') (network ▸ hbase)
      rw [missing] at first
      rw [missing', ← routing, ← network] at second
      exact .built _ _ first second rfl ⟨rfl, rfl⟩
        (alikeOverNetwork_of_shares ⟨rfl, rfl, rfl, rfl⟩)
  · intro differ mode _ _ _ disk link web link' web' b b' first second
    have routing := routing_eq_of_differIn differ read read' (by decide)
    have native := native_eq_of_differIn differ read read' (by decide)
    have found : Native.detectFor disk c' = Native.detectFor disk c := by
      rw [Native.detectFor, Native.detectFor, routing, native]
    obtain ⟨base, hb⟩ := Dispatcher.ofConfig_eq first
    obtain ⟨base', hb'⟩ := Dispatcher.ofConfig_eq second
    rw [found, ← routing] at hb'
    rw [hb, hb']
    exact ⟨rfl, rfl, alikeOverNative_of_shares ⟨mode, rfl, rfl, rfl, rfl⟩⟩

end

/-! ## Two pairs of documents -/

open Dispatch (Dispatcher)

/-- Two documents in mode network, of which one names a library. -/
def networkOnly : Bool → String
  | false => "routing.mode='http'"
  | true => "routing.mode='http'\nnative.library='/ext.so'"

/-- Two documents in mode native, of which one has a port of its own. -/
def nativeOnly : Bool → String
  | false => "routing.mode='ffi'\nnative.library='/ext.so'"
  | true => "routing.mode='ffi'\nnative.library='/ext.so'\nnetwork.port=80"

def librarySection : String × Toml.Value :=
  ("native", .table [("library", .string "/ext.so".toList)])

set_option maxRecDepth 3000 in
theorem parse_networkOnly (other : Bool) :
    Toml.parse (networkOnly other) =
      some ((if other then [librarySection] else []) ++
        [("routing", .table [("mode", .string "http".toList)])]) := by
  cases other <;> unfold networkOnly <;> cbv

set_option maxRecDepth 3000 in
theorem parse_nativeOnly (other : Bool) :
    Toml.parse (nativeOnly other) =
      some (librarySection ::
        (if other then [("network", .table [("port", .integer 80)])] else []) ++
        [("routing", .table [("mode", .string "ffi".toList)])]) := by
  cases other <;> unfold nativeOnly <;> cbv

theorem read_networkOnly (other : Bool) :
    ∃ c, ofToml? (networkOnly other) = some c ∧ c.routing.mode = .network := by
  have given : overrides? ((if other then [librarySection] else []) ++
      [("routing", .table [("mode", .string "http".toList)])]) =
        some { native := { library := if other then some "/ext.so" else none }
               routing := { mode := some "http" } } := by
    cases other <;> rfl
  refine ⟨_, ofToml?_of_overrides? (parse_networkOnly other) given, ?_⟩
  exact (mode_over_template rfl).trans (by decide)

theorem read_nativeOnly (other : Bool) :
    ∃ c, ofToml? (nativeOnly other) = some c ∧ c.routing.mode = .native ∧
      ∃ base, c.network.base = .ok base := by
  have given : overrides? (librarySection ::
      (if other then [("network", .table [("port", .integer 80)])] else []) ++
        [("routing", .table [("mode", .string "ffi".toList)])]) =
          some { network := { port := if other then some 80 else none }
                 native := { library := some "/ext.so" }, routing := { mode := some "ffi" } } := by
    cases other <;> rfl
  refine ⟨_, ofToml?_of_overrides? (parse_nativeOnly other) given, ?_, ?_⟩
  · exact (mode_over_template rfl).trans (by decide)
  · rw [network_over_template]
    cases other <;> exact ⟨_, rfl⟩

theorem differIn_networkOnly : DifferIn .native (networkOnly false) (networkOnly true) := by
  refine ⟨_, _, parse_networkOnly false, parse_networkOnly true, fun key hkey => ?_⟩
  exact (if_neg hkey).symm

theorem differIn_nativeOnly : DifferIn .network (nativeOnly false) (nativeOnly true) := by
  refine ⟨_, _, parse_nativeOnly false, parse_nativeOnly true, fun key hkey => ?_⟩
  simp only [List.cons_append, List.nil_append, if_true, Keyed.get?, librarySection]
  rw [if_neg (show ¬ key = "network" from hkey)]
  rfl

/-- In mode network it does not matter that one document names a library, with or without a file
there, and in mode native it does not matter which port is configured. -/
theorem mode_isolates_library_port :
    let files : Native.Disk Nat := fun _ => .library Sample.extension
    let empty : Native.Disk Unit := fun _ => .absent
    let server := Sample.server [{}]
    (∃ c c', ofToml? (networkOnly false) = some c ∧ ofToml? (networkOnly true) = some c' ∧
      c.routing.mode = .network ∧
      BuildAlike (Dispatcher.ofConfig empty server [] c) (Dispatcher.ofConfig files server [] c')) ∧
    ∃ c c' b b', ofToml? (nativeOnly false) = some c ∧ ofToml? (nativeOnly true) = some c' ∧
      c.routing.mode = .native ∧ Dispatcher.ofConfig files server [] c = .ok b ∧
      Dispatcher.ofConfig files server [] c' = .ok b' ∧ AlikeOverNative b.value b'.value := by
  intro files empty server
  refine ⟨?_, ?_⟩
  · obtain ⟨c, read, mode⟩ := read_networkOnly false
    obtain ⟨c', read', -⟩ := read_networkOnly true
    have isolated := (mode_isolates _ _ c c' read read').1 differIn_networkOnly mode empty files
      server []
    exact ⟨c, c', read, read', mode, isolated.2.2⟩
  · obtain ⟨c, read, mode, base, hbase⟩ := read_nativeOnly false
    obtain ⟨c', read', -, base', hbase'⟩ := read_nativeOnly true
    have first := Dispatcher.ofConfig_of_base files server [] hbase
    have second := Dispatcher.ofConfig_of_base files server [] hbase'
    have isolated := (mode_isolates _ _ c c' read read').2 differIn_nativeOnly mode files server []
      server [] _ _ first second
    exact ⟨c, c', _, _, read, read', mode, first, second, isolated.2.2⟩

end Config

end Switchboard
