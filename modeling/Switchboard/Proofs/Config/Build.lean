import Switchboard.Config.Build
import Switchboard.Proofs.Dispatch.Errors
import Switchboard.Proofs.Native.Detection

/-!
# What a configuration builds

Whatever is on the disk, an extension that the detection finds is called through the module of a
library (`detect_module`), so a dispatcher that a configuration builds has strategies that never say
by themselves that they cannot be used. It obeys the law of errors (`ofConfig_errors`).
-/
namespace Switchboard

variable {ρ μ : Type}

/-- An extension that is found is called through the module of a library. -/
theorem Native.detect_module {disk : Disk ρ} {s : Settings} {e : Extension ρ}
    (h : (detect disk s).found = .available e) :
    ∃ (l : Library ρ) (symbol : String), e.module = l.module symbol := by
  obtain ⟨path, l, runtime, -, rfl⟩ := found_eq_available_iff.mp h
  exact ⟨l, _, rfl⟩

theorem Native.detectFor_plain {disk : Disk ρ} {c : Config} {s : Running ρ}
    (h : (detectFor disk c).strategy = .available s) : s.strategy.Plain .native := by
  unfold detectFor at h
  split at h
  · cases h
  · unfold Detection.strategy at h
    cases hf : (detect disk c.native).found with
    | unavailable reason => rw [hf] at h; cases h
    | available e =>
      rw [hf] at h
      cases h
      obtain ⟨l, symbol, hm⟩ := detect_module hf
      rw [Extension.running, hm]
      exact native_plain l symbol e.limits

/-- An extension that is found is used as a native strategy. -/
theorem Native.kind_of_strategy {d : Detection ρ} {s : Running ρ}
    (h : d.strategy = .available s) : s.strategy.kind = .native := by
  unfold Detection.strategy at h
  cases hf : d.found with
  | unavailable reason => rw [hf] at h; cases h
  | available e => rw [hf] at h; cases h; rfl

namespace Bench.Harness

variable (disk : Native.Disk ρ) (link : Network.Link μ) (web : μ) {c : Config}

theorem ofConfig_of_fault {fault : Url.Fault} (h : c.network.base = .error fault) :
    ofConfig disk link web c = .error fault := by
  rw [ofConfig, Network.connect, h]
  rfl

theorem ofConfig_of_base {base : Url} (h : c.network.base = .ok base) :
    ofConfig disk link web c = .ok
      { value :=
          { native := (Native.detectFor disk c).strategy
            network := { strategy := c.network.strategy link base, state := web }
            service := c.benchmark.service, function := c.benchmark.function }
        log := .targeting base.text :: (Native.detectFor disk c).log
        probes := (Native.detectFor disk c).probes } := by
  rw [ofConfig, Network.connect, h]
  rfl

end Bench.Harness

namespace Dispatch.Dispatcher

section
variable (disk : Native.Disk ρ) (link : Network.Link μ) (web : μ) {c : Config}

theorem ofConfig_of_fault {fault : Url.Fault} (h : c.network.base = .error fault) :
    ofConfig disk link web c = .error fault := by
  rw [ofConfig, Network.connect, h]
  rfl

theorem ofConfig_of_base {base : Url} (h : c.network.base = .ok base) :
    ofConfig disk link web c = .ok
      { value :=
          { native := (Native.detectFor disk c).strategy
            network := { strategy := c.network.strategy link base, state := web }
            mode := c.routing.mode, preferNative := c.routing.preferNative }
        log := .targeting base.text :: (Native.detectFor disk c).log
        probes := (Native.detectFor disk c).probes } := by
  rw [ofConfig, Network.connect, h]
  rfl

end

theorem ofConfig_eq {disk : Native.Disk ρ} {link : Network.Link μ} {web : μ} {c : Config}
    {built : Built (Dispatcher ρ μ)} (h : ofConfig disk link web c = .ok built) :
    ∃ base, built.value =
      { native := (Native.detectFor disk c).strategy
        network := { strategy := c.network.strategy link base, state := web }
        mode := c.routing.mode, preferNative := c.routing.preferNative } := by
  cases hb : c.network.base with
  | error fault =>
    rw [ofConfig_of_fault disk link web hb] at h
    cases h
  | ok base =>
    rw [ofConfig_of_base disk link web hb] at h
    cases h
    exact ⟨base, rfl⟩

/-- **Errors of a configured dispatcher.** Let a configuration build a dispatcher over any disk and
any network. In every run of it every step obeys the law of errors, read with the controls to which
the steps before have brought those of the configuration, and with the reason for which the one
detection found no native strategy, if it found none. -/
theorem ofConfig_errors (disk : Native.Disk ρ) (link : Network.Link μ) (web : μ) (c : Config)
    (built : Built (Dispatcher ρ μ)) (h : ofConfig disk link web c = .ok built)
    (before : List Step) (s : Step) (after : List Step) :
    let d := built.value
    let ss := before ++ s :: after
    (d.recorded.run ss).1.map (·.outcome) = (d.run ss).1.map (·.outcome) ∧
      ∃ done toNative toNetwork, d.Asked before s after done toNative toNetwork ∧
        ErrorLaw (before.foldl Controls.after ⟨c.routing.mode, c.routing.preferNative, {}⟩)
          (Native.detectFor disk c).found.reason? s toNative toNetwork done.outcome := by
  intro d ss
  obtain ⟨base, hd⟩ := ofConfig_eq h
  have hplain : d.network.strategy.Plain .network := by
    simp only [d, hd]; exact c.network.strategy_plain link base
  have hreason : d.native.reason? = (Native.detectFor disk c).found.reason? := by
    simp only [d, hd]; exact Availability.reason?_map _ _
  have hcontrols : d.controls = ⟨c.routing.mode, c.routing.preferNative, {}⟩ := by
    simp only [d, hd]; rfl
  have hnat : ∀ t, d.native = .available t → t.strategy.Plain .native := by
    intro t ht
    simp only [d, hd] at ht
    exact Native.detectFor_plain ht
  rw [← hreason, ← hcontrols]
  exact ⟨(d.run_recording [] [] _).2, d.run_errors hnat hplain before s after⟩

/-- The settings that stand without a document name no library. In mode native a call then fails
with the reason that the detection gave. -/
theorem ofConfig_errors_default :
    let disk : Native.Disk Unit := fun _ => .absent
    let link : Network.Link Unit := { exchange := fun s _ => (.refused, s) }
    let r : Request := { service := "Ledger", function := "close", args := [] }
    ∃ built, ofConfig disk link () {} = .ok built ∧
      ∃ done, (built.value.recorded.run [.setMode .native, .call r]).1[1]? = some done ∧
        done.outcome =
          some (.error (.unavailable .native "no native library configured")) := by
  intro disk link r
  have hb : ∃ built, ofConfig disk link () {} = .ok built := ⟨_, rfl⟩
  obtain ⟨built, hb⟩ := hb
  obtain ⟨-, done, toNative, toNetwork, hasked, hlaw⟩ :=
    ofConfig_errors disk link () {} built hb [.setMode .native] (.call r) []
  refine ⟨built, hb, done, hasked.gives, ?_⟩
  exact (hlaw.unavailable .native _).mpr ⟨rfl, rfl, rfl, rfl⟩

end Dispatch.Dispatcher

end Switchboard
