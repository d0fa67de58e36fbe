import Switchboard.Call.Scripted
import Switchboard.Native.Strategy
import Switchboard.Proofs.Dispatch.Run
import Switchboard.Proofs.Network.Answers
import Switchboard.Sample.Server

/-!
# The warnings of a run

A dispatcher that leaves the native strategy for the network warns of it, and so does the network of
a reply whose status is no success. `Reports` says which of the two lines a step has to write, by its
routing and by its exchange; `exists_reports` shows that every step writes just these, and
`warning_trail` that a run writes those of its steps, in order, and no others.
-/
namespace Switchboard

def warnings (log : List Event) : List String :=
  (log.filter fun e => e.level = .warn).map Event.message

theorem warnings_append (log log' : List Event) :
    warnings (log ++ log') = warnings log ++ warnings log' := by
  rw [warnings, List.filter_append, List.map_append]
  rfl

/-! ## Transports -/

/-- What can be the network of a dispatcher, by the type of its states. -/
inductive Transport : Type → Type 1 where
  | http {σ : Type} (link : Network.Link σ) (base : Url) : Transport σ
  | scripted (s : Scripted) : Transport (List Request)

/-- What can be the native strategy of a dispatcher, by the type of its states. -/
inductive NativeTransport : Type → Type 1 where
  | extension {σ : Type} (m : Native.Module σ) (limits : Native.Limits) : NativeTransport σ
  | scripted (s : Scripted) : NativeTransport (List Request)

/-- An answer is not a failed fallback. -/
def Outcome.IsSingle (o : Outcome) : Prop := ∀ reason e, o ≠ .error (.fallbackFailed reason e)

theorem isSingle_mapError {k : Kind} (x : Except Failure Json.Value) :
    Outcome.IsSingle (x.mapError (.execution k)) := by
  intro reason e same
  cases x <;> cases same

theorem Scripted.isSingle_outcome (s : Scripted) (received : Nat) (r : Request) :
    Outcome.IsSingle (s.outcome received r) := by
  have scripted : Outcome.IsSingle (s.scriptedOutcome r) := by
    intro reason e same
    unfold scriptedOutcome at same
    split at same <;> cases same
  intro reason e same
  unfold outcome at same
  split at same
  · split at same
    · cases same
    · exact scripted reason e same
  · exact scripted reason e same

namespace NativeTransport

def strategy {σ : Type} : NativeTransport σ → Strategy σ
  | extension m limits => Native.strategy m limits
  | scripted s => s.strategy

variable {σ : Type} (t : NativeTransport σ) (state : σ) (r : Request)

theorem log_invoke : (t.strategy.invoke state r).log = [] := by
  cases t <;> rfl

theorem isSingle_invoke : (t.strategy.invoke state r).outcome.IsSingle := by
  cases t with
  | extension m limits => exact isSingle_mapError _
  | scripted s => exact s.isSingle_outcome _ r

end NativeTransport

namespace Transport

def strategy {σ : Type} : Transport σ → Strategy σ
  | http link base => Network.strategy link base
  | scripted s => s.strategy

/-- The exchange for a request ends with a status that is no success. -/
def Refuses {σ : Type} : Transport σ → σ → Request → Nat → Prop
  | http link base, state, r, status =>
    (∃ body complete, Network.Answered link base state r (.reply status body complete)) ∧
      ¬ (200 ≤ status ∧ status ≤ 299)
  | scripted _, _, _, _ => False

def refusal (r : Request) (status : Nat) : String :=
  r.service ++ "::" ++ r.function ++ " returned HTTP " ++ Network.statusLine status

theorem exists_warnings_recordsOf (url : Url) (r : Request) (x : Network.Exchange) :
    ∃ line : Option String, warnings (Network.recordsOf url r x) = line.toList ∧
      ∀ text, line = some text ↔ ∃ status body complete, x = .reply status body complete ∧
        ¬ (200 ≤ status ∧ status ≤ 299) ∧ text = refusal r status := by
  cases x with
  | refused =>
    refine ⟨none, rfl, fun text => iff_of_false (fun h => by cases h) ?_⟩
    rintro ⟨status, body, complete, same, -⟩
    cases same
  | reply status body complete =>
    rw [Network.recordsOf]
    by_cases success : 200 ≤ status ∧ status ≤ 299
    · rw [if_pos (Network.isSuccess_iff.mpr success)]
      refine ⟨none, rfl, fun text => iff_of_false (fun h => by cases h) ?_⟩
      rintro ⟨status, body, complete, ⟨⟩, failure, -⟩
      exact failure success
    · rw [if_neg (mt Network.isSuccess_iff.mp success)]
      refine ⟨some (refusal r status), rfl, fun text => ⟨?_, ?_⟩⟩
      · rintro ⟨⟩
        exact ⟨status, body, complete, rfl, success, rfl⟩
      · rintro ⟨status, body, complete, ⟨⟩, -, rfl⟩
        rfl

variable {σ : Type} (t : Transport σ) (state : σ) (r : Request)

/-- A call writes one warning exactly if its exchange ends with a status that is no success. -/
theorem exists_warnings : ∃ line : Option String,
    warnings (t.strategy.invoke state r).log = line.toList ∧
      ∀ text, line = some text ↔ ∃ status, t.Refuses state r status ∧ text = refusal r status := by
  cases t with
  | http link base =>
    cases sent : Network.isSendable (Network.endpoint base r) with
    | false =>
      refine ⟨none, ?_, fun text => iff_of_false (fun h => by cases h) ?_⟩
      · rw [strategy, Network.invoke_of_not_sendable link state sent]
        rfl
      · rintro ⟨status, ⟨⟨body, complete, answered⟩, -⟩, -⟩
        exact absurd answered.sent (Bool.eq_false_iff.mp sent)
    | true =>
      have answered : Network.Answered link base state r _ := ⟨sent, rfl⟩
      obtain ⟨line, log, same⟩ := exists_warnings_recordsOf (Network.endpoint base r) r
        (link.exchange state (Network.postFor base r)).1
      refine ⟨line, ?_, fun text => (same text).trans ⟨?_, ?_⟩⟩
      · rw [strategy, answered.log]
        exact log
      · rintro ⟨status, body, complete, back, failure, words⟩
        exact ⟨status, ⟨⟨body, complete, sent, back⟩, failure⟩, words⟩
      · rintro ⟨status, ⟨⟨body, complete, other⟩, failure⟩, words⟩
        exact ⟨status, body, complete, other.back, failure, words⟩
  | scripted s =>
    refine ⟨none, rfl, fun text => iff_of_false (fun h => by cases h) ?_⟩
    rintro ⟨status, refused, -⟩
    exact refused

theorem isSingle_invoke : (t.strategy.invoke state r).outcome.IsSingle := by
  cases t with
  | http link base =>
    rw [strategy, Network.strategy_invoke]
    simp only
    split
    · exact isSingle_mapError _
    · exact isSingle_mapError (.error _)
  | scripted s => exact s.isSingle_outcome _ r

end Transport

namespace Dispatch

open Dispatcher (Step Holds)

namespace Dispatcher

variable {ν μ : Type}

/-! ## What a step has to report -/

/-- A step leaves the native strategy, which cannot be used for `reason`, for the network. -/
structure FallsBack (d : Dispatcher ν μ) (s : Step) (r : Request) (reason : String) : Prop where
  preferred : d.controls.call? d.nativeAvailable s = some (r, true)
  both : d.mode = .both
  unusable : ∃ k, (d.invokeNative r).outcome = .error (.unavailable k reason)

/-- A step is a call that asks the network. -/
def AsksNetwork (d : Dispatcher ν μ) (s : Step) (r : Request) : Prop :=
  ∃ p, d.controls.call? d.nativeAvailable s = some (r, p) ∧
    (d.mode = .network ∨ d.mode = .both ∧ p = false ∨ ∃ reason, d.FallsBack s r reason)

def fallback (r : Request) (reason : String) : String :=
  "native unavailable for " ++ r.service ++ "::" ++ r.function ++ " (" ++ reason ++
    "), falling back to network"

/-- What the warnings of a step say. -/
structure Reports (t : Transport μ) (d : Dispatcher ν μ) (s : Step)
    (fallen refused : Option String) : Prop where
  fallen : ∀ text, fallen = some text ↔
    ∃ r reason, d.FallsBack s r reason ∧ text = fallback r reason
  refused : ∀ text, refused = some text ↔
    ∃ r status, d.AsksNetwork s r ∧ t.Refuses d.network.state r status ∧
      text = Transport.refusal r status
  /-- The reason of a failed fallback is the one in the warning. -/
  reason : ∀ reason e, (d.step s).outcome = some (.error (.fallbackFailed reason e)) →
    ∃ r, d.FallsBack s r reason
  /-- An error behind a fallback carries its reason. -/
  carried : ∀ r reason, d.FallsBack s r reason → ∀ e, (d.step s).outcome = some (.error e) →
    ∃ e', e = .fallbackFailed reason e'

/-- The network of a dispatcher is `t`, and it has the strategy of an extension, a scripted one, or
no native strategy. -/
def Equipped (t : Transport μ) (d : Dispatcher ν μ) : Prop :=
  Holds (fun s => ∃ u : NativeTransport ν, s.strategy = u.strategy)
    (fun s => s.strategy = t.strategy) d

theorem Equipped.run {t : Transport μ} {d : Dispatcher ν μ} (h : d.Equipped t) (ss : List Step) :
    (d.run ss).2.Equipped t := by
  refine run_holds ⟨?_, ?_⟩ h ss
  · exact fun s r native => native
  · exact fun s r network => network

/-! ## One step -/

theorem warnings_step_of_call {d : Dispatcher ν μ} {s : Step} {r : Request} {p : Bool}
    (h : d.controls.call? d.nativeAvailable s = some (r, p)) :
    warnings (d.step s).log = warnings (d.dispatch r p).log := by
  cases s with
  | dispatch r' p' | call r' | auto r' => cases h; rfl
  | setMode m | setPreference p' | register q => cases h

theorem warnings_step_of_change {d : Dispatcher ν μ} {s : Step}
    (h : d.controls.call? d.nativeAvailable s = none) : warnings (d.step s).log = [] := by
  cases s with
  | dispatch r p | call r | auto r => cases h
  | setMode m | setPreference p | register q => rfl

/-- A native attempt writes nothing and does not end as a failed fallback. -/
theorem Equipped.invokeNative {t : Transport μ} {d : Dispatcher ν μ} (h : d.Equipped t)
    (r : Request) : (d.invokeNative r).log = [] ∧ (d.invokeNative r).outcome.IsSingle := by
  cases native : d.native with
  | available s =>
    obtain ⟨u, same⟩ := h.native s native
    rw [invokeNative_of_available native]
    dsimp only [Running.invoke]
    rw [same]
    exact ⟨u.log_invoke _ r, u.isSingle_invoke _ r⟩
  | unavailable reason =>
    rw [invokeNative_of_unavailable native]
    refine ⟨rfl, fun why e same => ?_⟩
    cases same

theorem Equipped.invokeNetwork {t : Transport μ} {d : Dispatcher ν μ} (h : d.Equipped t)
    (r : Request) :
    (d.invokeNetwork r).log = (t.strategy.invoke d.network.state r).log ∧
      (d.invokeNetwork r).outcome.IsSingle := by
  have same : d.network.strategy = t.strategy := h.network
  dsimp only [Dispatcher.invokeNetwork, Running.invoke]
  rw [same]
  exact ⟨rfl, t.isSingle_invoke _ r⟩

section Call

variable {d : Dispatcher ν μ} {s : Step} {r : Request} {p : Bool}
  (call : d.controls.call? d.nativeAvailable s = some (r, p))

include call

theorem fallsBack_iff {r' : Request} {reason : String} :
    d.FallsBack s r' reason ↔ r' = r ∧ p = true ∧ d.mode = .both ∧
      unusable? (d.invokeNative r).outcome = some reason := by
  constructor
  · rintro ⟨preferred, both, unusable⟩
    cases call.symm.trans preferred
    exact ⟨rfl, rfl, both, unusable?_eq_some.mpr unusable⟩
  · rintro ⟨rfl, rfl, both, unusable⟩
    exact ⟨call, both, unusable?_eq_some.mp unusable⟩

theorem asksNetwork_iff {r' : Request} :
    d.AsksNetwork s r' ↔ r' = r ∧ (d.mode = .network ∨ d.mode = .both ∧ p = false ∨
      ∃ reason, d.FallsBack s r reason) := by
  constructor
  · rintro ⟨p', call', asks⟩
    cases call.symm.trans call'
    exact ⟨rfl, asks⟩
  · rintro ⟨rfl, asks⟩
    exact ⟨p, call, asks⟩

theorem not_fallsBack_of_direct (free : d.mode = .network ∨ d.mode = .both ∧ p = false)
    (r' : Request) (reason : String) : ¬ d.FallsBack s r' reason := by
  rw [fallsBack_iff call]
  rintro ⟨-, rfl, both, -⟩
  rcases free with network | ⟨-, no⟩
  · cases both.symm.trans network
  · cases no

section Native

variable (bound : d.mode = .native ∨ d.mode = .both ∧ p = true ∧
  unusable? (d.invokeNative r).outcome = none)

include bound

theorem not_fallsBack_of_native (r' : Request) (reason : String) : ¬ d.FallsBack s r' reason := by
  rw [fallsBack_iff call]
  rintro ⟨-, -, both, unusable⟩
  rcases bound with native | ⟨-, -, usable⟩
  · cases both.symm.trans native
  · cases unusable.symm.trans usable

theorem not_asksNetwork_of_native (r' : Request) : ¬ d.AsksNetwork s r' := by
  rw [asksNetwork_iff call]
  rintro ⟨-, network | ⟨both, rfl⟩ | ⟨reason, falls⟩⟩
  · rcases bound with native | ⟨both, -⟩
    · cases network.symm.trans native
    · cases network.symm.trans both
  · rcases bound with native | ⟨-, yes, -⟩
    · cases both.symm.trans native
    · cases yes
  · exact not_fallsBack_of_native call bound r reason falls

end Native

theorem fallsBack_iff_of_unusable (both : d.mode = .both) (preferred : p = true) {reason : String}
    (unusable : unusable? (d.invokeNative r).outcome = some reason) (r' : Request)
    (reason' : String) : d.FallsBack s r' reason' ↔ r' = r ∧ reason' = reason := by
  rw [fallsBack_iff call, unusable, Option.some.injEq]
  exact ⟨fun ⟨same, _, _, why⟩ => ⟨same, why.symm⟩,
    fun ⟨same, why⟩ => ⟨same, preferred, both, why.symm⟩⟩

end Call

section Reports

variable {t : Transport μ} {d : Dispatcher ν μ} {s : Step} {r : Request}

/-- The line of the network is the one to be written by a step that asks for `r`. -/
theorem refused_of_asksNetwork {line : Option String}
    (asks : ∀ r', d.AsksNetwork s r' ↔ r' = r)
    (refusal : ∀ text, line = some text ↔
      ∃ status, t.Refuses d.network.state r status ∧ text = Transport.refusal r status)
    (text : String) :
    line = some text ↔ ∃ r' status, d.AsksNetwork s r' ∧ t.Refuses d.network.state r' status ∧
      text = Transport.refusal r' status := by
  rw [refusal]
  constructor
  · rintro ⟨status, refuses, words⟩
    exact ⟨r, status, (asks r).mpr rfl, refuses, words⟩
  · rintro ⟨r', status, asked, refuses, words⟩
    cases (asks r').mp asked
    exact ⟨status, refuses, words⟩

/-- A step that does not fall back has the line of the network alone. -/
theorem reports_of_not_fallsBack {line : Option String}
    (never : ∀ r reason, ¬ d.FallsBack s r reason)
    (single : ∀ reason e, (d.step s).outcome ≠ some (.error (.fallbackFailed reason e)))
    (refused : ∀ text, line = some text ↔ ∃ r status, d.AsksNetwork s r ∧
      t.Refuses d.network.state r status ∧ text = Transport.refusal r status) :
    d.Reports t s none line where
  fallen text := iff_of_false (fun h => by cases h) fun ⟨r, reason, falls, _⟩ =>
    never r reason falls
  refused := refused
  reason reason e composite := absurd composite (single reason e)
  carried r reason falls := absurd falls (never r reason)

/-- A step that falls back has the line of its fallback, and its error carries the reason. -/
theorem reports_of_fallsBack {line : Option String} {reason : String} {o : Outcome}
    (falls : ∀ r' reason', d.FallsBack s r' reason' ↔ r' = r ∧ reason' = reason)
    (outcome : (d.step s).outcome = some (o.mapError (.fallbackFailed reason)))
    (refused : ∀ text, line = some text ↔ ∃ r status, d.AsksNetwork s r ∧
      t.Refuses d.network.state r status ∧ text = Transport.refusal r status) :
    d.Reports t s (some (fallback r reason)) line where
  fallen text := by
    constructor
    · rintro ⟨⟩
      exact ⟨r, reason, (falls r reason).mpr ⟨rfl, rfl⟩, rfl⟩
    · rintro ⟨r', reason', fell, rfl⟩
      obtain ⟨rfl, rfl⟩ := (falls r' reason').mp fell
      rfl
  refused := refused
  reason reason' e composite := by
    refine ⟨r, (falls r reason').mpr ⟨rfl, ?_⟩⟩
    have ends := Option.some.inj (outcome.symm.trans composite)
    cases o <;> cases ends
    rfl
  carried r' reason' fell e failed := by
    obtain ⟨rfl, rfl⟩ := (falls r' reason').mp fell
    have ends := Option.some.inj (outcome.symm.trans failed)
    cases o with
    | ok v => cases ends
    | error e' => cases ends; exact ⟨e', rfl⟩

end Reports

/-- A call writes the warnings of its way. -/
theorem Equipped.exists_reports_of_call {t : Transport μ} {d : Dispatcher ν μ} (h : d.Equipped t)
    {s : Step} {r : Request} {p : Bool}
    (call : d.controls.call? d.nativeAvailable s = some (r, p)) :
    ∃ fallen refused, d.Reports t s fallen refused ∧
      warnings (d.step s).log = fallen.toList ++ refused.toList := by
  obtain ⟨silent, nativeSingle⟩ := h.invokeNative r
  obtain ⟨networkLog, networkSingle⟩ := h.invokeNetwork r
  obtain ⟨line, log, refusal⟩ := t.exists_warnings d.network.state r
  obtain ⟨outcome, -⟩ := step_of_call call
  rw [warnings_step_of_call call]
  rw [← networkLog] at log
  cases d.way r p with
  | direct free same =>
    have asks (r' : Request) : d.AsksNetwork s r' ↔ r' = r :=
      (asksNetwork_iff call).trans (and_iff_left (free.imp_right .inl))
    rw [same] at outcome ⊢
    refine ⟨none, line, reports_of_not_fallsBack (not_fallsBack_of_direct call free) ?_
      (refused_of_asksNetwork asks refusal), log⟩
    rw [outcome]
    exact fun reason e composite => networkSingle reason e (Option.some.inj composite)
  | native bound same =>
    rw [same] at outcome ⊢
    refine ⟨none, none, reports_of_not_fallsBack (not_fallsBack_of_native call bound) ?_ ?_,
      by rw [silent]; rfl⟩
    · rw [outcome]
      exact fun reason e composite => nativeSingle reason e (Option.some.inj composite)
    · exact fun text => iff_of_false (fun h => by cases h) fun ⟨r', _, asks, _⟩ =>
        not_asksNetwork_of_native call bound r' asks
  | fallback both preferred reason unusable same =>
    have falls := fallsBack_iff_of_unusable call both preferred unusable
    have asks (r' : Request) : d.AsksNetwork s r' ↔ r' = r :=
      (asksNetwork_iff call).trans
        (and_iff_left (.inr (.inr ⟨reason, (falls r reason).mpr ⟨rfl, rfl⟩⟩)))
    rw [same] at outcome ⊢
    -- the native attempt left the network alone, so the exchange is the one from its state before
    refine ⟨some (fallback r reason), line,
      reports_of_fallsBack falls outcome (refused_of_asksNetwork asks refusal), ?_⟩
    rw [silent, List.nil_append]
    change fallback r reason :: warnings (d.invokeNetwork r).log = _
    rw [log]
    rfl

/-- Every step writes the warnings that it has to. -/
theorem Equipped.exists_reports {t : Transport μ} {d : Dispatcher ν μ} (h : d.Equipped t)
    (s : Step) :
    ∃ fallen refused, d.Reports t s fallen refused ∧
      warnings (d.step s).log = fallen.toList ++ refused.toList := by
  cases call : d.controls.call? d.nativeAvailable s with
  | some rp => exact h.exists_reports_of_call call
  | none =>
    refine ⟨none, none, reports_of_not_fallsBack ?_ ?_ ?_, warnings_step_of_change call⟩
    · intro r reason falls
      cases call.symm.trans falls.preferred
    · rw [(step_of_change call).1]
      intro reason e composite
      cases composite
    · refine fun text => iff_of_false (fun h => by cases h) ?_
      rintro ⟨r, status, ⟨p, asks, -⟩, -⟩
      cases call.symm.trans asks

/-! ## Whole runs -/

/-- The warnings of a run, one step after the other. -/
inductive Trail (t : Transport μ) : Dispatcher ν μ → List Step → List String → Prop where
  | nil (d : Dispatcher ν μ) : Trail t d [] []
  | cons {d : Dispatcher ν μ} {s : Step} {ss : List Step} {fallen refused : Option String}
      {lines : List String} (step : d.Reports t s fallen refused)
      (others : Trail t (d.step s).next ss lines) :
      Trail t d (s :: ss) (fallen.toList ++ refused.toList ++ lines)

/-- A step has one report. -/
theorem Reports.unique {t : Transport μ} {d : Dispatcher ν μ} {s : Step}
    {fallen fallen' refused refused' : Option String} (h : d.Reports t s fallen refused)
    (h' : d.Reports t s fallen' refused') : fallen = fallen' ∧ refused = refused' :=
  ⟨Option.ext fun text => (h.fallen text).trans (h'.fallen text).symm,
    Option.ext fun text => (h.refused text).trans (h'.refused text).symm⟩

theorem warnings_run_cons (d : Dispatcher ν μ) (s : Step) (ss : List Step) :
    warnings ((d.run (s :: ss)).1.flatMap (·.log)) =
      warnings (d.step s).log ++ warnings (((d.step s).next.run ss).1.flatMap (·.log)) := by
  rw [← warnings_append]
  rfl

/-- **The warning trail.** The warnings of a run are those that its steps have to write: one for each
step that leaves the native strategy for the network, and then one for each exchange that ends with
a status that is no success. -/
theorem warning_trail {t : Transport μ} {d : Dispatcher ν μ} (h : d.Equipped t) (ss : List Step)
    (lines : List String) :
    Trail t d ss lines ↔ lines = warnings ((d.run ss).1.flatMap (·.log)) := by
  induction ss generalizing d lines with
  | nil =>
    constructor
    · intro trail
      cases trail
      rfl
    · rintro rfl
      exact .nil d
  | cons s ss ih =>
    obtain ⟨fallen, refused, reports, log⟩ := h.exists_reports s
    have next : (d.step s).next.Equipped t := h.run [s]
    rw [warnings_run_cons, log]
    constructor
    · rintro (_ | ⟨reports', others⟩)
      obtain ⟨rfl, rfl⟩ := reports'.unique reports
      rw [(ih next _).mp others]
    · rintro rfl
      exact .cons reports ((ih next _).mpr rfl)

/-- A dispatcher without a library in front of a server that cannot answer at first. -/
def sampleWithoutLibrary : Dispatcher (List Request) (List Network.Post) where
  native := .available (Scripted.start ⟨.native, .unavailable "no library", none⟩)
  network := ⟨Network.strategy (Sample.server [{ status := 503 }, {}]) Sample.address, []⟩

theorem warning_trail_unanswered :
    let r : Request := ⟨"mail", "send", []⟩
    let t := Transport.http (Sample.server [{ status := 503 }, {}]) Sample.address
    sampleWithoutLibrary.Equipped t ∧
      Trail t sampleWithoutLibrary [.call r, .dispatch r false, .call r]
        ["native unavailable for mail::send (no library), falling back to network",
          "mail::send returned HTTP 503 Service Unavailable",
          "native unavailable for mail::send (no library), falling back to network"] := by
  intro r t
  have equipped : sampleWithoutLibrary.Equipped t := by
    refine ⟨?_, rfl⟩
    rintro s ⟨⟩
    exact ⟨.scripted ⟨.native, .unavailable "no library", none⟩, rfl⟩
  exact ⟨equipped, (warning_trail equipped _ _).mpr (by decide)⟩

end Dispatcher

end Dispatch

end Switchboard
