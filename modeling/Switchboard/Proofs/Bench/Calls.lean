import Switchboard.Bench.Harness
import Switchboard.Call.Scripted
import Switchboard.Proofs.Call.Recording

/-!
# The calls of a benchmark

A strategy makes the same call again and again, up to the first that fails. `Series` says what that
comes to, by the answers that the strategy has for so many calls.

* `Series.of_error`, `Series.of_ok`: one call before the others;
* `repeatCall_recording`, `measure_recording`: the loop makes a series;
* `Verdict`: what the two series of a benchmark come to together;
* `run_calls`: every benchmark makes one series for each strategy, and its result is the verdict.
-/
namespace Switchboard.Bench

variable {σ ν μ : Type}

/-- Up to `n` calls of `r` by a strategy: the calls `made` and the one that failed. -/
structure Series (s : Running σ) (r : Request) (n : Nat) (made : List Invocation)
    (failure : Option (Nat × CallError)) : Prop where
  requests : ∀ i ∈ made, i.request = r
  /-- The calls are answered as the strategy alone answers. -/
  answers : made.map (·.outcome) = (s.answers (List.replicate n r)).take made.length
  /-- Without an error all calls are made. -/
  complete : (∀ o ∈ s.answers (List.replicate n r), ∃ v, o = .ok v) →
    made.length = n ∧ failure = none
  /-- The first error is that of the last call made. -/
  stopped : ∀ k e, (s.answers (List.replicate n r))[k]? = some (.error e) →
    (∀ o ∈ (s.answers (List.replicate n r)).take k, ∃ v, o = .ok v) →
    made.length = k + 1 ∧ failure = some (k, e)
  clean : failure = none ↔ ∀ i ∈ made, ∃ v, i.outcome = .ok v

/-! ## One strategy -/

theorem answers_replicate_succ (s : Running σ) (r : Request) (n : Nat) :
    s.answers (List.replicate (n + 1) r) =
      (s.invoke r).outcome :: (s.invoke r).state.answers (List.replicate n r) := by
  rw [List.replicate_succ, Running.answers_cons]

namespace Series

theorem zero (s : Running σ) (r : Request) : Series s r 0 [] none := by
  refine ⟨?_, rfl, fun _ => ⟨rfl, rfl⟩, ?_, ?_⟩
  · intro i hi; cases hi
  · intro k e hk; cases hk
  · refine ⟨?_, ?_⟩
    · intro _ i hi; cases hi
    · intro _; rfl

/-- A call that fails is the last. -/
theorem of_error {s : Running σ} {r : Request} {e : CallError}
    (he : (s.invoke r).outcome = .error e) (n : Nat) :
    Series s r (n + 1) [⟨r, .error e⟩] (some (0, e)) := by
  have hans := answers_replicate_succ s r n
  rw [he] at hans
  refine ⟨?_, ?_, ?_, ?_, ?_⟩
  · intro i hi; rw [List.mem_singleton.mp hi]
  · rw [hans]; rfl
  · intro hall
    rw [hans] at hall
    obtain ⟨v, hv⟩ := hall _ List.mem_cons_self
    cases hv
  · intro k x hk hbefore
    rw [hans] at hk hbefore
    cases k with
    | zero => cases hk; exact ⟨rfl, rfl⟩
    | succ k =>
      obtain ⟨v, hv⟩ := hbefore _ List.mem_cons_self
      cases hv
  · refine ⟨?_, ?_⟩
    · intro h; cases h
    · intro hall
      obtain ⟨v, hv⟩ := hall _ List.mem_cons_self
      cases hv

/-- After a call that succeeds come the others. -/
theorem of_ok {s : Running σ} {r : Request} {v : Json.Value} {n : Nat} {made : List Invocation}
    {failure : Option (Nat × CallError)} (hv : (s.invoke r).outcome = .ok v)
    (h : Series (s.invoke r).state r n made failure) :
    Series s r (n + 1) (⟨r, .ok v⟩ :: made) (failure.map fun x => (x.1 + 1, x.2)) := by
  have hans := answers_replicate_succ s r n
  rw [hv] at hans
  refine ⟨?_, ?_, ?_, ?_, ?_⟩
  · intro i hi
    rcases List.mem_cons.mp hi with rfl | hi
    · rfl
    · exact h.requests i hi
  · rw [hans, List.map_cons, List.length_cons, List.take_succ_cons, h.answers]
  · intro hall
    rw [hans] at hall
    obtain ⟨hlen, hnone⟩ := h.complete fun o ho => hall o (List.mem_cons_of_mem _ ho)
    rw [List.length_cons, hlen, hnone]
    exact ⟨rfl, rfl⟩
  · intro k e hk hbefore
    rw [hans] at hk hbefore
    cases k with
    | zero => cases hk
    | succ k =>
      obtain ⟨hlen, hsome⟩ := h.stopped k e hk fun o ho => hbefore o (List.mem_cons_of_mem _ ho)
      rw [List.length_cons, hlen, hsome]
      exact ⟨rfl, rfl⟩
  · rw [Option.map_eq_none_iff, h.clean]
    refine ⟨?_, ?_⟩
    · intro hall i hi
      rcases List.mem_cons.mp hi with rfl | hi
      · exact ⟨v, rfl⟩
      · exact hall i hi
    · intro hall i hi
      exact hall i (List.mem_cons_of_mem _ hi)

end Series

/-- The loop makes a series, recorded or not. Its index counts the calls before the loop too. -/
theorem repeatCall_recording (r : Request) (n done : Nat) (s : Running σ)
    (record : List Invocation) :
    ∃ made failure, Series s r n made failure ∧
      (repeatCall r n done (s.recording record)).next.state.record = record ++ made ∧
      (repeatCall r n done (s.recording record)).failure =
        failure.map (fun x => (done + x.1, x.2)) ∧
      (repeatCall r n done s).failure = failure.map fun x => (done + x.1, x.2) := by
  induction n generalizing done s record with
  | zero => exact ⟨[], none, .zero s r, (List.append_nil _).symm, rfl, rfl⟩
  | succ n ih =>
    have hout : ((s.recording record).invoke r).outcome = (s.invoke r).outcome := rfl
    cases ho : (s.invoke r).outcome with
    | error e =>
      refine ⟨_, _, .of_error ho n, ?_⟩
      simp only [repeatCall, hout, ho]
      refine ⟨?_, rfl, rfl⟩
      rw [Running.invoke_recording, ho]; rfl
    | ok v =>
      obtain ⟨made, failure, hs, hrec, hf, hf'⟩ :=
        ih (done + 1) (s.invoke r).state (record ++ [⟨r, .ok v⟩])
      have hnext : ((s.recording record).invoke r).state =
          (s.invoke r).state.recording (record ++ [⟨r, .ok v⟩]) := by
        rw [Running.invoke_recording, ho]; rfl
      have hshift : failure.map (fun x => (done + 1 + x.1, x.2)) =
          (failure.map fun x => (x.1 + 1, x.2)).map fun x => (done + x.1, x.2) := by
        cases failure with
        | none => rfl
        | some x =>
          have hx : done + 1 + x.1 = done + (x.1 + 1) := by omega
          simp only [Option.map_some, hx]
      refine ⟨_, _, .of_ok ho hs, ?_⟩
      simp only [repeatCall, hout, ho, hnext]
      refine ⟨?_, hf.trans hshift, hf'.trans hshift⟩
      rw [hrec, List.append_assoc]; rfl

/-- What a series of a strategy of a kind comes to. -/
def partOf (k : Kind) (n : Nat) (elapsed : Kind → Float) :
    Option (Nat × CallError) → Except StrategyFailure Sample
  | some (iteration, error) => .error { strategy := k, iteration, error }
  | none => .ok (Sample.of k.name n (elapsed k))

theorem measure_result (s : Running σ) (r : Request) (n : Nat) (elapsed : Kind → Float) :
    (measure s r n elapsed).result =
      partOf s.strategy.kind n elapsed (repeatCall r n 0 s).failure := by
  unfold measure
  simp only
  cases (repeatCall r n 0 s).failure <;> rfl

theorem measure_next (s : Running σ) (r : Request) (n : Nat) (elapsed : Kind → Float) :
    (measure s r n elapsed).next = (repeatCall r n 0 s).next := by
  unfold measure
  simp only
  split <;> rfl

theorem shift_zero (failure : Option (Nat × CallError)) :
    failure.map (fun x => (0 + x.1, x.2)) = failure := by
  cases failure with
  | none => rfl
  | some x => simp only [Option.map_some, Nat.zero_add]

/-- A measurement makes a series from the first call on. -/
theorem measure_recording (s : Running σ) (r : Request) (n : Nat) (elapsed : Kind → Float) :
    ∃ made failure, Series s r n made failure ∧
      (measure (s.recording []) r n elapsed).next.state.record = made ∧
      (measure (s.recording []) r n elapsed).result = partOf s.strategy.kind n elapsed failure ∧
      (measure s r n elapsed).result = partOf s.strategy.kind n elapsed failure := by
  obtain ⟨made, failure, hs, hrec, hf, hf'⟩ := repeatCall_recording r n 0 s []
  rw [shift_zero] at hf hf'
  refine ⟨made, failure, hs, ?_, ?_, ?_⟩
  · rw [measure_next, hrec, List.nil_append]
  · rw [measure_result, hf]; rfl
  · rw [measure_result, hf']

/-! ## Both strategies -/

/-- How many calls in a time that is for each second. In no time at all they are infinitely many. -/
def perSecond (n : Nat) (time : Float) : Float :=
  if time > 0 then n.toUInt64.toFloat / time else .ofBits 0x7FF0000000000000

/-- The report of a benchmark in which no call failed. A sample has the number of all calls, their
time, and how many they are for each second. -/
def cleanReport (missing : Option String) (n : Nat) (elapsed : Kind → Float) : Report :=
  let sample (name : String) (time : Float) : String × Sample :=
    (name, { name, count := n, elapsed := time, throughput := perSecond n time })
  let network := sample "network" (elapsed .network)
  match missing with
  | none => { samples := [sample "native" (elapsed .native), network], skipped := [] }
  | some reason => { samples := [network], skipped := [("native", reason)] }

def failuresOf (k : Kind) (failure : Option (Nat × CallError)) : List StrategyFailure :=
  (failure.map fun x => { strategy := k, iteration := x.1, error := x.2 }).toList

/-- The result of a benchmark whose strategies made the calls `toNative` and `toNetwork`. -/
structure Verdict (missing : Option String) (n : Nat) (elapsed : Kind → Float)
    (toNative : List Invocation) (nativeFailure : Option (Nat × CallError))
    (toNetwork : List Invocation) (networkFailure : Option (Nat × CallError))
    (result : Except RunError Report) : Prop where
  /-- There is a report if no call failed, and only then. -/
  reported : (∃ report, result = .ok report) ↔
    ∀ i ∈ toNative ++ toNetwork, ∃ v, i.outcome = .ok v
  report : ∀ report, result = .ok report → report = cleanReport missing n elapsed
  /-- Otherwise the strategies that failed are named, the native one first. -/
  failed : ∀ e, result = .error e →
    e = .strategyFailed (failuresOf .native nativeFailure ++ failuresOf .network networkFailure)

namespace Harness

def recorded (h : Harness ν μ) : Harness (Recorded ν) (Recorded μ) where
  native := h.native.map (·.recording [])
  network := h.network.recording []
  service := h.service
  function := h.function

/-- What the native part of a benchmark comes to. -/
def nativePartOf (missing : Option String) (n : Nat) (elapsed : Kind → Float)
    (failure : Option (Nat × CallError)) : Except StrategyFailure Report :=
  match missing with
  | none => (partOf .native n elapsed failure).map ({} : Report).insert
  | some reason => .ok (({} : Report).skip .native reason)

/-- The calls of the native strategy are a series. Where there is none, none is made. -/
structure NativeSeries (h : Harness ν μ) (r : Request) (n : Nat) (made : List Invocation)
    (failure : Option (Nat × CallError)) : Prop where
  available : ∀ s, h.native = .available s → Series s r n made failure
  unavailable : ∀ reason, h.native = .unavailable reason → made = [] ∧ failure = none

theorem runNative_recording (h : Harness ν μ) (r : Request) (n : Nat) (elapsed : Kind → Float)
    (hk : ∀ s, h.native = .available s → s.strategy.kind = .native) :
    ∃ made failure, h.NativeSeries r n made failure ∧
      (h.recorded.runNative r n elapsed).2.2.record = made ∧
      (h.recorded.runNative r n elapsed).1 = nativePartOf h.native.reason? n elapsed failure ∧
      (h.runNative r n elapsed).1 = nativePartOf h.native.reason? n elapsed failure := by
  cases hn : h.native with
  | available s =>
    obtain ⟨made, failure, hs, hrec, hf, hf'⟩ := measure_recording s r n elapsed
    rw [hk s hn] at hf hf'
    have hr : h.recorded.native = .available (s.recording []) := by
      simp only [recorded, hn]; rfl
    refine ⟨made, failure, ⟨?_, ?_⟩, ?_, ?_, ?_⟩
    · intro t ht
      rw [hn] at ht
      cases ht
      exact hs
    · intro reason ht
      rw [hn] at ht
      cases ht
    · simp only [runNative, hr]; exact hrec
    · simp only [runNative, hr, hf]; rfl
    · simp only [runNative, hn, hf']; rfl
  | unavailable reason =>
    have hr : h.recorded.native = .unavailable reason := by
      simp only [recorded, hn]; rfl
    refine ⟨[], none, ⟨?_, ?_⟩, ?_, ?_, ?_⟩
    · intro t ht
      rw [hn] at ht
      cases ht
    · intro _ _; exact ⟨rfl, rfl⟩
    · simp only [runNative, hr]; rfl
    · simp only [runNative, hr]; rfl
    · simp only [runNative, hn]; rfl

theorem NativeSeries.clean {h : Harness ν μ} {r : Request} {n : Nat} {made : List Invocation}
    {failure : Option (Nat × CallError)} (hs : h.NativeSeries r n made failure) :
    failure = none ↔ ∀ i ∈ made, ∃ v, i.outcome = .ok v := by
  cases hn : h.native with
  | available s => exact (hs.available s hn).clean
  | unavailable reason =>
    obtain ⟨hmade, hnone⟩ := hs.unavailable reason hn
    rw [hmade, hnone]
    refine ⟨?_, ?_⟩
    · intro _ i hi; cases hi
    · intro _; rfl

theorem combine_clean (missing : Option String) (n : Nat) (elapsed : Kind → Float) :
    combine (nativePartOf missing n elapsed none) (partOf .network n elapsed none) =
      .ok (cleanReport missing n elapsed) := by
  cases missing with
  | some reason => rfl
  | none =>
    -- the report keeps its samples in the order of the names
    have hlt : ¬ Kind.network.name < Kind.native.name := by decide
    have hne : Kind.network.name ≠ Kind.native.name := by decide
    simp only [nativePartOf, partOf, Except.map, combine, Report.insert, Sample.of, Keyed.insert,
      if_neg hlt, if_neg hne]
    rfl

theorem combine_failed {missing : Option String} {nf wf : Option (Nat × CallError)} (n : Nat)
    (elapsed : Kind → Float) (hm : missing = none ∨ nf = none) (hf : ¬(nf = none ∧ wf = none)) :
    combine (nativePartOf missing n elapsed nf) (partOf .network n elapsed wf) =
      .error (.strategyFailed (failuresOf .native nf ++ failuresOf .network wf)) := by
  cases nf with
  | none =>
    cases wf with
    | none => exact absurd ⟨rfl, rfl⟩ hf
    | some y => cases missing <;> rfl
  | some x =>
    rcases hm with rfl | h
    · cases wf <;> rfl
    · cases h

theorem combine_verdict {missing : Option String} {n : Nat} {elapsed : Kind → Float}
    {toNative toNetwork : List Invocation} {nf wf : Option (Nat × CallError)}
    (hm : missing = none ∨ nf = none)
    (hn : nf = none ↔ ∀ i ∈ toNative, ∃ v, i.outcome = .ok v)
    (hw : wf = none ↔ ∀ i ∈ toNetwork, ∃ v, i.outcome = .ok v) :
    Verdict missing n elapsed toNative nf toNetwork wf
      (combine (nativePartOf missing n elapsed nf) (partOf .network n elapsed wf)) := by
  have hclean : (nf = none ∧ wf = none) ↔ ∀ i ∈ toNative ++ toNetwork, ∃ v, i.outcome = .ok v := by
    rw [hn, hw, List.forall_mem_append]
  by_cases hf : nf = none ∧ wf = none
  · have hall := hclean.mp hf
    obtain ⟨rfl, rfl⟩ := hf
    rw [combine_clean]
    refine ⟨⟨fun _ => hall, fun _ => ⟨_, rfl⟩⟩, ?_, ?_⟩
    · intro report hr; cases hr; rfl
    · intro e he; cases he
  · rw [combine_failed n elapsed hm hf]
    refine ⟨⟨?_, ?_⟩, ?_, ?_⟩
    · rintro ⟨report, hr⟩; cases hr
    · intro hall; exact absurd (hclean.mpr hall) hf
    · intro report hr; cases hr
    · intro e he; cases he; rfl

/-- A benchmark makes one series for each strategy, recorded or not. -/
theorem run_recording (h : Harness ν μ) (elapsed : Kind → Float) {n : Nat} (hn : n ≠ 0)
    (payload : List UInt8) (hnat : ∀ s, h.native = .available s → s.strategy.kind = .native)
    (hnet : h.network.strategy.kind = .network) :
    ∃ nf wf,
      h.NativeSeries (h.request payload) n
        (h.recorded.run elapsed n payload).next.native.record nf ∧
      Series h.network (h.request payload) n
        (h.recorded.run elapsed n payload).next.network.state.record wf ∧
      (h.recorded.run elapsed n payload).result =
        combine (nativePartOf h.native.reason? n elapsed nf) (partOf .network n elapsed wf) ∧
      (h.run elapsed n payload).result =
        combine (nativePartOf h.native.reason? n elapsed nf) (partOf .network n elapsed wf) := by
  obtain ⟨toNative, nf, hs, hrec, hf, hf'⟩ :=
    h.runNative_recording (h.request payload) n elapsed hnat
  obtain ⟨toNetwork, wf, ht, hrec', hg, hg'⟩ :=
    measure_recording h.network (h.request payload) n elapsed
  rw [hnet] at hg hg'
  have hreq : h.recorded.request payload = h.request payload := rfl
  have hnw : h.recorded.network = h.network.recording [] := rfl
  refine ⟨nf, wf, ?_, ?_, ?_, ?_⟩
  · simp only [run, if_neg hn, hreq]
    rw [hrec]
    exact hs
  · simp only [run, if_neg hn, hreq, hnw]
    rw [hrec']
    exact ht
  · simp only [run, if_neg hn, hreq, hnw, hf, hg]
  · simp only [run, if_neg hn, hf', hg']

/-- **Calls of a benchmark.** Whatever the strategies are, a benchmark without iterations calls
nobody. Any other makes up to `n` calls by each strategy, all with the same request, a strategy
stops at its own first error only, and the result is the verdict on those calls. The network's part
does not depend on the native strategy: with any other, or none, that part is the same. -/
theorem run_calls (h : Harness ν μ) (elapsed : Kind → Float) (n : Nat) (payload : List UInt8)
    (hnat : ∀ s, h.native = .available s → s.strategy.kind = .native)
    (hnet : h.network.strategy.kind = .network) :
    let r : Request :=
      { service := h.service, function := h.function, args := [.string (Utf8.textLossy payload)] }
    let done := h.recorded.run elapsed n payload
    let toNative := done.next.native.record
    let toNetwork := done.next.network.state.record
    done.result = (h.run elapsed n payload).result ∧
    (n = 0 → done.result = .error .invalidIterations ∧ toNative = [] ∧ toNetwork = []) ∧
    (n ≠ 0 → ∃ nativeFailure networkFailure,
      h.NativeSeries r n toNative nativeFailure ∧ Series h.network r n toNetwork networkFailure ∧
      Verdict h.native.reason? n elapsed toNative nativeFailure toNetwork networkFailure
        done.result) ∧
    ∀ (ν' : Type) (other : Availability (Running ν')) (elapsed' : Kind → Float),
      let g : Harness ν' μ :=
        { native := other, network := h.network, service := h.service, function := h.function }
      (g.recorded.run elapsed' n payload).next.network = done.next.network := by
  intro r done toNative toNetwork
  by_cases hn : n = 0
  · subst hn
    refine ⟨rfl, ?_, fun hne => absurd rfl hne, fun _ _ _ => rfl⟩
    intro _
    refine ⟨rfl, ?_, rfl⟩
    have hempty := h.native.record_recording []
    rw [ite_self] at hempty
    exact hempty
  · obtain ⟨nf, wf, hs, ht, hres, hres'⟩ := h.run_recording elapsed hn payload hnat hnet
    refine ⟨hres.trans hres'.symm, fun he => absurd he hn, ?_, ?_⟩
    · intro _
      refine ⟨nf, wf, hs, ht, ?_⟩
      have hm : h.native.reason? = none ∨ nf = none := by
        cases hnv : h.native with
        | available s => exact .inl rfl
        | unavailable reason => exact .inr (hs.unavailable reason hnv).2
      simp only [done, hres]
      exact combine_verdict hm hs.clean ht.clean
    · intro ν' other elapsed'
      simp only [done, run, if_neg hn, measure_next]
      rfl

/-- Of three calls of each strategy the native one fails the second. Without it the other one has a
sample of three calls. -/
theorem run_calls_scripted :
    let boom : CallError := .execution .native (.remote "boom")
    let native : Scripted := { kind := .native, failAt := some (1, "boom") }
    let network : Scripted := { kind := .network }
    let h : Harness (List Request) (List Request) :=
      { native := .available ⟨native.strategy, []⟩, network := ⟨network.strategy, []⟩
        service := "Ledger", function := "close" }
    let alone : Harness (List Request) (List Request) := { h with native := .unavailable "off" }
    let done := h.recorded.run (fun _ => 1.5) 3 []
    done.next.native.record.length = 2 ∧ done.next.network.state.record.length = 3 ∧
      done.result =
        .error (.strategyFailed [{ strategy := .native, iteration := 1, error := boom }]) ∧
      (alone.recorded.run (fun _ => 1.5) 3 []).result = .ok
        { samples := [("network", { name := "network", count := 3, elapsed := 1.5, throughput := 2 })]
          skipped := [("native", "off")] } := by
  intro boom native network h alone done
  have hone : ∀ o ∈ [Except.ok (ε := CallError) (h.request []).argsValue], ∃ v, o = .ok v := by
    intro o ho; exact ⟨_, List.mem_singleton.mp ho⟩
  have hthree : ∀ o ∈ List.replicate 3 (Except.ok (ε := CallError) (h.request []).argsValue),
      ∃ v, o = .ok v := by
    intro o ho; exact ⟨_, List.eq_of_mem_replicate ho⟩
  have hkind : ∀ s, h.native = .available s → s.strategy.kind = .native := by
    intro s hs; cases hs; rfl
  obtain ⟨-, -, hcalls, -⟩ := run_calls h (fun _ => 1.5) 3 [] hkind rfl
  obtain ⟨nf, wf, hs, ht, hv⟩ := hcalls (by decide)
  obtain ⟨hlen, rfl⟩ := (hs.available _ rfl).stopped 1 boom rfl hone
  obtain ⟨hlen', rfl⟩ := ht.complete hthree
  refine ⟨hlen, hlen', ?_, ?_⟩
  · cases hr : done.result with
    | ok report =>
      have hclean := hs.clean.mpr fun i hi =>
        hv.reported.mp ⟨report, hr⟩ i (List.mem_append_left _ hi)
      cases hclean
    | error e => exact congrArg _ (hv.failed e hr)
  · have hnone : ∀ s, alone.native = .available s → s.strategy.kind = .native := by
      intro s hs; cases hs
    obtain ⟨-, -, hcalls, -⟩ := run_calls alone (fun _ => 1.5) 3 [] hnone rfl
    obtain ⟨nf, wf, hs, ht, hv⟩ := hcalls (by decide)
    obtain ⟨hnil, -⟩ := hs.unavailable "off" rfl
    obtain ⟨-, rfl⟩ := ht.complete hthree
    have hclean := ht.clean.mp rfl
    rw [hnil] at hv
    obtain ⟨report, hr⟩ := hv.reported.mpr hclean
    have fast : perSecond 3 1.5 = 2 := by decide
    rw [hr, hv.report report hr]
    simp only [cleanReport, Availability.reason?, fast]
    rfl

end Harness

end Switchboard.Bench
