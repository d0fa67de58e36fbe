import Switchboard.Proofs.Json.Printed
import Switchboard.Proofs.Native.Limits

/-!
# What crosses into an extension

A logged library does what another one does and keeps the memory it is given on each entry of its
call function. `run_logged` is the whole run of a native strategy over it: the answers are those
without the log, and the log is one entry for each request that is not refused, in order.
`Crossing` says what that means for the texts: each is read whole, because none has a NUL inside,
and the text of the arguments is within the limit on its size.

`hasNul_text` is the reason why the arguments are never refused for a NUL.
-/
namespace Switchboard.Native

/-! ## Texts in memory -/

theorem zero_mem_bytes {s : String} : 0 ∈ Utf8.bytes s ↔ '\x00' ∈ s.toList :=
  Utf8.mem_encode_iff (c := '\x00') (by decide) s.toList

/-- A text without a NUL inside is read whole from memory, whatever follows its NUL there. -/
theorem beforeNul_bytes {s : String} (h : hasNul s = false) (beyond : List UInt8) :
    beforeNul (Utf8.bytes s ++ 0 :: beyond) = Utf8.bytes s := by
  have inside : ∀ b ∈ Utf8.bytes s, (b != 0) = true := by
    intro b hb
    rw [bne_iff_ne]
    rintro rfl
    exact hasNul_eq_false.mp h (zero_mem_bytes.mp hb)
  unfold beforeNul
  rw [List.takeWhile_append_of_pos inside, List.takeWhile_cons_of_neg (by decide), List.append_nil]

/-- A text in memory with a NUL behind it. -/
def memoryOf (s : String) : List UInt8 := Utf8.bytes s ++ [0]

theorem beforeNul_memoryOf {s : String} (h : hasNul s = false) :
    beforeNul (memoryOf s) = Utf8.bytes s :=
  beforeNul_bytes h []

/-- The text of a value has no NUL: the printer escapes those of its strings and keys. -/
theorem hasNul_text (v : Json.Value) : hasNul v.text = false := by
  rw [hasNul_eq_false, Json.Value.text, String.toList_ofList]
  intro h
  exact absurd (v.le_of_mem_chars h) (by decide)

theorem handOver_of_hasNul (what : String) {s : String} (h : hasNul s = true) :
    handOver what s = .error (.invalidArguments (what ++ " contains null bytes")) := by
  simp [handOver, nulTerminated?, h]

theorem handOver_of_not_hasNul (what : String) {s : String} (h : hasNul s = false) :
    handOver what s = .ok (memoryOf s) := by
  simp [handOver, nulTerminated?, memoryOf, h]

section

variable {service function : String} (args : List Json.Value)

theorem handOverAll_of_service (h : hasNul service = true) :
    handOverAll service function args =
      .error (.invalidArguments "service name contains null bytes") := by
  rw [handOverAll, handOver_of_hasNul _ h]
  rfl

theorem handOverAll_of_function (hs : hasNul service = false) (hf : hasNul function = true) :
    handOverAll service function args =
      .error (.invalidArguments "function name contains null bytes") := by
  rw [handOverAll, handOver_of_not_hasNul _ hs, handOver_of_hasNul _ hf]
  rfl

/-- The text of the arguments is handed over, whatever they are. -/
theorem handOverAll_of_names (hs : hasNul service = false) (hf : hasNul function = false) :
    handOverAll service function args =
      .ok (memoryOf service, memoryOf function, memoryOf (Json.Value.array args).text) := by
  rw [handOverAll, handOver_of_not_hasNul _ hs, handOver_of_not_hasNul _ hf,
    handOver_of_not_hasNul _ (hasNul_text (.array args))]
  rfl

end

/-! ## Refusals -/

/-- Why a request is refused before an extension is entered, if it is: its arguments are not within
the limits, or a name has a NUL inside, that of the service first. -/
def Limits.refusal? (l : Limits) (r : Request) : Option String :=
  match l.check r.args with
  | .error violation => some violation.message
  | .ok () =>
    if hasNul r.service then some "service name contains null bytes"
    else if hasNul r.function then some "function name contains null bytes"
    else none

/-- Whether a request is given to an extension. -/
def Limits.admits (l : Limits) (r : Request) : Bool := (l.refusal? r).isNone

theorem Limits.refusal?_eq_none {l : Limits} {r : Request} :
    l.refusal? r = none ↔
      l.check r.args = .ok () ∧ hasNul r.service = false ∧ hasNul r.function = false := by
  unfold Limits.refusal?
  cases l.check r.args with
  | error v => simp
  | ok u => cases hasNul r.service <;> cases hasNul r.function <;> simp

/-- The reasons in the order in which they are looked for. -/
theorem Limits.refusal?_cases {l : Limits} {r : Request} {why : String}
    (h : l.refusal? r = some why) :
    (∃ violation, l.check r.args = .error violation ∧ why = violation.message) ∨
      (l.check r.args = .ok () ∧ hasNul r.service = true ∧
        why = "service name contains null bytes") ∨
      (l.check r.args = .ok () ∧ hasNul r.service = false ∧ hasNul r.function = true ∧
        why = "function name contains null bytes") := by
  unfold Limits.refusal? at h
  cases check : l.check r.args with
  | error violation =>
    rw [check] at h
    cases h
    exact .inl ⟨violation, rfl, rfl⟩
  | ok u =>
    rw [check] at h
    cases service : hasNul r.service with
    | true =>
      rw [service] at h
      cases h
      exact .inr (.inl ⟨rfl, rfl, rfl⟩)
    | false =>
      cases function : hasNul r.function with
      | true =>
        rw [service, function] at h
        cases h
        exact .inr (.inr ⟨rfl, rfl, rfl, rfl⟩)
      | false =>
        rw [service, function] at h
        cases h

/-! ## One call -/

section

variable {ρ : Type} (l : Library ρ) (symbol : String) (limits : Limits) (runtime : ρ) {r : Request}

theorem call_of_refusal {why : String} (h : limits.refusal? r = some why) :
    call (l.module symbol) limits runtime r = (.error (.invalidArguments why), runtime) := by
  rcases Limits.refusal?_cases h with ⟨violation, check, rfl⟩ | ⟨check, service, rfl⟩ |
    ⟨check, service, function, rfl⟩
  · simp only [call, check]
  · simp only [call, check, Library.module, handOverAll_of_service r.args service]
  · simp only [call, check, Library.module, handOverAll_of_function r.args service function]

/-- A module enters its library with any arguments, if the names have no NUL inside. -/
theorem module_call (service : hasNul r.service = false) (function : hasNul r.function = false) :
    (l.module symbol).call runtime r.service r.function r.args =
      let (answer, next) :=
        l.call symbol runtime (memoryOf r.service) (memoryOf r.function) (memoryOf r.argsJson)
      (answer.outcome, next) := by
  simp only [Library.module, handOverAll_of_names r.args service function]
  rfl

theorem call_of_admitted (h : limits.refusal? r = none) :
    call (l.module symbol) limits runtime r =
      let (answer, next) :=
        l.call symbol runtime (memoryOf r.service) (memoryOf r.function) (memoryOf r.argsJson)
      (answer.outcome, next) := by
  obtain ⟨check, service, function⟩ := Limits.refusal?_eq_none.mp h
  simp only [call, check]
  exact module_call l symbol runtime service function

end

/-! ## What comes back -/

/-- The answer of a library to a request that is admitted. -/
def Library.answer {ρ : Type} (l : Library ρ) (symbol : String) (runtime : ρ) (r : Request) :
    Return :=
  (l.call symbol runtime (memoryOf r.service) (memoryOf r.function) (memoryOf r.argsJson)).1

theorem invoke_admitted {ρ : Type} (l : Library ρ) (symbol : String) {limits : Limits}
    (runtime : ρ) {r : Request} (h : limits.admits r = true) :
    ((strategy (l.module symbol) limits).invoke runtime r).outcome =
      (l.answer symbol runtime r).outcome.mapError (.execution .native) := by
  simp only [strategy, call_of_admitted l symbol limits runtime (Option.isNone_iff_eq_none.mp h)]
  rfl

/-- A null result is a failure of the call. -/
theorem Return.outcome_of_null {answer : Return} (h : answer.text = none) :
    answer.outcome = .error (.remote
      ("native call returned no result (status " ++ answer.status.repr ++ ")")) := by
  rw [Return.outcome, h]

/-- A status that is not zero is a failure of the call, with the text as its reason. -/
theorem Return.outcome_of_status {answer : Return} {memory : List UInt8}
    (h : answer.text = some memory) (status : answer.status ≠ 0) :
    answer.outcome = .error (.remote (Utf8.textLossy (beforeNul memory))) := by
  rw [Return.outcome, h]
  exact if_pos status

/-- The text of a call that succeeds is read as JSON, whatever stands behind its NUL. -/
theorem Return.outcome_of_text {t : String} (h : hasNul t = false) (beyond : List UInt8) :
    Return.outcome ⟨0, some (Utf8.bytes t ++ 0 :: beyond)⟩ =
      (Json.parseString t).mapError fun e =>
        .malformedResponse ("native result is not JSON: " ++ e.message) := by
  simp only [Return.outcome, beforeNul_bytes h, Utf8.textLossy_bytes]
  cases Json.parseString t <;> rfl

/-! ## The log of a library -/

/-- One entry of the call function of a library: its symbol and the memory it is given. -/
structure Entry where
  symbol : String
  service : List UInt8
  function : List UInt8
  args : List UInt8

/-- The entry that a request leads to. -/
def Entry.ofRequest (symbol : String) (r : Request) : Entry where
  symbol
  service := memoryOf r.service
  function := memoryOf r.function
  args := memoryOf r.argsJson

/-- The library that does what `l` does and keeps the entries of its call function. -/
def Library.logged {ρ : Type} (l : Library ρ) : Library (ρ × List Entry) where
  exports := l.exports
  newRuntime symbol := (l.newRuntime symbol).map fun runtime => (runtime, [])
  call symbol state service function args :=
    let (answer, next) := l.call symbol state.1 service function args
    (answer, (next, state.2 ++ [{ symbol, service, function, args }]))

section

variable {ρ : Type} (l : Library ρ) (symbol : String) (limits : Limits)

/-- One call adds an entry to the log if the request is admitted, and does nothing to it
otherwise. -/
theorem call_logged (runtime : ρ) (log : List Entry) (r : Request) :
    call (l.logged.module symbol) limits (runtime, log) r =
      let (outcome, next) := call (l.module symbol) limits runtime r
      (outcome,
        (next, log ++ if limits.admits r then [Entry.ofRequest symbol r] else [])) := by
  cases h : limits.refusal? r with
  | some why =>
    rw [call_of_refusal _ _ _ _ h, call_of_refusal _ _ _ _ h]
    simp [Limits.admits, h]
  | none =>
    rw [call_of_admitted _ _ _ _ h, call_of_admitted _ _ _ _ h]
    simp only [Limits.admits, h, Option.isNone_none, if_true]
    rfl

/-- A whole run over a logged library. -/
theorem run_logged (runtime : ρ) (log : List Entry) (rs : List Request) :
    (strategy (l.logged.module symbol) limits).run (runtime, log) rs =
      let (outcomes, last) := (strategy (l.module symbol) limits).run runtime rs
      (outcomes,
        (last, log ++ (rs.filter limits.admits).map (Entry.ofRequest symbol))) := by
  induction rs generalizing runtime log with
  | nil => simp [Strategy.run]
  | cons r rs ih =>
    have step := call_logged l symbol limits runtime log r
    simp only [Strategy.run, strategy] at ih ⊢
    rw [step]
    simp only [ih, List.filter_cons]
    cases limits.admits r <;> simp

/-! ## Whole runs -/

/-- A request that is refused in every state gets the answer of its refusal. -/
theorem getElem?_run_of_refusal (runtime : ρ) {rs : List Request} {i : Nat} {r : Request}
    (hi : rs[i]? = some r) {why : String} (h : limits.refusal? r = some why) :
    ((strategy (l.module symbol) limits).run runtime rs).1[i]? =
      some (.error (.execution .native (.invalidArguments why))) := by
  induction rs generalizing runtime i with
  | nil => cases hi
  | cons r' rs ih =>
    cases i with
    | zero =>
      cases hi
      simp only [Strategy.run, strategy, call_of_refusal _ _ _ _ h]
      rfl
    | succ i => exact ih _ hi

end

/-- The texts that the reader of an entry's memory sees, each up to its first NUL. -/
def Entry.texts (e : Entry) : List (List UInt8) :=
  [beforeNul e.service, beforeNul e.function, beforeNul e.args]

theorem Entry.texts_ofRequest {limits : Limits} {r : Request} (h : limits.admits r = true)
    (symbol : String) :
    (Entry.ofRequest symbol r).texts =
      [Utf8.bytes r.service, Utf8.bytes r.function, Utf8.bytes r.argsJson] := by
  obtain ⟨-, service, function⟩ := Limits.refusal?_eq_none.mp (Option.isNone_iff_eq_none.mp h)
  simp only [Entry.texts, Entry.ofRequest, Request.argsJson, beforeNul_memoryOf service,
    beforeNul_memoryOf function, beforeNul_memoryOf (hasNul_text r.argsValue)]

/-- What a run of a native strategy lets through to the call function of a library. -/
structure Crossing (limits : Limits) (symbol : String) (rs : List Request)
    (outcomes : List Outcome) (entries : List Entry) : Prop where
  /-- One entry for each request that is admitted, in order, with the whole of its texts. -/
  texts : entries.map Entry.texts =
    (rs.filter limits.admits).map fun r =>
      [Utf8.bytes r.service, Utf8.bytes r.function, Utf8.bytes r.argsJson]
  /-- As many entries as requests that are admitted. -/
  count : entries.length = rs.countP limits.admits
  /-- Every entry is one of the configured function. -/
  symbol : ∀ e ∈ entries, e.symbol = symbol
  /-- The text of the arguments is within the limit on its size. -/
  size : ∀ e ∈ entries, (beforeNul e.args).length ≤ limits.maxInputBytes
  /-- A request that is not admitted gets the answer of its refusal. -/
  refused : ∀ (i : Nat) (r : Request) (why : String), rs[i]? = some r →
    limits.refusal? r = some why →
      outcomes[i]? = some (.error (.execution .native (.invalidArguments why)))

theorem crossing_ofRequests (limits : Limits) (symbol : String) {rs : List Request}
    {outcomes : List Outcome}
    (refused : ∀ (i : Nat) (r : Request) (why : String), rs[i]? = some r →
      limits.refusal? r = some why →
        outcomes[i]? = some (.error (.execution .native (.invalidArguments why)))) :
    Crossing limits symbol rs outcomes
      ((rs.filter limits.admits).map (Entry.ofRequest symbol)) where
  texts := by
    rw [List.map_map]
    exact List.map_congr_left fun r hr => Entry.texts_ofRequest (List.mem_filter.mp hr).2 symbol
  count := by rw [List.length_map, List.countP_eq_length_filter]
  symbol := by
    intro e he
    obtain ⟨r, -, rfl⟩ := List.mem_map.mp he
    rfl
  size := by
    intro e he
    obtain ⟨r, hr, rfl⟩ := List.mem_map.mp he
    have admitted := Option.isNone_iff_eq_none.mp (List.mem_filter.mp hr).2
    have check := (Limits.refusal?_eq_none.mp admitted).1
    have whole : beforeNul (Entry.ofRequest symbol r).args = Utf8.bytes r.argsJson :=
      beforeNul_memoryOf (hasNul_text r.argsValue)
    rw [whole]
    exact Limits.size_of_check check
  refused := refused

/-- The refusal of a NUL in the arguments does not occur, even without limits. -/
theorem module_ne_argsNul {ρ : Type} (l : Library ρ) (symbol : String) (runtime : ρ)
    (service function : String) (args : List Json.Value) :
    ((l.module symbol).call runtime service function args).1 ≠
      .error (.invalidArguments "arguments contains null bytes") := by
  have answer (a : Return) :
      a.outcome ≠ .error (.invalidArguments "arguments contains null bytes") := by
    unfold Return.outcome
    split
    · simp
    · simp only
      split
      · simp
      · split <;> simp
  cases hs : hasNul service with
  | true => simp [Library.module, handOverAll_of_service args hs]
  | false =>
    cases hf : hasNul function with
    | true => simp [Library.module, handOverAll_of_function args hs hf]
    | false =>
      simp only [Library.module, handOverAll_of_names args hs hf]
      exact answer _

/-- Over any library, a native strategy enters the call function once for each request that is
admitted, in order and with its whole texts, and answers the others with their refusals; logging
the entries changes no answer. The text of the arguments never has a NUL inside. -/
theorem strategy_crossing {ρ : Type} (l : Library ρ) (symbol : String) (limits : Limits)
    (runtime : ρ) (rs : List Request) :
    let plain := (strategy (l.module symbol) limits).run runtime rs
    let logged := (strategy (l.logged.module symbol) limits).run (runtime, []) rs
    logged.1 = plain.1 ∧ logged.2.1 = plain.2 ∧
      Crossing limits symbol rs plain.1 logged.2.2 ∧
      (∀ args : List Json.Value, hasNul (Json.Value.array args).text = false) ∧
      ∀ (state : ρ) (service function : String) (args : List Json.Value),
        ((l.module symbol).call state service function args).1 ≠
          .error (.invalidArguments "arguments contains null bytes") := by
  simp only [run_logged, List.nil_append, true_and]
  refine ⟨?_, fun args => hasNul_text _, module_ne_argsNul l symbol⟩
  exact crossing_ofRequests limits symbol fun i r why hi h =>
    getElem?_run_of_refusal l symbol limits runtime hi h

end Switchboard.Native
