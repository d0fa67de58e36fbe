import Switchboard.Proofs.Json.Wellformed
import Switchboard.Proofs.Native.Boundary
import Switchboard.Proofs.Network.Answers
import Switchboard.Sample.Extension
import Switchboard.Sample.Server

/-!
# Arguments that come back

A server that sends back what it receives, and a function of a library that gives back its
arguments, return the arguments as they were sent, up to `Json.maxDepth` levels of arrays and
objects, the list of the arguments itself counted. Deeper ones are refused for their depth.

The keys of every object of the arguments are in order, as in every value that has been read
(`Json.parse_within`), and the numbers are such as survive printing and reading by themselves, as
every whole number of 64 bits does.
-/
namespace Switchboard

/-- A link to a server that sends back the body of every post, with status 200. -/
def Network.Link.Echoes {σ : Type} (link : Network.Link σ) : Prop :=
  ∀ (state : σ) (post : Network.Post), (link.exchange state post).1 = .reply 200 post.body true

/-- What an echo of `v` is read as: `v` itself if it has at most as many levels as a text may have,
and otherwise a refusal because of them. `refusal` is what such a refusal is reported as. -/
structure ReadsEcho {ε : Type} (v : Json.Value) (refusal : String → ε)
    (result : Except ε Json.Value) : Prop where
  back : result = .ok v ↔ v.depth ≤ 127
  deep : 127 < v.depth → ∃ column : Nat,
    result = .error (refusal ("recursion limit exceeded at line 1 column " ++ column.repr))

theorem message_of_tooDeep (column : Nat) :
    Json.Error.message { cause := .tooDeep, position := { line := 1, column } } =
      "recursion limit exceeded at line 1 column " ++ column.repr := by
  have start : "recursion limit exceeded" ++ " at line " ++ Nat.repr 1 ++ " column " =
      "recursion limit exceeded at line 1 column " := by decide
  exact congrArg (· ++ column.repr) start

/-- The text of a value is read as its echo, however a refusal is reported. -/
theorem readsEcho_parse {v : Json.Value} (ordered : v.Ordered)
    (survive : ∀ n ∈ v.numbers, n.Survives) {ε : Type} (refusal : String → ε) :
    ReadsEcho v refusal ((Json.parse v.bytes).mapError fun e => refusal e.message) := by
  refine ⟨⟨?_, ?_⟩, fun deep => ?_⟩
  · intro back
    cases read : Json.parse v.bytes with
    | error e => rw [read] at back; cases back
    | ok w =>
      rw [read] at back
      cases back
      -- no value that has been read has more levels
      exact (Json.parse_within read).depth
  · intro h
    rw [Json.parse_bytes ordered survive h]
    rfl
  · obtain ⟨column, e⟩ := Json.parse_bytes_deep ordered survive deep
    refine ⟨column, ?_⟩
    rw [e, ← message_of_tooDeep]
    rfl

/-- An echo over HTTP gives back the arguments exactly if they have at most 127 levels, and is
refused for its depth otherwise; a request that cannot be sent gets no echo. The same holds of a
library's function that gives back its arguments. -/
theorem echo_round_trip {ρ σ : Type} {link : Network.Link σ} (l : Native.Library ρ)
    (symbol : String) (runtime : ρ) (echoes : link.Echoes) (base : Url) (state : σ) (r : Request)
    (ordered : r.argsValue.Ordered) (survive : ∀ n ∈ r.argsValue.numbers, n.Survives) :
    (Network.isSendable (Network.endpoint base r) = true →
      ReadsEcho (.array r.args) (fun text => .execution .network (.malformedResponse text))
        ((Network.strategy link base).invoke state r).outcome) ∧
    (Network.isSendable (Network.endpoint base r) = false →
      (Network.strategy link base).invoke state r =
        { outcome := .error (.execution .network (Network.notSent (Network.endpoint base r)))
          log := [.posting (Network.endpoint base r).text]
          state }) ∧
    (Native.hasNul r.service = false → Native.hasNul r.function = false →
      ∀ beyond : List UInt8,
        l.answer symbol runtime r = ⟨0, some (Utf8.bytes r.argsJson ++ 0 :: beyond)⟩ →
        ReadsEcho (.array r.args)
          (fun text => .malformedResponse ("native result is not JSON: " ++ text))
          ((l.module symbol).call runtime r.service r.function r.args).1) ∧
    ∀ n : Json.Whole, (Json.Number.whole n).Survives := by
  refine ⟨?_, ?_, ?_, Json.Number.survives_whole⟩
  · intro sent
    have answered : Network.Answered link base state r (.reply 200 r.argsValue.bytes true) :=
      ⟨sent, echoes state _⟩
    have outcome : ((Network.strategy link base).invoke state r).outcome =
        (Json.parse r.argsValue.bytes).mapError fun e =>
          .execution .network (.malformedResponse e.message) := by
      rw [answered.outcome, Network.outcomeOf_of_success _ (by decide)]
      cases Json.parse r.argsValue.bytes <;> rfl
    rw [outcome]
    exact readsEcho_parse ordered survive _
  · exact Network.invoke_of_not_sendable link state
  · intro service function beyond answer
    have result : ((l.module symbol).call runtime r.service r.function r.args).1 =
        (l.answer symbol runtime r).outcome := by
      rw [Native.module_call l symbol runtime service function]
      rfl
    have text : Utf8.bytes r.argsJson = r.argsValue.bytes := r.argsValue.bytes_text
    have nul : Native.hasNul r.argsJson = false := Native.hasNul_text r.argsValue
    rw [result, answer, Native.Return.outcome_of_text nul, Json.parseString, text]
    exact readsEcho_parse ordered survive _

/-! ## At the boundary -/

def Json.Value.nested : Nat → Json.Value
  | 0 => .array []
  | n + 1 => .array [nested n]

theorem Json.Value.nested_plain (n : Nat) :
    (nested n).Ordered ∧ (nested n).numbers = [] ∧ (nested n).depth = n + 1 := by
  induction n with
  | zero => exact ⟨trivial, rfl, rfl⟩
  | succ n ih =>
    obtain ⟨ordered, numbers, depth⟩ := ih
    refine ⟨⟨ordered, trivial⟩, ?_, ?_⟩
    · simp only [nested, Value.numbers, Value.numbersItems, numbers, List.append_nil]
    · simp only [nested, Value.depth, Value.depthItems, depth, Nat.max_zero]

theorem Sample.server_echoes : (Sample.server []).Echoes := fun _ _ => rfl

/-- The function `ok` of the sample extension gives back its arguments. -/
theorem Sample.answer_ok (symbol : String) (calls : Nat) {r : Request} (h : r.function = "ok") :
    Sample.extension.answer symbol calls r = ⟨0, some (Utf8.bytes r.argsJson ++ [0])⟩ := by
  have name : Utf8.textLossy (Native.beforeNul (Native.memoryOf r.function)) = "ok" := by
    rw [h]
    decide
  have args : Native.beforeNul (Native.memoryOf r.argsJson) = Utf8.bytes r.argsJson :=
    Native.beforeNul_memoryOf (Native.hasNul_text r.argsValue)
  simp only [Native.Library.answer, Sample.extension, Sample.respond, name, args, if_true]
  rfl

/-- A call of the function `ok` with arrays around one another as its only argument. -/
def Sample.nestedCall (n : Nat) : Request := ⟨"lists", "ok", [.nested n]⟩

theorem Sample.nestedCall_plain (n : Nat) :
    (nestedCall n).argsValue.Ordered ∧ (∀ m ∈ (nestedCall n).argsValue.numbers, m.Survives) ∧
      (nestedCall n).argsValue.depth = n + 2 := by
  obtain ⟨ordered, numbers, depth⟩ := Json.Value.nested_plain (n + 1)
  refine ⟨ordered, ?_, depth⟩
  change ∀ m ∈ (Json.Value.nested (n + 1)).numbers, m.Survives
  rw [numbers]
  exact List.forall_mem_nil _

/-- With 127 levels, the list of the arguments counted, both transports give back the arguments;
with 128 the network refuses them. -/
theorem echo_round_trip_nested :
    ((Network.strategy (Sample.server []) Sample.address).invoke []
      (Sample.nestedCall 125)).outcome = .ok (Sample.nestedCall 125).argsValue ∧
    ((Sample.extension.module "call_function").call 0 (Sample.nestedCall 125).service
      (Sample.nestedCall 125).function (Sample.nestedCall 125).args).1 =
        .ok (Sample.nestedCall 125).argsValue ∧
    ∃ column : Nat,
      ((Network.strategy (Sample.server []) Sample.address).invoke []
        (Sample.nestedCall 126)).outcome =
          .error (.execution .network (.malformedResponse
            ("recursion limit exceeded at line 1 column " ++ column.repr))) := by
  have echo (n : Nat) := echo_round_trip Sample.extension "call_function" 0 Sample.server_echoes
    Sample.address [] (Sample.nestedCall n)
    (Sample.nestedCall_plain n).1 (Sample.nestedCall_plain n).2.1
  have depth (n : Nat) : (Json.Value.array (Sample.nestedCall n).args).depth = n + 2 :=
    (Sample.nestedCall_plain n).2.2
  have fits : (Json.Value.array (Sample.nestedCall 125).args).depth ≤ 127 :=
    Nat.le_of_eq (depth 125)
  have deep : 127 < (Json.Value.array (Sample.nestedCall 126).args).depth :=
    Nat.lt_of_lt_of_eq (by decide) (depth 126).symm
  refine ⟨?_, ?_, ?_⟩
  · exact ((echo 125).1 (by decide)).back.mpr fits
  · have answer := Sample.answer_ok "call_function" 0 (r := Sample.nestedCall 125) rfl
    have reads := (echo 125).2.2.1 (by decide) (by decide) [] answer
    exact reads.back.mpr fits
  · exact ((echo 126).1 (by decide)).deep deep

/-- An endpoint that is too long for a message does not even get an echo. -/
theorem not_readsEcho_longCall :
    (Sample.server []).Echoes ∧ Network.longCall.argsValue.Ordered ∧
      (∀ n ∈ Network.longCall.argsValue.numbers, n.Survives) ∧
      Network.longCall.argsValue.depth ≤ 127 ∧
      ¬ ReadsEcho (.array Network.longCall.args)
        (fun text => CallError.execution .network (.malformedResponse text))
        ((Network.strategy (Sample.server []) Sample.address).invoke []
          Network.longCall).outcome := by
  have numbers : Network.longCall.argsValue.numbers = [] := rfl
  refine ⟨Sample.server_echoes, ⟨trivial, trivial⟩, ?_, by decide, fun echo => ?_⟩
  · rw [numbers]
    exact List.forall_mem_nil _
  · have back := echo.back.mpr (by decide)
    rw [Network.invoke_of_not_sendable _ _ (Network.isSendable_longCall _)] at back
    cases back

end Switchboard
