import Switchboard.Proofs.Native.Boundary
import Switchboard.Proofs.Network.Answers
import Switchboard.Sample.Extension
import Switchboard.Sample.Server

/-!
# Both transports read a reply alike

A library answers with memory up to a NUL, a server with bytes. Where both carry one text, both
transports read the same value from it, or refuse it for the same reason at the same place
(`Alike`). A sign of failure beside the text is never passed over, even if the text is JSON.
-/
namespace Switchboard

/-- What both transports make of one text: its value, or its refusal, which the native transport
names as that of a native result. -/
inductive Alike (t : String) : Outcome → Outcome → Prop where
  | value {v : Json.Value} (read : Json.parseString t = .ok v) : Alike t (.ok v) (.ok v)
  | refusal {e : Json.Error} (read : Json.parseString t = .error e) :
    Alike t
      (.error (.execution .native
        (.malformedResponse ("native result is not JSON: " ++ e.message))))
      (.error (.execution .network (.malformedResponse e.message)))

/-- The answers of the two transports to one request, over any library and any server. One text in
both replies gives one result; a failure of the library or of the server is reported as such,
whatever the text beside it. -/
theorem replies_alike {ρ σ : Type} (l : Native.Library ρ) (symbol : String)
    (limits : Native.Limits) (runtime : ρ) (link : Network.Link σ) (base : Url) (state : σ)
    (r : Request) :
    let native := ((Native.strategy (l.module symbol) limits).invoke runtime r).outcome
    let network := ((Network.strategy link base).invoke state r).outcome
    (∀ (t : String) (beyond : List UInt8) (status : Nat), Native.hasNul t = false →
      limits.admits r = true →
      l.answer symbol runtime r = ⟨0, some (Utf8.bytes t ++ 0 :: beyond)⟩ →
      Network.isSuccess status = true →
      Network.Answered link base state r (.reply status (Utf8.bytes t) true) →
        Alike t native network) ∧
    (limits.admits r = true →
      (l.answer symbol runtime r).status ≠ 0 ∨ (l.answer symbol runtime r).text = none →
        ∃ why, native = .error (.execution .native (.remote why))) ∧
    (∀ (status : Nat) (body : List UInt8) (complete : Bool), Network.isSuccess status = false →
      Network.Answered link base state r (.reply status body complete) →
        ∃ text, network = .error (.execution .network (.status status text))) := by
  intro native network
  refine ⟨?_, ?_, ?_⟩
  · intro t beyond status nul admitted answer success answered
    have hnative : native = _ := Native.invoke_admitted l symbol runtime admitted
    have hnetwork : network = _ := answered.outcome
    rw [answer, Native.Return.outcome_of_text nul] at hnative
    rw [Network.outcomeOf_of_success _ success] at hnetwork
    rw [hnative, hnetwork]
    change Alike t (((Json.parseString t).mapError _).mapError _)
      (((Json.parseString t).mapError _).mapError _)
    cases read : Json.parseString t with
    | ok v => exact .value read
    | error e => exact .refusal read
  · intro admitted failure
    have hnative : native = _ := Native.invoke_admitted l symbol runtime admitted
    cases text : (l.answer symbol runtime r).text with
    | none => exact ⟨_, by rw [hnative, Native.Return.outcome_of_null text]; rfl⟩
    | some memory =>
      have status : (l.answer symbol runtime r).status ≠ 0 :=
        failure.resolve_right (by rw [text]; exact fun h => nomatch h)
      exact ⟨_, by rw [hnative, Native.Return.outcome_of_status text status]; rfl⟩
  · intro status body complete failure answered
    have hnetwork : network = _ := answered.outcome
    exact ⟨_, by rw [hnetwork, Network.outcomeOf_of_status _ failure]; rfl⟩

/-- Both reply with a list that is not closed. Then both fail, with good JSON as their text. -/
theorem replies_alike_unclosed :
    Alike "[1"
      ((Native.strategy (Sample.extension.module "call_function") {}).invoke 0
        ⟨"lists", "raw:[1", []⟩).outcome
      ((Network.strategy (Sample.server [{ body := .bytes (Utf8.bytes "[1") }])
        Sample.address).invoke [] ⟨"lists", "raw:[1", []⟩).outcome ∧
    (∃ why, ((Native.strategy (Sample.extension.module "call_function") {}).invoke 0
      ⟨"lists", "fail:3:[]", []⟩).outcome = .error (.execution .native (.remote why))) ∧
    ∃ text, ((Network.strategy (Sample.server [{ status := 500 }]) Sample.address).invoke []
      ⟨"lists", "fail:3:[]", []⟩).outcome =
        .error (.execution .network (.status 500 text)) := by
  have good := replies_alike Sample.extension "call_function" {} 0
    (Sample.server [{ body := .bytes (Utf8.bytes "[1") }]) Sample.address []
    ⟨"lists", "raw:[1", []⟩
  have bad := replies_alike Sample.extension "call_function" {} 0
    (Sample.server [{ status := 500 }]) Sample.address [] ⟨"lists", "fail:3:[]", []⟩
  refine ⟨?_, ?_, ?_⟩
  · exact good.1 "[1" [] 200 (by decide) (by decide) (by decide) (by decide)
      ⟨by decide, by decide⟩
  · exact bad.2.1 (by decide) (.inl (by decide))
  · exact bad.2.2 500 (Utf8.bytes "[]") true (by decide) ⟨by decide, by decide⟩

end Switchboard
