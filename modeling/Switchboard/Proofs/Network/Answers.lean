import Switchboard.Network.Strategy
import Switchboard.Proofs.Json.Printed

/-!
# What the network strategy makes of an answer

A request is `Answered` when it could be sent and an exchange came back for it. The outcome is then
that of the exchange (`Answered.outcome`), by the rules for a status that is no success and for a
complete text. A request whose endpoint no message can name is not sent: its outcome is the same
over every link, and the link does not change (`invoke_of_not_sendable`). A name that is too long
makes such an endpoint (`isSendable_of_long`).
-/
namespace Switchboard

namespace Network

variable {σ : Type}

/-- A request is sent, and `exchange` comes back for it. -/
structure Answered (link : Link σ) (base : Url) (state : σ) (r : Request) (exchange : Exchange) :
    Prop where
  sent : isSendable (endpoint base r) = true
  back : (link.exchange state (postFor base r)).1 = exchange

theorem Answered.outcome {link : Link σ} {base : Url} {state : σ} {r : Request}
    {exchange : Exchange} (h : Answered link base state r exchange) :
    ((strategy link base).invoke state r).outcome =
      (outcomeOf (endpoint base r) exchange).mapError (.execution .network) := by
  have sent : isSendable (postFor base r).url = true := h.sent
  simp only [strategy_invoke, sent, if_true, h.back]
  rfl

theorem Answered.log {link : Link σ} {base : Url} {state : σ} {r : Request}
    {exchange : Exchange} (h : Answered link base state r exchange) :
    ((strategy link base).invoke state r).log = recordsOf (endpoint base r) r exchange := by
  have sent : isSendable (postFor base r).url = true := h.sent
  simp only [strategy_invoke, sent, if_true, h.back]
  rfl

theorem isSuccess_iff {status : Nat} : isSuccess status = true ↔ 200 ≤ status ∧ status ≤ 299 := by
  rw [isSuccess, Bool.and_eq_true, decide_eq_true_iff, decide_eq_true_iff]

theorem invoke_of_not_sendable (link : Link σ) {base : Url} (state : σ) {r : Request}
    (h : isSendable (endpoint base r) = false) :
    (strategy link base).invoke state r =
      { outcome := .error (.execution .network (notSent (endpoint base r)))
        log := [.posting (endpoint base r).text]
        state } := by
  have unsent : isSendable (postFor base r).url = false := h
  simp only [strategy_invoke, unsent, Bool.false_eq_true, if_false]
  rfl

/-- A status outside 200 to 299 is a failure, with the text as its body. -/
theorem outcomeOf_of_status (url : Url) {status : Nat} (h : isSuccess status = false)
    (body : List UInt8) (complete : Bool) :
    outcomeOf url (.reply status body complete) =
      .error (.status status (if complete then Utf8.textLossy body else "")) := by
  simp only [outcomeOf, h, Bool.false_eq_true, if_false]

/-- The body of a success counts only when it is complete. -/
theorem outcomeOf_of_broken (url : Url) {status : Nat} (h : isSuccess status = true)
    (body : List UInt8) :
    outcomeOf url (.reply status body false) =
      .error (.transport "error decoding response body") := by
  simp only [outcomeOf, h, Bool.false_eq_true, if_true, if_false]

/-- The complete body of a success is read as JSON. -/
theorem outcomeOf_of_success (url : Url) {status : Nat} (h : isSuccess status = true)
    (body : List UInt8) :
    outcomeOf url (.reply status body true) =
      (Json.parse body).mapError fun e => .malformedResponse e.message := by
  simp only [outcomeOf, h, if_true]

/-! ## Addresses that are too long -/

theorem length_encodeChar_pos (c : Char) : 0 < (String.utf8EncodeChar c).length := by
  rw [String.length_utf8EncodeChar]
  exact Char.utf8Size_pos c

theorem length_le_encode (cs : List Char) : cs.length ≤ (Utf8.encode cs).length := by
  induction cs with
  | nil => exact Nat.le_refl _
  | cons c cs ih =>
    have := length_encodeChar_pos c
    rw [Utf8.encode_cons, List.length_append, List.length_cons]
    omega

theorem length_le_percent (set : Url.Percent.EncodeSet) (cs : List Char) :
    cs.length ≤ (Url.Percent.encode set cs).length := by
  induction cs with
  | nil => exact Nat.le_refl _
  | cons c cs ih =>
    have one : 0 < (Url.Percent.encodeChar set c).length := by
      unfold Url.Percent.encodeChar
      split
      · have := length_encodeChar_pos c
        cases h : String.utf8EncodeChar c with
        | nil => rw [h] at this; exact absurd this (Nat.lt_irrefl 0)
        | cons b bs => rw [Utf8.encode_cons, h]; exact Nat.succ_pos _
      · exact Nat.one_pos
    rw [show Url.Percent.encode set (c :: cs) =
      Url.Percent.encodeChar set c ++ Url.Percent.encode set cs from List.flatMap_cons,
      List.length_append, List.length_cons]
    omega

/-- A path stands whole in the text of its address. -/
theorem length_pathChars_le (u : Url) :
    (Url.pathChars u.path).length ≤ Utf8.size (shownUrl u) := by
  have path : u.withoutCredentials.path = u.path := by
    unfold Url.withoutCredentials
    exact (apply_ite Url.path _ _ _).trans (ite_self _)
  have inside : (Url.pathChars u.path).Sublist u.withoutCredentials.chars := by
    rw [← path]
    exact (List.sublist_append_left _ _).trans
      ((List.sublist_append_right _ _).trans (List.sublist_append_left _ _))
  have text : (shownUrl u).toList = u.withoutCredentials.chars := String.toList_ofList
  rw [Utf8.size, Utf8.bytes, text]
  exact Nat.le_trans inside.length_le (length_le_encode _)

/-- A piece that is longer than every form of a place is a segment. -/
theorem addPiece_of_long (path : Url.Path) {piece : List Char} (h : 6 < piece.length) :
    Url.addPiece path piece true = path ++ [piece] := by
  have other (names : List String) (short : ∀ s ∈ names, s.toList.length ≤ 6) :
      (names.any fun s => s.toList == piece) = false := by
    rw [List.any_eq_false]
    intro s hs e
    have := short s hs
    rw [eq_of_beq e] at this
    omega
  have above : Url.isAbove piece = false := other _ (by decide)
  have here : Url.isHere piece = false := other _ (by decide)
  simp only [Url.addPiece, above, here, Bool.false_eq_true, if_false]

/-- A function whose name alone is too long for an address cannot be called over the network. -/
theorem isSendable_of_long (base : Url) {r : Request}
    (kept : ∀ c ∈ r.function.toList, Url.isIgnored c = false)
    (long : maxAddressBytes < r.function.toList.length) :
    isSendable (endpoint base r) = false := by
  have whole : r.function.toList.filter (fun c => !Url.isIgnored c) = r.function.toList :=
    List.filter_eq_self.mpr fun c hc => by rw [kept c hc]; rfl
  have grows := length_le_percent Url.Percent.segment r.function.toList
  have segment (path : Url.Path) : ∃ front, pushName path r.function =
      front ++ [Url.Percent.encode Url.Percent.segment r.function.toList] := by
    have dot : r.function ≠ "." := fun e => absurd long (by rw [e]; decide)
    have dots : r.function ≠ ".." := fun e => absurd long (by rw [e]; decide)
    refine ⟨if path = [[]] then [] else path, ?_⟩
    simp only [pushName, dot, dots, decide_false, Bool.or_self, Bool.false_eq_true, if_false, whole]
    refine addPiece_of_long _ (Nat.lt_of_lt_of_le ?_ grows)
    exact Nat.lt_trans (by decide) long
  obtain ⟨front, path⟩ : ∃ front, (endpoint base r).path =
      front ++ [Url.Percent.encode Url.Percent.segment r.function.toList] := segment _
  have size := length_pathChars_le (endpoint base r)
  rw [path, Url.pathChars, List.flatMap_append, List.length_append, List.flatMap_cons,
    List.length_append, List.length_cons] at size
  have tooLong : ¬ Utf8.size (shownUrl (endpoint base r)) ≤ maxAddressBytes := by omega
  rw [isSendable, decide_eq_false tooLong, Bool.and_false]

/-- A call of a function whose name is too long for an address. -/
def longCall : Request where
  service := "names"
  function := String.ofList (List.replicate 70000 'a')
  args := [.string "a"]

theorem isSendable_longCall (base : Url) : isSendable (endpoint base longCall) = false := by
  have name : longCall.function.toList = List.replicate 70000 'a' := String.toList_ofList
  refine isSendable_of_long base ?_ ?_
  · intro c hc
    rw [name] at hc
    rw [List.eq_of_mem_replicate hc]
    rfl
  · rw [name, List.length_replicate]
    decide

end Network

/-- The address of a server, without a port of its own. -/
def Sample.address : Url := { host := .name ['h'], port := none, path := [[]] }

end Switchboard
