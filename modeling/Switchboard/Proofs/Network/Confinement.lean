import Switchboard.Proofs.Network.Endpoint

/-!
# Where a name can lead

Below an address with the path `/`, the endpoint of a call is meant to be `/api/`, a segment for the
service and one for the function. Some names do not become a segment: a name that is a place is
left out, and one that is `..` but for characters that do not count takes a segment away.

* `Stays`: the calls of which both names become segments;
* `path_of_stays`, `length_of_not_stays`: the endpoint of any other call has a segment less;
* `endpoint_confined`: which calls stay below `/api/`, and which of them share an endpoint;
* `endpoint_astray`: calls that do not stay, or share one.
-/
namespace Switchboard.Network

open Url (Path pathChars Slashless isDrive)
open Url.Percent (segment encode encode_inj)

/-! ## Segments are what stands between slashes -/

/-- The path of an address has three segments, of which the first is `api`. -/
def IsUnderApi (u : Url) : Prop :=
  ∃ service function, '/' ∉ service ∧ '/' ∉ function ∧
    pathChars u.path = "/api/".toList ++ service ++ '/' :: function

theorem pathChars_api (service function : List Char) :
    pathChars ["api".toList, service, function] =
      "/api/".toList ++ service ++ '/' :: function := by
  simp [pathChars]

theorem count_pathChars {path : Path} (h : Slashless path) :
    (pathChars path).count '/' = path.length := by
  induction path with
  | nil => rfl
  | cons piece path ih =>
    have rest : Slashless path := fun p hp => h p (List.mem_cons_of_mem _ hp)
    have none : piece.count '/' = 0 := List.count_eq_zero.mpr (h piece List.mem_cons_self)
    change ('/' :: (piece ++ pathChars path)).count '/' = path.length + 1
    rw [List.count_cons_self, List.count_append, none, ih rest, Nat.zero_add]

theorem length_of_isUnderApi {u : Url} (slashless : Slashless u.path) (h : IsUnderApi u) :
    u.path.length = 3 := by
  obtain ⟨service, function, hs, hf, path⟩ := h
  have zero : service.count '/' = 0 ∧ function.count '/' = 0 :=
    ⟨List.count_eq_zero.mpr hs, List.count_eq_zero.mpr hf⟩
  have two : "/api/".toList.count '/' = 2 := by decide
  rw [← count_pathChars slashless, path, List.count_append, List.count_append,
    List.count_cons_self, zero.1, zero.2, two]

theorem slash_not_mem_segment (cs : List Char) : '/' ∉ encode segment cs := by
  have h := (isSegmentOf_encode (String.ofList cs)).slash
  rwa [String.toList_ofList] at h

theorem slashless_pushName {path : Path} (h : Slashless path) (name : String) :
    Slashless (pushName path name) := by
  have stemmed : Slashless (stem path) := by
    unfold stem
    split
    · exact fun p hp => absurd hp List.not_mem_nil
    · exact h
  rw [pushName_eq]
  split
  · exact h
  · split
    · refine Url.slashless_append (Url.slashless_shorten stemmed) fun p hp => ?_
      rw [List.mem_singleton.mp hp]
      exact List.not_mem_nil
    · refine Url.slashless_append stemmed fun p hp => ?_
      rw [List.mem_singleton.mp hp]
      exact slash_not_mem_segment _

/-! ## How long a path can become -/

/-- A name adds at most one segment. -/
theorem length_pushName_le (path : Path) (name : String) :
    (pushName path name).length ≤ path.length + 1 := by
  have stemmed : (stem path).length ≤ path.length := by
    unfold stem
    split
    · exact Nat.zero_le _
    · exact Nat.le_refl _
  have shortened : (Url.shorten (stem path)).length ≤ (stem path).length := by
    unfold Url.shorten
    split
    · exact Nat.le_refl _
    · rw [List.length_dropLast]
      exact Nat.sub_le _ _
  rw [pushName_eq]
  split
  · exact Nat.le_succ _
  · split <;> rw [List.length_append, List.length_singleton] <;> omega

/-- A name that is a place but for characters that do not count takes a segment away, unless that
names a drive. -/
theorem pushName_hidden {name : String} (place : name ≠ "." ∧ name ≠ "..")
    (h : kept name = ['.', '.']) (path : Path) :
    pushName path name = Url.shorten (stem path) ++ [[]] := by
  rw [pushName_eq, if_neg (not_or.mpr place), if_pos h]

theorem pushName_written {name : String} (place : name ≠ "." ∧ name ≠ "..")
    (h : kept name ≠ ['.', '.']) (path : Path) :
    pushName path name = stem path ++ [encode segment (written name)] := by
  rw [pushName_eq, if_neg (not_or.mpr place), if_neg h]

theorem stem_api (piece : List Char) : stem ["api".toList, piece] = ["api".toList, piece] :=
  stem_append_api [] [piece]

theorem shorten_api (piece : List Char) :
    Url.shorten ["api".toList, piece] =
      if isDrive piece then ["api".toList, piece] else ["api".toList] := rfl

/-- Whether a name names a drive can be seen from what is written for it. -/
theorem isDrive_written (name : String) : isDrive (written name) = isDrive (kept name) := by
  unfold written
  split
  · rename_i place
    rcases place with here | above
    · rw [here]; rfl
    · rw [above]; rfl
  · rfl

/-! ## Calls below the root -/

/-- A call whose names both become segments, and whose function does not take away the service. -/
structure Stays (r : Request) : Prop where
  service : r.service ≠ "." ∧ r.service ≠ ".."
  function : r.function ≠ "." ∧ r.function ≠ ".."
  inside : kept r.service ≠ ['.', '.']
  back : kept r.function = ['.', '.'] → isDrive (kept r.service) = true

theorem stays_iff {r : Request} :
    Stays r ↔ (r.service ≠ "." ∧ r.service ≠ "..") ∧ (r.function ≠ "." ∧ r.function ≠ "..") ∧
      kept r.service ≠ ['.', '.'] ∧
      (kept r.function = ['.', '.'] → isDrive (kept r.service) = true) :=
  ⟨fun h => ⟨h.service, h.function, h.inside, h.back⟩,
    fun ⟨service, function, inside, back⟩ => ⟨service, function, inside, back⟩⟩

instance (r : Request) : Decidable (Stays r) := decidable_of_iff' _ stays_iff

theorem IsPlainCall.stays {r : Request} (h : IsPlainCall r) : Stays r where
  service := ⟨h.1.here, h.1.above⟩
  function := ⟨h.2.here, h.2.above⟩
  inside := h.1.kept_ne.2
  back above := absurd above h.2.kept_ne.2

section
variable {base : Url} {r r' : Request}

theorem path_endpoint_root (root : base.path = [[]]) (r : Request) :
    (endpoint base r).path = pushName (pushName ["api".toList] r.service) r.function := by
  rw [path_endpoint, root]
  rfl

theorem path_of_stays (root : base.path = [[]]) (h : Stays r) :
    (endpoint base r).path = ["api".toList, encode segment (written r.service),
      encode segment (written r.function)] := by
  rw [path_endpoint_root root, pushName_written h.service h.inside]
  change pushName ["api".toList, encode segment (written r.service)] r.function = _
  by_cases above : kept r.function = ['.', '.']
  · have drive := h.back above
    rw [← isDrive_written, ← Url.isDrive_encode] at drive
    have nothing : written r.function = [] := if_pos (.inr above)
    rw [pushName_hidden h.function above, stem_api, shorten_api,
      if_pos drive, nothing]
    rfl
  · rw [pushName_written h.function above, stem_api]
    rfl

theorem length_of_not_stays (root : base.path = [[]]) (h : ¬Stays r) :
    (endpoint base r).path.length ≤ 2 := by
  rw [path_endpoint_root root]
  by_cases service : r.service = "." ∨ r.service = ".."
  · rw [pushName_eq ["api".toList], if_pos service]
    exact length_pushName_le _ _
  by_cases inside : kept r.service = ['.', '.']
  · -- The service has taken `api` away.
    rw [pushName_hidden (not_or.mp service) inside]
    exact length_pushName_le _ _
  by_cases function : r.function = "." ∨ r.function = ".."
  · rw [pushName_eq _ r.function, if_pos function]
    exact length_pushName_le _ _
  by_cases back : kept r.function = ['.', '.'] ∧ isDrive (kept r.service) = false
  · -- The function has taken the service away.
    obtain ⟨above, drive⟩ := back
    rw [← isDrive_written, ← Url.isDrive_encode] at drive
    rw [pushName_written (not_or.mp service) inside]
    change (pushName ["api".toList, encode segment (written r.service)] r.function).length ≤ 2
    rw [pushName_hidden (not_or.mp function) above, stem_api, shorten_api,
      if_neg (Bool.eq_false_iff.mp drive)]
    exact Nat.le_refl _
  · exact absurd ⟨not_or.mp service, not_or.mp function, inside, fun above => by
      by_contra drive
      exact back ⟨above, Bool.eq_false_iff.mpr drive⟩⟩ h

theorem slashless_endpoint (root : base.path = [[]]) (r : Request) :
    Slashless (endpoint base r).path := by
  rw [path_endpoint_root root]
  refine slashless_pushName (slashless_pushName (fun piece h => ?_) _) _
  rw [List.mem_singleton.mp h]
  decide

theorem isUnderApi_iff (root : base.path = [[]]) (r : Request) :
    IsUnderApi (endpoint base r) ↔ Stays r := by
  constructor
  · intro under
    by_contra h
    have short := length_of_not_stays root h
    rw [length_of_isUnderApi (slashless_endpoint root r) under] at short
    exact absurd short (by decide)
  · intro h
    refine ⟨_, _, slash_not_mem_segment (written r.service), slash_not_mem_segment
      (written r.function), ?_⟩
    rw [path_of_stays root h, pathChars_api]

theorem text_endpoint_eq_iff (root : base.path = [[]]) (h : Stays r) (h' : Stays r') :
    (endpoint base r).text = (endpoint base r').text ↔
      written r.service = written r'.service ∧ written r.function = written r'.function := by
  constructor
  · intro alike
    have paths := @pathChars_of_text_eq base _ _ rfl rfl alike
    rw [path_of_stays root h, path_of_stays root h', pathChars_api, pathChars_api,
      List.append_assoc, List.append_assoc, List.append_cancel_left_eq,
      List.append_cons_inj_of_notMem (slash_not_mem_segment _) (slash_not_mem_segment _)] at paths
    exact ⟨(encode_inj (by decide)).mp paths.1, (encode_inj (by decide)).mp paths.2.2⟩
  · intro ⟨service, function⟩
    have paths : (endpoint base r).path = (endpoint base r').path := by
      rw [path_of_stays root h, path_of_stays root h', service, function]
    exact congrArg (fun path => ({ base with path := path } : Url).text) paths

end

/-- Below the root, exactly the calls that stay have an endpoint of the documented form. Two of them
share it if nothing sets their names apart but characters that do not count. Calls with plain names
stay, and everything of their names counts. -/
theorem endpoint_confined {base : Url} (root : base.path = [[]]) :
    (∀ r, (∃ u, resolve base r = .ok u ∧ IsUnderApi u) ↔ Stays r) ∧
    (∀ r r', Stays r → Stays r' →
      ((endpoint base r).text = (endpoint base r').text ↔
        written r.service = written r'.service ∧ written r.function = written r'.function)) ∧
    ∀ r, IsPlainCall r → Stays r ∧ written r.service = r.service.toList ∧
      written r.function = r.function.toList := by
  refine ⟨fun r => ?_, fun r r' h h' => text_endpoint_eq_iff root h h', fun r plain => ?_⟩
  · rw [← isUnderApi_iff root r]
    simp only [resolve_eq, Except.ok.injEq, exists_eq_left']
  · exact ⟨plain.stays, plain.1.written_eq, plain.2.written_eq⟩

/-- The address of a server, with nothing behind it. -/
def rooted : Url := { host := .name "server".toList, port := some 8080, path := [[]] }

theorem base_rooted : ({ host := "server", port := 8080 } : Settings).base = .ok rooted := by decide

/-- A service that names a drive stays even if its function is hidden, and shares its endpoint with
the call of a function without a name only. -/
theorem endpoint_confined_drive :
    rooted.path = [[]] ∧
      (∃ u, resolve rooted ⟨"C:", "\t..", []⟩ = .ok u ∧ IsUnderApi u) ∧
      (endpoint rooted ⟨"C:", "\t..", []⟩).text = (endpoint rooted ⟨"C:", "", []⟩).text ∧
      (endpoint rooted ⟨"C:", "\t..", []⟩).text ≠ (endpoint rooted ⟨"C:", "%2e", []⟩).text := by
  have root : rooted.path = [[]] := rfl
  obtain ⟨under, shared, -⟩ := endpoint_confined root
  have hidden : Stays ⟨"C:", "\t..", []⟩ := by decide
  refine ⟨root, (under _).mpr hidden, ?_, ?_⟩
  · exact (shared _ _ hidden (by decide)).mpr (by decide)
  · exact (shared _ _ hidden (by decide)).not.mpr (by decide)

/-- Calls with other names leave `/api`, lose a segment or share an endpoint. -/
theorem endpoint_astray :
    ({ host := "server", port := 8080 } : Settings).base = .ok rooted ∧ rooted.path = [[]] ∧
      resolve rooted ⟨"\t..", "f", []⟩ = .ok { rooted with path := ["f".toList] } ∧
      ¬IsUnderApi { rooted with path := ["f".toList] } ∧
      (endpoint rooted ⟨"\t..", "f", []⟩).text = "http://server:8080/f" ∧
      (endpoint rooted ⟨".", "f", []⟩).text = "http://server:8080/api/f" ∧
      (endpoint rooted ⟨"..", "f", []⟩).text = "http://server:8080/api/f" ∧
      (endpoint rooted ⟨"a\tb", "f", []⟩).text = (endpoint rooted ⟨"ab", "f", []⟩).text := by
  have path : endpoint rooted ⟨"\t..", "f", []⟩ = { rooted with path := ["f".toList] } := by decide
  have outside : ¬IsUnderApi (endpoint rooted ⟨"\t..", "f", []⟩) :=
    (isUnderApi_iff rfl _).not.mpr (by decide)
  rw [path] at outside
  exact ⟨base_rooted, rfl, (resolve_eq _ _).trans (congrArg Except.ok path), outside, by decide,
    by decide, by decide, by decide⟩

end Switchboard.Network
