import Mathlib.Data.List.Basic
import Switchboard.Network.Endpoint
import Switchboard.Proofs.Url.Reading

/-!
# Where a function is called

* `pushName_eq`: all that a name can do to a path;
* `IsPlain`: the names that are written out, each as one segment more (`IsPlain.pushName_eq`);
* `IsSegmentOf` and `IsBelow`: what stands for a name, and what an endpoint has of its base address;
* `resolve_exact`: calls with plain names have endpoints from which they can be read back.
-/
namespace Switchboard.Network

open Url (Path pathChars Slashless)
open Url.Percent (segment encode)

/-! ## One name -/

/-- What counts of a name. -/
def kept (name : String) : List Char := name.toList.filter fun c => !Url.isIgnored c

/-- What stands in a path for a name. A name that is a place but for characters that do not count
leaves nothing. -/
def written (name : String) : List Char :=
  if kept name = ['.'] ∨ kept name = ['.', '.'] then [] else kept name

/-- A path to which a segment is added. The root has none. -/
def stem (path : Path) : Path := if path = [[]] then [] else path

/-- All that a name can do to a path. -/
theorem pushName_eq (path : Path) (name : String) :
    pushName path name =
      if name = "." ∨ name = ".." then path
      else if kept name = ['.', '.'] then Url.shorten (stem path) ++ [[]]
      else stem path ++ [encode segment (written name)] := by
  unfold pushName
  simp only [Bool.or_eq_true, decide_eq_true_eq]
  refine if_congr Iff.rfl rfl ?_
  change Url.addPiece (stem path) (encode segment (kept name)) true = _
  unfold written
  by_cases above : kept name = ['.', '.']
  · rw [if_pos above, Url.addPiece, if_pos (Url.isAbove_encode.mpr above), if_pos rfl]
  · rw [if_neg above]
    by_cases here : kept name = ['.']
    · rw [if_pos (.inl here), Url.addPiece, if_neg (Url.isAbove_encode.not.mpr above),
        if_pos (Url.isHere_encode.mpr here), if_pos rfl]
      rfl
    · rw [if_neg (not_or.mpr ⟨here, above⟩), Url.addPiece_of_plain _ here above]

theorem path_endpoint (base : Url) (r : Request) :
    (endpoint base r).path =
      pushName (pushName (stem (dropEmptyLast base.path) ++ ["api".toList]) r.service)
        r.function := by
  have api : pushName (dropEmptyLast base.path) "api" =
      stem (dropEmptyLast base.path) ++ ["api".toList] := by
    rw [pushName_eq, if_neg (by decide), if_neg (by decide)]
    rfl
  rw [← api]
  rfl

/-! ## Names that are written out -/

/-- A name that is no place and of which every character counts. -/
structure IsPlain (name : String) : Prop where
  here : name ≠ "."
  above : name ≠ ".."
  counts : ∀ c ∈ name.toList, c ≠ '\t' ∧ c ≠ '\n' ∧ c ≠ '\r'

theorem isIgnored_eq_false {c : Char} :
    Url.isIgnored c = false ↔ c ≠ '\t' ∧ c ≠ '\n' ∧ c ≠ '\r' := by
  simp [Url.isIgnored, and_assoc]

theorem isPlain_iff {name : String} :
    IsPlain name ↔
      name ≠ "." ∧ name ≠ ".." ∧ (name.toList.all fun c => !Url.isIgnored c) = true := by
  simp only [List.all_eq_true, Bool.not_eq_true', isIgnored_eq_false]
  exact ⟨fun h => ⟨h.here, h.above, h.counts⟩, fun ⟨here, above, counts⟩ => ⟨here, above, counts⟩⟩

instance (name : String) : Decidable (IsPlain name) := decidable_of_iff' _ isPlain_iff

/-- Both names of a request are plain. -/
def IsPlainCall (r : Request) : Prop := IsPlain r.service ∧ IsPlain r.function

theorem IsPlain.kept_eq {name : String} (h : IsPlain name) : kept name = name.toList := by
  exact List.filter_eq_self.mpr (List.all_eq_true.mp (isPlain_iff.mp h).2.2)

theorem IsPlain.kept_ne {name : String} (h : IsPlain name) :
    kept name ≠ ['.'] ∧ kept name ≠ ['.', '.'] := by
  rw [h.kept_eq]
  exact ⟨fun e => h.here (String.toList_inj.mp e), fun e => h.above (String.toList_inj.mp e)⟩

theorem IsPlain.written_eq {name : String} (h : IsPlain name) : written name = name.toList := by
  rw [written, if_neg (not_or.mpr h.kept_ne), h.kept_eq]

/-- A plain name is one more segment. -/
theorem IsPlain.pushName_eq {name : String} (h : IsPlain name) (path : Path) :
    pushName path name = stem path ++ [encode segment name.toList] := by
  rw [Network.pushName_eq, if_neg (not_or.mpr ⟨h.here, h.above⟩), if_neg h.kept_ne.2, h.written_eq]

theorem stem_append_api (path : Path) (more : Path) :
    stem (path ++ "api".toList :: more) = path ++ "api".toList :: more := by
  refine if_neg fun e => ?_
  have inside : "api".toList ∈ path ++ "api".toList :: more :=
    List.mem_append_right _ List.mem_cons_self
  rw [e] at inside
  exact absurd inside (by decide)

/-- The endpoint of plain names has the path of the base address and three segments more. -/
theorem path_endpoint_of_plain (base : Url) {r : Request} (h : IsPlainCall r) :
    (endpoint base r).path = stem (dropEmptyLast base.path) ++
      ["api".toList, encode segment r.service.toList, encode segment r.function.toList] := by
  rw [path_endpoint, h.1.pushName_eq, stem_append_api, List.append_assoc, h.2.pushName_eq,
    List.cons_append, stem_append_api, List.append_assoc]
  rfl

/-! ## Paths as texts -/

/-- A path in an address without one slash at its end. The root then counts as empty. -/
def withoutSlash (path : List Char) : List Char :=
  let cut := if path.getLast? = some '/' then path.dropLast else path
  if cut = ['/'] then [] else cut

theorem pathChars_append (path more : Path) :
    pathChars (path ++ more) = pathChars path ++ pathChars more := List.flatMap_append

theorem pathChars_eq_slash {path : Path} (h : pathChars path = ['/']) : path = [[]] := by
  cases path with
  | nil => cases h
  | cons piece path =>
    obtain ⟨-, rest⟩ := List.cons.inj h
    obtain ⟨rfl, rest⟩ := List.append_eq_nil_iff.mp rest
    cases path with
    | nil => rfl
    | cons _ _ => cases rest

theorem pathChars_concat (path : Path) (last : List Char) :
    pathChars (path ++ [last]) = pathChars path ++ '/' :: last := by
  rw [pathChars_append]
  exact congrArg (fun w => pathChars path ++ '/' :: w) (List.append_nil last)

theorem dropEmptyLast_concat_nil {path : Path} (h : path ≠ []) :
    dropEmptyLast (path ++ [[]]) = path := by
  have pos := List.length_pos_iff.mpr h
  have long : 2 ≤ (path ++ [[]] : Path).length := by
    rw [List.length_append, List.length_singleton]
    omega
  rw [dropEmptyLast, decide_eq_true long, List.getLast?_concat, List.dropLast_concat]
  rfl

theorem dropEmptyLast_concat_cons (path : Path) (c : Char) (cs : List Char) :
    dropEmptyLast (path ++ [c :: cs]) = path ++ [c :: cs] := by
  rw [dropEmptyLast, List.getLast?_concat]
  simp

/-- The path to which names are added, as it stands in the address. -/
theorem pathChars_stem {path : Path} (nonempty : path ≠ []) (slashless : Slashless path) :
    pathChars (stem (dropEmptyLast path)) = withoutSlash (pathChars path) := by
  obtain ⟨init, last, rfl⟩ : ∃ init last, path = init ++ [last] :=
    ⟨_, _, (List.dropLast_append_getLast nonempty).symm⟩
  cases last with
  | nil =>
    by_cases root : init = []
    · subst root; rfl
    · rw [dropEmptyLast_concat_nil root, pathChars_concat, withoutSlash, List.getLast?_concat,
        if_pos rfl, List.dropLast_concat, stem]
      by_cases single : init = [[]]
      · subst single; rfl
      · rw [if_neg single, if_neg fun e => single (pathChars_eq_slash e)]
  | cons c cs =>
    have notRoot : init ++ [c :: cs] ≠ [[]] := by
      intro e
      have := congrArg List.getLast? e
      rw [List.getLast?_concat] at this
      cases this
    have last : (pathChars (init ++ [c :: cs])).getLast? ≠ some '/' := by
      rw [pathChars_concat, List.getLast?_append_of_ne_nil _ (List.cons_ne_nil _ _),
        List.getLast?_cons_cons]
      intro e
      exact slashless _ (List.mem_append_right _ (List.mem_singleton_self _))
        (List.mem_of_getLast? e)
    rw [dropEmptyLast_concat_cons, stem, if_neg notRoot, withoutSlash, if_neg last,
      if_neg fun e => notRoot (pathChars_eq_slash e)]

/-! ## Endpoints of plain names -/

/-- What stands in a path for a name. -/
structure IsSegmentOf (name : String) (cs : List Char) : Prop where
  clean : ∀ c ∈ cs, c ∉ ['/', '\\', '?', '#', ' ']
  ascii : ∀ c ∈ cs, c.toNat < 0x80
  /-- Every percent sign starts a triple. -/
  triples : Url.Percent.Tripled cs
  /-- The bytes of the name are read back. -/
  decoded : Url.Percent.decode (Utf8.encode cs) = Utf8.bytes name

theorem isSegmentOf_encode (name : String) : IsSegmentOf name (encode segment name.toList) where
  clean c hc := by
    have digits : ∀ n < 16, Url.Percent.digit n ∉ ['/', '\\', '?', '#', ' '] := by decide
    have encoded : ['/', '\\', '?', '#', ' '].all segment = true := by decide
    rcases Url.Percent.mem_encode hc with (rfl | ⟨n, hn, rfl⟩) | ⟨-, -, plain⟩
    · decide
    · exact digits n hn
    · intro inside
      rw [List.all_eq_true.mp encoded c inside] at plain
      cases plain
  ascii _ hc := Url.Percent.ascii_of_mem_encode hc
  triples := Url.Percent.tripled_encode (by decide) _
  decoded := Url.Percent.decode_encode (by decide) _

/-- An address is that of a base address, but for its path, which goes on with two segments. -/
structure IsBelow (base u : Url) (service function : List Char) : Prop where
  scheme : "http://".toList <+: u.chars
  rest : u = { base with path := u.path }
  path : pathChars u.path =
    withoutSlash (pathChars base.path) ++ "/api/".toList ++ service ++ '/' :: function

theorem isBelow_endpoint {base : Url} (nonempty : base.path ≠ []) (slashless : Slashless base.path)
    {r : Request} (h : IsPlainCall r) :
    IsBelow base (endpoint base r) (encode segment r.service.toList)
      (encode segment r.function.toList) where
  scheme := Url.scheme_prefix_chars _
  rest := rfl
  path := by
    rw [path_endpoint_of_plain base h, pathChars_append, pathChars_stem nonempty slashless]
    simp [pathChars]

/-- Addresses that differ in nothing but their paths are written alike only if the paths are. -/
theorem pathChars_of_text_eq {base u u' : Url} (h : u = { base with path := u.path })
    (h' : u' = { base with path := u'.path }) (e : u.text = u'.text) :
    pathChars u.path = pathChars u'.path := by
  rw [Url.text, Url.text, String.ofList_inj] at e
  have credentials : u.credentialChars = u'.credentialChars := by rw [h, h']; rfl
  have others : u.host = u'.host ∧ u.port = u'.port ∧ u.query = u'.query ∧
      u.fragment = u'.fragment := by
    rw [h, h']; exact ⟨rfl, rfl, rfl, rfl⟩
  obtain ⟨host, port, query, fragment⟩ := others
  unfold Url.chars Url.targetChars at e
  rw [credentials, host, port, query, fragment] at e
  simp only [List.append_assoc] at e
  rw [List.append_cancel_left_eq, List.append_cancel_left_eq, List.append_cancel_left_eq,
    List.append_cancel_left_eq, List.append_cancel_right_eq] at e
  exact e

theorem IsSegmentOf.slash {name : String} {cs : List Char} (h : IsSegmentOf name cs) : '/' ∉ cs :=
  fun inside => h.clean _ inside (by decide)

/-- A segment stands for one name only. -/
theorem IsSegmentOf.name_inj {name name' : String} {cs : List Char} (h : IsSegmentOf name cs)
    (h' : IsSegmentOf name' cs) : name = name' := by
  have bytes : Utf8.encode name.toList = Utf8.encode name'.toList := h.decoded.symm.trans h'.decoded
  exact String.toList_inj.mp (Utf8.encode_inj.mp bytes)

/-- Two addresses below the same one that are written alike go on with the same two segments. -/
theorem IsBelow.segments_inj {base u u' : Url} {service function service' function' : List Char}
    (h : IsBelow base u service function) (h' : IsBelow base u' service' function')
    (slash : '/' ∉ service) (slash' : '/' ∉ function) (e : u.text = u'.text) :
    service = service' ∧ function = function' := by
  have paths := pathChars_of_text_eq h.rest h'.rest e
  rw [h.path, h'.path] at paths
  simp only [List.append_assoc, List.append_cancel_left_eq] at paths
  obtain ⟨services, -, functions⟩ := (List.append_cons_inj_of_notMem slash slash').mp paths
  exact ⟨services, functions⟩

/-- Below every address that settings give, a call with plain names has an endpoint. It is the
address of the server but for its path, to which `/api` and the two names are added as percent
encoded segments, and no two calls share it. -/
theorem resolve_exact {s : Settings} {base : Url} (h : s.base = .ok base) :
    (∀ r, IsPlainCall r → ∃ u service function, resolve base r = .ok u ∧
      IsBelow base u service function ∧ IsSegmentOf r.service service ∧
      IsSegmentOf r.function function) ∧
    ∀ r r' u u', IsPlainCall r → IsPlainCall r' → resolve base r = .ok u →
      resolve base r' = .ok u' → u.text = u'.text →
        r.service = r'.service ∧ r.function = r'.function := by
  obtain ⟨nonempty, slashless⟩ := Url.path_of_ofText h
  refine ⟨fun r plain => ?_, fun r r' u u' plain plain' given given' alike => ?_⟩
  · exact ⟨endpoint base r, _, _, resolve_eq base r, isBelow_endpoint nonempty slashless plain,
      isSegmentOf_encode _, isSegmentOf_encode _⟩
  · obtain rfl : endpoint base r = u := Except.ok.inj ((resolve_eq base r).symm.trans given)
    obtain rfl : endpoint base r' = u' := Except.ok.inj ((resolve_eq base r').symm.trans given')
    have service := isSegmentOf_encode r.service
    have function := isSegmentOf_encode r.function
    obtain ⟨same, same'⟩ := (isBelow_endpoint nonempty slashless plain).segments_inj
      (isBelow_endpoint nonempty slashless plain') service.slash function.slash alike
    rw [same] at service
    rw [same'] at function
    exact ⟨service.name_inj (isSegmentOf_encode _), function.name_inj (isSegmentOf_encode _)⟩

/-- The address that stands for a host with a path and a query in it. -/
def queried : Url where
  host := .name "h".toList
  port := none
  path := ["x".toList, []]
  query := some "q:3000".toList

/-- Below it, two calls whose names are alike but for where they are parted stay apart. -/
theorem resolve_exact_queried :
    ({ host := "h/x/?q" } : Settings).base = .ok queried ∧
      (∃ u service function, resolve queried ⟨"a/b", "%2e", []⟩ = .ok u ∧
        IsBelow queried u service function ∧ IsSegmentOf "a/b" service ∧
        IsSegmentOf "%2e" function) ∧
      (endpoint queried ⟨"a/b", "%2e", []⟩).text ≠ (endpoint queried ⟨"a", "b/%2e", []⟩).text := by
  have base : ({ host := "h/x/?q" } : Settings).base = .ok queried := by decide
  have plain : IsPlainCall ⟨"a/b", "%2e", []⟩ := ⟨by decide, by decide⟩
  have plain' : IsPlainCall ⟨"a", "b/%2e", []⟩ := ⟨by decide, by decide⟩
  refine ⟨base, (resolve_exact base).1 _ plain, fun alike => ?_⟩
  obtain ⟨same, -⟩ := (resolve_exact base).2 _ _ _ _ plain plain' (resolve_eq _ _)
    (resolve_eq _ _) alike
  exact absurd same (by decide)

end Switchboard.Network
