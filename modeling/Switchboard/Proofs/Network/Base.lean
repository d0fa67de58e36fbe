import Switchboard.Network.Endpoint
import Switchboard.Proofs.Url.Authority
import Switchboard.Proofs.Url.Reading

/-!
# The address that settings give

The base address is read from a text in which the port stands behind the configured host. What the
host has in it may take the port into another part of the address.

* `IsConfigured`: an address of nothing but a host and the configured port;
* `IsBareHost`: a host of which nothing is read as another part;
* `base_configured`: settings that are accepted give such an address exactly for such a host;
* `base_astray`: settings that are accepted and give another one.
-/
namespace Switchboard.Network

open Url (endsHost significant halves isIgnored isSlash)

/-- An address has the configured port, the path `/`, and no user name, password, query or fragment.
The port is left out if it is the standard one. -/
structure IsConfigured (s : Settings) (u : Url) : Prop where
  scheme : "http://".toList <+: u.chars
  port : u.port = if s.port = 80 then none else some s.port
  path : u.path = [[]]
  username : u.username = []
  password : u.password = none
  query : u.query = none
  fragment : u.fragment = none

/-- A configured host is a name, behind an empty user name and an empty password at most. Characters
that do not count, and slashes in front, may stand in it. -/
structure IsBareHost (host : String) (name : List Char) : Prop where
  clean : ∀ c ∈ name, endsHost c = false ∧ c ≠ '@'
  spelled : significant host.toList ∈ [name, '@' :: name, ':' :: '@' :: name]

theorem isBareHost_iff {host : String} {name : List Char} :
    IsBareHost host name ↔ (name.all fun c => !endsHost c && c != '@') = true ∧
      significant host.toList ∈ [name, '@' :: name, ':' :: '@' :: name] := by
  simp only [List.all_eq_true, Bool.and_eq_true, Bool.not_eq_true', bne_iff_ne]
  exact ⟨fun h => ⟨h.clean, h.spelled⟩, fun ⟨clean, spelled⟩ => ⟨clean, spelled⟩⟩

instance (host : String) (name : List Char) : Decidable (IsBareHost host name) :=
  decidable_of_iff' _ isBareHost_iff

section
variable {s : Settings} {base : Url}

def Settings.portDigits (s : Settings) : List Char := Nat.toDigits 10 s.port

theorem isDigit_portDigits (s : Settings) : ∀ c ∈ s.portDigits, Url.isDigit c = true :=
  fun _ hc => Url.isDigit_of_mem_toDigits hc

theorem isIgnored_port (s : Settings) : ∀ c ∈ ':' :: s.portDigits, isIgnored c = false := by
  refine List.forall_mem_cons.mpr ⟨by decide, fun c hc => ?_⟩
  exact (Url.marks_of_isDigit (isDigit_portDigits s c hc)).1

theorem endsHost_port (s : Settings) : ∀ c ∈ ':' :: s.portDigits, endsHost c = false := by
  refine List.forall_mem_cons.mpr ⟨by decide, fun c hc => ?_⟩
  obtain ⟨-, slash, path⟩ := Url.marks_of_isDigit (isDigit_portDigits s c hc)
  rw [endsHost, slash, path]
  rfl

theorem at_not_mem_port (s : Settings) : '@' ∉ ':' :: s.portDigits := by
  intro hc
  rcases List.mem_cons.mp hc with e | hc
  · exact absurd e (by decide)
  · exact Url.ne_of_isDigit (isDigit_portDigits s _ hc) (by decide) rfl

/-- The port stands behind what counts of the host. -/
theorem significant_afterScheme (s : Settings) :
    significant s.afterScheme = significant s.host.toList ++ ':' :: s.portDigits := by
  have counts : ∀ c ∈ ':' :: s.portDigits, (!isIgnored c) = true := fun c hc => by
    rw [isIgnored_port s c hc]; rfl
  change (("//".toList ++ s.host.toList ++ ':' :: s.portDigits).filter _).dropWhile isSlash = _
  rw [List.filter_append, List.filter_append, List.filter_eq_self.mpr counts, List.append_assoc]
  change ((s.host.toList.filter _) ++ ':' :: s.portDigits).dropWhile isSlash = _
  rw [List.dropWhile_append, significant]
  split
  · rename_i empty
    rw [List.isEmpty_iff.mp empty]
    rfl
  · rfl

/-! ## Hosts that end where the port starts -/

/-- The host is read up to the port. -/
def EndsAtPort (s : Settings) : Prop := ∀ c ∈ significant s.host.toList, endsHost c = false

theorem halves_of_endsAtPort (h : EndsAtPort s) :
    halves s.afterScheme = (significant s.host.toList ++ ':' :: s.portDigits, []) := by
  rw [halves, significant_afterScheme]
  refine Url.cut_of_none fun c hc => ?_
  exact (List.mem_append.mp hc).elim (h c) (endsHost_port s c)

def Settings.credentialText (s : Settings) : List Char :=
  (Url.cutAtLastAt (significant s.host.toList)).1

def Settings.hostText (s : Settings) : List Char :=
  (Url.cutAtLastAt (significant s.host.toList)).2

theorem isBareHost_iff_of_endsAtPort (h : EndsAtPort s) {name : List Char} :
    IsBareHost s.host name ↔
      s.hostText = name ∧ Url.readCredentials s.credentialText = ([], none) := by
  constructor
  · intro bare
    exact (Url.spelled_iff fun hc => (bare.clean _ hc).2 rfl).mp bare.spelled
  · rintro ⟨rfl, given⟩
    have absent : '@' ∉ s.hostText := Url.at_not_mem_cutAtLastAt _
    refine ⟨fun c hc => ⟨h c (Url.mem_of_mem_cutAtLastAt hc), fun e => absent (e ▸ hc)⟩, ?_⟩
    exact (Url.spelled_iff absent).mpr ⟨rfl, given⟩

/-- An address whose host is read up to the port has the credentials, the host and the port that are
read, and nothing else. -/
structure ReadToPort (s : Settings) (base : Url) : Prop where
  credentials : Url.readCredentials s.credentialText = (base.username, base.password)
  host : Url.Host.ofText s.hostText = .ok base.host
  port : base.port = if s.port = 80 then none else some s.port
  path : base.path = [[]]
  query : base.query = none
  fragment : base.fragment = none

theorem readToPort (accepted : s.base = .ok base) (h : EndsAtPort s) : ReadToPort s base := by
  obtain ⟨credentials, host, port, path, query, fragment⟩ := Url.isRead_of_ofText accepted
  rw [halves_of_endsAtPort h] at credentials host port path query fragment
  rw [Url.cutAtLastAt_behind _ (at_not_mem_port s)] at credentials host port
  have parted := Url.cutHost_of_port (isDigit_portDigits s) host port
  rw [parted] at host port
  exact ⟨credentials, host, Url.readPort_toDigits port, path.symm, query.symm, fragment.symm⟩

/-! ## Hosts that end before -/

/-- What stands behind the host then starts with the mark that ends it and ends with the port. -/
theorem halves_of_not_endsAtPort (h : ¬EndsAtPort s) :
    ∃ d rest, (halves s.afterScheme).2 = d :: (rest ++ ':' :: s.portDigits) ∧
      endsHost d = true := by
  rcases Url.cut_cases endsHost (significant s.host.toList) with none | ⟨d, rest, e, ends⟩
  · exact absurd (Url.none_of_cut none) h
  · refine ⟨d, rest, ?_, ends⟩
    rw [Url.cut_eq] at e
    replace e : (significant s.host.toList).dropWhile (fun c => !endsHost c) = d :: rest := e
    rw [halves, significant_afterScheme, Url.cut_eq, List.dropWhile_append, e]
    rfl

/-- A host that ends before the port leaves the port to the path, the query or the fragment. -/
theorem not_isConfigured_of_not_endsAtPort (accepted : s.base = .ok base) (h : ¬EndsAtPort s) :
    ¬IsConfigured s base := by
  intro configured
  obtain ⟨-, -, -, path, query, fragment⟩ := Url.isRead_of_ofText accepted
  rw [configured.path] at path
  rw [configured.query] at query
  rw [configured.fragment] at fragment
  obtain ⟨d, rest, e, ends⟩ := halves_of_not_endsAtPort h
  rw [e] at path query fragment
  rcases Url.cut_cases Url.endsPath (d :: (rest ++ ':' :: s.portDigits)) with
    none | ⟨mark, more, cut, isMark⟩
  · -- Neither a query nor a fragment starts, so the port ends the path.
    replace none := Url.none_of_cut none
    have slash : isSlash d = true := by
      rwa [endsHost, none d List.mem_cons_self, Bool.or_false] at ends
    rw [Url.cut_of_none none] at path
    exact Url.readPath_ne_root slash rest
      (fun c hc => (Bool.or_eq_false_iff.mp (endsHost_port s c hc)).1) path
  · rw [cut] at query fragment
    simp only [Url.endsPath, Bool.or_eq_true, beq_iff_eq] at isMark
    rcases isMark with rfl | rfl
    · cases query
    · cases fragment

theorem not_isBareHost_of_not_endsAtPort (h : ¬EndsAtPort s) (name : List Char) :
    ¬IsBareHost s.host name := by
  intro bare
  have clean : ∀ c ∈ name, endsHost c = false := fun c hc => (bare.clean c hc).1
  have spelled := bare.spelled
  simp only [List.mem_cons, List.not_mem_nil, or_false] at spelled
  refine h ?_
  rw [EndsAtPort]
  rcases spelled with e | e | e <;> rw [e]
  · exact clean
  · exact List.forall_mem_cons.mpr ⟨by decide, clean⟩
  · exact List.forall_mem_cons.mpr ⟨by decide, List.forall_mem_cons.mpr ⟨by decide, clean⟩⟩

end

/-- Settings that are accepted give an address of nothing but a host and the configured port exactly
if their host is bare. The host of the address is then read from its name. -/
theorem base_configured {s : Settings} {base : Url} (accepted : s.base = .ok base) :
    (IsConfigured s base ↔ ∃ name, IsBareHost s.host name) ∧
      ∀ name, IsBareHost s.host name → Url.Host.ofText name = .ok base.host := by
  by_cases h : EndsAtPort s
  · have read := readToPort accepted h
    simp only [isBareHost_iff_of_endsAtPort h]
    refine ⟨⟨fun configured => ⟨_, rfl, ?_⟩, fun ⟨_, _, given⟩ => ?_⟩,
      fun _ ⟨e, _⟩ => e ▸ read.host⟩
    · rw [read.credentials, configured.username, configured.password]
    · obtain ⟨username, password⟩ := Prod.mk.inj (read.credentials.symm.trans given)
      exact ⟨Url.scheme_prefix_chars _, read.port, read.path, username, password, read.query,
        read.fragment⟩
  · refine ⟨⟨fun configured => ?_, fun ⟨name, bare⟩ => ?_⟩, fun name bare => ?_⟩
    · exact absurd configured (not_isConfigured_of_not_endsAtPort accepted h)
    · exact absurd bare (not_isBareHost_of_not_endsAtPort h name)
    · exact absurd bare (not_isBareHost_of_not_endsAtPort h name)

/-- The colons in brackets are part of a host, so that the standard port stays behind it. -/
theorem base_configured_bracketed :
    ({ host := "[::1]", port := 80 } : Settings).base =
        .ok { host := .ipv6 [0, 0, 0, 0, 0, 0, 0, 1], port := none, path := [[]] } ∧
      IsBareHost "[::1]" "[::1]".toList ∧
      IsConfigured { host := "[::1]", port := 80 }
        { host := .ipv6 [0, 0, 0, 0, 0, 0, 0, 1], port := none, path := [[]] } ∧
      Url.Host.ofText "[::1]".toList = .ok (.ipv6 [0, 0, 0, 0, 0, 0, 0, 1]) := by
  have accepted : ({ host := "[::1]", port := 80 } : Settings).base =
      .ok { host := .ipv6 [0, 0, 0, 0, 0, 0, 0, 1], port := none, path := [[]] } := by decide
  have bare : IsBareHost "[::1]" "[::1]".toList := by decide
  obtain ⟨configured, host⟩ := base_configured accepted
  exact ⟨accepted, bare, configured.mpr ⟨_, bare⟩, host _ bare⟩

/-- A host with a slash in it takes the port into the path, and one with an at sign makes what
stands before it a user name. Calls go to the standard port, and to another host. -/
theorem base_astray :
    ({ host := "h/a", port := 8080 } : Settings).base =
        .ok { host := .name "h".toList, port := none, path := ["a:8080".toList] } ∧
      ¬IsConfigured { host := "h/a", port := 8080 }
        { host := .name "h".toList, port := none, path := ["a:8080".toList] } ∧
      ({ host := "h@a", port := 8080 } : Settings).base =
        .ok { username := ['h'], host := .name ['a'], port := some 8080, path := [[]] } ∧
      ¬IsConfigured { host := "h@a", port := 8080 }
        { username := ['h'], host := .name ['a'], port := some 8080, path := [[]] } := by
  refine ⟨by decide, fun h => ?_, by decide, fun h => ?_⟩
  · exact absurd h.path (by decide)
  · exact absurd h.username (by decide)

end Switchboard.Network
