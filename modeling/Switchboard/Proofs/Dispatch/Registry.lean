import Mathlib.Logic.Relation
import Switchboard.Dispatch.Selector
import Switchboard.Proofs.Keyed.History

/-!
# What a selector remembers of its registrations

A selector that has been told of profiles one after the other knows each service by the last profile
of that name, and nothing else (`profile?_ofProfiles`). So its choice for a call depends on one
profile at most (`select_eq_of_latest`), and histories that differ in what does not count
(`Immaterial`) lead to the same choices. `last_registration_wins` puts this together with what the
registry says about itself.
-/
namespace Switchboard.Dispatch.Selector

/-! ## Histories -/

/-- The selector that has been told of profiles one after the other. -/
def ofProfiles (ps : List Profile) : Selector := ps.foldl register {}

/-- The last profile of a service. -/
def latest? (ps : List Profile) (service : String) : Option Profile :=
  (ps.filter fun p => p.name = service).getLast?

theorem latest?_append (ps qs : List Profile) (service : String) :
    latest? (ps ++ qs) service = (latest? qs service).or (latest? ps service) := by
  rw [latest?, List.filter_append, List.getLast?_append]
  rfl

theorem latest?_singleton (p : Profile) (service : String) :
    latest? [p] service = if p.name = service then some p else none := by
  by_cases h : p.name = service <;> simp [latest?, h]

theorem latest?_isSome {ps : List Profile} {service : String} :
    (latest? ps service).isSome ↔ ∃ p ∈ ps, p.name = service := by
  simp [latest?]

theorem name_of_latest? {ps : List Profile} {service : String} {p : Profile}
    (h : latest? ps service = some p) : p.name = service := by
  have kept := (List.mem_filter.mp (List.mem_of_getLast? h)).2
  exact of_decide_eq_true kept

theorem profiles_ofProfiles (ps : List Profile) :
    (ofProfiles ps).profiles = Keyed.ofList (ps.map fun p => (p.name, p)) := by
  rw [← List.filterMap_eq_map]
  exact Keyed.entries_foldl Selector.profiles register _ (fun _ _ => rfl) rfl ps

/-- What is known of a service after a whole history. -/
theorem profile?_ofProfiles (ps : List Profile) (service : String) :
    (ofProfiles ps).profile? service = latest? ps service := by
  rw [profile?, profiles_ofProfiles, Keyed.get?_ofList, Keyed.last?_map]
  exact Option.map_id'

/-! ## What the registry says about itself -/

theorem hasService_ofProfiles (ps : List Profile) (service : String) :
    (ofProfiles ps).hasService service = true ↔ ∃ p ∈ ps, p.name = service := by
  rw [hasService, profile?_ofProfiles, latest?_isSome]

theorem serviceCount_ofProfiles (ps : List Profile) :
    (ofProfiles ps).serviceCount = (ps.map Profile.name).toFinset.card := by
  rw [serviceCount, profiles_ofProfiles, Keyed.length_ofList, List.map_map]
  rfl

/-! ## Choices -/

/-- A choice depends on the profile of the service alone. -/
theorem select_congr {s s' : Selector} {r : Request}
    (h : s.profile? r.service = s'.profile? r.service) (available : Bool) :
    s.select r available = s'.select r available := by
  unfold select
  rw [h]

theorem select_eq_of_latest {ps qs : List Profile} {r : Request}
    (h : latest? ps r.service = latest? qs r.service) (available : Bool) :
    (ofProfiles ps).select r available = (ofProfiles qs).select r available :=
  select_congr (by rw [profile?_ofProfiles, profile?_ofProfiles, h]) available

/-- A choice is that of a selector which knows the last profile of the service only. -/
theorem select_latest (ps : List Profile) (r : Request) (available : Bool) :
    (ofProfiles ps).select r available =
      (ofProfiles (latest? ps r.service).toList).select r available := by
  refine select_eq_of_latest ?_ available
  cases known : latest? ps r.service with
  | none => rfl
  | some p => rw [Option.toList_some, latest?_singleton, if_pos (name_of_latest? known)]

/-- Without an extension, or where the function's name decides, no profile is looked at. -/
theorem select_of_decided {r : Request} {available : Bool}
    (h : available = false ∨ (functionHint r.function).isSome) (s s' : Selector) :
    s.select r available = s'.select r available := by
  rcases h with rfl | hint
  · rfl
  · obtain ⟨k, decided⟩ := Option.isSome_iff_exists.mp hint
    simp only [select, decided]

/-- Histories that differ in what does not count for a service: in a registration under another
name, in one that a later one replaces, or in the order of two under different names. -/
inductive Immaterial (service : String) : List Profile → List Profile → Prop
  | other (front back : List Profile) {p : Profile} (differ : p.name ≠ service) :
      Immaterial service (front ++ back) (front ++ p :: back)
  | earlier (front back : List Profile) {p q : Profile} (later : q ∈ back)
      (same : q.name = p.name) : Immaterial service (front ++ back) (front ++ p :: back)
  | swap (front back : List Profile) {p q : Profile} (differ : p.name ≠ q.name) :
      Immaterial service (front ++ p :: q :: back) (front ++ q :: p :: back)

theorem latest?_cons (p : Profile) (ps : List Profile) (service : String) :
    latest? (p :: ps) service =
      (latest? ps service).or (if p.name = service then some p else none) := by
  rw [← List.singleton_append, latest?_append, latest?_singleton]

theorem latest?_of_immaterial {service : String} {ps qs : List Profile}
    (h : Immaterial service ps qs) : latest? ps service = latest? qs service := by
  cases h with
  | other front back differ =>
    rw [latest?_append, latest?_append, latest?_cons, if_neg differ, Option.or_none]
  | @earlier front back p q later same =>
    rw [latest?_append, latest?_append, latest?_cons]
    by_cases here : p.name = service
    · -- The later profile has this name as well, so one is found behind the place.
      obtain ⟨last, known⟩ :=
        Option.isSome_iff_exists.mp (latest?_isSome.mpr ⟨q, later, same.trans here⟩)
      simp only [known, Option.some_or]
    · rw [if_neg here, Option.or_none]
  | @swap front back p q differ =>
    simp only [latest?_append, latest?_cons]
    -- At most one of the two has the name of the service.
    by_cases here : p.name = service
    · rw [if_neg fun there => differ (here.trans there.symm), Option.or_none, Option.or_none]
    · rw [if_neg here, Option.or_none, Option.or_none]

/-- Histories that differ in nothing else lead to the same profile. -/
theorem latest?_of_eqvGen {service : String} {ps qs : List Profile}
    (h : Relation.EqvGen (Immaterial service) ps qs) :
    latest? ps service = latest? qs service := by
  induction h with
  | rel ps qs h => exact latest?_of_immaterial h
  | refl ps => rfl
  | symm ps qs _ ih => exact ih.symm
  | trans ps qs qs' _ _ ih ih' => exact ih.trans ih'

/-- **The last registration of a service wins, and nothing else of the history matters.** The
registry holds the names that were registered, each once. A choice is that of a selector which holds
the last profile of the call's service only, so histories that differ in what does not count for it
lead to the same choice; and where a choice is made before any profile is looked at, no history
changes it. -/
theorem last_registration_wins (ps : List Profile) :
    (∀ service, (ofProfiles ps).hasService service = true ↔ ∃ p ∈ ps, p.name = service) ∧
    (ofProfiles ps).serviceCount = (ps.map Profile.name).toFinset.card ∧
    (∀ (r : Request) (available : Bool), (ofProfiles ps).select r available =
      (ofProfiles (latest? ps r.service).toList).select r available) ∧
    (∀ (r : Request) (available : Bool) (qs : List Profile),
      Relation.EqvGen (Immaterial r.service) ps qs →
        (ofProfiles ps).select r available = (ofProfiles qs).select r available) ∧
    ∀ (r : Request) (available : Bool), available = false ∨ (functionHint r.function).isSome →
      ∀ s : Selector, (ofProfiles ps).select r available = s.select r available := by
  refine ⟨hasService_ofProfiles ps, serviceCount_ofProfiles ps, select_latest ps, ?_, ?_⟩
  · intro r available qs h
    exact select_eq_of_latest (latest?_of_eqvGen h) available
  · intro r available h s
    exact select_of_decided h _ s

/-- Profiles of a service that reaches for the network, and of the same service when it computes. -/
def remoteStore : Profile := ⟨"Store", true, false, .low⟩
def localStore : Profile := ⟨"Store", false, true, .low⟩

/-- The later profile of the service decides, whatever is registered before it and in between. A
function's name decides without any. -/
theorem last_registration_wins_store :
    Relation.EqvGen (Immaterial "Store") [remoteStore, ⟨"Other", true, false, .high⟩, localStore]
        [localStore] ∧
      (ofProfiles [remoteStore, ⟨"Other", true, false, .high⟩, localStore]).select
        ⟨"Store", "get", []⟩ true = .native ∧
      (ofProfiles [localStore, remoteStore]).select ⟨"Store", "get", []⟩ true = .network ∧
      (functionHint "hash").isSome ∧
      (ofProfiles [remoteStore]).select ⟨"Store", "hash", []⟩ true =
        Selector.select {} ⟨"Store", "hash", []⟩ true := by
  have replaced : Immaterial "Store" [localStore] [remoteStore, localStore] :=
    .earlier [] [localStore] (List.mem_singleton_self _) rfl
  have between : Immaterial "Store" [remoteStore, localStore]
      [remoteStore, ⟨"Other", true, false, .high⟩, localStore] :=
    .other [remoteStore] [localStore] (by decide)
  have alike := (Relation.EqvGen.trans _ _ _ (.rel _ _ replaced) (.rel _ _ between)).symm
  have decided : (functionHint "hash").isSome := by decide
  refine ⟨alike, ?_, by decide, decided, ?_⟩
  · exact ((last_registration_wins _).2.2.2.1 ⟨"Store", "get", []⟩ true _ alike).trans (by decide)
  · exact (last_registration_wins _).2.2.2.2 ⟨"Store", "hash", []⟩ true (.inr decided) {}

end Switchboard.Dispatch.Selector
