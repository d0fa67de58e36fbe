import Switchboard.Bench.Report
import Switchboard.Proofs.Keyed.History
import Switchboard.Proofs.Text.Order

/-!
# What a report remembers of its changes

A report starts empty, and samples and reasons are put into it in any order (`Change`). The samples
it has are those of a keyed list that is made of the samples alone, and so are its reasons
(`samples_ofChanges`, `skipped_ofChanges`), hence neither depends on what became of the others.
What is left is the last sample of each name and the last reason of each strategy. `Remembers` says
so in the words of the history, and `ofChanges_last_wins` says that histories which agree on these
lead to one report.
-/
namespace Switchboard.Bench

inductive Change where
  | insert (s : Sample)
  | skip (k : Kind) (reason : String)

namespace Change

def sample? : Change → Option Sample
  | insert s => some s
  | skip _ _ => none

def reason? : Change → Option (Kind × String)
  | insert _ => none
  | skip k reason => some (k, reason)

end Change

/-! ## Histories -/

def inserted (cs : List Change) : List Sample := cs.filterMap Change.sample?

def skips (cs : List Change) : List (Kind × String) := cs.filterMap Change.reason?

def lastSample? (cs : List Change) (name : String) : Option Sample :=
  ((inserted cs).filter fun s => s.name = name).getLast?

def lastReason? (cs : List Change) (k : Kind) : Option String :=
  (((skips cs).filter fun e => e.1 = k).getLast?).map Prod.snd

theorem isSome_lastSample? {cs : List Change} {name : String} :
    (lastSample? cs name).isSome ↔ ∃ s ∈ inserted cs, s.name = name := by
  simp [lastSample?]

namespace Report

def change (r : Report) : Change → Report
  | .insert s => r.insert s
  | .skip k reason => r.skip k reason

/-- The report that the changes of an empty one lead to. -/
def ofChanges (cs : List Change) : Report := cs.foldl change {}

def values (r : Report) : List Sample := r.samples.map Prod.snd

/-- Reasons do not touch the samples. -/
theorem samples_ofChanges (cs : List Change) :
    (ofChanges cs).samples = Keyed.ofList ((inserted cs).map fun s => (s.name, s)) := by
  rw [inserted, List.map_filterMap]
  refine Keyed.entries_foldl Report.samples change _ (fun r c => ?_) rfl cs
  cases c <;> rfl

/-- Samples do not touch the reasons. -/
theorem skipped_ofChanges (cs : List Change) :
    (ofChanges cs).skipped = Keyed.ofList ((skips cs).map fun e => (e.1.name, e.2)) := by
  rw [skips, List.map_filterMap]
  refine Keyed.entries_foldl Report.skipped change _ (fun r c => ?_) rfl cs
  cases c <;> rfl

/-! ## What is left -/

theorem last?_samples (cs : List Change) (name : String) :
    Keyed.last? name ((inserted cs).map fun s => (s.name, s)) = lastSample? cs name := by
  rw [Keyed.last?_map]
  exact Option.map_id'

/-- The names of the strategies are different, so a reason goes with the strategy. -/
theorem last?_reasons (cs : List Change) (k : Kind) :
    Keyed.last? k.name ((skips cs).map fun e => (e.1.name, e.2)) = lastReason? cs k := by
  rw [Keyed.last?_map]
  simp only [Kind.name_inj, lastReason?]

/-- Nothing stands under a text that is no strategy's name. -/
theorem last?_reasons_of_ne (cs : List Change) {key : String} (other : ∀ k : Kind, k.name ≠ key) :
    Keyed.last? key ((skips cs).map fun e => (e.1.name, e.2)) = none := by
  rw [Keyed.last?_map, List.filter_eq_nil_iff.mpr fun e _ => by simpa using other e.1]
  rfl

theorem sample?_ofChanges (cs : List Change) (k : Kind) :
    (ofChanges cs).sample? k = lastSample? cs k.name := by
  rw [sample?, samples_ofChanges, Keyed.get?_ofList, last?_samples]

theorem skipped?_ofChanges (cs : List Change) (k : Kind) :
    (ofChanges cs).skipped? k = lastReason? cs k := by
  rw [skipped?, skipped_ofChanges, Keyed.get?_ofList, last?_reasons]

theorem size_ofChanges (cs : List Change) :
    (ofChanges cs).size = ((inserted cs).map Sample.name).toFinset.card := by
  rw [size, samples_ofChanges, Keyed.length_ofList, List.map_map]
  rfl

/-- An entry is a sample under its own name. -/
theorem name_of_mem_samples {cs : List Change} {e : String × Sample}
    (h : e ∈ (ofChanges cs).samples) : e.1 = e.2.name := by
  rw [samples_ofChanges] at h
  obtain ⟨s, _, rfl⟩ := List.mem_map.mp (Keyed.mem_of_mem_ofList h)
  rfl

theorem sorted_samples (cs : List Change) : Keyed.Sorted (ofChanges cs).samples :=
  samples_ofChanges cs ▸ Keyed.sorted_ofList _

theorem values_ordered (cs : List Change) :
    (ofChanges cs).values.Pairwise fun a b => Utf8.bytes a.name < Utf8.bytes b.name := by
  refine List.pairwise_map.mpr ((sorted_samples cs).imp_of_mem fun {a b} ha hb lt => ?_)
  rw [Utf8.bytes_lt_bytes_iff, ← name_of_mem_samples ha, ← name_of_mem_samples hb]
  exact lt

theorem values_filter (cs : List Change) (name : String) :
    ((ofChanges cs).values.filter fun s => s.name = name) = (lastSample? cs name).toList := by
  have named : ((ofChanges cs).samples.filter fun e => e.2.name = name) =
      (ofChanges cs).samples.filter fun e => e.1 = name :=
    List.filter_congr fun e he => by rw [name_of_mem_samples he]
  calc ((ofChanges cs).values.filter fun s => s.name = name)
      = ((ofChanges cs).samples.filter fun e => e.2.name = name).map Prod.snd := List.filter_map
    _ = ((ofChanges cs).samples.filter fun e => e.1 = name).map Prod.snd := by rw [named]
    _ = (lastSample? cs name).toList := by
      rw [(sorted_samples cs).filter, samples_ofChanges, Keyed.get?_ofList, last?_samples,
        List.map_map]
      exact List.map_id' _

/-! ## The ratio -/

theorem isUsable_iff {t : Float} : isUsable t = true ↔ t.isFinite = true ∧ 0 < t := by
  simp [isUsable]

theorem unpack_zero : (0 : Float).toModel.unpack = .zero .positive := rfl

theorem lt_iff_compare {a b : Float} :
    a < b ↔ a.toModel.unpack.compare b.toModel.unpack = some .lt := by
  refine Iff.trans (b := a.toModel < b.toModel) ?_ ?_
  · exact decide_eq_true_iff
  · exact beq_iff_eq

theorem beq_iff_compare {a b : Float} :
    (a == b) = true ↔ a.toModel.unpack.compare b.toModel.unpack = some .eq :=
  beq_iff_eq (a := a.toModel.unpack.compare b.toModel.unpack)

/-- A throughput that cannot be compared is no number, infinite, zero or negative. -/
theorem isUsable_eq_false_iff {t : Float} :
    isUsable t = false ↔ t.isNaN = true ∨ t.isInf = true ∨ (t == 0) = true ∨ t < 0 := by
  rw [← Bool.not_eq_true, isUsable_iff, lt_iff_compare, lt_iff_compare, beq_iff_compare,
    unpack_zero]
  change ¬ (t.toModel.unpack.isFinite = true ∧ _) ↔
    t.toModel.unpack.isNaN = true ∨ t.toModel.unpack.isInf = true ∨ _
  cases t.toModel.unpack with
  | infinity sign => exact iff_of_true (fun usable => Bool.false_ne_true usable.1) (.inr (.inl rfl))
  | notANumber => exact iff_of_true (fun usable => Bool.false_ne_true usable.1) (.inl rfl)
  | zero sign =>
    refine iff_of_true (fun usable => ?_) (.inr (.inr (.inl rfl)))
    cases usable.2
  | finite sign mantissa exponent nonzero =>
    cases sign with
    | negative =>
      refine iff_of_true (fun usable => ?_) (.inr (.inr (.inr rfl)))
      cases usable.2
    | positive =>
      refine iff_of_false (not_not_intro ⟨rfl, rfl⟩) ?_
      rintro (nan | infinite | zero | negative)
      · cases nan
      · cases infinite
      · cases zero
      · cases negative

theorem speedup?_eq_some_iff {r : Report} {q : Float} :
    r.speedup? = some q ↔ ∃ native network, r.sample? .native = some native ∧
      r.sample? .network = some network ∧ isUsable native.throughput = true ∧
      isUsable network.throughput = true ∧ q = native.throughput / network.throughput := by
  rw [speedup?]
  constructor
  · intro h
    split at h
    · next native network hn hm =>
      split at h
      · next both =>
        rw [Bool.and_eq_true] at both
        exact ⟨native, network, hn, hm, both.1, both.2, (Option.some.inj h).symm⟩
      · cases h
    · cases h
  · rintro ⟨native, network, hn, hm, usable, usable', rfl⟩
    rw [hn, hm]
    simp only [usable, usable', Bool.and_self, if_true]

/-- There is no ratio if one of the strategies has no sample or none that can be compared. -/
theorem speedup?_eq_none_iff {r : Report} : r.speedup? = none ↔
    ∃ k, ∀ s, r.sample? k = some s → isUsable s.throughput = false := by
  constructor
  · intro none
    by_contra! usable
    obtain ⟨native, hn, un⟩ := usable .native
    obtain ⟨network, hm, um⟩ := usable .network
    have ratio := speedup?_eq_some_iff.mpr
      ⟨native, network, hn, hm, eq_true_of_ne_false un, eq_true_of_ne_false um, rfl⟩
    rw [none] at ratio
    cases ratio
  · rintro ⟨k, unusable⟩
    refine Option.eq_none_iff_forall_ne_some.mpr fun q ratio => ?_
    obtain ⟨native, network, hn, hm, un, um, _⟩ := speedup?_eq_some_iff.mp ratio
    cases k with
    | native => exact Bool.false_ne_true ((unusable native hn).symm.trans un)
    | network => exact Bool.false_ne_true ((unusable network hm).symm.trans um)

/-! ## Histories and reports -/

/-- What a report has of a history. -/
structure Remembers (r : Report) (cs : List Change) : Prop where
  /-- The names increase, so that none comes twice. -/
  ordered : r.values.Pairwise fun a b => Utf8.bytes a.name < Utf8.bytes b.name
  /-- A name has its last sample, and no other. -/
  last : ∀ name, (r.values.filter fun s => s.name = name) = (lastSample? cs name).toList
  listed : ∀ name, (∃ s ∈ r.values, s.name = name) ↔ ∃ s ∈ inserted cs, s.name = name
  size : r.size = ((inserted cs).map Sample.name).toFinset.card
  reason : ∀ k, r.skipped? k = lastReason? cs k
  /-- The ratio is there if both throughputs can be compared, and it is their quotient. -/
  ratio : ∀ q, r.speedup? = some q ↔
    ∃ native network, lastSample? cs "native" = some native ∧
      lastSample? cs "network" = some network ∧
      (native.throughput.isFinite = true ∧ 0 < native.throughput) ∧
      (network.throughput.isFinite = true ∧ 0 < network.throughput) ∧
      q = native.throughput / network.throughput

theorem samples_congr {cs cs' : List Change}
    (same : ∀ name, lastSample? cs' name = lastSample? cs name) :
    (ofChanges cs').samples = (ofChanges cs).samples := by
  rw [samples_ofChanges, samples_ofChanges]
  exact Keyed.ofList_congr fun name => by rw [last?_samples, last?_samples, same]

theorem skipped_congr {cs cs' : List Change}
    (same : ∀ k, lastReason? cs' k = lastReason? cs k) :
    (ofChanges cs').skipped = (ofChanges cs).skipped := by
  rw [skipped_ofChanges, skipped_ofChanges]
  refine Keyed.ofList_congr fun key => ?_
  by_cases named : ∃ k : Kind, k.name = key
  · obtain ⟨k, rfl⟩ := named
    rw [last?_reasons, last?_reasons, same]
  · have other : ∀ k : Kind, k.name ≠ key := not_exists.mp named
    rw [last?_reasons_of_ne cs other, last?_reasons_of_ne cs' other]

theorem ofChanges_congr {cs cs' : List Change}
    (samples : ∀ name, lastSample? cs' name = lastSample? cs name)
    (reasons : ∀ k, lastReason? cs' k = lastReason? cs k) : ofChanges cs' = ofChanges cs :=
  calc ofChanges cs'
      = ⟨(ofChanges cs').samples, (ofChanges cs').skipped⟩ := rfl
    _ = ⟨(ofChanges cs).samples, (ofChanges cs).skipped⟩ := by
      rw [samples_congr samples, skipped_congr reasons]

theorem remembers_ofChanges (cs : List Change) : Remembers (ofChanges cs) cs where
  ordered := values_ordered cs
  last := values_filter cs
  listed name := by
    have there : ((ofChanges cs).values.filter fun s => s.name = name) ≠ [] ↔
        (lastSample? cs name).isSome := by
      rw [values_filter]
      cases lastSample? cs name <;> simp
    rw [← isSome_lastSample?, ← there]
    simp
  size := size_ofChanges cs
  reason := skipped?_ofChanges cs
  ratio q := by
    simp only [speedup?_eq_some_iff, sample?_ofChanges, isUsable_iff, Kind.name]

/-- A report has of its history the last sample of each name and the last reason of each strategy.
A reason leaves all samples as they are and a sample all reasons, and histories with the same last
samples and reasons lead to the same report. -/
theorem ofChanges_last_wins (cs : List Change) :
    Remembers (ofChanges cs) cs ∧
      (∀ k reason, ((ofChanges cs).skip k reason).samples = (ofChanges cs).samples) ∧
      (∀ s, ((ofChanges cs).insert s).skipped = (ofChanges cs).skipped) ∧
      ∀ cs', (∀ name, lastSample? cs' name = lastSample? cs name) →
        (∀ k, lastReason? cs' k = lastReason? cs k) → ofChanges cs' = ofChanges cs := by
  exact ⟨remembers_ofChanges cs, fun _ _ => rfl, fun _ => rfl, fun _ => ofChanges_congr⟩

/-- Ten calls by each strategy, and ten slower ones by the first. -/
def quick : Sample := ⟨"native", 10, 1.25, 8⟩
def slow : Sample := ⟨"native", 10, 5, 2⟩
def remote : Sample := ⟨"network", 10, 5, 2⟩

/-- A history in which the slower sample and the first reason are replaced, and one without them and
in another order. -/
def revised : List Change :=
  [.insert slow, .skip .native "gone", .insert remote, .insert quick, .skip .native "lost"]
def direct : List Change := [.skip .native "lost", .insert quick, .insert remote]

theorem ofChanges_last_wins_revised :
    (∀ name, lastSample? revised name = lastSample? direct name) ∧
      (∀ k, lastReason? revised k = lastReason? direct k) ∧
      ofChanges revised = ofChanges direct ∧ (ofChanges revised).speedup? = some 4 := by
  have samples : ∀ name, lastSample? revised name = lastSample? direct name := by
    intro name
    change ([slow, remote, quick].filter fun s => s.name = name).getLast? =
      ([quick, remote].filter fun s => s.name = name).getLast?
    by_cases native : "native" = name
    · subst native
      simp [slow, remote, quick]
    · simp [List.filter_cons, slow, remote, quick, native]
  have reasons : ∀ k, lastReason? revised k = lastReason? direct k := by
    intro k
    cases k <;> rfl
  have usable : (quick.throughput.isFinite = true ∧ 0 < quick.throughput) ∧
      remote.throughput.isFinite = true ∧ 0 < remote.throughput := by decide
  have quotient : 4 = quick.throughput / remote.throughput := by decide
  refine ⟨samples, reasons, (ofChanges_last_wins _).2.2.2 _ samples reasons, ?_⟩
  exact ((ofChanges_last_wins _).1.ratio 4).mpr
    ⟨quick, remote, rfl, rfl, usable.1, usable.2, quotient⟩

end Report

end Switchboard.Bench
