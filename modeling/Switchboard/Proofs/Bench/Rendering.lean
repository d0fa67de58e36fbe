import Switchboard.Proofs.Bench.Report
import Switchboard.Text.Split

/-!
# The lines of a report

The text of a report has one line for each sample, then one that says why there is none of the
native strategy, then the ratio; each line is ended by a newline. Numbers have no newline whatever
they are (`newline_not_mem_fixed`), so the lines are those at which the text is cut
(`split_render`). `Layout` says what they are, and `render_layout` that each report has it, if
there is no newline in its names and in the reason. What is not in the lines does not change the
text: `render_congr`.
-/
namespace Switchboard.Bench.Report

/-! ## Lines without newlines -/

theorem newline_not_mem_fixed (places : Nat) (x : Float) :
    '\n' ∉ (Decimal.fixed places x).toList := by
  intro h
  rcases Decimal.of_mem_fixed h with digit | letter
  · exact absurd digit (by decide)
  · exact absurd letter (by decide)

theorem newline_not_mem_append {s t : String} :
    '\n' ∉ (s ++ t).toList ↔ '\n' ∉ s.toList ∧ '\n' ∉ t.toList := by
  rw [String.toList_append, List.mem_append, not_or]

theorem newline_not_mem_sampleLine {s : Sample} (h : '\n' ∉ s.name.toList) :
    '\n' ∉ (sampleLine s).toList := by
  simp only [sampleLine, newline_not_mem_append]
  exact ⟨⟨⟨⟨⟨h, by decide⟩, newline_not_mem_fixed 4 _⟩, by decide⟩, newline_not_mem_fixed 0 _⟩,
    by decide⟩

theorem newline_not_mem_skipLine {reason : String} (h : '\n' ∉ reason.toList) :
    '\n' ∉ (skipLine reason).toList := by
  -- an equation of `skipLine` would have the text in front evaluated
  change '\n' ∉ ("native: not available (" ++ reason ++ ")").toList
  rw [newline_not_mem_append, newline_not_mem_append]
  exact ⟨⟨by decide, h⟩, by decide⟩

theorem newline_not_mem_speedupLine (ratio : Float) : '\n' ∉ (speedupLine ratio).toList := by
  simp only [speedupLine, newline_not_mem_append]
  exact ⟨⟨by decide, newline_not_mem_fixed 2 _⟩, by decide⟩

theorem lines_eq (r : Report) :
    r.lines = r.values.map sampleLine ++ (r.skipped? .native).toList.map skipLine ++
      r.speedup?.toList.map speedupLine := by
  rw [lines, values, List.map_map, Option.toList_map, Option.toList_map]
  rfl

theorem newline_not_mem_lines {r : Report} (names : ∀ s ∈ r.values, '\n' ∉ s.name.toList)
    (reason : ∀ why, r.skipped? .native = some why → '\n' ∉ why.toList) :
    ∀ line ∈ r.lines, '\n' ∉ line.toList := by
  intro line h
  rw [lines_eq] at h
  rcases List.mem_append.mp h with h | h
  · rcases List.mem_append.mp h with h | h
    · obtain ⟨s, hs, rfl⟩ := List.mem_map.mp h
      exact newline_not_mem_sampleLine (names s hs)
    · obtain ⟨why, hw, rfl⟩ := List.mem_map.mp h
      exact newline_not_mem_skipLine (reason why (Option.mem_toList.mp hw))
  · obtain ⟨q, _, rfl⟩ := List.mem_map.mp h
    exact newline_not_mem_speedupLine q

/-! ## The text -/

theorem toList_render (r : Report) :
    r.render.toList = (r.lines.map String.toList).flatMap fun line => line ++ ['\n'] := by
  rw [render, String.toList_join, List.flatMap_map, List.flatMap_map]
  simp only [String.toList_append]
  rfl

/-- The text is cut into the lines again, and nothing stands behind the last newline. -/
theorem split_render {r : Report} (free : ∀ line ∈ r.lines, '\n' ∉ line.toList) :
    Text.split (· == '\n') r.render.toList = r.lines.map String.toList ++ [[]] := by
  rw [toList_render]
  refine Text.split_flatMap (p := (· == '\n')) (beq_self_eq_true '\n') fun piece hp c hc => ?_
  obtain ⟨line, hl, rfl⟩ := List.mem_map.mp hp
  exact beq_false_of_ne fun newline => free line hl (newline ▸ hc)

/-- A text depends on the samples and on the reason why there is no native one. -/
theorem render_congr {r r' : Report} (samples : r'.samples = r.samples)
    (reason : r'.skipped? .native = r.skipped? .native) : r'.render = r.render := by
  have found : ∀ k, r'.sample? k = r.sample? k := fun k => by rw [sample?, sample?, samples]
  have ratio : r'.speedup? = r.speedup? := by rw [speedup?, speedup?, found, found]
  rw [render, render, lines, lines, samples, reason, ratio]

/-! ## The layout -/

/-- How a report is laid out: lines for its samples, for the reason and for the ratio. -/
structure Layout (r : Report) (timings reasons ratios : List String) : Prop where
  /-- The text is these lines, each ended by a newline. -/
  cut : Text.split (· == '\n') r.render.toList =
    (timings ++ reasons ++ ratios).map String.toList ++ [[]]
  count : (timings ++ reasons ++ ratios).length =
    r.size + (if (r.skipped? .native).isSome then 1 else 0) +
      (if r.speedup?.isSome then 1 else 0)
  /-- The samples are listed in the order of their names, and each has one line. -/
  ordered : r.values.Pairwise fun a b => Utf8.bytes a.name < Utf8.bytes b.name
  timing : timings = r.values.map sampleLine
  named : List.Forall₂ (fun s line => ∃ rest, line = s.name ++ ": " ++ rest) r.values timings
  reason : reasons =
    (r.skipped? .native).toList.map fun why => "native: not available (" ++ why ++ ")"
  ratio : ratios = r.speedup?.toList.map speedupLine
  /-- There is no ratio if a strategy has no sample, or one whose throughput is no number, infinite,
  zero or negative. -/
  without : ratios = [] ↔ ∃ k, ∀ s, r.sample? k = some s →
    s.throughput.isNaN = true ∨ s.throughput.isInf = true ∨ (s.throughput == 0) = true ∨
      s.throughput < 0

theorem exists_sampleLine_eq (s : Sample) : ∃ rest, sampleLine s = s.name ++ ": " ++ rest := by
  refine ⟨Decimal.fixed 4 s.elapsed ++ "s (" ++ Decimal.fixed 0 s.throughput ++ " ops/sec)", ?_⟩
  rw [sampleLine]
  simp only [String.append_assoc]

theorem length_toList_map {α β : Type} (f : α → β) (o : Option α) :
    (o.toList.map f).length = if o.isSome then 1 else 0 := by
  cases o <;> rfl

theorem layout_ofChanges {cs : List Change}
    (names : ∀ s ∈ (ofChanges cs).values, '\n' ∉ s.name.toList)
    (reason : ∀ why, (ofChanges cs).skipped? .native = some why → '\n' ∉ why.toList) :
    Layout (ofChanges cs) ((ofChanges cs).values.map sampleLine)
      (((ofChanges cs).skipped? .native).toList.map skipLine)
      ((ofChanges cs).speedup?.toList.map speedupLine) where
  cut := by rw [split_render (newline_not_mem_lines names reason), lines_eq]
  count := by
    rw [List.length_append, List.length_append, length_toList_map, length_toList_map,
      List.length_map, values, List.length_map, size]
  ordered := values_ordered cs
  timing := rfl
  named := List.forall₂_map_right_iff.mpr (List.forall₂_same.mpr fun s _ => exists_sampleLine_eq s)
  reason := rfl
  ratio := rfl
  without := by
    simp only [← isUsable_eq_false_iff, ← speedup?_eq_none_iff]
    simp

/-- Without newlines in its names and in the reason a report is laid out in lines, one for each
sample and one each for the reason and the ratio that it has. The text is the same for all histories
with the same last samples and the same last reason of the native strategy: reasons of the other one
are not printed. -/
theorem render_layout (cs : List Change)
    (names : ∀ s ∈ (ofChanges cs).values, '\n' ∉ s.name.toList)
    (reason : ∀ why, (ofChanges cs).skipped? .native = some why → '\n' ∉ why.toList) :
    (∃ timings reasons ratios, Layout (ofChanges cs) timings reasons ratios) ∧
      ∀ cs', (∀ name, lastSample? cs' name = lastSample? cs name) →
        lastReason? cs' .native = lastReason? cs .native →
          (ofChanges cs').render = (ofChanges cs).render := by
  refine ⟨⟨_, _, _, layout_ofChanges names reason⟩, fun cs' samples native => ?_⟩
  refine render_congr (samples_congr samples) ?_
  rw [skipped?_ofChanges, skipped?_ofChanges, native]

/-- Two samples, a reason and a ratio make four lines. A reason of the other strategy makes none. -/
theorem render_layout_revised :
    (∀ s ∈ (ofChanges revised).values, '\n' ∉ s.name.toList) ∧
      (∀ why, (ofChanges revised).skipped? .native = some why → '\n' ∉ why.toList) ∧
      (Text.split (· == '\n') (ofChanges revised).render.toList).length = 4 + 1 ∧
      (∀ name, lastSample? (.skip .network "down" :: revised) name = lastSample? revised name) ∧
      lastReason? (.skip .network "down" :: revised) .native = lastReason? revised .native ∧
      (ofChanges (.skip .network "down" :: revised)).render = (ofChanges revised).render := by
  have values : (ofChanges revised).values = [quick, remote] := rfl
  have native : (ofChanges revised).skipped? .native = some "lost" := rfl
  have names : ∀ s ∈ (ofChanges revised).values, '\n' ∉ s.name.toList := by
    rw [values]
    decide
  have reason : ∀ why, (ofChanges revised).skipped? .native = some why → '\n' ∉ why.toList := by
    intro why h
    rw [native] at h
    cases h
    decide
  have ratio : (ofChanges revised).speedup?.isSome = true := by decide
  obtain ⟨⟨timings, reasons, ratios, layout⟩, same⟩ := render_layout revised names reason
  refine ⟨names, reason, ?_, fun _ => rfl, rfl, same _ (fun _ => rfl) rfl⟩
  rw [layout.cut, List.length_append, List.length_map, layout.count, native, ratio]
  rfl

example : (ofChanges revised).render =
    "native: 1.2500s (8 ops/sec)\nnetwork: 5.0000s (2 ops/sec)\n" ++
      "native: not available (lost)\nSpeedup: 4.00x faster with native\n" := by
  decide +kernel

end Switchboard.Bench.Report
