import Switchboard.Proofs.Toml.Repeated

/-!
# Texts between single quotes

A text of plain characters between single quotes is read as it stands, however long it is
(`readValue_literal`), so a document can give a setting any such text (`parse_literal`).
-/
namespace Switchboard.Toml

/-- Characters that may stand between single quotes on one line. -/
def IsLiteral (cs : List Char) : Prop := ∀ c ∈ cs, isPlain c = true ∧ c ≠ Quote.literal.char

theorem readLineText_literal {cs : List Char} (h : IsLiteral cs) (r : List Char) {fuel : Nat}
    (enough : cs.length < fuel) :
    readLineText .literal fuel (cs ++ Quote.literal.char :: r) = some (cs, r) := by
  induction cs generalizing fuel with
  | nil =>
    obtain ⟨n, rfl⟩ := Nat.exists_eq_succ_of_ne_zero (Nat.ne_of_gt enough)
    rfl
  | cons c cs ih =>
    obtain ⟨n, rfl⟩ := Nat.exists_eq_succ_of_ne_zero (Nat.ne_of_gt (Nat.zero_lt_of_lt enough))
    obtain ⟨plain, other⟩ := h c List.mem_cons_self
    have rest := ih (fun c hc => h c (List.mem_cons_of_mem _ hc)) (Nat.lt_of_succ_lt_succ enough)
    rw [List.cons_append, readLineText]
    simp only [if_neg other, plain, if_true, rest]
    rw [if_neg (by simp)]
    rfl

theorem readString_literal {cs : List Char} (h : IsLiteral cs) (nonempty : cs ≠ [])
    (r : List Char) {fuel : Nat} (enough : cs.length < fuel) :
    readString fuel .literal (Quote.literal.char :: (cs ++ Quote.literal.char :: r)) =
      some (cs, r) := by
  obtain ⟨c, cs, rfl⟩ := List.exists_cons_of_ne_nil nonempty
  have other := (h c List.mem_cons_self).2
  have line := readLineText_literal h r enough
  obtain ⟨d, rest, tail⟩ : ∃ d rest, cs ++ Quote.literal.char :: r = d :: rest := by
    cases cs <;> exact ⟨_, _, rfl⟩
  rw [List.cons_append, tail] at line ⊢
  rw [readString]
  simp only [decide_eq_false other, Bool.and_false, Bool.false_and, Bool.false_eq_true, if_false]
  exact line

theorem readValue_literal {cs : List Char} (h : IsLiteral cs) (nonempty : cs ≠ [])
    (r : List Char) {fuel : Nat} (enough : cs.length < fuel) (levels : Nat) :
    readValue fuel levels (Quote.literal.char :: (cs ++ Quote.literal.char :: r)) =
      some (.string cs, r) := by
  unfold readValue
  have single : Quote.literal.char = '\x27' := rfl
  rw [if_neg (by decide), if_pos single, readString_literal h nonempty r enough]
  rfl

/-- A document that gives the function of the benchmark between single quotes. -/
def functionDocument (name : List Char) : String :=
  String.ofList ("benchmark.function=".toList ++
    Quote.literal.char :: (name ++ [Quote.literal.char]))

theorem readPair_function {name : List Char} (h : IsLiteral name) (nonempty : name ≠ []) {n : Nat}
    (enough : name.length < n + 2) :
    readPair (readValue (n + 2) (maxDepth - 1)) (n + 2)
        ("benchmark.function=".toList ++
          Quote.literal.char :: (name ++ [Quote.literal.char])) =
      some (((["benchmark"], "function"), .string name), []) := by
  have key (tail : List Char) : readKey (n + 2) ("benchmark.function=".toList ++ tail) =
      some ((["benchmark"], "function"), '=' :: tail) := rfl
  have value := readValue_literal h nonempty [] enough (maxDepth - 1)
  have start (tail : List Char) : skipBlank (Quote.literal.char :: tail) =
      Quote.literal.char :: tail := rfl
  have equals (tail : List Char) : expect '=' ('=' :: tail) = some tail := rfl
  simp only [readPair, key, equals, start, value, Option.bind_eq_bind, Option.bind_some,
    Option.pure_def]

/-- The name of a function is read whole, however long it is. -/
theorem parse_functionDocument {name : List Char} (h : IsLiteral name) (nonempty : name ≠ []) :
    parse (functionDocument name) =
      some [("benchmark", .table [("function", .string name)])] := by
  have pair {n : Nat} (enough : name.length < n + 2) := readPair_function h nonempty enough
  generalize htext : "benchmark.function=".toList ++
    Quote.literal.char :: (name ++ [Quote.literal.char]) = text at pair
  obtain ⟨r, front⟩ : ∃ r, text = 'b' :: r := by
    rw [← htext]
    exact ⟨_, rfl⟩
  have long : name.length + 20 = r.length := by
    have := congrArg List.length (htext.trans front)
    rw [List.length_append, List.length_cons, List.length_cons, List.length_append] at this
    have fixed : "benchmark.function=".toList.length = 19 := rfl
    simp only [List.length_singleton] at this
    omega
  obtain ⟨n, fuel⟩ : ∃ n, r.length = n + 1 := ⟨r.length - 1, by omega⟩
  have added : update false (fun _ es => addValue ["benchmark"] "function" (.string name) es) []
      .header [] = some [("benchmark", .table .dottedKey [("function", .value (.string name))])] :=
    rfl
  have done : restOfLine [] = some [] := rfl
  have setting : readSetting (n + 3) {} text =
      some (⟨[("benchmark", .table .dottedKey [("function", .value (.string name))])], []⟩,
        []) := by
    have enough : name.length < (n + 1) + 2 := by omega
    simp only [readSetting, pair enough, done, added, Option.bind_eq_bind, Option.bind_some,
      Option.pure_def]
  have isSetting : StartsSetting text 'b' r := ⟨by rw [front]; rfl, by decide, by decide⟩
  have characters : (functionDocument name).toList = text := by
    rw [← htext]
    exact String.toList_ofList
  have document : skipByteOrderMark (functionDocument name).toList = text := by
    rw [characters, front, skipByteOrderMark]
    exact fun _ h => absurd (List.cons.inj h).1 (by decide)
  have length : text.length = n + 2 := by rw [front, List.length_cons, fuel]
  rw [parse, document, length]
  simp only [readLines_succ isSetting.start, isSetting.readLine_eq, ← front, setting]
  rfl

end Switchboard.Toml
