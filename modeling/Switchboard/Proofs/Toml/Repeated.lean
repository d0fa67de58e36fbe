import Mathlib.Logic.Relation
import Switchboard.Toml.Parser

/-!
# Keys that are given twice

A document in which a key is given a second time is refused as a whole, wherever that is. A reader
goes through a document step by step, and `Relation.ReflTransGen` of its steps says what it reaches.
`Repeats` holds of a document in which the reader comes to a key that is already there.

* `find?`: what stands under a key in the tables so far;
* `addValue_of_find?`, `addTable_of_find?`, `addToTables_of_find?`: it cannot be given again;
* `eq_of_reaches`: what a loop gives is what it gives from any place that it reaches;
* `ValueRepeats.readValue_eq_none`: a key given twice inside a value, at any depth;
* `Repeats.parse_eq_none`: a key given twice anywhere.
-/
namespace Switchboard.Toml

/-! ## Keys that are there -/

/-- The entries of the table to which a path leads. -/
def entriesAt? : List String → Entries → Option Entries
  | [], es => some es
  | k :: ks, es =>
    match Keyed.get? k es with
    | some (.table _ sub) => entriesAt? ks sub
    | some (.tables _ last) => entriesAt? ks last
    | _ => none

/-- What stands under a key of the table to which a path leads. -/
def find? (path : List String) (name : String) (es : Entries) : Option Node :=
  (entriesAt? path es).bind (Keyed.get? name)

theorem entriesAt?_append (ks ls : List String) (es : Entries) :
    entriesAt? (ks ++ ls) es = (entriesAt? ks es).bind (entriesAt? ls) := by
  induction ks generalizing es with
  | nil => rfl
  | cons k ks ih =>
    rw [List.cons_append, entriesAt?, entriesAt?]
    split
    · exact ih _
    · exact ih _
    · rfl

/-- A change that the table at the end of a path refuses is refused. -/
theorem update_eq_none {dotted : Bool} {change : Origin → Entries → Option Entries}
    {path : List String} {es sub : Entries} (h : entriesAt? path es = some sub)
    (refused : ∀ origin, change origin sub = none) (origin : Origin) :
    update dotted change path origin es = none := by
  induction path generalizing es origin with
  | nil => cases h; exact refused origin
  | cons k ks ih =>
    rw [entriesAt?] at h
    rw [update]
    split at h
    · rename_i o inner hk
      rw [hk]
      simp only [ih h]
      split <;> rfl
    · rename_i earlier last hk
      rw [hk]
      simp only [ih h]
      rfl
    · cases h

theorem addValue_of_find? {path : List String} {name : String} {es : Entries} {node : Node}
    (h : find? path name es = some node) (v : Value) : addValue path name v es = none := by
  obtain ⟨sub, hsub, hname⟩ := Option.bind_eq_some_iff.mp h
  refine update_eq_none hsub (fun origin => ?_) _
  simp only [hname]
  split <;> rfl

/-- A value under a key that is there already, below the table of the present header. -/
theorem update_addValue_of_find? {here path : List String} {name : String} {es : Entries}
    {node : Node} (h : find? (here ++ path) name es = some node) (v : Value) :
    update false (fun _ es => addValue path name v es) here .header es = none := by
  rw [find?, entriesAt?_append, Option.bind_assoc] at h
  obtain ⟨sub, hsub, hname⟩ := Option.bind_eq_some_iff.mp h
  exact update_eq_none hsub (fun _ => addValue_of_find? hname v) _

/-- Whether a header may still name a table that is there: it only stood on the way so far. -/
def Node.isOpen : Node → Bool
  | .table .onTheWay _ => true
  | _ => false

theorem addTable_of_find? {path : List String} {name : String} {es : Entries} {node : Node}
    (h : find? path name es = some node) (closed : node.isOpen = false) :
    addTable path name es = none := by
  obtain ⟨sub, hsub, hname⟩ := Option.bind_eq_some_iff.mp h
  refine update_eq_none hsub (fun origin => ?_) _
  simp only [hname]
  split
  · cases node <;> contradiction
  · rename_i sub' hnode
    cases hnode
    cases closed
  · rfl

/-- Whether a node is an array of tables. -/
def Node.isTables : Node → Bool
  | .tables .. => true
  | _ => false

theorem addToTables_of_find? {path : List String} {name : String} {es : Entries} {node : Node}
    (h : find? path name es = some node) (other : node.isTables = false) :
    addToTables path name es = none := by
  obtain ⟨sub, hsub, hname⟩ := Option.bind_eq_some_iff.mp h
  refine update_eq_none hsub (fun origin => ?_) _
  simp only [hname]
  split
  · cases node <;> contradiction
  · rename_i earlier last hnode
    cases hnode
    cases other
  · rfl

/-! ## Loops of the reader -/

open Relation (ReflTransGen)

/-- What a step leaves alone is the same at every place that is reached. -/
theorem eq_of_reaches {σ α : Type} {step : σ → σ → Prop} {f : σ → α}
    (h : ∀ x y, step x y → f x = f y) {x y : σ} (reached : ReflTransGen step x y) : f x = f y := by
  induction reached with
  | refl => rfl
  | tail _ last ih => exact ih.trans (h _ _ last)

/-- A place in a loop: the fuel that is left, what has been read, and the text behind it. -/
structure Place (α : Type) where
  fuel : Nat
  sofar : α
  text : List Char

/-- From an element of an array to the next. -/
def ItemStep (item : Reader Value) (x y : Place Unit) : Prop :=
  ∃ v r, x.fuel = y.fuel + 1 ∧ (∀ r, skipLayout false x.text ≠ ']' :: r) ∧
    item (skipLayout false x.text) = some (v, r) ∧ skipLayout false r = ',' :: y.text

/-- From a pair of a table written as a value to the next. -/
def PairStep (item : Reader Value) (x y : Place Entries) : Prop :=
  ∃ path name v r, x.fuel = y.fuel + 1 ∧
    readPair item x.fuel x.text = some (((path, name), v), r) ∧
    addValue path name v x.sofar = some y.sofar ∧ skipBlank r = ',' :: y.text

theorem readItems_of_item {item : Reader Value} {n : Nat} {text : List Char}
    (h : ∀ r, skipLayout false text ≠ ']' :: r) :
    readItems item (n + 1) text =
      (item (skipLayout false text)).bind fun (v, r) =>
        match skipLayout false r with
        | ',' :: r => (readItems item n r).bind fun (vs, r) => some (v :: vs, r)
        | ']' :: r => some ([v], r)
        | _ => none := by
  rw [readItems]
  split
  · rename_i r hr; exact absurd hr (h r)
  · rfl

/-- An array is refused if one of its elements is. -/
theorem readItems_isNone_of_reaches {item : Reader Value} {x y : Place Unit}
    (reached : ReflTransGen (ItemStep item) x y) :
    (readItems item x.fuel x.text).isNone = (readItems item y.fuel y.text).isNone := by
  refine eq_of_reaches (f := fun z : Place Unit => (readItems item z.fuel z.text).isNone) ?_ reached
  rintro ⟨_, _, text⟩ ⟨n, _, text'⟩ ⟨v, r, rfl, start, read, comma⟩
  simp only at start read comma ⊢
  rw [readItems_of_item start, read, Option.bind_some]
  simp only [comma]
  cases readItems item n text' <;> rfl

theorem readMorePairs_eq_of_reaches {item : Reader Value} {x y : Place Entries}
    (reached : ReflTransGen (PairStep item) x y) :
    readMorePairs item x.fuel x.sofar x.text = readMorePairs item y.fuel y.sofar y.text := by
  refine eq_of_reaches
    (f := fun z : Place Entries => readMorePairs item z.fuel z.sofar z.text) ?_ reached
  rintro ⟨_, es, text⟩ ⟨n, es', text'⟩ ⟨path, name, v, r, rfl, read, added, comma⟩
  simp only at read added comma ⊢
  rw [readMorePairs]
  simp only [read, added, comma, Option.bind_eq_bind, Option.bind_some]

/-! ## Inside a value -/

/-- A key is given twice in the value at the front of a text: in a table written there, in the value
of one of its pairs, or in an element of an array. -/
inductive ValueRepeats (fuel : Nat) : Nat → List Char → Prop
  | pair {n : Nat} {r rest : List Char} {x : Place Entries} {path : List String} {name : String}
      {v : Value} {node : Node}
      (reached : ReflTransGen (PairStep (readValue fuel n)) ⟨fuel, [], r⟩ x)
      (read : readPair (readValue fuel n) x.fuel x.text = some (((path, name), v), rest))
      (twice : find? path name x.sofar = some node) : ValueRepeats fuel (n + 1) ('{' :: r)
  | inPair {n : Nat} {r r₁ r₂ : List Char} {x : Place Entries} {key : List String × String}
      (reached : ReflTransGen (PairStep (readValue fuel n)) ⟨fuel, [], r⟩ x)
      (read : readKey x.fuel x.text = some (key, r₁)) (equals : expect '=' r₁ = some r₂)
      (inner : ValueRepeats fuel n (skipBlank r₂)) : ValueRepeats fuel (n + 1) ('{' :: r)
  | inItem {n : Nat} {r : List Char} {x : Place Unit}
      (reached : ReflTransGen (ItemStep (readValue fuel n)) ⟨fuel, (), r⟩ x)
      (inner : ValueRepeats fuel n (skipLayout false x.text)) : ValueRepeats fuel (n + 1) ('[' :: r)

/-- A closing brace is no key. -/
theorem readKey_of_brace {fuel : Nat} {text r : List Char} (h : skipBlank text = '}' :: r) :
    readKey fuel text = none := by
  cases fuel with
  | zero => rfl
  | succ n =>
    have noName : readName (n + 1) text = none := by
      unfold readName
      simp only [h]
      rfl
    unfold readKey readNames
    simp only [noName]
    rfl

theorem readKey_of_readPair {item : Reader Value} {fuel : Nat} {text rest : List Char}
    {key : List String × String} {v : Value} (h : readPair item fuel text = some ((key, v), rest)) :
    ∃ r, readKey fuel text = some (key, r) := by
  simp only [readPair, Option.bind_eq_bind, Option.bind_eq_some_iff] at h
  obtain ⟨⟨key', r⟩, hkey, _, _, ⟨_, _⟩, _, hout⟩ := h
  cases hout
  exact ⟨r, hkey⟩

/-- A table in which the reader comes to a key is not empty. -/
theorem readPairs_of_reaches {item : Reader Value} {fuel : Nat} {r r₁ : List Char}
    {x : Place Entries} {key : List String × String}
    (reached : ReflTransGen (PairStep item) ⟨fuel, [], r⟩ x)
    (read : readKey x.fuel x.text = some (key, r₁)) :
    readPairs item fuel r = readMorePairs item x.fuel x.sofar x.text := by
  have first : ∃ k, readKey fuel r = some k := by
    rcases reached.cases_head with rfl | ⟨y, ⟨_, _, _, _, _, hread, -, -⟩, -⟩
    · exact ⟨_, read⟩
    · obtain ⟨_, hkey⟩ := readKey_of_readPair hread
      exact ⟨_, hkey⟩
  rw [← readMorePairs_eq_of_reaches reached, readPairs]
  split
  · rename_i r' hbrace
    obtain ⟨k, hk⟩ := first
    rw [readKey_of_brace hbrace] at hk
    cases hk
  · rfl

theorem readPair_of_value {item : Reader Value} {fuel : Nat} {text r₁ r₂ : List Char}
    {key : List String × String} (read : readKey fuel text = some (key, r₁))
    (equals : expect '=' r₁ = some r₂) (refused : item (skipBlank r₂) = none) :
    readPair item fuel text = none := by
  simp only [readPair, read, equals, refused, Option.bind_eq_bind, Option.bind_some,
    Option.bind_none]

theorem readMorePairs_of_readPair {item : Reader Value} {fuel : Nat} {es : Entries}
    {text : List Char} (h : readPair item fuel text = none) :
    readMorePairs item fuel es text = none := by
  cases fuel with
  | zero => rfl
  | succ n => rw [readMorePairs, h]; rfl

theorem readMorePairs_of_find? {item : Reader Value} {fuel : Nat} {es : Entries}
    {text rest : List Char} {path : List String} {name : String} {v : Value} {node : Node}
    (read : readPair item fuel text = some (((path, name), v), rest))
    (twice : find? path name es = some node) : readMorePairs item fuel es text = none := by
  cases fuel with
  | zero => rfl
  | succ n =>
    rw [readMorePairs]
    simp only [read, addValue_of_find? twice, Option.bind_eq_bind, Option.bind_some,
      Option.bind_none]

theorem readValue_brace (fuel n : Nat) (r : List Char) :
    readValue fuel (n + 1) ('{' :: r) =
      (readPairs (readValue fuel n) fuel r).map fun (es, r) => (.table (closeAll es), r) := rfl

theorem readValue_bracket (fuel n : Nat) (r : List Char) :
    readValue fuel (n + 1) ('[' :: r) =
      (readItems (readValue fuel n) fuel r).map fun (vs, r) => (.array vs, r) := rfl

theorem ValueRepeats.ne_end {fuel levels : Nat} {text : List Char}
    (h : ValueRepeats fuel levels text) (r : List Char) : text ≠ ']' :: r := by
  cases h <;> intro e <;> cases e

/-- A value in which a key is given twice is refused. -/
theorem ValueRepeats.readValue_eq_none {fuel levels : Nat} {text : List Char}
    (h : ValueRepeats fuel levels text) : readValue fuel levels text = none := by
  induction h with
  | pair reached read twice =>
    obtain ⟨_, key⟩ := readKey_of_readPair read
    rw [readValue_brace, readPairs_of_reaches reached key, readMorePairs_of_find? read twice]
    rfl
  | inPair reached read equals _ ih =>
    rw [readValue_brace, readPairs_of_reaches reached read,
      readMorePairs_of_readPair (readPair_of_value read equals ih)]
    rfl
  | @inItem n r x reached inner ih =>
    have last : (readItems (readValue fuel n) x.fuel x.text).isNone = true := by
      cases x.fuel with
      | zero => rfl
      | succ m => rw [readItems_of_item inner.ne_end, ih]; rfl
    rw [← readItems_isNone_of_reaches reached, Option.isNone_iff_eq_none] at last
    rw [readValue_bracket, last]
    rfl

/-! ## In a line -/

/-- What a line does that is not blank: the draft after it and the text behind it. -/
def readLine (fuel : Nat) (d : Draft) (c : Char) (r : List Char) : Option (Draft × List Char) :=
  if c = '#' || c = '\n' || c = '\r' then (restOfLine (c :: r)).map (d, ·)
  else if c = '[' then readHeader fuel d r
  else readSetting fuel d (c :: r)

theorem readLines_succ {n : Nat} {d : Draft} {text r : List Char} {c : Char}
    (h : skipBlank text = c :: r) :
    readLines (n + 1) d text =
      (readLine (n + 1) d c r).bind fun (d, rest) => readLines n d rest := by
  rw [readLines, readLine]
  simp only [h]
  split
  · cases restOfLine (c :: r) <;> rfl
  · split
    · cases readHeader (n + 1) d r <;> rfl
    · cases readSetting (n + 1) d (c :: r) <;> rfl

/-- From a line of a document to the next. -/
def LineStep (x y : Place Draft) : Prop :=
  ∃ c r, x.fuel = y.fuel + 1 ∧ skipBlank x.text = c :: r ∧
    readLine x.fuel x.sofar c r = some (y.sofar, y.text)

theorem readLines_eq_of_reaches {x y : Place Draft} (reached : ReflTransGen LineStep x y) :
    readLines x.fuel x.sofar x.text = readLines y.fuel y.sofar y.text := by
  refine eq_of_reaches (f := fun z : Place Draft => readLines z.fuel z.sofar z.text) ?_ reached
  rintro ⟨_, d, text⟩ ⟨n, d', text'⟩ ⟨c, r, rfl, start, read⟩
  simp only at start read ⊢
  rw [readLines_succ start, read, Option.bind_some]

/-- A line starts a setting if it is not blank, a comment or a header. -/
structure StartsSetting (text : List Char) (c : Char) (r : List Char) : Prop where
  start : skipBlank text = c :: r
  blank : (c = '#' || c = '\n' || c = '\r') = false
  header : c ≠ '['

/-- The line at a place gives a key that is already there. A header may name a table that only stood
on the way to others, and one more table of an array of tables. -/
inductive LineRepeats (x : Place Draft) : Prop
  | setting {c : Char} {r rest : List Char} {path : List String} {name : String} {v : Value}
      {node : Node} (line : StartsSetting x.text c r)
      (read : readPair (readValue x.fuel (maxDepth - 1)) x.fuel (c :: r) =
        some (((path, name), v), rest))
      (twice : find? (x.sofar.path ++ path) name x.sofar.tables = some node)
  | inValue {c : Char} {r r₁ r₂ : List Char} {key : List String × String}
      (line : StartsSetting x.text c r) (read : readKey x.fuel (c :: r) = some (key, r₁))
      (equals : expect '=' r₁ = some r₂)
      (inner : ValueRepeats x.fuel (maxDepth - 1) (skipBlank r₂))
  | header {r rest : List Char} {path : List String} {name : String} {node : Node}
      (line : skipBlank x.text = '[' :: r) (single : ∀ r', r ≠ '[' :: r')
      (read : readKey x.fuel r = some ((path, name), rest))
      (twice : find? path name x.sofar.tables = some node) (closed : node.isOpen = false)
  | arrayHeader {r rest : List Char} {path : List String} {name : String} {node : Node}
      (line : skipBlank x.text = '[' :: '[' :: r)
      (read : readKey x.fuel r = some ((path, name), rest))
      (twice : find? path name x.sofar.tables = some node) (other : node.isTables = false)

theorem readLines_of_readLine {x : Place Draft} {c : Char} {r : List Char}
    (start : skipBlank x.text = c :: r) (refused : readLine x.fuel x.sofar c r = none) :
    readLines x.fuel x.sofar x.text = none := by
  obtain ⟨fuel, d, text⟩ := x
  cases fuel with
  | zero => rfl
  | succ n => rw [readLines_succ start, refused, Option.bind_none]

theorem StartsSetting.readLine_eq {text r : List Char} {c : Char} (h : StartsSetting text c r)
    (fuel : Nat) (d : Draft) : readLine fuel d c r = readSetting fuel d (c :: r) := by
  unfold readLine
  rw [h.blank, if_neg Bool.false_ne_true, if_neg h.header]

/-- A document is refused in a line that gives a key again. -/
theorem LineRepeats.readLines_eq_none {x : Place Draft} (h : LineRepeats x) :
    readLines x.fuel x.sofar x.text = none := by
  cases h with
  | @setting c r rest path name v node line read twice =>
    refine readLines_of_readLine line.start ?_
    rw [line.readLine_eq, readSetting]
    simp only [read, update_addValue_of_find? twice, Option.bind_eq_bind, Option.bind_some,
      Option.bind_none]
    cases restOfLine rest <;> rfl
  | inValue line read equals inner =>
    refine readLines_of_readLine line.start ?_
    rw [line.readLine_eq, readSetting, readPair_of_value read equals inner.readValue_eq_none]
    rfl
  | @header r rest path name node line single read twice closed =>
    refine readLines_of_readLine line ?_
    have refused : readHeader x.fuel x.sofar r = none := by
      unfold readHeader
      split
      · rename_i r'; exact absurd rfl (single r')
      · simp only [read, addTable_of_find? twice closed, Option.bind_eq_bind, Option.bind_some,
          Option.bind_none]
        cases expect ']' rest with
        | none => rfl
        | some r => rw [Option.bind_some]; cases restOfLine r <;> rfl
    exact refused
  | @arrayHeader r rest path name node line read twice other =>
    refine readLines_of_readLine line ?_
    have refused : readHeader x.fuel x.sofar ('[' :: r) = none := by
      rw [readHeader]
      simp only [read, addToTables_of_find? twice other, Option.bind_eq_bind, Option.bind_some,
        Option.bind_none]
      cases expect ']' rest with
      | none => rfl
      | some r =>
        cases h' : expect ']' r with
        | none => simp only [Option.bind_some, h', Option.bind_none]
        | some r' => simp only [Option.bind_some, h']; cases restOfLine r' <;> rfl
    exact refused

/-- Where the reader of a document starts. -/
def start (document : String) : Place Draft :=
  let text := skipByteOrderMark document.toList
  { fuel := text.length + 1, sofar := {}, text }

/-- A key is given twice somewhere in a document. -/
def Repeats (document : String) : Prop :=
  ∃ x, ReflTransGen LineStep (start document) x ∧ LineRepeats x

/-- A document in which a key is given twice is refused. -/
theorem Repeats.parse_eq_none {document : String} (h : Repeats document) :
    parse document = none := by
  obtain ⟨x, reached, twice⟩ := h
  have refused := (readLines_eq_of_reaches reached).trans twice.readLines_eq_none
  simp only [parse]
  exact congrArg (Option.map closeAll) refused

end Switchboard.Toml
