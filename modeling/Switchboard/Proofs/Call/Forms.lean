import Switchboard.Call.Request
import Switchboard.Proofs.Call.Echo
import Switchboard.Proofs.Json.Typed

/-!
# The forms of a request

A request is read from an object with its three fields, in any order, and from an array of their
values in the order of their declaration. Each field has to be there, once, and the array has to have
three elements. The list of the arguments may have `Json.maxDepth` levels less one, for the object or
the array around it.

* `parseRequest_object_iff`: an object with fields of a request is read as `r` exactly if its
  entries are those of `r` in some order, and the arguments of `r` are not too deep;
* `parseRequest_array_iff`: an array is read as `r` exactly if its elements are the values of the
  fields of `r`, and the arguments are not too deep;
* `request_read_back`: hence the text of a request is read back, and so are its other forms.
-/
namespace Switchboard

namespace Json

/-! ## One field -/

namespace RequestFields

/-- The fields after one more, whose value may have `levels` levels. -/
def add (levels : Nat) (f : RequestFields) (e : String × Value) : Except Cause RequestFields :=
  if e.1 = "service_name" then
    if f.service.isSome then .error (.duplicateField e.1)
    else e.2.asString.map fun s => { f with service := some s }
  else if e.1 = "function_name" then
    if f.function.isSome then .error (.duplicateField e.1)
    else e.2.asString.map fun s => { f with function := some s }
  else if e.1 = "arguments" then
    if f.args.isSome then .error (.duplicateField e.1)
    else (e.2.asItems levels).map fun vs => { f with args := some vs }
  else .ok f

/-- The request with these fields, or the first that is missing. -/
def whole (f : RequestFields) : Except Cause Request :=
  match f.service, f.function, f.args with
  | some service, some function, some args => .ok { service, function, args }
  | none, _, _ => .error (.missingField "service_name")
  | _, none, _ => .error (.missingField "function_name")
  | _, _, none => .error (.missingField "arguments")

theorem reads_complete (f : RequestFields) (rest : List UInt8) :
    Reads rest f.whole (f.complete rest) := by
  obtain ⟨_ | s, _ | g, _ | vs⟩ := f <;> constructor

end RequestFields

theorem duplicate_eq {α : Type} (name : String) (text : List UInt8) :
    ∃ left, duplicate (α := α) name text = .error { cause := .duplicateField name, left } := by
  unfold duplicate
  split <;> exact ⟨_, rfl⟩

/-- A field that is there already is refused before its value is read. -/
theorem reads_duplicate {α : Type} (name : String) (rest text : List UInt8) :
    Reads (α := α) rest (.error (.duplicateField name)) (duplicate name text) := by
  obtain ⟨left, e⟩ := duplicate_eq (α := α × List UInt8) name text
  rw [e]
  exact .refusal _ left

theorem readsField_request {e : String × Value} (key : e.1 ∈ Request.fieldNames)
    (readable : e.2.Readable) {fuel : Nat} (enough : e.2.bytes.length ≤ fuel) (levels : Nat) :
    ReadsField (readRequestField fuel levels) (RequestFields.add levels) e := by
  intro f rest stops
  obtain ⟨k, v⟩ := e
  have string := readStringAs_bytes readable enough stops
  have items := readValues_bytes readable enough stops levels
  simp only [Request.fieldNames, List.mem_cons, List.not_mem_nil, or_false] at key
  rcases key with rfl | rfl | rfl
  · simp only [RequestFields.add, readRequestField, if_true]
    split
    · exact reads_duplicate _ _ _
    · exact string.map _
  · simp only [RequestFields.add, readRequestField, String.reduceEq, if_true, if_false]
    split
    · exact reads_duplicate _ _ _
    · exact string.map _
  · simp only [RequestFields.add, readRequestField, String.reduceEq, if_true, if_false]
    split
    · exact reads_duplicate _ _ _
    · exact items.map _

/-! ## The fields of an object -/

namespace RequestFields

/-- A field is added: it is new, and its value is of its type. -/
inductive Adds (levels : Nat) (f : RequestFields) : String × Value → RequestFields → Prop where
  | service (s : String) (new : f.service = none) :
    Adds levels f ("service_name", .string s) { f with service := some s }
  | function (s : String) (new : f.function = none) :
    Adds levels f ("function_name", .string s) { f with function := some s }
  | args (vs : List Value) (new : f.args = none) (within : (Value.array vs).depth ≤ levels) :
    Adds levels f ("arguments", .array vs) { f with args := some vs }

variable {levels : Nat} {f f' : RequestFields} {e : String × Value}

theorem adds_of_add (key : e.1 ∈ Request.fieldNames) (h : f.add levels e = .ok f') :
    Adds levels f e f' := by
  obtain ⟨k, v⟩ := e
  simp only [Request.fieldNames, List.mem_cons, List.not_mem_nil, or_false] at key
  rcases key with rfl | rfl | rfl
  · simp only [add, if_true] at h
    split at h
    · cases h
    · next new =>
      obtain ⟨s, read, rfl⟩ := map_eq_ok.mp h
      rw [Value.asString_eq_ok.mp read]
      exact .service s (Option.not_isSome_iff_eq_none.mp new)
  · simp only [add, String.reduceEq, if_true, if_false] at h
    split at h
    · cases h
    · next new =>
      obtain ⟨s, read, rfl⟩ := map_eq_ok.mp h
      rw [Value.asString_eq_ok.mp read]
      exact .function s (Option.not_isSome_iff_eq_none.mp new)
  · simp only [add, String.reduceEq, if_true, if_false] at h
    split at h
    · cases h
    · next new =>
      obtain ⟨vs, read, rfl⟩ := map_eq_ok.mp h
      obtain ⟨rfl, within⟩ := Value.asItems_eq_ok.mp read
      exact .args vs (Option.not_isSome_iff_eq_none.mp new) within

theorem Adds.add (h : Adds levels f e f') : f.add levels e = .ok f' := by
  cases h with
  | service s new => simp only [RequestFields.add, new]; rfl
  | function s new => simp only [RequestFields.add, new]; rfl
  | args vs new within =>
    have items : (Value.array vs).asItems levels = .ok vs :=
      Value.asItems_eq_ok.mpr ⟨rfl, within⟩
    simp only [RequestFields.add, new, items]
    rfl

def entries (f : RequestFields) : List (String × Value) :=
  (f.service.map fun s => ("service_name", .string s)).toList ++
    ((f.function.map fun s => ("function_name", .string s)).toList ++
      (f.args.map fun vs => ("arguments", .array vs)).toList)

/-- One more field is one more entry. -/
theorem Adds.perm (h : Adds levels f e f') : f'.entries.Perm (e :: f.entries) := by
  cases h with
  | service s new => rw [entries, entries, new]; exact .refl _
  | function s new => rw [entries, entries, new]; exact List.perm_middle
  | args vs new =>
    rw [entries, entries, new, ← List.append_assoc, ← List.append_assoc]
    simp only [Option.map_none, Option.toList_none, List.append_nil]
    exact List.perm_append_comm

/-- The arguments, if they are there, have at most `levels` levels. -/
def Within (levels : Nat) (f : RequestFields) : Prop :=
  ∀ vs, f.args = some vs → (Value.array vs).depth ≤ levels

theorem Adds.within (h : Adds levels f e f') (within : f.Within levels) : f'.Within levels := by
  cases h with
  | service s new => exact within
  | function s new => exact within
  | args vs new fits => rintro _ ⟨⟩; exact fits

/-- Fields that are added one after the other are all there in the end, and no others. -/
theorem perm_of_foldlM {es : List (String × Value)} (keys : ∀ e ∈ es, e.1 ∈ Request.fieldNames)
    (h : es.foldlM (add levels) f = .ok f') (within : f.Within levels) :
    f'.entries.Perm (es ++ f.entries) ∧ f'.Within levels := by
  induction es generalizing f with
  | nil => cases h; exact ⟨.refl _, within⟩
  | cons e es ih =>
    obtain ⟨key, keys⟩ := List.forall_mem_cons.mp keys
    rw [List.foldlM_cons] at h
    obtain ⟨f₁, first, h⟩ := bind_eq_ok.mp h
    have adds := adds_of_add key first
    obtain ⟨perm, fits⟩ := ih keys h (adds.within within)
    exact ⟨(perm.trans (adds.perm.append_left es)).trans List.perm_middle, fits⟩

/-- An entry of a request can be added where there is none with its key. -/
theorem exists_adds {r : Request} (fits : r.argsValue.depth ≤ levels) (mem : e ∈ r.entries)
    (new : e.1 ∉ f.entries.map Prod.fst) : ∃ f', Adds levels f e f' := by
  simp only [Request.entries, List.mem_cons, List.not_mem_nil, or_false] at mem
  rcases mem with rfl | rfl | rfl
  · cases there : f.service with
    | none => exact ⟨_, .service _ there⟩
    | some s => exact absurd (by simp [entries, there]) new
  · cases there : f.function with
    | none => exact ⟨_, .function _ there⟩
    | some s => exact absurd (by simp [entries, there]) new
  · cases there : f.args with
    | none => exact ⟨_, .args _ there fits⟩
    | some vs => exact absurd (by simp [entries, there]) new

/-- Entries of a request with different keys can be added in any order. -/
theorem exists_foldlM {r : Request} (fits : r.argsValue.depth ≤ levels)
    {es : List (String × Value)} (mem : ∀ e ∈ es, e ∈ r.entries)
    (distinct : ((es ++ f.entries).map Prod.fst).Nodup) :
    ∃ f', es.foldlM (add levels) f = .ok f' := by
  induction es generalizing f with
  | nil => exact ⟨f, rfl⟩
  | cons e es ih =>
    obtain ⟨first, others⟩ := List.forall_mem_cons.mp mem
    have new : e.1 ∉ f.entries.map Prod.fst := fun there =>
      (List.nodup_cons.mp distinct).1 (((List.sublist_append_right es _).map _).subset there)
    obtain ⟨f₁, adds⟩ := exists_adds fits first new
    have perm : (es ++ f₁.entries).Perm (e :: es ++ f.entries) :=
      (adds.perm.append_left es).trans List.perm_middle
    obtain ⟨f', h⟩ := ih others ((perm.map Prod.fst).nodup_iff.mpr distinct)
    exact ⟨f', by rw [List.foldlM_cons, adds.add]; exact h⟩

def ofRequest (r : Request) : RequestFields := ⟨some r.service, some r.function, some r.args⟩

theorem whole_eq_ok {r : Request} : f.whole = .ok r ↔ f = ofRequest r := by
  constructor
  · intro h
    obtain ⟨_ | s, _ | g, _ | vs⟩ := f <;> cases h
    rfl
  · rintro rfl
    rfl

theorem eq_ofRequest_of_perm {r : Request} (h : f.entries.Perm r.entries) : f = ofRequest r := by
  obtain ⟨s?, g?, vs?⟩ := f
  have service : s? = some r.service := by
    have there := h.mem_iff (a := ("service_name", .string r.service))
    simpa [entries, Request.entries] using there
  have function : g? = some r.function := by
    have there := h.mem_iff (a := ("function_name", .string r.function))
    simpa [entries, Request.entries] using there
  have args : vs? = some r.args := by
    have there := h.mem_iff (a := ("arguments", .array r.args))
    simpa [entries, Request.entries, Request.argsValue] using there
  rw [service, function, args]
  rfl

/-- Arguments that are too deep are refused behind the names. -/
theorem foldlM_of_deep {r : Request} (deep : levels < r.argsValue.depth) :
    r.entries.foldlM (add levels) {} = .error .tooDeep := by
  have items : r.argsValue.asItems levels = .error .tooDeep := if_neg (Nat.not_le.mpr deep)
  have last : ({ service := some r.service, function := some r.function } : RequestFields).add levels
      ("arguments", r.argsValue) = .error .tooDeep := by
    simp only [add, String.reduceEq, if_false, if_true, items]
    rfl
  rw [Request.entries, List.foldlM_cons, (Adds.service r.service rfl).add]
  change (List.foldlM (add levels) _ _) = _
  rw [List.foldlM_cons, (Adds.function r.function rfl).add]
  change (List.foldlM (add levels) _ _) = _
  rw [List.foldlM_cons, last]
  rfl

end RequestFields

/-- A text is read as a request up to its end, or refused for the same cause. -/
theorem parseRequest_of_reads {v : Value} {x : Except Cause Request}
    (read : Reads [] x (readRequest (v.bytes.length + 1) maxDepth v.bytes)) :
    (∀ r, x = .ok r → parseRequest v.bytes = .ok r) ∧
      ∀ cause, x = .error cause → ∃ column,
        parseRequest v.bytes = .error { cause, position := { line := 1, column } } :=
  readAll_of_reads read

/-! ## Objects -/

section Object

variable {es : List (String × Value)} (keys : ∀ e ∈ es, e.1 ∈ Request.fieldNames)
  (readable : ∀ e ∈ es, e.2.Readable)

include keys readable

/-- Reading the text of an object is adding its entries one after the other. -/
theorem readRequest_object {fuel : Nat} (enough : (Value.object es).bytes.length ≤ fuel)
    (levels : Nat) (rest : List UInt8) :
    Reads rest ((es.foldlM (RequestFields.add levels) {}).bind RequestFields.whole)
      (readRequest fuel (levels + 1) ((Value.object es).bytes ++ rest)) := by
  have each : ReadsFields (readRequestField fuel levels) (RequestFields.add levels) fuel es :=
    fun e he short => readsField_request (keys e he) (readable e he) short levels
  obtain ⟨inside, text, fields⟩ := readFields_fold es each enough {} rest
  rw [text]
  change Reads rest _ ((readFields (readRequestField fuel levels) fuel {} inside).bind _)
  exact fields.bind fun f _ => f.reads_complete rest

theorem parseRequest_object :
    (∀ r, (es.foldlM (RequestFields.add 126) {}).bind RequestFields.whole = .ok r →
      parseRequest (Value.object es).bytes = .ok r) ∧
    ∀ cause, (es.foldlM (RequestFields.add 126) {}).bind RequestFields.whole = .error cause →
      ∃ column, parseRequest (Value.object es).bytes =
        .error { cause, position := { line := 1, column } } := by
  have read := readRequest_object keys readable (Nat.le_succ _) 126 []
  rw [List.append_nil] at read
  exact parseRequest_of_reads read

/-- An object with fields of a request is read as `r` exactly if its entries are those of `r`, each
once, and the arguments are not too deep. -/
theorem parseRequest_object_iff {r : Request} :
    parseRequest (Value.object es).bytes = .ok r ↔
      es.Perm r.entries ∧ r.argsValue.depth ≤ 126 := by
  obtain ⟨ok, error⟩ := parseRequest_object keys readable
  have added {f : RequestFields} (h : es.foldlM (RequestFields.add 126) {} = .ok f) :
      f.entries.Perm es ∧ f.Within 126 := by
    obtain ⟨perm, within⟩ := RequestFields.perm_of_foldlM keys h fun _ none => by cases none
    rw [show RequestFields.entries {} = [] from rfl, List.append_nil] at perm
    exact ⟨perm, within⟩
  constructor
  · intro h
    cases read : (es.foldlM (RequestFields.add 126) {}).bind RequestFields.whole with
    | error c =>
      obtain ⟨column, refused⟩ := error c read
      rw [refused] at h
      cases h
    | ok r' =>
      rw [ok r' read] at h
      cases h
      obtain ⟨f, fields, all⟩ := bind_eq_ok.mp read
      rw [RequestFields.whole_eq_ok] at all
      obtain ⟨perm, within⟩ := added fields
      rw [all] at perm within
      exact ⟨perm.symm, within _ rfl⟩
  · rintro ⟨perm, fits⟩
    have distinct : ((es ++ RequestFields.entries {}).map Prod.fst).Nodup := by
      rw [show RequestFields.entries {} = [] from rfl, List.append_nil]
      refine (perm.map Prod.fst).nodup_iff.mpr ?_
      change Request.fieldNames.Nodup
      decide
    obtain ⟨f, fields⟩ := RequestFields.exists_foldlM fits (fun e => perm.mem_iff.mp) distinct
    refine ok r ?_
    rw [fields, RequestFields.eq_ofRequest_of_perm ((added fields).1.trans perm)]
    rfl

end Object

end Json

/-! ## Arrays -/

/-- The values of the fields of a request, in the order of their declaration. -/
def Request.elements (r : Request) : List Json.Value :=
  [.string r.service, .string r.function, r.argsValue]

namespace Json

section Element

variable {α : Type} (item : Reader α) {v : Value} (readable : v.Readable) (rest : List UInt8)

include readable

theorem readElement_first : readElement item 0 (v.bytes ++ rest) = item (v.bytes ++ rest) := by
  obtain ⟨b, r, text, starts⟩ := Value.exists_starts readable
  rw [text, List.cons_append]
  unfold readElement
  simp only [skipBlank_cons starts.isBlank_eq, if_true]
  split
  · rename_i e; cases e
  · rename_i e; cases e; exact absurd rfl starts.ne_bracket
  · rename_i e; cases e; rfl
  · rfl

theorem readElement_next (count : Nat) :
    readElement item (count + 1) (0x2C :: (v.bytes ++ rest)) = item (v.bytes ++ rest) := by
  obtain ⟨b, r, text, starts⟩ := Value.exists_starts readable
  rw [text, List.cons_append]
  unfold readElement
  rw [skipBlank_cons (b := 0x2C) rfl]
  simp only [skipBlank_cons starts.isBlank_eq, Nat.add_one_ne_zero, if_false]
  split
  · rename_i e; cases e
  · rename_i e; cases e; exact absurd rfl starts.ne_bracket
  · rfl

end Element

theorem readClose_comma (r : List UInt8) : ∃ f, readClose (0x2C :: r) = .error f := by
  unfold readClose
  rw [skipBlank_cons (b := 0x2C) rfl]
  simp only
  split <;> exact ⟨_, rfl⟩

namespace Value

/-- The text of an array behind one of its elements, with `rest` behind the array. -/
def behind (vs : List Value) (rest : List UInt8) : List UInt8 :=
  Utf8.encode (moreItems vs) ++ 0x5D :: rest

theorem stops_behind (vs : List Value) (rest : List UInt8) : Stops (behind vs rest) :=
  stops_moreItems vs rest

theorem behind_cons (v : Value) (vs : List Value) (rest : List UInt8) :
    behind (v :: vs) rest = 0x2C :: (v.bytes ++ behind vs rest) := by
  rw [behind, encode_moreItems, List.cons_append, List.append_assoc]
  rfl

theorem bytes_array_append (v : Value) (vs : List Value) (rest : List UInt8) :
    (array (v :: vs)).bytes ++ rest = 0x5B :: (v.bytes ++ behind vs rest) := by
  rw [bytes_array, List.cons_append, List.append_assoc, List.append_assoc]
  rfl

/-- No element of an array has a longer text than the array. -/
theorem length_le_array {v : Value} {vs : List Value} (h : v ∈ vs) :
    v.bytes.length ≤ (array vs).bytes.length := by
  have more (ws : List Value) (h : v ∈ ws) :
      v.bytes.length ≤ (Utf8.encode (moreItems ws)).length := by
    induction ws with
    | nil => cases h
    | cons w ws ih =>
      rw [encode_moreItems, List.length_cons, List.length_append]
      rcases List.mem_cons.mp h with rfl | h
      · omega
      · have := ih h
        omega
  cases vs with
  | nil => cases h
  | cons w ws =>
    rw [bytes_array]
    simp only [List.length_cons, List.length_append]
    rcases List.mem_cons.mp h with rfl | h
    · omega
    · have := more ws h
      omega

end Value

/-- A request behind the names of its service and its function, in an array. -/
def readBehindFunction (fuel levels : Nat) (service function : String) : Reader Request :=
  fun text => do
    let (args, r) ← readElement (readValues fuel levels) 2 text
    let r ← readClose r
    return ({ service, function, args }, r)

/-- A request behind the name of its service, in an array. -/
def readBehindService (fuel levels : Nat) (service : String) : Reader Request := fun text => do
  let (function, r) ← readElement (readStringAs fuel "a string") 1 text
  readBehindFunction fuel levels service function r

section Array

variable {v : Value} (readable : v.Readable) (vs : List Value) (fuel levels : Nat)
  (rest : List UInt8)

include readable

theorem readRequest_cons :
    readRequest fuel (levels + 1) ((Value.array (v :: vs)).bytes ++ rest) =
      (readStringAs fuel "a string" (v.bytes ++ Value.behind vs rest)).bind fun (service, r) =>
        readBehindService fuel levels service r := by
  rw [Value.bytes_array_append, ← readElement_first (readStringAs fuel "a string") readable]
  rfl

theorem readBehindService_cons (service : String) :
    readBehindService fuel levels service (Value.behind (v :: vs) rest) =
      (readStringAs fuel "a string" (v.bytes ++ Value.behind vs rest)).bind fun (function, r) =>
        readBehindFunction fuel levels service function r := by
  rw [Value.behind_cons, ← readElement_next (readStringAs fuel "a string") readable _ 0]
  rfl

theorem readBehindFunction_cons (service function : String) :
    readBehindFunction fuel levels service function (Value.behind (v :: vs) rest) =
      (readValues fuel levels (v.bytes ++ Value.behind vs rest)).bind fun (args, r) =>
        (readClose r).bind fun r => .ok ({ service, function, args }, r) := by
  rw [Value.behind_cons, ← readElement_next (readValues fuel levels) readable _ 1]
  rfl

end Array

/-- Three values as the fields of a request, in the order of their declaration. -/
def requestOf (levels : Nat) (service function args : Value) : Except Cause Request :=
  service.asString.bind fun service => function.asString.bind fun function =>
    (args.asItems levels).bind fun args => .ok { service, function, args }

theorem requestOf_eq_ok {levels : Nat} {a b c : Value} {r : Request} :
    requestOf levels a b c = .ok r ↔ [a, b, c] = r.elements ∧ r.argsValue.depth ≤ levels := by
  constructor
  · intro h
    obtain ⟨s, service, h⟩ := bind_eq_ok.mp h
    obtain ⟨g, function, h⟩ := bind_eq_ok.mp h
    obtain ⟨vs, args, h⟩ := bind_eq_ok.mp h
    cases h
    obtain ⟨rfl, fits⟩ := Value.asItems_eq_ok.mp args
    rw [Value.asString_eq_ok.mp service, Value.asString_eq_ok.mp function]
    exact ⟨rfl, fits⟩
  · rintro ⟨same, fits⟩
    cases same
    have items : r.argsValue.asItems levels = .ok r.args := Value.asItems_eq_ok.mpr ⟨rfl, fits⟩
    change (r.argsValue.asItems levels).bind _ = _
    rw [items]
    rfl

section Array

variable {vs : List Value} (readable : ∀ v ∈ vs, v.Readable) {fuel : Nat}
  (enough : (Value.array vs).bytes.length ≤ fuel) (levels : Nat) (rest : List UInt8)

include readable enough

/-- Reading the text of an array of three values is taking them for the fields. -/
theorem readRequest_array {a b c : Value} (three : vs = [a, b, c]) :
    Reads rest (requestOf levels a b c)
      (readRequest fuel (levels + 1) ((Value.array vs).bytes ++ rest)) := by
  subst three
  have short (v : Value) (h : v ∈ [a, b, c]) : v.bytes.length ≤ fuel :=
    Nat.le_trans (Value.length_le_array h) enough
  simp only [List.forall_mem_cons] at readable short
  obtain ⟨ha, hb, hc, -⟩ := readable
  obtain ⟨sa, sb, sc, -⟩ := short
  rw [readRequest_cons ha]
  refine (readStringAs_bytes ha sa (Value.stops_behind [b, c] rest)).bind fun service _ => ?_
  dsimp only
  rw [readBehindService_cons hb]
  refine (readStringAs_bytes hb sb (Value.stops_behind [c] rest)).bind fun function _ => ?_
  dsimp only
  rw [readBehindFunction_cons hc]
  exact (readValues_bytes hc sc (Value.stops_behind [] rest) levels).bind fun args _ => .value _

/-- An array with fewer values, or with more, is refused. -/
theorem readRequest_of_length (other : vs.length ≠ 3) :
    ∃ f, readRequest fuel (levels + 1) ((Value.array vs).bytes ++ rest) = .error f := by
  have short (v : Value) (h : v ∈ vs) : v.bytes.length ≤ fuel :=
    Nat.le_trans (Value.length_le_array h) enough
  -- each element is refused for its type or read; the end comes too soon, or a comma instead of it
  match vs with
  | [] => exact ⟨_, rfl⟩
  | a :: vs =>
    obtain ⟨ha, readable⟩ := List.forall_mem_cons.mp readable
    obtain ⟨sa, short⟩ := List.forall_mem_cons.mp short
    rw [readRequest_cons ha]
    refine (readStringAs_bytes ha sa (Value.stops_behind vs rest)).bind_error fun service => ?_
    match vs with
    | [] => exact ⟨_, rfl⟩
    | b :: vs =>
      obtain ⟨hb, readable⟩ := List.forall_mem_cons.mp readable
      obtain ⟨sb, short⟩ := List.forall_mem_cons.mp short
      dsimp only
      rw [readBehindService_cons hb]
      refine (readStringAs_bytes hb sb (Value.stops_behind vs rest)).bind_error fun function => ?_
      match vs with
      | [] => exact ⟨_, rfl⟩
      | c :: vs =>
        obtain ⟨hc, readable⟩ := List.forall_mem_cons.mp readable
        obtain ⟨sc, short⟩ := List.forall_mem_cons.mp short
        dsimp only
        rw [readBehindFunction_cons hc]
        refine (readValues_bytes hc sc (Value.stops_behind vs rest) levels).bind_error fun args => ?_
        cases vs with
        | nil => exact absurd rfl other
        | cons d vs =>
          change ∃ f, (readClose (Value.behind (d :: vs) rest)).bind _ = .error f
          obtain ⟨f, refused⟩ := readClose_comma (d.bytes ++ Value.behind vs rest)
          rw [Value.behind_cons, refused]
          exact ⟨f, rfl⟩

omit enough

/-- An array is read as `r` exactly if its elements are the values of the fields of `r`, and the
arguments are not too deep. -/
theorem parseRequest_array_iff {r : Request} :
    parseRequest (Value.array vs).bytes = .ok r ↔
      vs = r.elements ∧ r.argsValue.depth ≤ 126 := by
  have enough := Nat.le_succ (Value.array vs).bytes.length
  by_cases three : vs.length = 3
  · obtain ⟨a, b, c, rfl⟩ : ∃ a b c, vs = [a, b, c] := by
      match vs, three with
      | [a, b, c], _ => exact ⟨a, b, c, rfl⟩
    have read := readRequest_array readable enough 126 [] rfl
    rw [List.append_nil] at read
    obtain ⟨ok, error⟩ := parseRequest_of_reads read
    rw [← requestOf_eq_ok]
    cases same : requestOf 126 a b c with
    | ok r' =>
      rw [ok r' same, Except.ok.injEq, Except.ok.injEq]
    | error cause =>
      obtain ⟨column, refused⟩ := error cause same
      rw [refused]
      exact iff_of_false (fun h => by cases h) (fun h => by cases h)
  · obtain ⟨f, refused⟩ := readRequest_of_length readable enough 126 [] three
    rw [List.append_nil] at refused
    refine iff_of_false ?_ ?_
    · intro h
      rw [parseRequest, readAll_of_error refused] at h
      cases h
    · rintro ⟨rfl, -⟩
      exact three rfl

end Array

end Json

/-! ## All forms -/

/-- The texts that are read as `r`: its own, unless that is too deep, its fields in any order, and
an array of their values. -/
structure Request.ReadBack (r : Request) : Prop where
  own : Json.parseRequest (Utf8.bytes r.json) = .ok r ↔ r.argsValue.depth ≤ 126
  deep : 126 < r.argsValue.depth → ∃ column, Json.parseRequest (Utf8.bytes r.json) =
    .error { cause := .tooDeep, position := { line := 1, column } }
  anyOrder : r.argsValue.depth ≤ 126 → ∀ es, es.Perm r.entries →
    Json.parseRequest (Json.Value.object es).bytes = .ok r
  array : r.argsValue.depth ≤ 126 →
    Json.parseRequest (Json.Value.array r.elements).bytes = .ok r

theorem Request.forall_mem_entries {r : Request} (readable : r.argsValue.Readable) :
    ∀ e ∈ r.entries, e.1 ∈ Request.fieldNames ∧ e.2.Readable := by
  simp only [entries, List.forall_mem_cons]
  refine ⟨⟨by decide, Json.Value.readable_string _⟩, ⟨by decide, Json.Value.readable_string _⟩,
    ⟨by decide, readable⟩, List.forall_mem_nil _⟩

theorem Request.forall_mem_elements {r : Request} (readable : r.argsValue.Readable) :
    ∀ v ∈ r.elements, v.Readable := by
  simp only [elements, List.forall_mem_cons]
  exact ⟨Json.Value.readable_string _, Json.Value.readable_string _, readable,
    List.forall_mem_nil _⟩

theorem Request.readBack {r : Request} (readable : r.argsValue.Readable) : r.ReadBack := by
  have inOrder (es : List (String × Json.Value)) (h : es.Perm r.entries) :
      Json.parseRequest (Json.Value.object es).bytes = .ok r ↔ r.argsValue.depth ≤ 126 := by
    have entries := fun e (he : e ∈ es) => forall_mem_entries readable e (h.mem_iff.mp he)
    rw [Json.parseRequest_object_iff (fun e he => (entries e he).1) fun e he => (entries e he).2]
    exact and_iff_right h
  have own : Utf8.bytes r.json = (Json.Value.object r.entries).bytes := Json.Value.bytes_text _
  refine { own := ?_, deep := ?_, anyOrder := ?_, array := ?_ }
  · rw [own]
    exact inOrder _ (.refl _)
  · intro deep
    have entries := forall_mem_entries readable
    obtain ⟨-, refused⟩ := Json.parseRequest_object (fun e he => (entries e he).1) fun e he =>
      (entries e he).2
    rw [own]
    exact refused .tooDeep (by rw [Json.RequestFields.foldlM_of_deep deep]; rfl)
  · exact fun fits es h => (inOrder es h).mpr fits
  · exact fun fits => (Json.parseRequest_array_iff (forall_mem_elements readable)).mpr ⟨rfl, fits⟩

/-- An object in which a field of a request is missing, or is there twice, is refused. -/
theorem Json.parseRequest_of_keys {es : List (String × Value)}
    (keys : ∀ e ∈ es, e.1 ∈ Request.fieldNames) (readable : ∀ e ∈ es, e.2.Readable)
    (other : ¬ (es.map Prod.fst).Perm Request.fieldNames) :
    ∃ e, parseRequest (Value.object es).bytes = .error e := by
  cases h : parseRequest (Value.object es).bytes with
  | error e => exact ⟨e, rfl⟩
  | ok r => exact absurd (((parseRequest_object_iff keys readable).mp h).1.map Prod.fst) other

theorem Json.parseRequest_of_length {vs : List Value} (readable : ∀ v ∈ vs, v.Readable)
    (other : vs.length ≠ 3) : ∃ e, parseRequest (Value.array vs).bytes = .error e := by
  cases h : parseRequest (Value.array vs).bytes with
  | error e => exact ⟨e, rfl⟩
  | ok r =>
    obtain ⟨rfl, -⟩ := (parseRequest_array_iff readable).mp h
    exact absurd rfl other

/-- A request is read from its own text, from an object of its fields in any order and from an array
of their values, if its arguments have at most 126 levels, and its own text is refused for its depth
otherwise. An object that lacks a field or has one twice is refused, and so is an array that is
shorter or longer. -/
theorem request_read_back (r : Request) (readable : r.argsValue.Readable) :
    r.ReadBack ∧
    (∀ es : List (String × Json.Value),
      (∀ e ∈ es, e.1 ∈ Request.fieldNames) → (∀ e ∈ es, e.2.Readable) →
      (∃ name ∈ Request.fieldNames, name ∉ es.map Prod.fst) ∨ ¬ (es.map Prod.fst).Nodup →
      ∃ e, Json.parseRequest (Json.Value.object es).bytes = .error e) ∧
    ∀ vs : List Json.Value, (∀ v ∈ vs, v.Readable) → vs.length ≠ 3 →
      ∃ e, Json.parseRequest (Json.Value.array vs).bytes = .error e := by
  refine ⟨Request.readBack readable, ?_, fun vs => Json.parseRequest_of_length⟩
  intro es keys readable other
  refine Json.parseRequest_of_keys keys readable fun all => ?_
  rcases other with ⟨name, field, missing⟩ | repeated
  · exact missing (all.mem_iff.mpr field)
  · exact repeated (all.nodup_iff.mpr (by decide))

theorem Sample.nestedCall_readable (n : Nat) : (nestedCall n).argsValue.Readable :=
  ⟨(nestedCall_plain n).1, (nestedCall_plain n).2.1⟩

/-- With 126 levels in the list of the arguments, the list counted, a request is read back in all of
its forms; with 127 it is refused. -/
theorem request_read_back_nested :
    (Json.parseRequest (Utf8.bytes (Sample.nestedCall 124).json) = .ok (Sample.nestedCall 124) ∧
      Json.parseRequest (Json.Value.object (Sample.nestedCall 124).entries.reverse).bytes =
        .ok (Sample.nestedCall 124) ∧
      Json.parseRequest (Json.Value.array (Sample.nestedCall 124).elements).bytes =
        .ok (Sample.nestedCall 124)) ∧
    (∃ column, Json.parseRequest (Utf8.bytes (Sample.nestedCall 125).json) =
      .error { cause := .tooDeep, position := { line := 1, column } }) ∧
    (∃ e, Json.parseRequest (Json.Value.object (Sample.nestedCall 124).entries.tail).bytes =
      .error e) ∧
    (∃ e, Json.parseRequest (Json.Value.array
      ((Sample.nestedCall 124).elements ++ [.null])).bytes = .error e) := by
  obtain ⟨back, other, lengths⟩ :=
    request_read_back (Sample.nestedCall 124) (Sample.nestedCall_readable 124)
  have fits : (Sample.nestedCall 124).argsValue.depth ≤ 126 :=
    Nat.le_of_eq (Sample.nestedCall_plain 124).2.2
  have deep : 126 < (Sample.nestedCall 125).argsValue.depth :=
    Nat.lt_of_lt_of_eq (by decide) (Sample.nestedCall_plain 125).2.2.symm
  have entries := Request.forall_mem_entries (Sample.nestedCall_readable 124)
  refine ⟨⟨back.own.mpr fits, back.anyOrder fits _ (List.reverse_perm _), back.array fits⟩,
    (request_read_back (Sample.nestedCall 125) (Sample.nestedCall_readable 125)).1.deep deep,
    ?_, ?_⟩
  · refine other _ (fun e he => (entries e (List.mem_of_mem_tail he)).1)
      (fun e he => (entries e (List.mem_of_mem_tail he)).2) (.inl ⟨"service_name", ?_, ?_⟩)
    · decide
    · decide
  · refine lengths _ ?_ (by decide)
    rw [List.forall_mem_append, List.forall_mem_singleton]
    exact ⟨Request.forall_mem_elements (Sample.nestedCall_readable 124), trivial,
      List.forall_mem_nil _⟩

end Switchboard
