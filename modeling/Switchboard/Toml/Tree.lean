import Switchboard.Toml.Value

/-!
# Tables under construction

The tables of a document grow line by line, and what may still be added to a table depends on how it
came to be. `Node` keeps that; `Node.close` forgets it.

* A table named by a header can be named only once, and no dotted key may reach into it.
* A table that only stands on the way to another may still get its own header.
* A table that comes from a dotted key may get more dotted keys but no header.
* A value, also an array or table written as one, cannot be extended.
-/
namespace Switchboard.Toml

/-- How a table came to be. -/
inductive Origin where
  | header
  | onTheWay
  | dottedKey
  deriving DecidableEq

/-- A value, a table that may grow, or an array of tables of which the last may grow. -/
inductive Node where
  | value (v : Value)
  | table (origin : Origin) (entries : List (String × Node))
  | tables (earlier : List Value) (last : List (String × Node))

/-- The entries of a table that may grow. -/
abbrev Entries := List (String × Node)

mutual

/-- The value that a node has become. -/
def Node.close : Node → Value
  | .value v => v
  | .table _ entries => .table (closeAll entries)
  | .tables earlier last => .array (earlier ++ [.table (closeAll last)])

/-- The values that the entries of a table have become. -/
def closeAll : List (String × Node) → List (String × Value)
  | [] => []
  | (k, n) :: es => (k, n.close) :: closeAll es

end

/-- Changes the table to which a path leads. Tables that are missing on the way are created: for a
dotted key as its own, which then may not lead through a table with a header. -/
def update (dotted : Bool) (change : Origin → Entries → Option Entries) :
    List String → Origin → Entries → Option Entries
  | [], origin, es => change origin es
  | k :: ks, _, es =>
    match Keyed.get? k es with
    | none => do
      let origin := if dotted then .dottedKey else .onTheWay
      let sub ← update dotted change ks origin []
      return Keyed.insert k (.table origin sub) es
    | some (.table origin sub) =>
      if dotted && origin = .header then none
      else do
        let sub ← update dotted change ks origin sub
        return Keyed.insert k (.table origin sub) es
    | some (.tables earlier last) => do
      let last ← update dotted change ks .header last
      return Keyed.insert k (.tables earlier last) es
    | some (.value _) => none

/-- Adds a value under a key of a table. The table that holds it comes from the table itself or from
dotted keys alone. -/
def addValue (path : List String) (name : String) (v : Value) (es : Entries) : Option Entries :=
  let change (origin : Origin) (es : Entries) : Option Entries :=
    if path.isEmpty || origin = .dottedKey then
      match Keyed.get? name es with
      | none => some (Keyed.insert name (.value v) es)
      | some _ => none
    else none
  update true change path .header es

/-- Adds the table that a header names. -/
def addTable (path : List String) (name : String) (es : Entries) : Option Entries :=
  let change (_ : Origin) (es : Entries) : Option Entries :=
    match Keyed.get? name es with
    | none => some (Keyed.insert name (.table .header []) es)
    | some (.table .onTheWay sub) => some (Keyed.insert name (.table .header sub) es)
    | some _ => none
  update false change path .header es

/-- Adds one more table to the array that a header names. -/
def addToTables (path : List String) (name : String) (es : Entries) : Option Entries :=
  let change (_ : Origin) (es : Entries) : Option Entries :=
    match Keyed.get? name es with
    | none => some (Keyed.insert name (.tables [] []) es)
    | some (.tables earlier last) =>
      some (Keyed.insert name (.tables (earlier ++ [.table (closeAll last)]) []) es)
    | some _ => none
  update false change path .header es

end Switchboard.Toml
