import Switchboard.Toml.Key
import Switchboard.Toml.Moment
import Switchboard.Toml.Tree

/-!
# Reading TOML

A document is a list of lines: a header, a key with its value, or neither. `parse` gives the table
that it describes, or nothing if it is not well formed.
-/
namespace Switchboard.Toml

/-- The elements of an array, behind its bracket. A comma may stand behind the last one. -/
def readItems (item : Reader Value) : (fuel : Nat) → Reader (List Value)
  | 0, _ => none
  | n + 1, text =>
    match skipLayout false text with
    | ']' :: r => some ([], r)
    | text => do
      let (v, r) ← item text
      match skipLayout false r with
      | ',' :: r => do
        let (vs, r) ← readItems item n r
        return (v :: vs, r)
      | ']' :: r => return ([v], r)
      | _ => none

/-- A key, an equals sign and the value behind it. -/
def readPair (item : Reader Value) (fuel : Nat) : Reader ((List String × String) × Value) :=
  fun text => do
    let (key, r) ← readKey fuel text
    let r ← expect '=' r
    let (v, r) ← item (skipBlank r)
    return ((key, v), r)

/-- One or more pairs of a table written as a value. -/
def readMorePairs (item : Reader Value) : (fuel : Nat) → Entries → Reader Entries
  | 0, _, _ => none
  | n + 1, es, text => do
    let (((path, name), v), r) ← readPair item (n + 1) text
    let es ← addValue path name v es
    match skipBlank r with
    | ',' :: r => readMorePairs item n es r
    | '}' :: r => return (es, r)
    | _ => none

/-- The pairs of a table written as a value, behind its brace. -/
def readPairs (item : Reader Value) (fuel : Nat) : Reader Entries := fun text =>
  match skipBlank text with
  | '}' :: r => some ([], r)
  | _ => readMorePairs item fuel [] text

def readDigital : Reader Value := fun text =>
  match readMoment text with
  | some rest => rest.map fun r => (.moment, r)
  | none => readNumber text

/-- A value, of which at most `levels` arrays and tables enclose one another. -/
def readValue (fuel : Nat) : (levels : Nat) → Reader Value
  | _, [] => none
  | levels, c :: r =>
    if c = '\x22' then (readString fuel .basic (c :: r)).map fun (cs, r) => (.string cs, r)
    else if c = '\x27' then (readString fuel .literal (c :: r)).map fun (cs, r) => (.string cs, r)
    else if c = '[' then
      match levels with
      | 0 => none
      | n + 1 => (readItems (readValue fuel n) fuel r).map fun (vs, r) => (.array vs, r)
    else if c = '{' then
      match levels with
      | 0 => none
      | n + 1 => (readPairs (readValue fuel n) fuel r).map fun (es, r) => (.table (closeAll es), r)
    else if c = 't' then
      match r with
      | 'r' :: 'u' :: 'e' :: r => some (.bool true, r)
      | _ => none
    else if c = 'f' then
      match r with
      | 'a' :: 'l' :: 's' :: 'e' :: r => some (.bool false, r)
      | _ => none
    else readDigital (c :: r)

/-- A document as far as it has been read: its tables, and the path to the present one. -/
structure Draft where
  tables : Entries := []
  path : List String := []

/-- The draft after a header behind its opening bracket, and what follows the line. -/
def readHeader (fuel : Nat) (d : Draft) (text : List Char) : Option (Draft × List Char) :=
  match text with
  | '[' :: r => do
    let ((path, name), r) ← readKey fuel r
    let r ← expect ']' r
    let r ← expect ']' r
    let r ← restOfLine r
    let tables ← addToTables path name d.tables
    return ({ tables, path := path ++ [name] }, r)
  | r => do
    let ((path, name), r) ← readKey fuel r
    let r ← expect ']' r
    let r ← restOfLine r
    let tables ← addTable path name d.tables
    return ({ tables, path := path ++ [name] }, r)

/-- The draft after a key and its value, and what follows the line. -/
def readSetting (fuel : Nat) (d : Draft) (text : List Char) : Option (Draft × List Char) := do
  let (((path, name), v), r) ← readPair (readValue fuel (maxDepth - 1)) fuel text
  let r ← restOfLine r
  let tables ← update false (fun _ es => addValue path name v es) d.path .header d.tables
  return ({ d with tables }, r)

/-- The tables of a document from a draft on. -/
def readLines : (fuel : Nat) → Draft → List Char → Option Entries
  | 0, _, _ => none
  | n + 1, d, text =>
    match skipBlank text with
    | [] => some d.tables
    | c :: r =>
      if c = '#' || c = '\n' || c = '\r' then do
        let rest ← restOfLine (c :: r)
        readLines n d rest
      else do
        let (d, rest) ← if c = '[' then readHeader (n + 1) d r else readSetting (n + 1) d (c :: r)
        readLines n d rest

/-- A document without the mark that says it is in UTF-8. -/
def skipByteOrderMark : List Char → List Char
  | '\uFEFF' :: r => r
  | text => text

/-- The entries of the table that a document describes. -/
def parse (document : String) : Option (List (String × Value)) :=
  let text := skipByteOrderMark document.toList
  (readLines (text.length + 1) {} text).map closeAll

end Switchboard.Toml
