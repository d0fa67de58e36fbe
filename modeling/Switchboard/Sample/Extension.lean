import Switchboard.Native.Library
import Switchboard.Text.Hex
import Switchboard.Text.Split

/-!
# A sample extension

An extension whose functions show what crosses the boundary: they give back the argument list, the
service's name, the number of calls, a chosen text or a chosen status. It has a complete set of
symbols under three prefixes, one whose runtime is null, and four incomplete sets. `files` is the
directory in which it lies, beside two files that are no libraries.
-/
namespace Switchboard.Sample

open Native (Image Library Return beforeNul)

def textWith (status : Int) (text : List UInt8) : Return := ⟨status, some (text ++ [0])⟩

/-- What follows a marker at the front of a name. -/
def after? (marker name : String) : Option (List Char) :=
  if marker.toList.isPrefixOf name.toList then some (name.toList.drop marker.length) else none

def leadingNumber (text : List Char) : Nat :=
  (text.takeWhile Char.isDigit).foldl (fun n c => 10 * n + (c.toNat - 48)) 0

/-- The whole number at the front of a text, which may have a sign. -/
def status : List Char → Int
  | '-' :: text => -leadingNumber text
  | '+' :: text => leadingNumber text
  | text => leadingNumber text

/-- The answer of the extension to its call number `count`. -/
def respond (count : Nat) (service function args : List UInt8) : Return :=
  let name := Utf8.textLossy function
  if name = "ok" then textWith 0 args
  else if name = "svc" then textWith 0 service
  else if name = "count" then textWith 0 (Utf8.bytes count.repr)
  else if name = "len" then textWith 0 (Utf8.bytes args.length.repr)
  else if let some text := after? "raw:" name then textWith 0 (Utf8.encode text)
  else if let some digits := after? "hex:" name then textWith 0 (Text.hexBytes digits)
  else if let some digits := after? "null:" name then ⟨status digits, none⟩
  else if let some rest := after? "fail:" name then
    let digits := rest.takeWhile (· != ':')
    textWith (status digits) (Utf8.encode (rest.drop (digits.length + 1)))
  else textWith 1 (Utf8.bytes ("unknown function: " ++ name))

def symbols : List String :=
  let all := Native.functionNames
  let under (start : String) (names : List String) := names.map (start ++ ·)
  under "svcbridge_" all ++ under "alt_" all ++ all ++ under "nullrt_" all ++
    under "p1_" (all.take 1) ++ under "p2_" (all.take 2) ++ under "p3_" (all.take 3) ++
    under "q1_" (all.drop 1)

/-- The extension. The state of a runtime is the number of calls so far. -/
def extension : Library Nat where
  exports symbol := symbols.contains symbol
  newRuntime symbol := if symbol = "nullrt_runtime_new" then none else some 0
  call _ calls service function args :=
    (respond (calls + 1) (beforeNul service) (beforeNul function) (beforeNul args), calls + 1)

/-- A place that a path can lead to: the directory of the extension, the one around it, or a
file. -/
inductive Place where
  | directory
  | around
  | file (image : Image Nat)

def directoryName : String := "ext"

/-- One step along a path. A file has nothing below it, and an empty name stays in a directory. -/
def Place.enter : Place → String → Option Place
  | directory, name =>
    if name = "" ∨ name = "." then some directory
    else if name = ".." then some around
    else if name = "libext.so" then some (file (.library extension))
    else if name = "garbage.so" then some (file (.unloadable "invalid ELF header"))
    else if name = "empty.so" then some (file (.unloadable "file too short"))
    else none
  | around, name =>
    if name = "" ∨ name = "." then some around
    else if name = directoryName then some directory
    else none
  | file _, _ => none

def Place.image : Place → Image Nat
  | file image => image
  | _ => .unloadable "cannot read file data: Is a directory"

/-- The files in the directory that has the given path. Every other path leads nowhere. -/
def files (directory : String) : Native.Disk Nat := fun path =>
  match after? directory path with
  | none => .absent
  | some rest =>
    match Text.split (· == '/') rest with
    | [] :: names =>
      let place := names.foldlM (fun p name => p.enter (String.ofList name)) Place.directory
      (place.map Place.image).getD .absent
    | _ => .absent

end Switchboard.Sample
