import Switchboard.Toml.Numeral

/-!
# Dates and times

A date with a time behind it or without, or a time alone. A date has to be in the calendar.
`readMoment` answers with nothing for a text that does not start like one, and otherwise with what
follows the moment, unless that is malformed.
-/
namespace Switchboard.Toml

/-- A number of exactly so many digits. -/
def readFixed (count : Nat) : Reader Nat := fun text =>
  let digits := text.take count
  if digits.length = count && digits.all (fun c => (digit? 10 c).isSome) then
    some (valueOf 10 (digits.filterMap (digit? 10)), text.drop count)
  else none

/-- A text behind a character that has to come first. -/
def expect (c : Char) : List Char → Option (List Char)
  | d :: r => if d = c then some r else none
  | [] => none

/-- A number of two digits between bounds. -/
def readPart (low high : Nat) : Reader Nat := fun text => do
  let (n, r) ← readFixed 2 text
  if low ≤ n && n ≤ high then some (n, r) else none

def daysIn (year month : Nat) : Nat :=
  if month = 2 then
    if year % 4 = 0 && (year % 100 != 0 || year % 400 = 0) then 29 else 28
  else if month = 4 || month = 6 || month = 9 || month = 11 then 30
  else 31

/-- A text behind the rest of a date, whose year and first hyphen have been read. -/
def restOfDate (year : Nat) (text : List Char) : Option (List Char) := do
  let (month, r) ← readPart 1 12 text
  let r ← expect '-' r
  let (_, r) ← readPart 1 (daysIn year month) r
  return r

/-- A text behind a fraction of a second, if there is one. -/
def skipFraction (text : List Char) : List Char :=
  match text with
  | '.' :: c :: r =>
    if (digit? 10 c).isSome then r.dropWhile (fun c => (digit? 10 c).isSome) else text
  | _ => text

/-- A text behind the rest of a time, whose hour and first colon have been read. -/
def restOfTime (text : List Char) : Option (List Char) := do
  let (_, r) ← readPart 0 59 text
  let r ← expect ':' r
  let (_, r) ← readPart 0 60 r
  return skipFraction r

/-- A text behind the distance from universal time, if there is one. -/
def restOfOffset : List Char → Option (List Char)
  | [] => some []
  | c :: r =>
    if c = 'Z' || c = 'z' then some r
    else if c = '+' || c = '-' then do
      let (_, r) ← readPart 0 23 r
      let r ← expect ':' r
      let (_, r) ← readPart 0 59 r
      return r
    else some (c :: r)

/-- What follows the hour and the colon of a time. -/
def hourThenColon (text : List Char) : Option (List Char) := do
  let (_, r) ← readPart 0 23 text
  expect ':' r

/-- A text behind the time that may follow a date. -/
def restAfterDate (text : List Char) : Option (List Char) :=
  match text with
  | c :: r =>
    if c = 'T' || c = 't' || c = ' ' then
      match hourThenColon r with
      | some r => (restOfTime r).bind restOfOffset
      | none => some text
    else some text
  | [] => some []

/-- Whether a text starts like a date or a time, and then what follows it. -/
def readMoment (text : List Char) : Option (Option (List Char)) :=
  match readFixed 4 text with
  | some (year, '-' :: r) => some ((restOfDate year r).bind restAfterDate)
  | _ => (hourThenColon text).map restOfTime

end Switchboard.Toml
