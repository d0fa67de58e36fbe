import Switchboard.Text.Hex
import Switchboard.Toml.Blank

/-!
# Quoted texts

A text between single quotes stands for itself; between double quotes a backslash starts an escape.
Three quotes on each side make a text that may go over several lines. In it a line end is a line
feed, one right behind the opening quotes counts for nothing, and up to two quotes may stand right
before the closing ones. Between triple double quotes a backslash at the end of a line removes the
line end and all blanks and line ends behind it.
-/
namespace Switchboard.Toml

/-- The character with the code that so many digits in front of a text give. -/
def readCode (count : Nat) : Reader Char := fun text =>
  let digits := text.take count
  if digits.length = count && digits.all (fun c => (Text.hexValue? c).isSome) then
    let code := digits.foldl (fun n c => 16 * n + (Text.hexValue? c).getD 0) 0
    if h : code.isValidChar then some (Char.ofNatAux code h, text.drop count) else none
  else none

/-- The character that an escape stands for, behind its backslash. -/
def readEscape : Reader Char
  | 'b' :: r => some ('\x08', r)
  | 't' :: r => some ('\t', r)
  | 'n' :: r => some ('\n', r)
  | 'f' :: r => some ('\x0c', r)
  | 'r' :: r => some ('\r', r)
  | '\x22' :: r => some ('\x22', r)
  | '\\' :: r => some ('\\', r)
  | 'u' :: r => readCode 4 r
  | 'U' :: r => readCode 8 r
  | _ => none

inductive Quote where
  /-- A single quote, without escapes. -/
  | literal
  /-- A double quote, with escapes. -/
  | basic
  deriving DecidableEq

def Quote.char : Quote → Char
  | literal => '\x27'
  | basic => '\x22'

/-- A text on one line, behind its opening quote. -/
def readLineText (q : Quote) : (fuel : Nat) → Reader (List Char)
  | 0, _ => none
  | _, [] => none
  | n + 1, c :: r =>
    if c = q.char then some ([], r)
    else if c = '\\' && q = .basic then do
      let (e, r) ← readEscape r
      let (cs, r) ← readLineText q n r
      return (e :: cs, r)
    else if isPlain c then do
      let (cs, r) ← readLineText q n r
      return (c :: cs, r)
    else none

/-- A text behind a backslash at the end of a line, without the blanks and line ends that it
removes. -/
def joinedLine? (text : List Char) : Option (List Char) :=
  (lineEnd? (skipBlank text)).map skipLines

/-- A text over several lines, behind its opening quotes. -/
def readLinesText (q : Quote) : (fuel : Nat) → Reader (List Char)
  | 0, _ => none
  | _, [] => none
  | n + 1, c :: r =>
    if c = q.char then
      let quotes := (c :: r).takeWhile (· = q.char)
      if quotes.length < 3 then do
        let (cs, r) ← readLinesText q n r
        return (c :: cs, r)
      else
        let inside := min quotes.length 5 - 3
        some (List.replicate inside c, (c :: r).drop (inside + 3))
    else if c = '\\' && q = .basic then
      match joinedLine? r with
      | some r => readLinesText q n r
      | none => do
        let (e, r) ← readEscape r
        let (cs, r) ← readLinesText q n r
        return (e :: cs, r)
    else
      match lineEnd? (c :: r) with
      | some r => do
        let (cs, r) ← readLinesText q n r
        return ('\n' :: cs, r)
      | none =>
        if isPlain c then do
          let (cs, r) ← readLinesText q n r
          return (c :: cs, r)
        else none

def readQuoted (fuel : Nat) : Reader (List Char)
  | '\x27' :: r => readLineText .literal fuel r
  | '\x22' :: r => readLineText .basic fuel r
  | _ => none

/-- A quoted text of either length, behind a first quote that says its kind. -/
def readString (fuel : Nat) (q : Quote) : Reader (List Char) := fun text =>
  match text with
  | a :: b :: c :: r =>
    if a = q.char && b = q.char && c = q.char then
      readLinesText q fuel ((lineEnd? r).getD r)
    else readQuoted fuel text
  | _ => readQuoted fuel text

end Switchboard.Toml
