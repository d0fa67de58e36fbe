import Switchboard.Toml.Value

/-!
# Blanks, line ends and comments

A line ends with a line feed, which may have a carriage return before it. A comment may have every
character but the control characters other than the tab, and so may a quoted text.
-/
namespace Switchboard.Toml

/-- Whether a character is a blank inside a line. -/
def isBlank (c : Char) : Bool := c == ' ' || c == '\t'

/-- Whether a character may stand in a comment or in a quoted text. -/
def isPlain (c : Char) : Bool := c == '\t' || (0x20 ≤ c.toNat && c.toNat != 0x7F)

/-- A text without the blanks in front. -/
def skipBlank (text : List Char) : List Char := text.dropWhile isBlank

/-- A text behind the line end in front. -/
def lineEnd? : List Char → Option (List Char)
  | '\n' :: r => some r
  | '\r' :: '\n' :: r => some r
  | _ => none

/-- A text without the comment in front, if there is one. -/
def skipComment : List Char → List Char
  | '#' :: r => r.dropWhile isPlain
  | text => text

/-- A text behind the end of the present line, which may have blanks and a comment before it. -/
def restOfLine (text : List Char) : Option (List Char) :=
  match skipComment (skipBlank text) with
  | [] => some []
  | rest => lineEnd? rest

/-- A text without the blanks and line ends in front. -/
def skipLines : List Char → List Char
  | '\r' :: '\n' :: r => skipLines r
  | c :: r => if isBlank c || c == '\n' then skipLines r else c :: r
  | [] => []

/-- A text without the blanks, line ends and comments in front, where `inComment` says whether it
starts within a comment. -/
def skipLayout (inComment : Bool) : List Char → List Char
  | '\r' :: '\n' :: r => skipLayout false r
  | c :: r =>
    if c == '\n' then skipLayout false r
    else if inComment && isPlain c then skipLayout true r
    else if !inComment && isBlank c then skipLayout false r
    else if !inComment && c == '#' then skipLayout true r
    else c :: r
  | [] => []

end Switchboard.Toml
