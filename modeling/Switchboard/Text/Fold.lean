/-!
# Lower case

Names that are compared without regard to case are ASCII. A text equals such a name in lower
case exactly when each of its characters has the name's character as its lower case, and
beyond ASCII only the Kelvin sign has an ASCII letter as its lower case. So `lower` maps the
capitals of ASCII and the Kelvin sign, and leaves every other character as it is.
-/
namespace Switchboard.Text

/-- The lower case of a character, where that is an ASCII letter. -/
def lowerChar (c : Char) : Char :=
  if c = '\u212A' then 'k' else c.toLower

/-- A text with `lowerChar` applied throughout. -/
def lower (s : String) : String := String.ofList (s.toList.map lowerChar)

end Switchboard.Text
