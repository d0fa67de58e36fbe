import Switchboard.Keyed

/-!
# TOML values

A float is kept as it is written, so nothing is rounded. A date or a time is only known to be one.
A table has its entries in the order of their keys.
-/
namespace Switchboard.Toml

/-- A float: a sign and `significand · 10 ^ exponent`, or one of the two special values. -/
inductive Real where
  | finite (negative : Bool) (significand : Nat) (exponent : Int)
  | infinite (negative : Bool)
  | nan
  deriving DecidableEq

inductive Value where
  | string (cs : List Char)
  | integer (n : Int)
  | real (x : Real)
  | bool (b : Bool)
  | moment
  | array (items : List Value)
  | table (entries : List (String × Value))
  deriving Inhabited

/-- A text, a number or a table at the front of a text, and what follows it. -/
abbrev Reader (α : Type) := List Char → Option (α × List Char)

end Switchboard.Toml
