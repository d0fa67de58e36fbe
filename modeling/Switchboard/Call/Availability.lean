/-!
# Availability

The result of looking once for something that may not be there: the thing, or the reason why not
(specification, §9 and E2).
-/
namespace Switchboard

inductive Availability (α : Type) where
  | available (value : α)
  | unavailable (reason : String)
  deriving DecidableEq

namespace Availability

variable {α β : Type}

def isAvailable : Availability α → Bool
  | available _ => true
  | unavailable _ => false

def toOption : Availability α → Option α
  | available a => some a
  | unavailable _ => none

def reason? : Availability α → Option String
  | available _ => none
  | unavailable r => some r

def map (f : α → β) : Availability α → Availability β
  | available a => available (f a)
  | unavailable r => unavailable r

end Availability

end Switchboard
