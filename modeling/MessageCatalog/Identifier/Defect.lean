import MessageCatalog.Text.Quoted

/-!
# What can be wrong with an identifier

A candidate is refused for the first defect of its spelling, or because it spells the nil value, which is reserved.
-/

namespace MessageCatalog

inductive Defect where
  | length (actual : Nat)
  | separator (position : Nat) (found : Char)
  | digit (position : Nat) (found : Char)
  deriving DecidableEq, Repr

namespace Defect

/-- Where the offending character stands. A wrong length stands nowhere. -/
def position? : Defect → Option Nat
  | length _ => none
  | separator position _ => some position
  | digit position _ => some position

def found? : Defect → Option Char
  | length _ => none
  | separator _ found => some found
  | digit _ found => some found

def message : Defect → String
  | length actual => "expected 36 characters, got " ++ toString actual
  | separator position found =>
    "expected '-' at position " ++ toString position ++ ", found " ++ Text.quotedChar found
  | digit position found =>
    "expected a hex digit at position " ++ toString position ++ ", found " ++ Text.quotedChar found

end Defect

/-- Why a candidate is no identifier. Each cause carries the candidate as it was given. -/
inductive IdentifierError where
  | malformed (candidate : String) (defect : Defect)
  | reserved (candidate : String)
  deriving DecidableEq, Repr

namespace IdentifierError

def candidate : IdentifierError → String
  | malformed candidate _ => candidate
  | reserved candidate => candidate

def message : IdentifierError → String
  | malformed candidate defect => "malformed identifier " ++ Text.quoted candidate ++ ": " ++ defect.message
  | reserved candidate => "identifier " ++ Text.quoted candidate ++ " is the reserved nil UUID"

end IdentifierError

end MessageCatalog
