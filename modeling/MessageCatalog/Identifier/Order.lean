import MessageCatalog.Identifier.Basic

/-!
# The order of identifiers

Identifiers are ordered as their canonical texts are, character by character.
-/

namespace MessageCatalog.Identifier

instance : Ord Identifier := ⟨fun left right => compare left.text right.text⟩

instance : LE Identifier := ⟨fun left right => left.text ≤ right.text⟩

instance : LT Identifier := ⟨fun left right => left.text < right.text⟩

instance (left right : Identifier) : Decidable (left ≤ right) :=
  inferInstanceAs (Decidable (left.text ≤ right.text))

instance (left right : Identifier) : Decidable (left < right) :=
  inferInstanceAs (Decidable (left.text < right.text))

theorem le_def {left right : Identifier} : left ≤ right ↔ left.text ≤ right.text := Iff.rfl

theorem lt_def {left right : Identifier} : left < right ↔ left.text < right.text := Iff.rfl

/-- Parses every candidate, or tells the place and the fault of the first that is no identifier. -/
def parseAllFrom (start : Nat) : List String → Except (Nat × IdentifierError) (List Identifier)
  | [] => .ok []
  | candidate :: rest =>
    match parse candidate with
    | .error cause => .error (start, cause)
    | .ok identifier =>
      match parseAllFrom (start + 1) rest with
      | .error failure => .error failure
      | .ok identifiers => .ok (identifier :: identifiers)

def parseAll (candidates : List String) : Except (Nat × IdentifierError) (List Identifier) :=
  parseAllFrom 0 candidates

/-- In ascending order, equal ones kept. -/
def sort (identifiers : List Identifier) : List Identifier :=
  identifiers.mergeSort fun left right => decide (left ≤ right)

/-- Each identifier once, where it first occurs. -/
def distinct (identifiers : List Identifier) : List Identifier := identifiers.eraseDups

theorem sort_perm (identifiers : List Identifier) : (sort identifiers).Perm identifiers :=
  List.mergeSort_perm _ _

end MessageCatalog.Identifier
