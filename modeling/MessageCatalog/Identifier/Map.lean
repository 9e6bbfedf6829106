import MessageCatalog.Identifier.Basic
import Std.Data.HashMap

/-!
# Maps keyed by identifiers

The keys are identifiers, and a question is asked with a plain string: it is compared with the canonical texts and not normalized first.
-/

namespace MessageCatalog

structure IdentifierMap (α : Type) where
  entries : Std.HashMap String α := ∅

namespace IdentifierMap

variable {α : Type}

def empty : IdentifierMap α := {}

/-- An equal key takes the new value. -/
def insert (map : IdentifierMap α) (key : Identifier) (value : α) : IdentifierMap α :=
  ⟨map.entries.insert key.text value⟩

def find? (map : IdentifierMap α) (raw : String) : Option α := map.entries[raw]?

def size (map : IdentifierMap α) : Nat := map.entries.size

@[simp] theorem find?_empty (raw : String) : (empty : IdentifierMap α).find? raw = none := by
  simp [find?, empty]

theorem find?_insert (map : IdentifierMap α) (key : Identifier) (value : α) (raw : String) :
    (map.insert key value).find? raw = if key.text = raw then some value else map.find? raw := by
  simp [find?, insert, Std.HashMap.getElem?_insert]

@[simp] theorem size_empty : (empty : IdentifierMap α).size = 0 := by simp [size, empty]

theorem size_insert (map : IdentifierMap α) (key : Identifier) (value : α) :
    (map.insert key value).size = if map.find? key.text = none then map.size + 1 else map.size := by
  by_cases h : key.text ∈ map.entries <;> simp [size, insert, find?, Std.HashMap.size_insert, h]

/-- Binds each identifier to its place in the list. A later equal one takes the place over. -/
def ofPlaces (identifiers : List Identifier) : IdentifierMap Nat :=
  identifiers.zipIdx.foldl (fun map pair => map.insert pair.1 pair.2) empty

end IdentifierMap

end MessageCatalog
