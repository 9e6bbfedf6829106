/-!
# Native types

The identity of a type, apart from its name: two types may be called alike. A message type is held by value, or it is a box or a shared handle around another type and refers to that type. A `TypeTable` says what the types are called and how their zero values print.
-/

namespace MessageCatalog

inductive NativeType where
  | value (index : Nat)
  | boxed (inner : NativeType)
  | shared (inner : NativeType)
  deriving DecidableEq, Hashable, Repr

namespace NativeType

/-- The type that a box or a shared handle refers to. Only the outermost one is opened. -/
def referent? : NativeType → Option NativeType
  | value _ => none
  | boxed inner => some inner
  | shared inner => some inner

def IsValue (type : NativeType) : Prop := type.referent? = none

instance (type : NativeType) : Decidable type.IsValue := inferInstanceAs (Decidable (_ = none))

theorem isValue_iff {type : NativeType} : type.IsValue ↔ ∃ index, type = value index := by
  cases type <;> simp [IsValue, referent?]

end NativeType

/-- What an application knows of its types beyond their identity. -/
structure TypeTable where
  name : NativeType → String
  zeroText : NativeType → String

/-- A type as the registry speaks of it: its identity, and the name that goes into texts. -/
structure TypeToken where
  id : NativeType
  name : String
  deriving DecidableEq, Repr

namespace TypeToken

def of (table : TypeTable) (type : NativeType) : TypeToken := ⟨type, table.name type⟩

/-- Tokens are the same when their identities are, whatever their names. -/
instance : BEq TypeToken := ⟨fun left right => left.id == right.id⟩

instance : Hashable TypeToken := ⟨fun token => hash token.id⟩

@[simp] theorem beq_iff_id {left right : TypeToken} : (left == right) = true ↔ left.id = right.id := by
  show (left.id == right.id) = true ↔ _
  simp

end TypeToken

structure Instance where
  type : NativeType
  text : String
  deriving DecidableEq, Repr

namespace Instance

def zero (table : TypeTable) (type : NativeType) : Instance := ⟨type, table.zeroText type⟩

def cast? (target : NativeType) (value : Instance) : Option Instance :=
  if value.type = target then some value else none

end Instance

end MessageCatalog
