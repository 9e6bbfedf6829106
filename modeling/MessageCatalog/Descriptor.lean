import MessageCatalog.Identifier.Basic
import MessageCatalog.Message.NativeType

/-!
# Descriptors

What the registry keeps of a message type: its identifier, the token of the native type, and the zero value that fresh instances start from.
-/

namespace MessageCatalog

structure Descriptor where
  identifier : Identifier
  token : TypeToken
  zero : Instance
  deriving DecidableEq, Repr

namespace Descriptor

/-- The descriptor that binds a type to an identifier. -/
def of (table : TypeTable) (type : NativeType) (identifier : Identifier) : Descriptor where
  identifier := identifier
  token := TypeToken.of table type
  zero := Instance.zero table type

def type (entry : Descriptor) : NativeType := entry.token.id

def name (entry : Descriptor) : String := entry.token.name

def isOf (table : TypeTable) (type : NativeType) (entry : Descriptor) : Bool :=
  entry.token == TypeToken.of table type

def newInstance (entry : Descriptor) : Instance := entry.zero

def newInstanceOf (table : TypeTable) (type : NativeType) (entry : Descriptor) : Option Instance :=
  if entry.isOf table type then entry.newInstance.cast? type else none

/-- The name of the type, then the identifier. -/
def display (entry : Descriptor) : String := entry.name ++ " (" ++ entry.identifier.text ++ ")"

/-- The text that names the fields, as diagnostics show it. -/
def describe (entry : Descriptor) : String :=
  "MessageType \x7b identifier: " ++ entry.identifier.describe ++ ", type: " ++ entry.name ++ " \x7d"

@[simp] theorem type_of (table : TypeTable) (type : NativeType) (identifier : Identifier) :
    (of table type identifier).type = type := rfl

@[simp] theorem identifier_of (table : TypeTable) (type : NativeType) (identifier : Identifier) :
    (of table type identifier).identifier = identifier := rfl

@[simp] theorem name_of (table : TypeTable) (type : NativeType) (identifier : Identifier) :
    (of table type identifier).name = table.name type := rfl

@[simp] theorem isOf_iff {table : TypeTable} {type : NativeType} {entry : Descriptor} :
    entry.isOf table type = true ↔ entry.type = type := by
  simp [isOf, Descriptor.type, TypeToken.of]

end Descriptor

end MessageCatalog
