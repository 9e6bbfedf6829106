import MessageCatalog.Registry.Basic

/-!
# Asking a registry

Every question is answered from the snapshot that is published when it is asked.
-/

namespace MessageCatalog

namespace Registry

def byType (type : NativeType) (registry : Registry) : Option Descriptor := registry.snapshot.findType? type

/-- Looks an identifier up in any letter case. Only a malformed one is an error. -/
def byIdentifier (identifier : String) (registry : Registry) : Except IdentifierError (Option Descriptor) :=
  match Identifier.parse identifier with
  | .error cause => .error cause
  | .ok identifier => .ok (registry.snapshot.findIdentifier? identifier.text)

/-- Looks a type up, and names the entry point of the kind when the type is not there. -/
def require (table : TypeTable) (type : NativeType) (kind : MessageKind) (registry : Registry) :
    Except LookupError Descriptor :=
  match registry.byType type with
  | some entry => .ok entry
  | none => .error (.notRegistered (table.name type) kind)

end Registry

end MessageCatalog
