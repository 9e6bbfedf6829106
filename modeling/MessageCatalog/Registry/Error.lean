import MessageCatalog.Identifier.Basic
import MessageCatalog.Message.Kind

/-!
# Why a registration or a lookup fails
-/

namespace MessageCatalog

inductive RegisterError where
  | identifier (messageType : String) (source : IdentifierError)
  /-- The type refers to another one, which should be registered in its place. -/
  | receiverMismatch (messageType referent : String)
  /-- The type is bound to this very identifier. -/
  | alreadyRegistered (messageType : String) (identifier : Identifier)
  /-- The type is bound to another identifier. -/
  | typeConflict (messageType : String) (identifier existing : Identifier)
  /-- The identifier is bound to another type. -/
  | identifierConflict (messageType : String) (identifier : Identifier) (existing : String)
  deriving DecidableEq, Repr

namespace RegisterError

def messageType : RegisterError → String
  | identifier messageType _ => messageType
  | receiverMismatch messageType _ => messageType
  | alreadyRegistered messageType _ => messageType
  | typeConflict messageType _ _ => messageType
  | identifierConflict messageType _ _ => messageType

def message : RegisterError → String
  | identifier messageType source => "cannot register " ++ messageType ++ ": " ++ source.message
  | receiverMismatch messageType referent =>
    "cannot register " ++ messageType ++ ": it refers to " ++ referent ++
      ", which is already a message type by value; register " ++ referent ++ " instead"
  | alreadyRegistered messageType own =>
    messageType ++ " is already registered with identifier " ++ own.text
  | typeConflict messageType own existing =>
    "cannot register " ++ messageType ++ " with identifier " ++ own.text ++
      ": it is already registered with identifier " ++ existing.text
  | identifierConflict messageType own existing =>
    "cannot register " ++ messageType ++ " with identifier " ++ own.text ++
      ": the identifier is already bound to " ++ existing

/-- The messages of the errors behind this one, outermost first. -/
def causes : RegisterError → List String
  | identifier _ source => [source.message]
  | _ => []

end RegisterError

inductive LookupError where
  | notRegistered (messageType : String) (kind : MessageKind)
  deriving DecidableEq, Repr

namespace LookupError

def message : LookupError → String
  | notRegistered messageType kind =>
    messageType ++ " is not a registered " ++ kind.name ++ " type, did you forget to call " ++ kind.registerFunction ++ "()?"

end LookupError

end MessageCatalog
