import MessageCatalog.Registry.Error

/-!
# The registry's journal

What a registry reports of its work. An event has a level, a message and named fields; the label of the registry is always the first of them.
-/

namespace MessageCatalog

inductive Level where
  | trace
  | debug
  | warn
  deriving DecidableEq, Repr

def Level.name : Level → String
  | .trace => "TRACE"
  | .debug => "DEBUG"
  | .warn => "WARN"

inductive FieldValue where
  | text (value : String)
  | number (value : Nat)
  deriving DecidableEq, Repr

inductive Event where
  /-- A type was registered as the `length`-th, after so many lost races. -/
  | registered (registry : String) (identifier : Identifier) (messageType : String) (length retries : Nat)
  /-- Another registration came first: the attempt of this number begins. -/
  | retrying (registry : String) (identifier : Identifier) (attempt : Nat)
  | rejected (registry : String) (kind : MessageKind) (error : RegisterError)
  /-- A declared type is about to be registered. The identifier is as declared. -/
  | declaring (registry : String) (identifier : String) (kind : MessageKind) (package : String)
  | declared (registry : String) (count : Nat)
  deriving DecidableEq, Repr

namespace Event

def level : Event → Level
  | registered .. => .debug
  | retrying .. => .trace
  | rejected .. => .warn
  | declaring .. => .trace
  | declared .. => .debug

def message : Event → String
  | registered .. => "message type registered"
  | retrying .. => "snapshot changed during registration, retrying"
  | rejected .. => "message type rejected"
  | declaring .. => "registering declared message type"
  | declared .. => "declared message types registered"

def fields : Event → List (String × FieldValue)
  | registered registry identifier messageType length retries =>
    [("registry", .text registry), ("identifier", .text identifier.text), ("message_type", .text messageType),
      ("len", .number length), ("retries", .number retries)]
  | retrying registry identifier attempt =>
    [("registry", .text registry), ("identifier", .text identifier.text), ("attempt", .number attempt)]
  | rejected registry kind error =>
    [("registry", .text registry), ("kind", .text kind.name), ("error", .text error.message)]
  | declaring registry identifier kind package =>
    [("registry", .text registry), ("identifier", .text identifier), ("kind", .text kind.name),
      ("crate_name", .text package)]
  | declared registry count => [("registry", .text registry), ("count", .number count)]

end Event

end MessageCatalog
