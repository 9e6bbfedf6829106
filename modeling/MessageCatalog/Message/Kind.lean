/-!
# Message kinds

A message is a command, an event or a timeout. The kind decides which entry point an application calls and which routes it may build; the registry itself never looks at it.
-/

namespace MessageCatalog

inductive MessageKind where
  | command
  | event
  | timeout
  deriving DecidableEq, Repr, Hashable

namespace MessageKind

def name : MessageKind → String
  | command => "command"
  | event => "event"
  | timeout => "timeout"

def registerFunction (kind : MessageKind) : String := "register_" ++ kind.name

end MessageKind

end MessageCatalog
