import MessageCatalog.Registry.Query

/-!
# Routes

A route tells how a handler relates to a message type: it handles or executes commands, handles or records events, or schedules timeouts. Routes are built from registered types only.
-/

namespace MessageCatalog

inductive RouteKind where
  | handlesCommand
  | executesCommand
  | handlesEvent
  | recordsEvent
  | schedulesTimeout
  deriving DecidableEq, Repr

namespace RouteKind

def messageKind : RouteKind → MessageKind
  | handlesCommand => .command
  | executesCommand => .command
  | handlesEvent => .event
  | recordsEvent => .event
  | schedulesTimeout => .timeout

def name : RouteKind → String
  | handlesCommand => "HandlesCommand"
  | executesCommand => "ExecutesCommand"
  | handlesEvent => "HandlesEvent"
  | recordsEvent => "RecordsEvent"
  | schedulesTimeout => "SchedulesTimeout"

end RouteKind

structure Route where
  kind : RouteKind
  messageType : Descriptor
  deriving DecidableEq, Repr

namespace Route

def build (table : TypeTable) (registry : Registry) (kind : RouteKind) (type : NativeType) : Except LookupError Route :=
  match registry.require table type kind.messageKind with
  | .ok entry => .ok ⟨kind, entry⟩
  | .error error => .error error

def messageKind (route : Route) : MessageKind := route.kind.messageKind

def display (route : Route) : String := route.kind.name ++ "(" ++ route.messageType.display ++ ")"

end Route

end MessageCatalog
