import MessageCatalog.Concurrent
import MessageCatalog.Route

/-!
# A client of a registry

What an application does with a registry, one act after another: it makes calls, builds routes, takes guards and enumerates them, and uses descriptors. A client keeps every guard that it has taken and every descriptor that it was handed, and may come back to them at any later moment.
-/

namespace MessageCatalog

inductive Act where
  | call (call : Call)
  | route (kind : RouteKind) (type : NativeType)
  /-- Takes a guard. -/
  | pin
  /-- Enumerates a guard up to so many descriptors. Guards are numbered in the order in which they were taken. -/
  | enumerate (guard : Nat) (via : Traversal) (count : Nat)
  /-- Asks a descriptor whether it is that of the type. Descriptors are numbered in the order in which they were handed out. -/
  | isOf (entry : Nat) (type : NativeType)
  | newInstance (entry : Nat)
  | newInstanceOf (entry : Nat) (type : NativeType)
  deriving DecidableEq, Repr

inductive Reply where
  | answered (answer : Answer)
  | routed (result : Except LookupError Route)
  | pinned (size : Nat)
  | enumerated (entries : List Descriptor)
  | decided (value : Bool)
  | instantiated (value? : Option Instance)
  /-- There is no guard or no descriptor of that number. -/
  | absent

def Answer.descriptors : Answer → List Descriptor
  | registered result => result.toOption.toList
  | declared _ => []
  | found found? => found?.toList
  | identified result => result.toOption.join.toList
  | required result => result.toOption.toList
  | enumerated entries => entries
  | counted _ => []
  | decided _ => []

/-- The descriptors that are handed out with the reply. -/
def Reply.descriptors : Reply → List Descriptor
  | answered answer => answer.descriptors
  | routed result => (result.toOption.map Route.messageType).toList
  | pinned _ => []
  | enumerated entries => entries
  | decided _ => []
  | instantiated _ => []
  | absent => []

structure Client where
  registry : Registry
  guards : List SnapshotGuard := []
  /-- The descriptors that were handed out so far, oldest first. -/
  held : List Descriptor := []

namespace Client

/-- Applies a question to the descriptor of a number. -/
def ask (client : Client) (entry : Nat) (question : Descriptor → Reply) : Reply :=
  match client.held[entry]? with
  | none => .absent
  | some entry => question entry

def perform (table : TypeTable) (client : Client) : Act → Reply × Client
  | .call call =>
    let (answer, registry) := call.answer table client.registry
    (.answered answer, { client with registry })
  | .route kind type => (.routed (Route.build table client.registry kind type), client)
  | .pin => (.pinned client.registry.guard.size, { client with guards := client.guards ++ [client.registry.guard] })
  | .enumerate guard via count =>
    match client.guards[guard]? with
    | none => (.absent, client)
    | some guard => (.enumerated ((guard.walk via).draw count).1, client)
  | .isOf entry type => (client.ask entry fun entry => .decided (entry.isOf table type), client)
  | .newInstance entry => (client.ask entry fun entry => .instantiated (some entry.newInstance), client)
  | .newInstanceOf entry type => (client.ask entry fun entry => .instantiated (entry.newInstanceOf table type), client)

/-- Performs the act and keeps the descriptors that come with the reply. -/
def step (table : TypeTable) (client : Client) (act : Act) : Reply × Client :=
  let (reply, client) := client.perform table act
  (reply, { client with held := client.held ++ reply.descriptors })

/-- The replies to acts made one after another, each with the client as it is then. -/
def trace (table : TypeTable) (client : Client) : List Act → List (Reply × Client)
  | [] => []
  | act :: acts => client.step table act :: (client.step table act).2.trace table acts

end Client

end MessageCatalog
