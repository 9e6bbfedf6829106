import MessageCatalog.Concurrent

/-!
# Readers of a registry in use

Guards that are taken while threads work, and enumerations of them. An enumeration advances piece by piece, and anything may happen between two pieces: turns of the threads, other enumerations of the same guard, other guards.
-/

namespace MessageCatalog.Concurrent

structure Reading where
  /-- Which guard, in the order in which they were taken. -/
  guard : Nat
  cursor : Cursor
  /-- What it has yielded so far. -/
  drawn : List Descriptor := []

inductive Move where
  | turn (thread : Nat)
  | pin
  /-- An enumeration of a guard begins. -/
  | walk (guard : Nat) (via : Traversal)
  /-- An enumeration yields what comes next, up to so many descriptors. -/
  | draw (reading count : Nat)
  deriving DecidableEq, Repr

/-- Threads at work on a registry, and those who look on. -/
structure Audience where
  state : State
  guards : List SnapshotGuard := []
  readings : List Reading := []

namespace Reading

def draw (reading : Reading) (count : Nat) : Reading :=
  let (entries, cursor) := reading.cursor.draw count
  { reading with cursor, drawn := reading.drawn ++ entries }

/-- What the enumeration yields from its beginning to its end. -/
def whole (reading : Reading) : List Descriptor := reading.drawn ++ reading.cursor.drain

@[simp] theorem guard_draw (reading : Reading) (count : Nat) : (reading.draw count).guard = reading.guard := rfl

@[simp] theorem whole_draw (reading : Reading) (count : Nat) : (reading.draw count).whole = reading.whole := by
  simp [whole, draw, Cursor.draw_eq]

end Reading

namespace Audience

def start (registry : Registry) (calls : List (List Call)) : Audience := { state := State.start registry calls }

/-- One move. What does not exist is neither walked nor drawn from. -/
def step (table : TypeTable) (audience : Audience) : Move → Audience
  | .turn thread => { audience with state := audience.state.step table thread }
  | .pin => { audience with guards := audience.guards ++ [audience.state.registry.guard] }
  | .walk guard via =>
    match audience.guards[guard]? with
    | none => audience
    | some pinned => { audience with readings := audience.readings ++ [{ guard, cursor := pinned.walk via }] }
  | .draw reading count =>
    match audience.readings[reading]? with
    | none => audience
    | some current => { audience with readings := audience.readings.set reading (current.draw count) }

def run (table : TypeTable) (audience : Audience) (moves : List Move) : Audience := moves.foldl (step table) audience

def table (audience : Audience) : List Descriptor := audience.state.registry.snapshot.table

/-- Every snapshot in anyone's hands: the published one, those of the guards, and those of registrations under way. -/
def snapshots (audience : Audience) : List Snapshot :=
  audience.state.registry.snapshot ::
    (audience.guards.map SnapshotGuard.snapshot ++
      audience.state.threads.flatMap fun thread => thread.registration?.toList.flatMap Merge.Registration.held)

end Audience

end MessageCatalog.Concurrent
