import MessageCatalog.Registry.Event
import MessageCatalog.Snapshot

/-!
# Registries

A registry publishes one snapshot at a time. Each publication has a stamp of its own, so that a registration can tell whether the snapshot it read is still the published one; a stamp never comes back.
-/

namespace MessageCatalog

/-- Which publication of which registry. -/
structure Stamp where
  registry : Nat
  version : Nat
  deriving DecidableEq, Repr

/-- A snapshot as it was published. Two publications are the same when their stamps are. -/
structure Published where
  stamp : Stamp
  snapshot : Snapshot

structure Registry where
  label : String
  current : Published
  /-- What the registry has reported so far, oldest first. -/
  journal : List Event := []

namespace Registry

/-- An empty registry. The serial tells it from every other one. -/
def create (serial : Nat) (label : String) : Registry where
  label := label
  current := ⟨⟨serial, 0⟩, Snapshot.empty⟩

def snapshot (registry : Registry) : Snapshot := registry.current.snapshot

def size (registry : Registry) : Nat := registry.snapshot.size

def isEmpty (registry : Registry) : Bool := registry.snapshot.isEmpty

def guard (registry : Registry) : SnapshotGuard := ⟨registry.snapshot⟩

/-- The text that names the label and the size, as diagnostics show it. -/
def describe (registry : Registry) : String :=
  "Registry \x7b label: " ++ Text.quoted registry.label ++ ", len: " ++ toString registry.size ++ " \x7d"

def report (registry : Registry) (event : Event) : Registry :=
  { registry with journal := registry.journal ++ [event] }

/-- Publishes a replacement if the publication that was read is still the current one. -/
def compareAndSwap (registry : Registry) (seen : Stamp) (replacement : Snapshot) : Option Registry :=
  if registry.current.stamp = seen then
    some { registry with current := ⟨⟨seen.registry, seen.version + 1⟩, replacement⟩ }
  else none

@[simp] theorem current_report (registry : Registry) (event : Event) :
    (registry.report event).current = registry.current := rfl

@[simp] theorem snapshot_report (registry : Registry) (event : Event) :
    (registry.report event).snapshot = registry.snapshot := rfl

@[simp] theorem label_report (registry : Registry) (event : Event) : (registry.report event).label = registry.label := rfl

@[simp] theorem journal_report (registry : Registry) (event : Event) :
    (registry.report event).journal = registry.journal ++ [event] := rfl

@[simp] theorem snapshot_create (serial : Nat) (label : String) : (create serial label).snapshot = Snapshot.empty := rfl

end Registry

end MessageCatalog
