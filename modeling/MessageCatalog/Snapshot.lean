import MessageCatalog.Descriptor
import MessageCatalog.Identifier.Map

/-!
# Snapshots

One state of a registry: the descriptors in the order of their registration, and two indexes over them, by identifier and by type. A snapshot never changes; `extend` builds the next one.
-/

namespace MessageCatalog

structure Snapshot where
  table : List Descriptor := []
  byIdentifier : IdentifierMap Descriptor := IdentifierMap.empty
  byType : Std.HashMap NativeType Descriptor := ∅

namespace Snapshot

def empty : Snapshot := {}

/-- The descriptor under a canonical identifier. The text is compared as it is. -/
def findIdentifier? (snapshot : Snapshot) (raw : String) : Option Descriptor := snapshot.byIdentifier.find? raw

def findType? (snapshot : Snapshot) (type : NativeType) : Option Descriptor := snapshot.byType[type]?

def size (snapshot : Snapshot) : Nat := snapshot.table.length

def isEmpty (snapshot : Snapshot) : Bool := snapshot.table.isEmpty

/-- Puts a descriptor at the end of the table and into both indexes. Nothing is checked. -/
def extend (snapshot : Snapshot) (entry : Descriptor) : Snapshot where
  table := snapshot.table ++ [entry]
  byIdentifier := snapshot.byIdentifier.insert entry.identifier entry
  byType := snapshot.byType.insert entry.type entry

@[simp] theorem table_empty : empty.table = [] := rfl

@[simp] theorem findIdentifier?_empty (raw : String) : empty.findIdentifier? raw = none := by
  simp [findIdentifier?, empty]

@[simp] theorem findType?_empty (type : NativeType) : empty.findType? type = none := by
  simp [findType?, empty]

@[simp] theorem table_extend (snapshot : Snapshot) (entry : Descriptor) :
    (snapshot.extend entry).table = snapshot.table ++ [entry] := rfl

@[simp] theorem size_extend (snapshot : Snapshot) (entry : Descriptor) :
    (snapshot.extend entry).size = snapshot.size + 1 := by
  simp [size]

theorem findIdentifier?_extend (snapshot : Snapshot) (entry : Descriptor) (raw : String) :
    (snapshot.extend entry).findIdentifier? raw =
      if entry.identifier.text = raw then some entry else snapshot.findIdentifier? raw := by
  simp [findIdentifier?, extend, IdentifierMap.find?_insert]

theorem findType?_extend (snapshot : Snapshot) (entry : Descriptor) (type : NativeType) :
    (snapshot.extend entry).findType? type = if entry.type = type then some entry else snapshot.findType? type := by
  simp [findType?, extend, Std.HashMap.getElem?_insert]

end Snapshot

/-! ### Guards -/

structure SnapshotGuard where
  snapshot : Snapshot

/-- An enumeration under way: the descriptors that are still to come. -/
structure Cursor where
  remaining : List Descriptor

/-- The ways to walk a guard: by references, by shared handles, or as the subject of a loop. -/
inductive Traversal where
  | references
  | handles
  | loop
  deriving DecidableEq, Repr

/-- What is handed out for a descriptor. A reference and a handle both stand for the descriptor itself. -/
def Traversal.item : Traversal → Descriptor → Descriptor
  | references, entry => entry
  | handles, entry => entry
  | loop, entry => entry

theorem Traversal.item_eq_id (via : Traversal) : via.item = id := by
  funext entry
  cases via <;> rfl

namespace SnapshotGuard

def size (guard : SnapshotGuard) : Nat := guard.snapshot.size

def isEmpty (guard : SnapshotGuard) : Bool := guard.snapshot.isEmpty

def cursor (guard : SnapshotGuard) : Cursor := ⟨guard.snapshot.table⟩

/-- Starts an enumeration that hands the descriptors out in the given way. -/
def walk (guard : SnapshotGuard) (via : Traversal) : Cursor := ⟨guard.snapshot.table.map via.item⟩

theorem walk_eq_cursor (guard : SnapshotGuard) (via : Traversal) : guard.walk via = guard.cursor := by
  rw [walk, via.item_eq_id, List.map_id, cursor]

end SnapshotGuard

namespace Cursor

def next (cursor : Cursor) : Option Descriptor × Cursor :=
  match cursor.remaining with
  | [] => (none, cursor)
  | entry :: rest => (some entry, ⟨rest⟩)

def draw : Nat → Cursor → List Descriptor × Cursor
  | 0, cursor => ([], cursor)
  | count + 1, cursor =>
    match cursor.next with
    | (none, cursor) => ([], cursor)
    | (some entry, cursor) =>
      let (entries, cursor) := draw count cursor
      (entry :: entries, cursor)

def drain (cursor : Cursor) : List Descriptor := (cursor.draw cursor.remaining.length).1

theorem draw_eq (count : Nat) (cursor : Cursor) :
    cursor.draw count = (cursor.remaining.take count, ⟨cursor.remaining.drop count⟩) := by
  induction count generalizing cursor with
  | zero => rfl
  | succ count ih =>
    obtain ⟨remaining⟩ := cursor
    cases remaining with
    | nil => rfl
    | cons entry rest => simp [draw, next, ih]

@[simp] theorem drain_eq (cursor : Cursor) : cursor.drain = cursor.remaining := by
  simp [drain, draw_eq]

end Cursor

end MessageCatalog
