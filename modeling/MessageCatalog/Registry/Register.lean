import MessageCatalog.Registry.Merge

/-!
# Registering types

A type is registered under an identifier by one of three entry points, which differ in the kind that they report and in nothing else. What can be refused without looking at the registry is refused first: an identifier that is none, then a type that refers to another one. Neither is reported.
-/

namespace MessageCatalog

namespace Registry

/-- The descriptor that a registration would publish, if the request itself is in order. -/
def prepare (table : TypeTable) (type : NativeType) (identifier : String) : Except RegisterError Descriptor :=
  match Identifier.parse identifier with
  | .error source => .error (.identifier (table.name type) source)
  | .ok identifier =>
    match type.referent? with
    | some referent => .error (.receiverMismatch (table.name type) (table.name referent))
    | none => .ok (Descriptor.of table type identifier)

def register (table : TypeTable) (kind : MessageKind) (type : NativeType) (identifier : String) (registry : Registry) :
    Except RegisterError Descriptor × Registry :=
  match prepare table type identifier with
  | .error error => (.error error, registry)
  | .ok entry => Merge.Registration.run ⟨kind, entry, .loading 0⟩ registry

theorem prepare_eq_ok_iff {table : TypeTable} {type : NativeType} {identifier : String} {entry : Descriptor} :
    prepare table type identifier = .ok entry ↔
      ∃ canonical, Identifier.parse identifier = .ok canonical ∧ type.IsValue ∧ entry = Descriptor.of table type canonical := by
  unfold prepare NativeType.IsValue
  cases Identifier.parse identifier with
  | error source => simp
  | ok canonical => cases type.referent? <;> simp [eq_comm]

theorem prepare_of_malformed {table : TypeTable} {type : NativeType} {identifier : String} {cause : IdentifierError}
    (h : Identifier.parse identifier = .error cause) :
    prepare table type identifier = .error (.identifier (table.name type) cause) := by
  simp [prepare, h]

theorem prepare_of_referent {table : TypeTable} {type referent : NativeType} {identifier : String} {canonical : Identifier}
    (h : Identifier.parse identifier = .ok canonical) (hreferent : type.referent? = some referent) :
    prepare table type identifier = .error (.receiverMismatch (table.name type) (table.name referent)) := by
  simp [prepare, h, hreferent]

theorem prepare_of_value {table : TypeTable} {type : NativeType} {identifier : String} {canonical : Identifier}
    (h : Identifier.parse identifier = .ok canonical) (hvalue : type.IsValue) :
    prepare table type identifier = .ok (Descriptor.of table type canonical) :=
  prepare_eq_ok_iff.2 ⟨canonical, h, hvalue, rfl⟩

theorem register_of_refused {table : TypeTable} {kind : MessageKind} {type : NativeType} {identifier : String}
    {registry : Registry} {error : RegisterError} (h : prepare table type identifier = .error error) :
    registry.register table kind type identifier = (.error error, registry) := by
  simp [register, h]

theorem register_of_conflict {table : TypeTable} {kind : MessageKind} {type : NativeType} {identifier : String}
    {registry : Registry} {entry : Descriptor} {error : RegisterError} (hentry : prepare table type identifier = .ok entry)
    (hconflict : registry.snapshot.conflict? entry = some error) :
    registry.register table kind type identifier = (.error error, registry.report (.rejected registry.label kind error)) := by
  simp [register, hentry, Merge.Registration.run_of_conflict hconflict]

theorem register_of_free {table : TypeTable} {kind : MessageKind} {type : NativeType} {identifier : String}
    {registry : Registry} {entry : Descriptor} (hentry : prepare table type identifier = .ok entry)
    (hfree : registry.snapshot.conflict? entry = none) :
    registry.register table kind type identifier =
      (.ok entry,
        { registry with
          current := ⟨⟨registry.current.stamp.registry, registry.current.stamp.version + 1⟩, registry.snapshot.extend entry⟩
          journal := registry.journal ++
            [.registered registry.label entry.identifier entry.name (registry.size + 1) 0] }) := by
  simp [register, hentry, Merge.Registration.run_of_free hfree]

end Registry

end MessageCatalog
