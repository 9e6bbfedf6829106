import MessageCatalog.Proofs.Registry.Publication

/-!
# What a registration leaves behind

A registration that nothing interferes with comes to one of three ends, `register_cases`: its request is refused and leaves no trace, or it is in conflict and leaves a report, or its descriptor is published behind all others. What it comes to is settled by what was published before, and its answer is a descriptor exactly if this descriptor was put into the table, `mem_table_register_iff`.
-/

namespace MessageCatalog.Registry

variable {table : TypeTable} {registry other : Registry} {kind : MessageKind} {type : NativeType} {identifier : String}
  {entry : Descriptor} {error : RegisterError}

theorem register_cases (table : TypeTable) (kind : MessageKind) (type : NativeType) (identifier : String) (registry : Registry) :
    (∃ error, prepare table type identifier = .error error ∧
        registry.register table kind type identifier = (.error error, registry)) ∨
      (∃ entry error, prepare table type identifier = .ok entry ∧ registry.snapshot.conflict? entry = some error ∧
        registry.register table kind type identifier = (.error error, registry.report (.rejected registry.label kind error))) ∨
      ∃ entry, prepare table type identifier = .ok entry ∧ registry.snapshot.conflict? entry = none ∧
        registry.register table kind type identifier = (.ok entry,
          { registry with
            current := registry.current.next (registry.snapshot.extend entry)
            journal := registry.journal ++
              [.registered registry.label entry.identifier entry.name (registry.size + 1) 0] }) := by
  cases hentry : prepare table type identifier with
  | error error => exact .inl ⟨error, rfl, register_of_refused hentry⟩
  | ok entry =>
    cases hconflict : registry.snapshot.conflict? entry with
    | some error => exact .inr (.inl ⟨entry, error, rfl, hconflict, register_of_conflict hentry hconflict⟩)
    | none => exact .inr (.inr ⟨entry, rfl, hconflict, register_of_free hentry hconflict⟩)

/-- What a registration comes to depends on what is published only. -/
theorem register_congr (table : TypeTable) (kind : MessageKind) (type : NativeType) (identifier : String)
    (h : registry.current = other.current) :
    (registry.register table kind type identifier).1 = (other.register table kind type identifier).1 ∧
      (registry.register table kind type identifier).2.current = (other.register table kind type identifier).2.current := by
  cases hentry : prepare table type identifier with
  | error error =>
    rw [register_of_refused hentry, register_of_refused hentry]
    exact ⟨rfl, h⟩
  | ok entry =>
    have hmerge := register_of_prepared kind registry hentry
    rw [h, ← register_of_prepared kind other hentry] at hmerge
    exact Prod.mk.inj hmerge

theorem current_of_register_error (h : (registry.register table kind type identifier).1 = .error error) :
    (registry.register table kind type identifier).2.current = registry.current := by
  rcases register_cases table kind type identifier registry with
    ⟨_, -, hregister⟩ | ⟨_, _, -, -, hregister⟩ | ⟨_, -, -, hregister⟩
  · rw [hregister]
  · rw [hregister, current_report]
  · rw [hregister] at h
    exact nomatch h

theorem current_of_register_ok (h : (registry.register table kind type identifier).1 = .ok entry) :
    (registry.register table kind type identifier).2.current = registry.current.next (registry.snapshot.extend entry) := by
  rcases register_cases table kind type identifier registry with
    ⟨_, -, hregister⟩ | ⟨_, _, -, -, hregister⟩ | ⟨own, -, -, hregister⟩
  · rw [hregister] at h
    exact nomatch h
  · rw [hregister] at h
    exact nomatch h
  · rw [hregister] at h ⊢
    rw [Except.ok.inj h]

theorem snapshot_of_register_ok (h : (registry.register table kind type identifier).1 = .ok entry) :
    prepare table type identifier = .ok entry ∧
      (registry.register table kind type identifier).2.snapshot = registry.snapshot.extend entry := by
  rcases register_cases table kind type identifier registry with
    ⟨_, -, hregister⟩ | ⟨_, _, -, -, hregister⟩ | ⟨own, hprepare, -, hregister⟩
  · rw [hregister] at h
    exact nomatch h
  · rw [hregister] at h
    exact nomatch h
  · rw [hregister] at h ⊢
    obtain rfl := Except.ok.inj h
    exact ⟨hprepare, rfl⟩

theorem type_of_register_ok (h : (registry.register table kind type identifier).1 = .ok entry) : entry.type = type := by
  obtain ⟨canonical, -, -, rfl⟩ := prepare_eq_ok_iff.1 (snapshot_of_register_ok h).1
  rfl

theorem mem_table_register_iff : entry ∈ (registry.register table kind type identifier).2.snapshot.table ↔
    entry ∈ registry.snapshot.table ∨ (registry.register table kind type identifier).1 = .ok entry := by
  cases hresult : (registry.register table kind type identifier).1 with
  | error error =>
    rw [snapshot, current_of_register_error hresult]
    apply (or_iff_left _).symm
    intro hregistered
    cases hregistered
  | ok own =>
    rw [(snapshot_of_register_ok hresult).2, Snapshot.table_extend, List.mem_append, List.mem_singleton, Except.ok.injEq, eq_comm]

variable {declarations : List Declaration}

theorem registerDeclared_of_ok {count : Nat}
    (h : (registry.registerEach table (Declaration.inOrder declarations)).1 = .ok count) :
    registry.registerDeclared table declarations =
      (.ok count, (registry.registerEach table (Declaration.inOrder declarations)).2.report
        (.declared (registry.registerEach table (Declaration.inOrder declarations)).2.label count)) := by
  unfold registerDeclared
  rcases heach : registry.registerEach table (Declaration.inOrder declarations) with ⟨result, after⟩
  rw [heach] at h
  obtain rfl : result = .ok count := h
  rfl

theorem registerDeclared_of_error (h : (registry.registerEach table (Declaration.inOrder declarations)).1 = .error error) :
    registry.registerDeclared table declarations =
      (.error error, (registry.registerEach table (Declaration.inOrder declarations)).2) := by
  unfold registerDeclared
  rcases heach : registry.registerEach table (Declaration.inOrder declarations) with ⟨result, after⟩
  rw [heach] at h
  obtain rfl : result = .error error := h
  rfl

theorem snapshot_registerDeclared (table : TypeTable) (declarations : List Declaration) (registry : Registry) :
    (registry.registerDeclared table declarations).2.snapshot =
      (registry.registerEach table (Declaration.inOrder declarations)).2.snapshot := by
  cases hresult : (registry.registerEach table (Declaration.inOrder declarations)).1 with
  | error error => rw [registerDeclared_of_error hresult]
  | ok count => rw [registerDeclared_of_ok hresult, snapshot_report]

/-! ### Series with the same publication before them -/

section Congr

variable {left right : Registry}

theorem registerEach_congr (table : TypeTable) (declarations : List Declaration) (h : left.current = right.current) :
    (left.registerEach table declarations).1 = (right.registerEach table declarations).1 ∧
      (left.registerEach table declarations).2.current = (right.registerEach table declarations).2.current := by
  induction declarations generalizing left right with
  | nil => exact ⟨rfl, h⟩
  | cons declaration rest ih =>
    have hfirst := register_congr table declaration.kind declaration.type declaration.identifier
      (show (left.report (declaration.event left)).current = (right.report (declaration.event right)).current from h)
    rcases hleft : (left.report (declaration.event left)).register table declaration.kind declaration.type declaration.identifier with
      ⟨result, leftAfter⟩
    rcases hright : (right.report (declaration.event right)).register table declaration.kind declaration.type declaration.identifier with
      ⟨other, rightAfter⟩
    rw [hleft, hright] at hfirst
    obtain ⟨rfl, hafter⟩ : result = other ∧ leftAfter.current = rightAfter.current := hfirst
    cases result with
    | error error =>
      rw [registerEach_of_refused rest hleft, registerEach_of_refused rest hright]
      exact ⟨rfl, hafter⟩
    | ok entry =>
      rw [registerEach_of_registered rest hleft, registerEach_of_registered rest hright]
      obtain ⟨hresult, hlast⟩ := ih hafter
      exact ⟨congrArg (Except.map (· + 1)) hresult, hlast⟩

theorem registerDeclared_congr (table : TypeTable) (declarations : List Declaration) (h : left.current = right.current) :
    (left.registerDeclared table declarations).1 = (right.registerDeclared table declarations).1 ∧
      (left.registerDeclared table declarations).2.current = (right.registerDeclared table declarations).2.current := by
  obtain ⟨hresult, hafter⟩ := registerEach_congr table (Declaration.inOrder declarations) h
  cases hleft : (left.registerEach table (Declaration.inOrder declarations)).1 with
  | error error =>
    rw [registerDeclared_of_error hleft, registerDeclared_of_error (hresult ▸ hleft)]
    exact ⟨rfl, hafter⟩
  | ok count =>
    rw [registerDeclared_of_ok hleft, registerDeclared_of_ok (hresult ▸ hleft)]
    exact ⟨rfl, hafter⟩

end Congr

end MessageCatalog.Registry
