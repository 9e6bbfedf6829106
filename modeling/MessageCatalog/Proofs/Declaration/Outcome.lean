import MessageCatalog.Proofs.Registry.Effect
import MessageCatalog.Proofs.Registry.Plan

/-!
# What comes of declared types

The declarations are tested one at a time against a registry that grows under the test, yet whether all of them are registered depends only on the declarations and on the registry before, `HasRoom`, and on no order. `exists_grants` is the loop: it gets as far as calls of their own would get, and where it stops the next call would be refused. What the calls have granted is coherent with what was there, and that is all that having room means.
-/

namespace MessageCatalog

/-! ### Room -/

/-- All declarations are in order, and no two of them share a type or an identifier, among themselves or with what is there. -/
structure HasRoom (entries : List Descriptor) (declarations : List Declaration) : Prop where
  isOk : ∀ declaration ∈ declarations, ∃ text, Identifier.normalize declaration.identifier = .ok text
  isValue : ∀ declaration ∈ declarations, declaration.type.IsValue
  types_nodup : (declarations.map Declaration.type).Nodup
  /-- No two texts have the same canonical spelling. -/
  identifiers_nodup : (declarations.map fun declaration => Identifier.normalize declaration.identifier).Nodup
  types_absent : ∀ declaration ∈ declarations, ∀ entry ∈ entries, entry.type ≠ declaration.type
  identifiers_absent : ∀ declaration ∈ declarations, ∀ entry ∈ entries,
    Identifier.normalize declaration.identifier ≠ .ok entry.identifier.text

theorem HasRoom.perm {entries : List Descriptor} {declarations others : List Declaration} (h : HasRoom entries declarations)
    (hperm : declarations.Perm others) : HasRoom entries others where
  isOk declaration hmem := h.isOk declaration (hperm.mem_iff.2 hmem)
  isValue declaration hmem := h.isValue declaration (hperm.mem_iff.2 hmem)
  types_nodup := (hperm.map _).nodup_iff.1 h.types_nodup
  identifiers_nodup := (hperm.map _).nodup_iff.1 h.identifiers_nodup
  types_absent declaration hmem := h.types_absent declaration (hperm.mem_iff.2 hmem)
  identifiers_absent declaration hmem := h.identifiers_absent declaration (hperm.mem_iff.2 hmem)

/-- The canonical spelling of the identifier of a descriptor, as normalizing gives it. -/
def Descriptor.spelling (entry : Descriptor) : Except IdentifierError String := .ok entry.identifier.text

theorem Descriptor.spellings_nodup {entries : List Descriptor} (h : (entries.map identifier).Nodup) :
    (entries.map spelling).Nodup := by
  have hinjective : Function.Injective fun identifier : Identifier => (.ok identifier.text : Except IdentifierError String) :=
    fun _ _ hsame => Identifier.ext (Except.ok.inj hsame)
  have hmapped := h.map hinjective
  rwa [List.map_map] at hmapped

/-- Beside descriptors that share nothing, there is room if types and spellings of both together have no repetition. -/
theorem hasRoom_iff {entries : List Descriptor} {declarations : List Declaration} (htypes : (entries.map Descriptor.type).Nodup)
    (hidentifiers : (entries.map Descriptor.identifier).Nodup) :
    HasRoom entries declarations ↔
      (∀ declaration ∈ declarations,
        (∃ text, Identifier.normalize declaration.identifier = .ok text) ∧ declaration.type.IsValue) ∧
      (entries.map Descriptor.type ++ declarations.map Declaration.type).Nodup ∧
      (entries.map Descriptor.spelling ++ declarations.map fun declaration => Identifier.normalize declaration.identifier).Nodup := by
  rw [List.nodup_append, List.nodup_append]
  constructor
  · intro h
    refine ⟨fun declaration hmem => ⟨h.isOk declaration hmem, h.isValue declaration hmem⟩,
      ⟨htypes, h.types_nodup, ?_⟩, ⟨Descriptor.spellings_nodup hidentifiers, h.identifiers_nodup, ?_⟩⟩
    · intro own hown type htype
      obtain ⟨entry, hentry, rfl⟩ := List.mem_map.1 hown
      obtain ⟨declaration, hdeclaration, rfl⟩ := List.mem_map.1 htype
      exact h.types_absent declaration hdeclaration entry hentry
    · intro own hown spelling hspelling
      obtain ⟨entry, hentry, rfl⟩ := List.mem_map.1 hown
      obtain ⟨declaration, hdeclaration, rfl⟩ := List.mem_map.1 hspelling
      exact (h.identifiers_absent declaration hdeclaration entry hentry).symm
  · rintro ⟨hinOrder, ⟨-, htypes, htypesApart⟩, ⟨-, hidentifiers, hidentifiersApart⟩⟩
    refine ⟨fun declaration hmem => (hinOrder declaration hmem).1, fun declaration hmem => (hinOrder declaration hmem).2, htypes,
      hidentifiers, fun declaration hdeclaration entry hentry => ?_, fun declaration hdeclaration entry hentry => ?_⟩
    · exact htypesApart _ (List.mem_map_of_mem hentry) _ (List.mem_map_of_mem hdeclaration)
    · exact (hidentifiersApart _ (List.mem_map_of_mem hentry) _ (List.mem_map_of_mem hdeclaration)).symm

/-! ### One registration -/

/-- The call that registers the type of a declaration under its text. -/
def Declaration.call (declaration : Declaration) : Call :=
  .register declaration.kind declaration.type declaration.identifier

/-- The report that a declaration is about to be registered. -/
def Event.isDeclaring : Event → Bool
  | declaring .. => true
  | _ => false

namespace Registry

/-- A registration reports itself and no declaration. -/
theorem journal_register (table : TypeTable) (kind : MessageKind) (type : NativeType) (identifier : String) (registry : Registry) :
    (registry.register table kind type identifier).2.label = registry.label ∧
      ∃ events, (registry.register table kind type identifier).2.journal = registry.journal ++ events ∧
        events.filter Event.isDeclaring = [] := by
  rcases register_cases table kind type identifier registry with
    ⟨_, -, hregister⟩ | ⟨_, _, -, -, hregister⟩ | ⟨_, -, -, hregister⟩
  · rw [hregister]
    exact ⟨rfl, [], (List.append_nil _).symm, rfl⟩
  · rw [hregister]
    exact ⟨rfl, _, rfl, rfl⟩
  · rw [hregister]
    exact ⟨rfl, _, rfl, rfl⟩

/-- Since then these declarations were come to, in this order, and no others. -/
def Attempted (registry after : Registry) (declarations : List Declaration) : Prop :=
  ∃ events, after.journal = registry.journal ++ events ∧
    events.filter Event.isDeclaring = declarations.map fun declaration => declaration.event registry

variable {registry after last : Registry} {declaration : Declaration} {rest : List Declaration}

theorem attempted_register (table : TypeTable) (declaration : Declaration) (registry : Registry) :
    registry.Attempted ((registry.report (declaration.event registry)).register table declaration.kind declaration.type
      declaration.identifier).2 [declaration] := by
  obtain ⟨-, events, hjournal, hnone⟩ := journal_register table declaration.kind declaration.type declaration.identifier
    (registry.report (declaration.event registry))
  refine ⟨declaration.event registry :: events, ?_, ?_⟩
  · rw [hjournal, journal_report, List.append_assoc, List.singleton_append]
  · rw [List.filter_cons_of_pos rfl, hnone, List.map_singleton]

theorem Attempted.append (hfirst : registry.Attempted after [declaration]) (hlabel : after.label = registry.label)
    (hrest : after.Attempted last rest) : registry.Attempted last (declaration :: rest) := by
  obtain ⟨events, hjournal, hevents⟩ := hfirst
  obtain ⟨others, hothers, hrest⟩ := hrest
  refine ⟨events ++ others, ?_, ?_⟩
  · rw [hothers, hjournal, List.append_assoc]
  · rw [List.filter_append, hevents, hrest, List.map_singleton, List.map_cons, List.singleton_append]
    simp only [Declaration.event, hlabel]

theorem Attempted.report {declarations : List Declaration} {event : Event} (h : registry.Attempted after declarations)
    (hevent : event.isDeclaring = false) : registry.Attempted (after.report event) declarations := by
  obtain ⟨events, hjournal, hevents⟩ := h
  refine ⟨events ++ [event], ?_, ?_⟩
  · rw [journal_report, hjournal, List.append_assoc]
  · rw [List.filter_append, hevents, List.filter_cons_of_neg (by simp [hevent]), List.filter_nil, List.append_nil]

end Registry

/-! ### The loop -/

/-- Calls that register the declarations one after another are all granted, and come to these descriptors. -/
structure Grants (table : TypeTable) (registry : Registry) (declarations : List Declaration) (entries : List Descriptor)
    (reached : Registry) : Prop where
  answers_eq : Call.answers table registry (declarations.map Declaration.call) =
    (entries.map fun entry => .registered (.ok entry), reached)
  denotes : List.Forall₂ (Declaration.Denotes table) declarations entries
  table_eq : reached.snapshot.table = registry.snapshot.table ++ entries

variable {table : TypeTable} {registry other reached : Registry} {declaration : Declaration}
  {declarations others done rest : List Declaration} {entries : List Descriptor}

theorem Grants.nil (table : TypeTable) (registry : Registry) : Grants table registry [] [] registry :=
  ⟨rfl, .nil, (List.append_nil _).symm⟩

theorem Grants.cons {entry : Descriptor} {after : Registry}
    (hfirst : registry.register table declaration.kind declaration.type declaration.identifier = (.ok entry, after))
    (hrest : Grants table after rest entries reached) : Grants table registry (declaration :: rest) (entry :: entries) reached := by
  obtain ⟨hprepare, hsnapshot⟩ := Registry.snapshot_of_register_ok (congrArg Prod.fst hfirst)
  rw [hfirst] at hsnapshot
  refine ⟨?_, .cons (Registry.prepare_eq_ok_iff.1 hprepare) hrest.denotes, ?_⟩
  · simp only [List.map_cons, Call.answers, Call.answer, Declaration.call, hfirst]
    rw [hrest.answers_eq]
  · dsimp only at hsnapshot
    rw [hrest.table_eq, hsnapshot, Snapshot.table_extend, List.append_assoc, List.singleton_append]

/-- The loop gets as far as the calls get from any registry with the same publication, and it stops where the next call would be refused. -/
theorem exists_grants (table : TypeTable) (hcurrent : registry.current = other.current) (declarations : List Declaration) :
    ∃ done entries reached, Grants table other done entries reached ∧
      (registry.registerEach table declarations).2.current = reached.current ∧
      (declarations = done ∧ (registry.registerEach table declarations).1 = .ok done.length ∧
          registry.Attempted (registry.registerEach table declarations).2 done ∨
        ∃ declaration rest error, declarations = done ++ declaration :: rest ∧
          (reached.register table declaration.kind declaration.type declaration.identifier).1 = .error error ∧
          (registry.registerEach table declarations).1 = .error error ∧
          registry.Attempted (registry.registerEach table declarations).2 (done ++ [declaration])) := by
  induction declarations generalizing registry other with
  | nil => exact ⟨[], [], other, .nil table other, hcurrent, .inl ⟨rfl, rfl, [], (List.append_nil _).symm, rfl⟩⟩
  | cons declaration rest ih =>
    -- the report that comes first publishes nothing, so the call on the other registry has the same outcome
    have hsame : (registry.report (declaration.event registry)).current = other.current := hcurrent
    obtain ⟨hresult, hafter⟩ :=
      Registry.register_congr table declaration.kind declaration.type declaration.identifier hsame
    have hattempted := Registry.attempted_register table declaration registry
    have hlabel := (Registry.journal_register table declaration.kind declaration.type declaration.identifier
      (registry.report (declaration.event registry))).1
    rcases hstep : (registry.report (declaration.event registry)).register table declaration.kind declaration.type
      declaration.identifier with ⟨result, after⟩
    rcases hcall : other.register table declaration.kind declaration.type declaration.identifier with ⟨answer, granted⟩
    rw [hstep] at hresult hafter hattempted hlabel
    rw [hcall] at hresult hafter
    dsimp only at hresult hafter hattempted hlabel
    subst hresult
    cases result with
    | error error =>
      have hnothing := Registry.current_of_register_error (congrArg Prod.fst hstep)
      rw [hstep] at hnothing
      rw [Registry.registerEach_of_refused rest hstep]
      exact ⟨[], [], other, .nil table other, hnothing.trans hcurrent,
        .inr ⟨declaration, rest, error, rfl, congrArg Prod.fst hcall, rfl, hattempted⟩⟩
    | ok entry =>
      rw [Registry.registerEach_of_registered rest hstep]
      obtain ⟨done, entries, reached, hgrants, hreached, hend⟩ := ih hafter
      refine ⟨declaration :: done, entry :: entries, reached, .cons hcall hgrants, hreached, ?_⟩
      rcases hend with ⟨rfl, hcount, hrest⟩ | ⟨next, later, error, rfl, hrefused, herror, hrest⟩
      · refine .inl ⟨rfl, ?_, hattempted.append hlabel hrest⟩
        rw [hcount]
        rfl
      · refine .inr ⟨next, later, error, rfl, hrefused, ?_, hattempted.append hlabel hrest⟩
        rw [herror]
        rfl

/-! ### What it means to get to the end -/

theorem Registry.Reachable.answers (h : registry.Reachable table) (calls : List Call) :
    (Call.answers table registry calls).2.Reachable table := by
  induction calls generalizing registry with
  | nil => exact h
  | cons call calls ih => exact ih (.answer call h)

namespace Grants

theorem reachable (h : Grants table registry declarations entries reached) (hreachable : registry.Reachable table) :
    reached.Reachable table := by
  have hafter := hreachable.answers (declarations.map Declaration.call)
  rwa [h.answers_eq] at hafter

theorem inOrder (h : Grants table registry declarations entries reached) : ∀ declaration ∈ declarations,
    (∃ text, Identifier.normalize declaration.identifier = .ok text) ∧ declaration.type.IsValue := by
  have hboth : List.Forall₂ (fun declaration entry =>
      ((∃ text, Identifier.normalize declaration.identifier = .ok text) ∧ declaration.type.IsValue) ∧
        declaration.Denotes table entry) declarations entries := by
    refine h.denotes.imp fun declaration entry hdenotes => ⟨?_, hdenotes⟩
    obtain ⟨identifier, hparse, hvalue, -⟩ := hdenotes
    exact ⟨⟨_, Identifier.parse_eq_ok_iff.1 hparse⟩, hvalue⟩
  exact ((List.forall₂_and_left _ _).1 hboth).1

/-- The types and the spellings of what was there and of what was granted. -/
theorem keys (h : Grants table registry declarations entries reached) :
    reached.snapshot.table.map Descriptor.type = registry.snapshot.table.map Descriptor.type ++ declarations.map Declaration.type ∧
      reached.snapshot.table.map Descriptor.spelling = registry.snapshot.table.map Descriptor.spelling ++
        declarations.map fun declaration => Identifier.normalize declaration.identifier := by
  obtain ⟨htypes, hidentifiers⟩ := map_eq_of_denotes h.denotes
  rw [List.map_map] at hidentifiers
  rw [h.table_eq, List.map_append, List.map_append, htypes, ← hidentifiers]
  exact ⟨rfl, rfl⟩

/-- What was granted shares nothing with what was there, and no two of it share anything. -/
theorem hasRoom (h : Grants table registry declarations entries reached) (hreachable : registry.Reachable table) :
    HasRoom registry.snapshot.table declarations := by
  have hreached := (h.reachable hreachable).coherent
  obtain ⟨htypes, hspellings⟩ := h.keys
  rw [hasRoom_iff hreachable.coherent.types_nodup hreachable.coherent.identifiers_nodup, ← htypes, ← hspellings]
  exact ⟨h.inOrder, hreached.types_nodup, Descriptor.spellings_nodup hreached.identifiers_nodup⟩

/-- Where there is room for all of them, the call that comes next is granted. -/
theorem exists_register_next (h : Grants table registry done entries reached) (hreachable : registry.Reachable table)
    (hroom : HasRoom registry.snapshot.table (done ++ declaration :: rest)) :
    ∃ entry, (reached.register table declaration.kind declaration.type declaration.identifier).1 = .ok entry := by
  have hmem : declaration ∈ done ++ declaration :: rest := List.mem_append_right _ List.mem_cons_self
  obtain ⟨text, htext⟩ := hroom.isOk declaration hmem
  have hparse : Identifier.parse declaration.identifier = .ok ⟨text, Identifier.normalize_normalize htext⟩ :=
    Identifier.parse_eq_ok_iff.2 htext
  have hprepare : Registry.prepare table declaration.type declaration.identifier = .ok (.of table declaration.type _) :=
    Registry.prepare_of_value hparse (hroom.isValue declaration hmem)
  obtain ⟨htypes, hspellings⟩ := h.keys
  obtain ⟨-, hfreshTypes, hfreshSpellings⟩ :=
    (hasRoom_iff hreachable.coherent.types_nodup hreachable.coherent.identifiers_nodup).1 hroom
  rw [List.map_append, ← List.append_assoc, ← htypes] at hfreshTypes
  rw [List.map_append, ← List.append_assoc, ← hspellings] at hfreshSpellings
  generalize (⟨text, Identifier.normalize_normalize htext⟩ : Identifier) = identifier at hparse hprepare
  have hfree : reached.snapshot.conflict? (.of table declaration.type identifier) = none := by
    apply (h.reachable hreachable).coherent.conflict?_of_notMem
    · intro hbound
      exact (List.nodup_append.1 hfreshTypes).2.2 _ hbound _ List.mem_cons_self rfl
    · intro hbound
      obtain ⟨entry, hentry, hsame⟩ := List.mem_map.1 hbound
      apply (List.nodup_append.1 hfreshSpellings).2.2 _ (List.mem_map_of_mem hentry) _ List.mem_cons_self
      rw [Descriptor.spelling, hsame]
      exact (Identifier.parse_eq_ok_iff.1 hparse).symm
  rw [Registry.register_of_free hprepare hfree]
  exact ⟨_, rfl⟩

end Grants

/-- All declarations were registered in their order, as calls of their own would have registered them. -/
structure Completes (table : TypeTable) (registry : Registry) (declarations : List Declaration) (entries : List Descriptor)
    (reached after : Registry) : Prop where
  result_eq : registry.registerDeclared table declarations = (.ok declarations.length, after)
  grants : Grants table registry (Declaration.inOrder declarations) entries reached
  current_eq : after.current = reached.current
  attempted : registry.Attempted after (Declaration.inOrder declarations)

/-- The declarations were registered in their order, up to one that a call of its own would not have registered there either. -/
structure StopsAt (table : TypeTable) (registry : Registry) (declarations done : List Declaration) (declaration : Declaration)
    (rest : List Declaration) (entries : List Descriptor) (reached after : Registry) (error : RegisterError) : Prop where
  inOrder_eq : Declaration.inOrder declarations = done ++ declaration :: rest
  result_eq : registry.registerDeclared table declarations = (.error error, after)
  grants : Grants table registry done entries reached
  refused : (reached.register table declaration.kind declaration.type declaration.identifier).1 = .error error
  current_eq : after.current = reached.current
  /-- Those behind the one that was refused were not come to. -/
  attempted : registry.Attempted after (done ++ [declaration])

namespace Registry

namespace Reachable

theorem completes_or_stops (h : registry.Reachable table) (declarations : List Declaration) :
    (HasRoom registry.snapshot.table declarations ∧
        ∃ entries reached after, Completes table registry declarations entries reached after) ∨
      (¬ HasRoom registry.snapshot.table declarations ∧
        ∃ done declaration rest entries reached after error,
          StopsAt table registry declarations done declaration rest entries reached after error) := by
  have hperm := Declaration.inOrder_perm declarations
  obtain ⟨done, entries, reached, hgrants, hcurrent, hend⟩ :=
    exists_grants table (rfl : registry.current = registry.current) (Declaration.inOrder declarations)
  rcases hend with ⟨rfl, hresult, hattempted⟩ | ⟨declaration, rest, error, hsplit, hrefused, hresult, hattempted⟩
  · rw [hperm.length_eq] at hresult
    exact .inl ⟨(hgrants.hasRoom h).perm hperm, entries, reached, _,
      ⟨registerDeclared_of_ok hresult, hgrants, hcurrent, hattempted.report rfl⟩⟩
  · refine .inr ⟨fun hroom => ?_, done, declaration, rest, entries, reached, _, error,
      ⟨hsplit, registerDeclared_of_error hresult, hgrants, hrefused, hcurrent, hattempted⟩⟩
    obtain ⟨entry, hgranted⟩ := hgrants.exists_register_next h (hsplit ▸ hroom.perm hperm.symm)
    rw [hrefused] at hgranted
    exact nomatch hgranted

theorem exists_ok_iff (h : registry.Reachable table) (declarations : List Declaration) :
    (∃ count, (registry.registerDeclared table declarations).1 = .ok count) ↔ HasRoom registry.snapshot.table declarations := by
  rcases h.completes_or_stops declarations with ⟨hroom, _, _, _, hcompletes⟩ | ⟨hroom, _, _, _, _, _, _, _, hstops⟩
  · rw [hcompletes.result_eq]
    exact ⟨fun _ => hroom, fun _ => ⟨_, rfl⟩⟩
  · rw [hstops.result_eq]
    refine ⟨?_, fun hroom' => absurd hroom' hroom⟩
    rintro ⟨count, hcount⟩
    exact nomatch hcount

theorem exists_of_hasRoom (h : registry.Reachable table) (hroom : HasRoom registry.snapshot.table declarations) :
    ∃ after, registry.registerDeclared table declarations = (.ok declarations.length, after) := by
  rcases h.completes_or_stops declarations with ⟨-, _, _, after, hcompletes⟩ | ⟨hnone, -⟩
  · exact ⟨after, hcompletes.result_eq⟩
  · exact absurd hroom hnone

end Reachable

/-- Declarations that there is room for are all registered in their order. Otherwise the first that is refused where it comes in that order ends the work, with its own error, and what came before it stays. -/
theorem registerDeclared_outcome (hreachable : registry.Reachable table) (declarations : List Declaration) :
    Declaration.Arranges declarations (Declaration.inOrder declarations) ∧
      (HasRoom registry.snapshot.table declarations →
        ∃ entries reached after, Completes table registry declarations entries reached after) ∧
      (¬ HasRoom registry.snapshot.table declarations →
        ∃ done declaration rest entries reached after error,
          StopsAt table registry declarations done declaration rest entries reached after error) := by
  refine ⟨Declaration.arranges_inOrder declarations, ?_⟩
  rcases hreachable.completes_or_stops declarations with ⟨hroom, hcompletes⟩ | ⟨hroom, hstops⟩
  · exact ⟨fun _ => hcompletes, fun hnone => absurd hroom hnone⟩
  · exact ⟨fun hsome => absurd hsome hroom, fun _ => hstops⟩

/-- Two declarations that write one identifier in different letter cases. -/
def twins : List Declaration :=
  [⟨"a8098c1a-f86e-11da-bd1a-00112444be1e", .command, .value 0, "billing"⟩,
    ⟨"A8098C1A-F86E-11DA-BD1A-00112444BE1E", .event, .value 1, "billing"⟩]

/-- Only the second one to come is refused, so the first one stays. -/
theorem registerDeclared_outcome_twins :
    Reachable Concurrent.namesakes (create 0 "main") ∧ ¬ HasRoom (create 0 "main").snapshot.table twins ∧
      ∃ done declaration rest entries reached after error,
        StopsAt Concurrent.namesakes (create 0 "main") twins done declaration rest entries reached after error := by
  have hroom : ¬ HasRoom (create 0 "main").snapshot.table twins := fun h => absurd h.identifiers_nodup (by decide)
  exact ⟨.create 0 "main", hroom, (registerDeclared_outcome (.create 0 "main") twins).2.2 hroom⟩

/-- The order in which declarations are found decides nothing, except among those with the same text. -/
theorem registerDeclared_perm (hreachable : registry.Reachable table) (hperm : declarations.Perm others) :
    ((∃ count, (registry.registerDeclared table declarations).1 = .ok count) ↔
        ∃ count, (registry.registerDeclared table others).1 = .ok count) ∧
      ((∀ bytes, Declaration.withKey bytes declarations = Declaration.withKey bytes others) →
        registry.registerDeclared table declarations = registry.registerDeclared table others) ∧
      ((declarations.map Declaration.identifier).Nodup →
        registry.registerDeclared table declarations = registry.registerDeclared table others) := by
  have hcongr : (∀ bytes, Declaration.withKey bytes declarations = Declaration.withKey bytes others) →
      registry.registerDeclared table declarations = registry.registerDeclared table others := by
    intro hsame
    unfold registerDeclared
    rw [Declaration.inOrder_congr hsame]
  refine ⟨?_, hcongr, fun hnodup => hcongr (Declaration.withKey_eq_of_perm hnodup hperm)⟩
  rw [hreachable.exists_ok_iff, hreachable.exists_ok_iff]
  exact ⟨fun hroom => hroom.perm hperm, fun hroom => hroom.perm hperm.symm⟩

theorem registerDeclared_perm_twins :
    Reachable Concurrent.namesakes (create 0 "main") ∧ twins.Perm twins.reverse ∧
      (twins.map Declaration.identifier).Nodup ∧
      (create 0 "main").registerDeclared Concurrent.namesakes twins =
        (create 0 "main").registerDeclared Concurrent.namesakes twins.reverse :=
  ⟨.create 0 "main", (List.reverse_perm twins).symm, by decide,
    (registerDeclared_perm (.create 0 "main") (List.reverse_perm twins).symm).2.2 (by decide)⟩

end Registry

end MessageCatalog
