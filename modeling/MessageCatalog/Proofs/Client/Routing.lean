import MessageCatalog.Client
import MessageCatalog.Proofs.Concurrent.RoundTrip
import MessageCatalog.Proofs.Registry.Effect

/-!
# Routes and registrations

A route is built from what is found under its type at the moment, yet whether it can be built is a question about the past: it can if and only if a registration of the type has returned a descriptor, by whichever entry point, or as one of many declarations. `Call.Makes` lists the registrations that a call makes, and these are all that puts anything into the table, `Call.mem_table_answer_iff`; `Client.mem_table_after_iff` follows the table back through any number of acts. Where no route can be built, the entry point that the error names helps, unless the type refers to another one.
-/

namespace MessageCatalog

variable {table : TypeTable} {registry : Registry} {kind : MessageKind} {type : NativeType} {text : String} {entry : Descriptor}
  {result : Except RegisterError Descriptor}

/-! ### The registrations of a call -/

/-- Where the declarations are registered in the order given, up to the first refusal, this registration is made. -/
inductive Registry.MakesEach (table : TypeTable) :
    Registry → List Declaration → NativeType → Except RegisterError Descriptor → Prop where
  | first {registry : Registry} {declaration : Declaration} {rest : List Declaration} {result : Except RegisterError Descriptor} :
      ((registry.report (declaration.event registry)).register table declaration.kind declaration.type
        declaration.identifier).1 = result →
      MakesEach table registry (declaration :: rest) declaration.type result
  | later {registry after : Registry} {declaration : Declaration} {rest : List Declaration} {entry : Descriptor}
      {type : NativeType} {result : Except RegisterError Descriptor} :
      (registry.report (declaration.event registry)).register table declaration.kind declaration.type
        declaration.identifier = (.ok entry, after) →
      MakesEach table after rest type result → MakesEach table registry (declaration :: rest) type result

/-- The call registers the type, and this is what the registration returns. -/
inductive Call.Makes (table : TypeTable) (registry : Registry) : Call → NativeType → Except RegisterError Descriptor → Prop where
  | register {kind : MessageKind} {type : NativeType} {text : String} {result : Except RegisterError Descriptor} :
      (registry.register table kind type text).1 = result → Makes table registry (.register kind type text) type result
  | declared {declarations : List Declaration} {type : NativeType} {result : Except RegisterError Descriptor} :
      registry.MakesEach table (Declaration.inOrder declarations) type result →
      Makes table registry (.registerDeclared declarations) type result

namespace Registry

theorem MakesEach.type_eq {declarations : List Declaration} (h : registry.MakesEach table declarations type result)
    (hresult : result = .ok entry) : entry.type = type := by
  induction h with
  | first hregister => exact type_of_register_ok (hregister.trans hresult)
  | later _ _ ih => exact ih hresult

theorem mem_table_registerEach_iff (declarations : List Declaration) :
    entry ∈ (registry.registerEach table declarations).2.snapshot.table ↔
      entry ∈ registry.snapshot.table ∨ ∃ type, registry.MakesEach table declarations type (.ok entry) := by
  induction declarations generalizing registry with
  | nil =>
    apply (or_iff_left _).symm
    rintro ⟨_, hmakes⟩
    exact nomatch hmakes
  | cons declaration rest ih =>
    rcases hstep : (registry.report (declaration.event registry)).register table declaration.kind declaration.type
      declaration.identifier with ⟨result, after⟩
    have hfirst : entry ∈ ((registry.report (declaration.event registry)).register table declaration.kind declaration.type
        declaration.identifier).2.snapshot.table ↔ _ := mem_table_register_iff
    rw [hstep] at hfirst
    cases result with
    | error error =>
      rw [registerEach_of_refused rest hstep, hfirst]
      refine or_congr_right ⟨nofun, ?_⟩
      rintro ⟨type, hmakes⟩
      cases hmakes with
      | first hregister => exact (congrArg Prod.fst hstep).symm.trans hregister
      | later hregister _ => exact nomatch hstep.symm.trans hregister
    | ok own =>
      rw [registerEach_of_registered rest hstep, ih, hfirst, or_assoc]
      refine or_congr_right ⟨?_, ?_⟩
      · rintro (hown | ⟨type, hmakes⟩)
        · exact ⟨_, .first ((congrArg Prod.fst hstep).trans hown)⟩
        · exact ⟨type, .later hstep hmakes⟩
      · rintro ⟨type, hmakes⟩
        cases hmakes with
        | first hregister => exact .inl ((congrArg Prod.fst hstep).symm.trans hregister)
        | later hregister hmakes =>
          obtain ⟨-, rfl⟩ := Prod.mk.inj (hstep.symm.trans hregister)
          exact .inr ⟨type, hmakes⟩

end Registry

namespace Call

variable {call : Call}

theorem Makes.type_eq (h : call.Makes table registry type (.ok entry)) : entry.type = type := by
  cases h with
  | register hregister => exact Registry.type_of_register_ok hregister
  | declared hmakes => exact hmakes.type_eq rfl

/-- What a call puts into the table is what the registrations that it makes return. -/
theorem mem_table_answer_iff : entry ∈ (call.answer table registry).2.snapshot.table ↔
    entry ∈ registry.snapshot.table ∨ ∃ type, call.Makes table registry type (.ok entry) := by
  cases call with
  | register kind type text =>
    refine Registry.mem_table_register_iff.trans (or_congr_right ⟨fun hregister => ⟨type, .register hregister⟩, ?_⟩)
    rintro ⟨_, hmakes⟩
    cases hmakes with
    | register hregister => exact hregister
  | registerDeclared declarations =>
    change entry ∈ (registry.registerDeclared table declarations).2.snapshot.table ↔ _
    rw [Registry.snapshot_registerDeclared, Registry.mem_table_registerEach_iff]
    refine or_congr_right (exists_congr fun type => ⟨.declared, fun hmakes => ?_⟩)
    cases hmakes with
    | declared hmakes => exact hmakes
  | query question =>
    apply (or_iff_left _).symm
    rintro ⟨_, hmakes⟩
    exact nomatch hmakes

end Call

/-! ### Any number of acts -/

namespace Client

variable {client : Client} {acts : List Act}

/-- The client after the acts. -/
def after (table : TypeTable) (client : Client) (acts : List Act) : Client :=
  acts.foldl (fun client act => (client.step table act).2) client

/-- One of the acts was a call that registered the type, and the descriptor is what this registration returned. -/
def HasRegistered (table : TypeTable) (client : Client) (acts : List Act) (type : NativeType) (entry : Descriptor) : Prop :=
  ∃ past call later, acts = past ++ .call call :: later ∧ call.Makes table (client.after table past).registry type (.ok entry)

theorem after_cons (act : Act) (acts : List Act) : client.after table (act :: acts) = (client.step table act).2.after table acts := rfl

theorem registry_step_cases (client : Client) (act : Act) :
    (∃ call, act = .call call ∧ (client.step table act).2.registry = (call.answer table client.registry).2) ∨
      ((∀ call, act ≠ .call call) ∧ (client.step table act).2.registry = client.registry) := by
  cases act with
  | call call => exact .inl ⟨call, rfl, rfl⟩
  | route kind type => exact .inr ⟨nofun, rfl⟩
  | pin => exact .inr ⟨nofun, rfl⟩
  | enumerate guard via count =>
    refine .inr ⟨nofun, ?_⟩
    cases hguard : client.guards[guard]? <;> simp [step, perform, hguard]
  | isOf entry type => exact .inr ⟨nofun, rfl⟩
  | newInstance entry => exact .inr ⟨nofun, rfl⟩
  | newInstanceOf entry type => exact .inr ⟨nofun, rfl⟩

theorem reachable_after (h : client.registry.Reachable table) (acts : List Act) : (client.after table acts).registry.Reachable table := by
  induction acts generalizing client with
  | nil => exact h
  | cons act acts ih =>
    apply ih
    rcases client.registry_step_cases act with ⟨call, -, hregistry⟩ | ⟨-, hregistry⟩
    · rw [hregistry]
      exact .answer call h
    · rwa [hregistry]

theorem HasRegistered.append (h : HasRegistered table client acts type entry) (later : List Act) :
    HasRegistered table client (acts ++ later) type entry := by
  obtain ⟨past, call, rest, rfl, hmakes⟩ := h
  exact ⟨past, call, rest ++ later, by rw [List.append_assoc, List.cons_append], hmakes⟩

theorem hasRegistered_cons_iff {act : Act} : HasRegistered table client (act :: acts) type entry ↔
    (∃ call, act = .call call ∧ call.Makes table client.registry type (.ok entry)) ∨
      HasRegistered table (client.step table act).2 acts type entry := by
  constructor
  · rintro ⟨past, call, later, hacts, hmakes⟩
    cases past with
    | nil => exact .inl ⟨call, (List.cons.inj hacts).1, hmakes⟩
    | cons first past =>
      obtain ⟨rfl, rfl⟩ := List.cons.inj hacts
      exact .inr ⟨past, call, later, rfl, hmakes⟩
  · rintro (⟨call, rfl, hmakes⟩ | ⟨past, call, later, rfl, hmakes⟩)
    · exact ⟨[], call, acts, rfl, hmakes⟩
    · exact ⟨act :: past, call, later, rfl, hmakes⟩

theorem mem_table_step_iff {act : Act} : entry ∈ (client.step table act).2.registry.snapshot.table ↔
    entry ∈ client.registry.snapshot.table ∨ ∃ type call, act = .call call ∧ call.Makes table client.registry type (.ok entry) := by
  rcases client.registry_step_cases act with ⟨call, rfl, hregistry⟩ | ⟨hother, hregistry⟩
  · rw [hregistry, Call.mem_table_answer_iff]
    refine or_congr_right (exists_congr fun type => ⟨fun hmakes => ⟨call, rfl, hmakes⟩, ?_⟩)
    rintro ⟨_, ⟨rfl⟩, hmakes⟩
    exact hmakes
  · rw [hregistry]
    apply (or_iff_left _).symm
    rintro ⟨_, call, hcall, -⟩
    exact hother call hcall

/-- What is in the table was there at first, or one of the acts has registered it. -/
theorem mem_table_after_iff (acts : List Act) : entry ∈ (client.after table acts).registry.snapshot.table ↔
    entry ∈ client.registry.snapshot.table ∨ ∃ type, HasRegistered table client acts type entry := by
  induction acts generalizing client with
  | nil =>
    apply (or_iff_left _).symm
    rintro ⟨_, past, call, later, hacts, -⟩
    exact List.append_ne_nil_of_right_ne_nil past (List.cons_ne_nil _ _) hacts.symm
  | cons act acts ih =>
    rw [after_cons, ih, mem_table_step_iff, or_assoc, ← exists_or]
    exact or_congr_right (exists_congr fun type => hasRegistered_cons_iff.symm)

theorem HasRegistered.type_eq (h : HasRegistered table client acts type entry) : entry.type = type := by
  obtain ⟨_, _, _, _, hmakes⟩ := h
  exact hmakes.type_eq

end Client

/-! ### Building a route -/

namespace Route

variable {routeKind : RouteKind} {route : Route}

theorem build_eq_ok_iff (h : registry.snapshot.Coherent) : build table registry routeKind type = .ok route ↔
    route.kind = routeKind ∧ route.messageType ∈ registry.snapshot.table ∧ route.messageType.type = type := by
  obtain ⟨own, entry⟩ := route
  rw [← Registry.byType_eq_some_iff h, build, Registry.require]
  cases registry.byType type with
  | none => simp
  | some found => simp [eq_comm]

theorem build_of_absent (h : registry.snapshot.Coherent) (habsent : ∀ entry ∈ registry.snapshot.table, entry.type ≠ type) :
    build table registry routeKind type = .error (.notRegistered (table.name type) routeKind.messageKind) := by
  rw [build, Registry.require]
  cases hfound : registry.byType type with
  | none => rfl
  | some entry =>
    obtain ⟨hentry, htype⟩ := (Registry.byType_eq_some_iff h).1 hfound
    exact absurd htype (habsent entry hentry)

theorem absent_of_build_error {error : LookupError} (h : registry.snapshot.Coherent)
    (hbuild : build table registry routeKind type = .error error) : ∀ entry ∈ registry.snapshot.table, entry.type ≠ type := by
  intro entry hentry htype
  have hbuilt : build table registry routeKind type = .ok ⟨routeKind, entry⟩ := (build_eq_ok_iff h).2 ⟨rfl, hentry, htype⟩
  exact nomatch hbuild.symm.trans hbuilt

end Route

/-- What there is to do when a route cannot be built. -/
structure Registry.Advises (table : TypeTable) (registry : Registry) : Prop where
  /-- The error names the type and the kind of message that the route is for, and its message ends with the entry point of that kind. -/
  named : ∀ routeKind type error, Route.build table registry routeKind type = .error error →
    error = .notRegistered (table.name type) routeKind.messageKind ∧
      ∃ before, error.message = before ++ routeKind.messageKind.registerFunction ++ "()?"
  /-- Any entry point, so also the one that is named, registers the type under any identifier that is not taken, and then the same route can be built. -/
  repaired : ∀ routeKind type error called text identifier, Route.build table registry routeKind type = .error error →
    type.IsValue → Identifier.parse text = .ok identifier → (∀ entry ∈ registry.snapshot.table, entry.identifier ≠ identifier) →
      (registry.register table called type text).1 = .ok (.of table type identifier) ∧
        Route.build table (registry.register table called type text).2 routeKind type = .ok ⟨routeKind, .of table type identifier⟩
  /-- Of a type that refers to another one no route can be built at all. -/
  refused_reference : ∀ routeKind type, ¬ type.IsValue →
    Route.build table registry routeKind type = .error (.notRegistered (table.name type) routeKind.messageKind)

theorem Registry.Reachable.advises (h : registry.Reachable table) : registry.Advises table where
  named routeKind type error hbuild := by
    have habsent : Route.build table registry routeKind type = _ :=
      Route.build_of_absent h.coherent (Route.absent_of_build_error h.coherent hbuild)
    obtain rfl := Except.error.inj (hbuild.symm.trans habsent)
    exact ⟨rfl, _, rfl⟩
  repaired routeKind type error called text identifier hbuild hvalue hparse hidentifier := by
    have htype := Route.absent_of_build_error h.coherent hbuild
    have hfree : registry.snapshot.conflict? (.of table type identifier) = none := by
      apply h.coherent.conflict?_of_notMem
      · intro hmem
        obtain ⟨entry, hentry, hsame⟩ := List.mem_map.1 hmem
        exact htype entry hentry hsame
      · intro hmem
        obtain ⟨entry, hentry, hsame⟩ := List.mem_map.1 hmem
        exact hidentifier entry hentry hsame
    have hresult : (registry.register table called type text).1 = .ok (.of table type identifier) := by
      rw [register_of_free (prepare_of_value hparse hvalue) hfree]
    have hafter : (registry.register table called type text).2.Reachable table := h.answer (.register called type text)
    exact ⟨hresult, (Route.build_eq_ok_iff hafter.coherent).2 ⟨rfl, mem_table_register_iff.2 (.inr hresult), rfl⟩⟩
  refused_reference routeKind type hreference := by
    refine Route.build_of_absent h.coherent fun entry hentry htype => hreference ?_
    rw [← htype]
    exact h.coherent.isValue entry hentry

/-! ### Routes in a run -/

namespace Client

/-- The reply to an act that is made after the others. -/
def reply (table : TypeTable) (client : Client) (acts : List Act) (act : Act) : Reply := ((client.after table acts).step table act).1

/-- What the routes of a client tell of the registrations that it has made. -/
structure RoutesFollow (table : TypeTable) (client : Client) (acts : List Act) : Prop where
  built_iff : ∀ routeKind type route, client.reply table acts (.route routeKind type) = .routed (.ok route) ↔
    route.kind = routeKind ∧ HasRegistered table client acts type route.messageType
  refused : ∀ routeKind type, (∀ entry, ¬ HasRegistered table client acts type entry) →
    client.reply table acts (.route routeKind type) = .routed (.error (.notRegistered (table.name type) routeKind.messageKind))
  stays : ∀ routeKind type route, client.reply table acts (.route routeKind type) = .routed (.ok route) →
    ∀ later, client.reply table (acts ++ later) (.route routeKind type) = .routed (.ok route)

variable {client : Client} {routeKind : RouteKind}

theorem reply_route (client : Client) (acts : List Act) (routeKind : RouteKind) (type : NativeType) :
    client.reply table acts (.route routeKind type) = .routed (Route.build table (client.after table acts).registry routeKind type) :=
  rfl

theorem reply_route_eq_ok_iff (hreachable : client.registry.Reachable table) (hempty : client.registry.snapshot.table = [])
    (acts : List Act) (route : Route) : client.reply table acts (.route routeKind type) = .routed (.ok route) ↔
      route.kind = routeKind ∧ HasRegistered table client acts type route.messageType := by
  have hcoherent := (reachable_after hreachable acts).coherent
  rw [reply_route, Reply.routed.injEq, Route.build_eq_ok_iff hcoherent, mem_table_after_iff, hempty]
  refine and_congr_right fun _ => ⟨?_, fun h => ⟨.inr ⟨type, h⟩, h.type_eq⟩⟩
  rintro ⟨hmem | ⟨other, h⟩, htype⟩
  · exact absurd hmem List.not_mem_nil
  · rwa [h.type_eq.symm.trans htype] at h

theorem routesFollow (hreachable : client.registry.Reachable table) (hempty : client.registry.snapshot.table = [])
    (acts : List Act) : client.RoutesFollow table acts where
  built_iff _ _ route := reply_route_eq_ok_iff hreachable hempty acts route
  refused routeKind type hnone := by
    rw [reply_route, Route.build_of_absent (reachable_after hreachable acts).coherent]
    intro entry hentry htype
    have hbuilt : client.reply table acts (.route routeKind type) = .routed (.ok ⟨routeKind, entry⟩) :=
      congrArg Reply.routed ((Route.build_eq_ok_iff (reachable_after hreachable acts).coherent).2 ⟨rfl, hentry, htype⟩)
    exact hnone entry ((reply_route_eq_ok_iff hreachable hempty acts _).1 hbuilt).2
  stays routeKind type route hbuilt later := by
    rw [reply_route_eq_ok_iff hreachable hempty] at hbuilt ⊢
    exact ⟨hbuilt.1, hbuilt.2.append later⟩

end Client

namespace Concurrent

/-- What routes tell of the registrations that threads have made, whenever they are built. -/
structure RoutesFollow (table : TypeTable) (start : State) (schedule : List Nat) : Prop where
  /-- A registration counts as soon as it has published its descriptor, even if it has not returned yet. -/
  built_iff : ∀ routeKind type route, Route.build table (start.run table schedule).registry routeKind type = .ok route ↔
    route.kind = routeKind ∧ route.messageType.type = type ∧ Origin table start schedule route.messageType
  /-- Unless a thread still has the descriptor in hand, a registration has returned it. -/
  returned : ∀ entry, Origin table start schedule entry →
    (∀ thread, ((start.run table schedule).thread thread).inHand? ≠ some entry) → Returned table start schedule entry
  /-- What a thread has in hand, it returns within three turns. -/
  concludes : ∀ thread entry, ((start.run table schedule).thread thread).inHand? = some entry →
    ∀ later, 3 ≤ later.count thread → Returned table start (schedule ++ later) entry
  refused : ∀ routeKind type, (∀ entry, Origin table start schedule entry → entry.type ≠ type) →
    Route.build table (start.run table schedule).registry routeKind type =
      .error (.notRegistered (table.name type) routeKind.messageKind)
  stays : ∀ routeKind type route, Route.build table (start.run table schedule).registry routeKind type = .ok route →
    ∀ later, Route.build table (start.run table (schedule ++ later)).registry routeKind type = .ok route

theorem routesFollow (table : TypeTable) (serial : Nat) (label : String) (calls : List (List Call)) (schedule : List Nat) :
    RoutesFollow table (State.start (Registry.create serial label) calls) schedule := by
  have hempty : Published.Coherent (Registry.create serial label).current := Snapshot.coherent_empty
  have hstart : (State.start (Registry.create serial label) calls).Holds Published.Coherent (IsListed table) :=
    State.holds_start hempty calls
  have hcoherent := fun schedule => (hstart.run (keeps_isListed table) schedule).1
  have horigin := mem_table_iff_origin table hempty rfl calls schedule
  refine ⟨fun routeKind type route => ?built, fun entry hentry hnone => ?returned, fun thread entry hentry later hturns => ?concludes,
    fun routeKind type hnone => ?refused, fun routeKind type route hbuilt later => ?stays⟩
  case built =>
    rw [Route.build_eq_ok_iff (hcoherent schedule), horigin, and_comm (a := Origin _ _ _ _)]
  case returned =>
    cases hentry with
    | returned hreturned => exact hreturned
    | inHand hentry => exact absurd hentry (hnone _)
  case concludes => exact (returned_of_inHand hentry hturns).of_run schedule
  case refused =>
    apply Route.build_of_absent (hcoherent schedule)
    exact fun entry hentry => hnone entry ((horigin entry).1 hentry)
  case stays =>
    rw [Route.build_eq_ok_iff (hcoherent schedule)] at hbuilt
    rw [Route.build_eq_ok_iff (hcoherent (schedule ++ later))]
    exact ⟨hbuilt.1, State.table_subset_run hstart schedule later hbuilt.2.1, hbuilt.2.2⟩

end Concurrent

/-- On a new registry a route can be built exactly for the types that were registered before, whoever uses the registry, and then it is built with the descriptor that was registered. -/
theorem routes_follow_registrations (table : TypeTable) (serial : Nat) (label : String) :
    (∀ acts, Client.RoutesFollow table { registry := Registry.create serial label } acts) ∧
      (∀ calls schedule, Concurrent.RoutesFollow table (Concurrent.State.start (Registry.create serial label) calls) schedule) ∧
      ∀ registry : Registry, registry.Reachable table → registry.Advises table :=
  ⟨Client.routesFollow (.create serial label) rfl, Concurrent.routesFollow table serial label, fun _ => Registry.Reachable.advises⟩

end MessageCatalog
