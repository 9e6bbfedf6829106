import MessageCatalog.Client
import MessageCatalog.Proofs.Concurrent.Contention
import MessageCatalog.Proofs.Concurrent.Settlement
import MessageCatalog.Proofs.Registry.Effect

/-!
# What a failed registration leaves behind

Nothing but a report: what a registration publishes is what it returns. Among others this follows from what a registration has done when it comes to its end, `Conduct.Bears`, whichever of its attempts was the last. Without interference the publication after a failure is the one before it, and a client that tried cannot tell the difference from a client that did not: `Client.Agrees.trace` follows both through all that they may do later.
-/

namespace MessageCatalog

def Event.isRegistered (event : Event) : Bool := event.message == "message type registered"

theorem Event.isRegistered_retrying (label : String) (identifier : Identifier) (attempt : Nat) :
    isRegistered (.retrying label identifier attempt) = false := by
  simp [isRegistered, message]

theorem Event.not_isRegistered_of_isOfSeries {event : Event} (h : event.isOfSeries) : ¬ event.isRegistered := by
  cases event with
  | declaring registry identifier kind package => simp [isRegistered, message]
  | declared registry count => simp [isRegistered, message]
  | registered registry identifier messageType length retries => exact nomatch h
  | retrying registry identifier attempt => exact nomatch h
  | rejected registry kind error => exact nomatch h

/-! ### Among others -/

/-- The descriptor that is returned was published and reported to be registered, once each, and no other one was. -/
structure Conduct.Bears (conduct : Conduct) (result : Except RegisterError Descriptor) : Prop where
  published : conduct.published = result.toOption.toList
  registered : conduct.reports.countP Event.isRegistered = result.toOption.toList.length

namespace Merge.Registration

variable {label : String} {registration : Registration} {conduct : Conduct}

theorem Done.published_eq (h : registration.Done label conduct) : conduct.published = registration.published?.toList := by
  cases h <;> rfl

theorem Done.countP_isRegistered (h : registration.Done label conduct) :
    conduct.reports.countP Event.isRegistered = (registration.result?.bind Except.toOption).toList.length := by
  rw [List.countP_eq_length_filter]
  rcases h.filter_reports Event.isRegistered_retrying with
    ⟨hresult, hreports⟩ | ⟨length, hresult, hreports⟩ | ⟨error, -, hresult, hreports⟩
  · rw [hresult, hreports]
    rfl
  · rw [hresult, hreports]
    rfl
  · rw [hresult, hreports]
    rfl

end Merge.Registration

namespace Concurrent

variable {table : TypeTable} {label : String} {kind : MessageKind} {type : NativeType} {text : String}
  {result : Except RegisterError Descriptor} {conduct : Conduct}

theorem Registers.bears (h : Registers table label kind type text result conduct) : conduct.Bears result := by
  cases h with
  | refused hprepare => exact ⟨rfl, rfl⟩
  | rejected retries _ hconflict =>
    refine ⟨rfl, ?_⟩
    rw [List.countP_eq_length_filter, List.filter_append, Event.filter_retries Event.isRegistered_retrying]
    rfl
  | registered retries length _ =>
    refine ⟨rfl, ?_⟩
    rw [List.countP_eq_length_filter, List.filter_append, Event.filter_retries Event.isRegistered_retrying]
    rfl

/-- What neither a thread nor the others have changed is as it was. -/
theorem State.current_of_overtakings {state : State} {schedule : List Nat} {thread : Nat}
    (hothers : state.overtakings table schedule thread = []) (hown : (state.conduct table schedule thread).published = []) :
    (state.run table schedule).registry.current = state.registry.current := by
  refine current_run (List.eq_nil_iff_forall_not_mem.2 fun publication hpublication => ?_)
  rw [published_conduct, publishedBy, List.map_eq_nil_iff, List.filter_eq_nil_iff] at hown
  rw [overtakings, List.filter_eq_nil_iff] at hothers
  have hthread : publication.thread = thread := by simpa using hothers publication hpublication
  exact hown publication hpublication (beq_iff_eq.2 hthread)

end Concurrent

/-! ### Without interference -/

namespace Client

/-- The clients have the same publication before them and keep the same guards and descriptors. Their journals may differ. -/
structure Agrees (left right : Client) : Prop where
  current : left.registry.current = right.registry.current
  guards : left.guards = right.guards
  held : left.held = right.held

namespace Agrees

variable {left right : Client}

theorem call (table : TypeTable) (h : Agrees left right) (call : Call) :
    (call.answer table left.registry).1 = (call.answer table right.registry).1 ∧
      (call.answer table left.registry).2.current = (call.answer table right.registry).2.current := by
  cases call with
  | register kind type text => exact Call.answer_congr table rfl h.current
  | query question => exact Call.answer_congr table rfl h.current
  | registerDeclared declarations =>
    obtain ⟨hresult, hafter⟩ := Registry.registerDeclared_congr table declarations h.current
    exact ⟨congrArg Answer.declared hresult, hafter⟩

theorem perform (table : TypeTable) (h : Agrees left right) (act : Act) :
    (left.perform table act).1 = (right.perform table act).1 ∧ Agrees (left.perform table act).2 (right.perform table act).2 := by
  have hsnapshot : left.registry.snapshot = right.registry.snapshot := congrArg Published.snapshot h.current
  have hguard : left.registry.guard = right.registry.guard := congrArg SnapshotGuard.mk hsnapshot
  cases act with
  | call call =>
    obtain ⟨hanswer, hafter⟩ := h.call table call
    exact ⟨congrArg Reply.answered hanswer, hafter, h.guards, h.held⟩
  | route kind type =>
    refine ⟨congrArg Reply.routed ?_, h⟩
    rw [Route.build, Registry.require, Registry.byType, hsnapshot]
    rfl
  | pin =>
    refine ⟨congrArg (fun guard : SnapshotGuard => Reply.pinned guard.size) hguard, h.current, ?_, h.held⟩
    simp only [Client.perform, h.guards, hguard]
  | enumerate guard via count =>
    simp only [Client.perform, h.guards]
    cases right.guards[guard]? <;> exact ⟨rfl, h⟩
  | isOf entry type => exact ⟨by simp only [Client.perform, Client.ask, h.held], h⟩
  | newInstance entry => exact ⟨by simp only [Client.perform, Client.ask, h.held], h⟩
  | newInstanceOf entry type => exact ⟨by simp only [Client.perform, Client.ask, h.held], h⟩

theorem step (table : TypeTable) (h : Agrees left right) (act : Act) :
    (left.step table act).1 = (right.step table act).1 ∧ Agrees (left.step table act).2 (right.step table act).2 := by
  obtain ⟨hreply, hafter⟩ := h.perform table act
  refine ⟨hreply, hafter.current, hafter.guards, ?_⟩
  simp only [Client.step, hafter.held, hreply]

/-- Clients that agree get the same replies for ever. -/
theorem trace (table : TypeTable) (h : Agrees left right) (acts : List Act) :
    (left.trace table acts).map Prod.fst = (right.trace table acts).map Prod.fst := by
  induction acts generalizing left right with
  | nil => rfl
  | cons act acts ih =>
    obtain ⟨hreply, hafter⟩ := h.step table act
    rw [Client.trace, Client.trace, List.map_cons, List.map_cons, hreply, ih hafter]

end Agrees

/-- The client after it has tried to register a type. -/
def afterRegister (table : TypeTable) (client : Client) (kind : MessageKind) (type : NativeType) (text : String) : Client :=
  (client.step table (.call (.register kind type text))).2

variable {table : TypeTable} {client : Client} {kind : MessageKind} {type : NativeType} {text : String}

theorem agrees_afterRegister {error : RegisterError} (h : (client.registry.register table kind type text).1 = .error error) :
    (client.afterRegister table kind type text).Agrees client := by
  refine ⟨Registry.current_of_register_error h, rfl, ?_⟩
  show client.held ++ Answer.descriptors (.registered (client.registry.register table kind type text).1) = client.held
  rw [h]
  exact List.append_nil _

theorem held_afterRegister {entry : Descriptor} (h : (client.registry.register table kind type text).1 = .ok entry) :
    (client.afterRegister table kind type text).held = client.held ++ [entry] := by
  show client.held ++ Answer.descriptors (.registered (client.registry.register table kind type text).1) = _
  rw [h]
  rfl

end Client

theorem Registry.countP_isRegistered_register (table : TypeTable) (kind : MessageKind) (type : NativeType) (text : String)
    (registry : Registry) : ∃ reports, (registry.register table kind type text).2.journal = registry.journal ++ reports ∧
      reports.countP Event.isRegistered = (registry.register table kind type text).1.toOption.toList.length := by
  rcases register_cases table kind type text registry with
    ⟨_, -, hregister⟩ | ⟨_, _, -, -, hregister⟩ | ⟨own, -, -, hregister⟩
  · rw [hregister]
    exact ⟨[], (List.append_nil _).symm, rfl⟩
  · rw [hregister]
    exact ⟨_, rfl, rfl⟩
  · rw [hregister]
    exact ⟨_, rfl, rfl⟩

/-! ### All of it -/

namespace Concurrent

/-- A registration publishes what it returns, and so nothing if it fails. -/
structure PublishesResults (table : TypeTable) (registry : Registry) (calls : List (List Call)) (schedule : List Nat) : Prop where
  /-- At every moment a registration has published what its verdict says, and reported what its result says. When it has failed and no other thread has published meanwhile, the publication is still the one before it. -/
  among : Throughout table (State.start registry calls) schedule
    (fun state during thread registration =>
      (state.conduct table during thread).published = registration.published?.toList ∧
        (state.conduct table during thread).reports.countP Event.isRegistered =
          (registration.result?.bind Except.toOption).toList.length)
    fun state during thread _ result => (state.conduct table during thread).Bears result ∧
      ∀ error, result = .error error → state.overtakings table during thread = [] →
        (state.run table during).registry.current = state.registry.current
  /-- A turn that is not a step of a registration publishes nothing. -/
  otherwise : ∀ index,
    (∀ registration, (((State.start registry calls).run table schedule).thread index).registration? = some registration →
      registration.result?.isSome) →
    ((((State.start registry calls).run table schedule).thread index).deed table index
        ((State.start registry calls).run table schedule).registry).published = [] ∧
      ∀ event ∈ ((((State.start registry calls).run table schedule).thread index).deed table index
        ((State.start registry calls).run table schedule).registry).reports, ¬ event.isRegistered
  /-- A client that fails to register a type has the same publication before it as a client that did not try, keeps the same guards and descriptors, and gets the same replies for ever. -/
  failed : ∀ (client : Client) kind type text error, (client.registry.register table kind type text).1 = .error error →
    (client.afterRegister table kind type text).Agrees client ∧
      (∃ reports, (client.afterRegister table kind type text).registry.journal = client.registry.journal ++ reports ∧
        reports.countP Event.isRegistered = 0) ∧
      ∀ acts, ((client.afterRegister table kind type text).trace table acts).map Prod.fst = (client.trace table acts).map Prod.fst
  /-- One that succeeds has published once. -/
  registered : ∀ (client : Client) kind type text entry, (client.registry.register table kind type text).1 = .ok entry →
    (client.afterRegister table kind type text).registry.current =
        client.registry.current.next (client.registry.snapshot.extend entry) ∧
      (client.afterRegister table kind type text).guards = client.guards ∧
      (client.afterRegister table kind type text).held = client.held ++ [entry]

/-- Whatever others do meanwhile, a registration that fails has published nothing, and one that succeeds has published once. -/
theorem publishesResults_run (table : TypeTable) (registry : Registry) (calls : List (List Call)) (schedule : List Nat) :
    PublishesResults table registry calls schedule where
  among := by
    refine throughout_run schedule (fun before during thread registration hbegins => ?working)
      fun before during thread kind type text result _ hregisters => ?returned
    case working => exact ⟨hbegins.done.published_eq, hbegins.done.countP_isRegistered⟩
    case returned =>
      refine ⟨hregisters.bears, fun error herror hothers => State.current_of_overtakings hothers ?_⟩
      rw [hregisters.bears.published, herror]
      rfl
  otherwise index hdone := by
    obtain ⟨reports, hdeed, hseries⟩ := Thread.deed_of_quiet hdone index
    rw [hdeed]
    exact ⟨rfl, fun event hevent => Event.not_isRegistered_of_isOfSeries (hseries event hevent)⟩
  failed client kind type text error h := by
    have hagrees := Client.agrees_afterRegister h
    obtain ⟨reports, hjournal, hregistered⟩ := Registry.countP_isRegistered_register table kind type text client.registry
    rw [h] at hregistered
    exact ⟨hagrees, ⟨reports, hjournal, hregistered⟩, hagrees.trace table⟩
  registered client kind type text entry h := ⟨Registry.current_of_register_ok h, rfl, Client.held_afterRegister h⟩

end Concurrent

end MessageCatalog
