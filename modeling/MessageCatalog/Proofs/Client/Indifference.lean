import Mathlib.Data.List.Forall2
import MessageCatalog.Proofs.Client.View

/-!
# What a client cannot tell apart

Clients that look alike through a view get replies that look alike, act for act, and go on to look alike: `Client.Alike.step` says so of one act, and `Client.Alike.trace` of all acts. With kinds blurred and names left as they are, this says that the entry points of registration share one namespace and differ in what they report only. With names blurred and kinds left as they are, it says that types are told apart by their identity, also when they have the same name.
-/

namespace MessageCatalog

variable {view : View} {tables others : TypeTable}

/-! ### Replies -/

theorem Answer.descriptors_seen (view : View) (answer : Answer) :
    (answer.seen view).descriptors = answer.descriptors.map (Descriptor.seen view) := by
  cases answer with
  | registered result => cases result <;> rfl
  | declared result => rfl
  | found found? => cases found? <;> rfl
  | identified result =>
    cases result with
    | error cause => rfl
    | ok found? => cases found? <;> rfl
  | required result => cases result <;> rfl
  | enumerated entries => rfl
  | counted count => rfl
  | decided value => rfl

theorem Reply.descriptors_seen (view : View) (reply : Reply) :
    (reply.seen view).descriptors = reply.descriptors.map (Descriptor.seen view) := by
  cases reply with
  | answered answer => exact answer.descriptors_seen view
  | routed result => cases result <;> rfl
  | pinned size => rfl
  | enumerated entries => rfl
  | decided value => rfl
  | instantiated value? => rfl
  | absent => rfl

/-! ### One act -/

namespace Descriptor

variable {entry other : Descriptor}

theorem isOf_of_seen (h : entry.seen view = other.seen view) (tables others : TypeTable) (type : NativeType) :
    entry.isOf tables type = other.isOf others type := by
  obtain ⟨-, htype, -, -⟩ := seen_eq_iff.1 h
  rw [Bool.eq_iff_iff, isOf_iff, isOf_iff, htype]

theorem newInstanceOf_of_seen (h : entry.seen view = other.seen view) (tables others : TypeTable) (type : NativeType) :
    entry.newInstanceOf tables type = other.newInstanceOf others type := by
  obtain ⟨-, -, -, hzero⟩ := seen_eq_iff.1 h
  rw [newInstanceOf, newInstanceOf, isOf_of_seen h tables others, newInstance, newInstance, hzero]

end Descriptor

/-- The acts are the same, but for the entry point of a registration. -/
inductive Act.Alike (view : View) : Act → Act → Prop where
  | same (act : Act) : Alike view act act
  | register {kind other : MessageKind} {type : NativeType} {text : String} : view.kind kind = view.kind other →
      Alike view (.call (.register kind type text)) (.call (.register other type text))

namespace Client

/-- The registries look alike, and so does all that the clients keep. -/
structure Alike (view : View) (left right : Client) : Prop where
  registry : left.registry.Alike view right.registry
  guards : (left.guards.map fun guard => guard.snapshot.table.map (Descriptor.seen view)) =
    right.guards.map fun guard => guard.snapshot.table.map (Descriptor.seen view)
  held : left.held.map (Descriptor.seen view) = right.held.map (Descriptor.seen view)

namespace Alike

variable {left right : Client}

theorem refl (view : View) (client : Client) : Alike view client client := ⟨.refl view _, rfl, rfl⟩

theorem call (htables : TypeTable.Alike view tables others) (h : Alike view left right) (call : Call) :
    (call.answer tables left.registry).1.seen view = (call.answer others right.registry).1.seen view ∧
      (call.answer tables left.registry).2.Alike view (call.answer others right.registry).2 := by
  cases call with
  | register kind type text =>
    obtain ⟨houtcome, hafter⟩ := h.registry.register htables rfl type text
    exact ⟨congrArg Answer.registered houtcome, hafter⟩
  | registerDeclared declarations =>
    obtain ⟨hresult, hafter⟩ := h.registry.registerDeclared htables declarations
    exact ⟨congrArg Answer.declared hresult, hafter⟩
  | query question => exact ⟨h.registry.query htables question, h.registry⟩

/-- What is asked of a descriptor depends on what is seen of it. -/
theorem ask (h : Alike view left right) (entry : Nat) {question other : Descriptor → Reply}
    (hquestion : ∀ entry found, entry.seen view = found.seen view → (question entry).seen view = (other found).seen view) :
    (left.ask entry question).seen view = (right.ask entry other).seen view := by
  have hentry := congrArg (fun entries : List Descriptor => entries[entry]?) h.held
  simp only [List.getElem?_map] at hentry
  rw [Client.ask, Client.ask]
  rcases option_map_cases hentry with ⟨hleft, hright⟩ | ⟨bound, found, hleft, hright, hbound⟩
  · rw [hleft, hright]
  · rw [hleft, hright]
    exact hquestion bound found hbound

theorem enumerate (h : Alike view left right) (guard : Nat) (via : Traversal) (count : Nat) :
    (left.perform tables (.enumerate guard via count)).1.seen view =
        (right.perform others (.enumerate guard via count)).1.seen view ∧
      Alike view (left.perform tables (.enumerate guard via count)).2 (right.perform others (.enumerate guard via count)).2 := by
  have hguard := congrArg (fun tables : List (List Descriptor) => tables[guard]?) h.guards
  simp only [List.getElem?_map] at hguard
  simp only [perform]
  rcases option_map_cases hguard with ⟨hleft, hright⟩ | ⟨pinned, found, hleft, hright, htable⟩
  · rw [hleft, hright]
    exact ⟨rfl, h⟩
  · rw [hleft, hright]
    refine ⟨congrArg Reply.enumerated ?_, h⟩
    rw [SnapshotGuard.walk_eq_cursor, SnapshotGuard.walk_eq_cursor, Cursor.draw_eq, Cursor.draw_eq, List.map_take, List.map_take]
    exact congrArg (List.take count) htable

theorem perform (htables : TypeTable.Alike view tables others) (h : Alike view left right) {act other : Act}
    (hact : act.Alike view other) :
    (left.perform tables act).1.seen view = (right.perform others other).1.seen view ∧
      Alike view (left.perform tables act).2 (right.perform others other).2 := by
  cases hact with
  | register hkind =>
    obtain ⟨houtcome, hafter⟩ := h.registry.register htables hkind _ _
    exact ⟨congrArg (fun result => Reply.answered (Answer.registered result)) houtcome, hafter, h.guards, h.held⟩
  | same =>
    cases act with
    | call call =>
      obtain ⟨hanswer, hafter⟩ := h.call htables call
      exact ⟨congrArg Reply.answered hanswer, hafter, h.guards, h.held⟩
    | route kind type => exact ⟨congrArg Reply.routed (h.registry.route htables kind type), h⟩
    | pin =>
      refine ⟨congrArg Reply.pinned h.registry.snapshot.size_eq, h.registry, ?_, h.held⟩
      simp only [Client.perform, List.map_append, h.guards]
      exact congrArg (fun table => _ ++ [table]) h.registry.snapshot.table
    | enumerate guard via count => exact h.enumerate guard via count
    | isOf entry type =>
      exact ⟨h.ask entry fun _ _ hseen => congrArg Reply.decided (Descriptor.isOf_of_seen hseen tables others type), h⟩
    | newInstance entry =>
      refine ⟨h.ask entry fun bound found hseen => ?_, h⟩
      obtain ⟨-, -, -, hzero⟩ := Descriptor.seen_eq_iff.1 hseen
      exact congrArg (fun value => Reply.instantiated (some value)) hzero
    | newInstanceOf entry type =>
      exact ⟨h.ask entry fun _ _ hseen =>
        congrArg Reply.instantiated (Descriptor.newInstanceOf_of_seen hseen tables others type), h⟩

theorem step (htables : TypeTable.Alike view tables others) (h : Alike view left right) {act other : Act}
    (hact : act.Alike view other) :
    (left.step tables act).1.seen view = (right.step others other).1.seen view ∧
      Alike view (left.step tables act).2 (right.step others other).2 := by
  obtain ⟨hreply, hafter⟩ := h.perform htables hact
  refine ⟨hreply, hafter.registry, hafter.guards, ?_⟩
  have hdescriptors := congrArg Reply.descriptors hreply
  rw [Reply.descriptors_seen, Reply.descriptors_seen] at hdescriptors
  simp only [Client.step, List.map_append, hafter.held, hdescriptors]

/-! ### All acts -/

theorem trace (htables : TypeTable.Alike view tables others) (h : Alike view left right) {acts otherActs : List Act}
    (hacts : List.Forall₂ (Act.Alike view) acts otherActs) :
    List.Forall₂ (fun first last => first.1.seen view = last.1.seen view ∧ Alike view first.2 last.2)
      (left.trace tables acts) (right.trace others otherActs) := by
  induction hacts generalizing left right with
  | nil => exact .nil
  | cons hact _ ih =>
    have hstep := h.step htables hact
    exact .cons hstep (ih hstep.2)

end Alike

end Client

/-! ### Kinds -/

/-- The same act, but a registration is made by the entry point of this kind. -/
def Act.through (kind : MessageKind) : Act → Act
  | call (.register _ type text) => call (.register kind type text)
  | act => act

/-- The report without the kind of a rejected registration. -/
def Event.withoutKind : Event → Event
  | rejected registry _ error => rejected registry .command error
  | event => event

/-- The same reply and the same table, and reports that differ at most in the kinds of rejected registrations. -/
structure SameButForKinds (left right : Reply × Client) : Prop where
  reply : left.1 = right.1
  table : left.2.registry.snapshot.table = right.2.registry.snapshot.table
  journal : left.2.registry.journal.map Event.withoutKind = right.2.registry.journal.map Event.withoutKind

namespace View

/-- Names are left as they are. -/
def kindless : View := ⟨id, fun _ => .command⟩

theorem descriptor_kindless : Descriptor.seen kindless = id := rfl

theorem registerError_kindless : RegisterError.seen kindless = id := by
  funext error
  cases error <;> rfl

theorem lookupError_kindless : LookupError.seen kindless = id := by
  funext error
  cases error
  rfl

theorem event_kindless : Event.seen kindless = Event.withoutKind := by
  funext event
  cases event with
  | registered registry identifier messageType length retries => rfl
  | retrying registry identifier attempt => rfl
  | rejected registry kind error => exact congrArg (Event.rejected registry .command) (congrFun registerError_kindless error)
  | declaring registry identifier kind package => rfl
  | declared registry count => rfl

theorem answer_kindless (answer : Answer) : answer.seen kindless = answer := by
  cases answer with
  | registered result =>
    cases result with
    | error error => exact congrArg (fun error => Answer.registered (.error error)) (congrFun registerError_kindless error)
    | ok entry => rfl
  | declared result =>
    cases result with
    | error error => exact congrArg (fun error => Answer.declared (.error error)) (congrFun registerError_kindless error)
    | ok count => rfl
  | found found? => simp [Answer.seen, descriptor_kindless]
  | identified result =>
    cases result with
    | error cause => rfl
    | ok found? => simp [Answer.seen, descriptor_kindless, Except.map]
  | required result =>
    cases result with
    | error error => exact congrArg (fun error => Answer.required (.error error)) (congrFun lookupError_kindless error)
    | ok entry => rfl
  | enumerated entries => simp [Answer.seen, descriptor_kindless]
  | counted count => rfl
  | decided value => rfl

theorem reply_kindless (reply : Reply) : reply.seen kindless = reply := by
  cases reply with
  | answered answer => exact congrArg Reply.answered (answer_kindless answer)
  | routed result =>
    cases result with
    | error error => exact congrArg (fun error => Reply.routed (.error error)) (congrFun lookupError_kindless error)
    | ok route => rfl
  | pinned size => rfl
  | enumerated entries => simp [Reply.seen, descriptor_kindless]
  | decided value => rfl
  | instantiated value? => rfl
  | absent => rfl

end View

theorem Act.alike_through (kind : MessageKind) (act : Act) : act.Alike View.kindless (act.through kind) := by
  cases act with
  | call call =>
    cases call with
    | register own type text => exact .register rfl
    | registerDeclared declarations => exact .same _
    | query question => exact .same _
  | route kind type => exact .same _
  | pin => exact .same _
  | enumerate guard via count => exact .same _
  | isOf entry type => exact .same _
  | newInstance entry => exact .same _
  | newInstanceOf entry type => exact .same _

/-- All entry points share one namespace: whichever of them the registrations of a run are made by, every reply is the same, every table is the same, and the reports differ in the kinds of rejected registrations only. -/
theorem Client.trace_through (table : TypeTable) (client : Client) (acts : List (Act × MessageKind)) :
    List.Forall₂ SameButForKinds (client.trace table (acts.map Prod.fst))
      (client.trace table (acts.map fun act => act.1.through act.2)) := by
  have htable : TypeTable.Alike View.kindless table table := ⟨fun _ => rfl, rfl⟩
  have hacts : List.Forall₂ (Act.Alike View.kindless) (acts.map Prod.fst) (acts.map fun act => act.1.through act.2) := by
    rw [List.forall₂_map_left_iff, List.forall₂_map_right_iff, List.forall₂_same]
    exact fun act _ => act.1.alike_through act.2
  refine ((Client.Alike.refl View.kindless client).trace htable hacts).imp fun left right hsame => ?_
  obtain ⟨hreply, hafter⟩ := hsame
  refine ⟨?_, ?_, ?_⟩
  · rwa [View.reply_kindless, View.reply_kindless] at hreply
  · simpa only [View.descriptor_kindless, List.map_id] using hafter.registry.snapshot.table
  · simpa only [View.event_kindless] using hafter.registry.journal

/-! ### Names -/

/-- Kinds are left as they are. -/
def View.nameless : View := ⟨fun _ => "", id⟩

/-- Replies and reports that differ at most in the names of types, and tables of the same types and identifiers in the same order. -/
structure SameButForNames (left right : Reply × Client) : Prop where
  reply : left.1.seen View.nameless = right.1.seen View.nameless
  table : (left.2.registry.snapshot.table.map fun entry => (entry.type, entry.identifier)) =
    right.2.registry.snapshot.table.map fun entry => (entry.type, entry.identifier)
  journal : left.2.registry.journal.map (Event.seen View.nameless) = right.2.registry.journal.map (Event.seen View.nameless)

/-- The identity of a type decides, and its name never does: whatever the types are called, alike or not, every act has the same outcome. -/
theorem Client.trace_names (first last zeroText : NativeType → String) (serial : Nat) (label : String) (acts : List Act) :
    List.Forall₂ SameButForNames (Client.trace ⟨first, zeroText⟩ { registry := Registry.create serial label } acts)
      (Client.trace ⟨last, zeroText⟩ { registry := Registry.create serial label } acts) := by
  have htables : TypeTable.Alike View.nameless ⟨first, zeroText⟩ ⟨last, zeroText⟩ := ⟨fun _ => rfl, rfl⟩
  have hacts : List.Forall₂ (Act.Alike View.nameless) acts acts := List.forall₂_same.2 fun act _ => .same act
  refine ((Client.Alike.refl View.nameless _).trace htables hacts).imp fun left right hsame => ?_
  obtain ⟨hreply, hafter⟩ := hsame
  refine ⟨hreply, ?_, hafter.registry.journal⟩
  have hpairs := congrArg (List.map fun entry : Descriptor => (entry.type, entry.identifier)) hafter.registry.snapshot.table
  rw [List.map_map, List.map_map] at hpairs
  exact hpairs

end MessageCatalog
