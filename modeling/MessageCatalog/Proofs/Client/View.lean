import MessageCatalog.Client

/-!
# What names and kinds can do

Names of types and kinds of messages travel through descriptors, errors and reports. A `View` blurs both: it tells what an onlooker makes of a name, and of the kind in the report of a rejection. Two registries that look alike through a view, `Registry.Alike`, give answers that look alike and go on to look alike, whatever is done with both of them: no name and no kind is ever compared with another. Which registrations succeed, what lookups return and what is in the table is therefore the same for all names that the view blurs together.
-/

namespace MessageCatalog

/-- What is made of the name of a type, and of the kind of a registration that is rejected. -/
structure View where
  name : String → String
  kind : MessageKind → MessageKind

/-! ### Data through a view -/

section Seen

variable (view : View)

def Descriptor.seen (entry : Descriptor) : Descriptor :=
  { entry with token := ⟨entry.token.id, view.name entry.token.name⟩ }

def RegisterError.seen : RegisterError → RegisterError
  | identifier messageType source => identifier (view.name messageType) source
  | receiverMismatch messageType referent => receiverMismatch (view.name messageType) (view.name referent)
  | alreadyRegistered messageType own => alreadyRegistered (view.name messageType) own
  | typeConflict messageType own existing => typeConflict (view.name messageType) own existing
  | identifierConflict messageType own existing => identifierConflict (view.name messageType) own (view.name existing)

def LookupError.seen : LookupError → LookupError
  | notRegistered messageType kind => notRegistered (view.name messageType) kind

def Event.seen : Event → Event
  | registered registry identifier messageType length retries =>
    registered registry identifier (view.name messageType) length retries
  | retrying registry identifier attempt => retrying registry identifier attempt
  | rejected registry kind error => rejected registry (view.kind kind) (error.seen view)
  | declaring registry identifier kind package => declaring registry identifier kind package
  | declared registry count => declared registry count

def Route.seen (route : Route) : Route := { route with messageType := route.messageType.seen view }

def View.outcome (result : Except RegisterError Descriptor) : Except RegisterError Descriptor :=
  (result.map (Descriptor.seen view)).mapError (RegisterError.seen view)

def Answer.seen : Answer → Answer
  | registered result => registered (view.outcome result)
  | declared result => declared (result.mapError (RegisterError.seen view))
  | found found? => found (found?.map (Descriptor.seen view))
  | identified result => identified (result.map (Option.map (Descriptor.seen view)))
  | required result => required ((result.map (Descriptor.seen view)).mapError (LookupError.seen view))
  | enumerated entries => enumerated (entries.map (Descriptor.seen view))
  | counted count => counted count
  | decided value => decided value

def Reply.seen : Reply → Reply
  | answered answer => answered (answer.seen view)
  | routed result => routed ((result.map (Route.seen view)).mapError (LookupError.seen view))
  | pinned size => pinned size
  | enumerated entries => enumerated (entries.map (Descriptor.seen view))
  | decided value => decided value
  | instantiated value? => instantiated value?
  | absent => absent

/-- Two applications that differ in nothing but the names that the view blurs together. -/
structure TypeTable.Alike (left right : TypeTable) : Prop where
  name : ∀ type, view.name (left.name type) = view.name (right.name type)
  zeroText : left.zeroText = right.zeroText

end Seen

variable {view : View}

@[simp] theorem View.outcome_error (error : RegisterError) : view.outcome (.error error) = .error (error.seen view) := rfl

@[simp] theorem View.outcome_ok (entry : Descriptor) : view.outcome (.ok entry) = .ok (entry.seen view) := rfl

theorem Descriptor.seen_eq_iff {left right : Descriptor} :
    left.seen view = right.seen view ↔
      left.identifier = right.identifier ∧ left.type = right.type ∧ view.name left.name = view.name right.name ∧
        left.zero = right.zero := by
  simp [seen, type, name, and_assoc]

/-- Results that look alike are both errors or both descriptors. -/
theorem View.outcome_cases {left right : Except RegisterError Descriptor} (h : view.outcome left = view.outcome right) :
    (∃ error other, left = .error error ∧ right = .error other ∧ error.seen view = other.seen view) ∨
      ∃ entry other, left = .ok entry ∧ right = .ok other ∧ entry.seen view = other.seen view := by
  cases left with
  | error error =>
    cases right with
    | error other => exact .inl ⟨error, other, rfl, rfl, Except.error.inj h⟩
    | ok other => exact nomatch h
  | ok entry =>
    cases right with
    | error other => exact nomatch h
    | ok other => exact .inr ⟨entry, other, rfl, rfl, Except.ok.inj h⟩

theorem option_map_cases {α β : Type} {f : α → β} {left right : Option α} (h : left.map f = right.map f) :
    (left = none ∧ right = none) ∨ ∃ a b, left = some a ∧ right = some b ∧ f a = f b := by
  cases left with
  | none =>
    cases right with
    | none => exact .inl ⟨rfl, rfl⟩
    | some b => exact nomatch h
  | some a =>
    cases right with
    | none => exact nomatch h
    | some b => exact .inr ⟨a, b, rfl, rfl, Option.some.inj h⟩

theorem mapError_map_congr {ε ε' α β : Type} {g : ε → ε'} {left right : Except ε α} (f : α → β)
    (h : left.mapError g = right.mapError g) : (left.map f).mapError g = (right.map f).mapError g := by
  cases left with
  | error error =>
    cases right with
    | error other => exact congrArg Except.error (Except.error.inj h)
    | ok b => exact nomatch h
  | ok a =>
    cases right with
    | error other => exact nomatch h
    | ok b => exact congrArg (fun value => Except.ok (f value)) (Except.ok.inj h)

/-! ### Snapshots -/

namespace Snapshot

variable {left right : Snapshot} {entry other : Descriptor}

/-- The tables and all lookups look alike. -/
structure Alike (view : View) (left right : Snapshot) : Prop where
  table : left.table.map (Descriptor.seen view) = right.table.map (Descriptor.seen view)
  findType? : ∀ type, (left.findType? type).map (Descriptor.seen view) = (right.findType? type).map (Descriptor.seen view)
  findIdentifier? : ∀ raw,
    (left.findIdentifier? raw).map (Descriptor.seen view) = (right.findIdentifier? raw).map (Descriptor.seen view)

namespace Alike

theorem refl (view : View) (snapshot : Snapshot) : Alike view snapshot snapshot := ⟨rfl, fun _ => rfl, fun _ => rfl⟩

theorem size_eq (h : Alike view left right) : left.size = right.size := by
  simpa [size] using congrArg List.length h.table

theorem isEmpty_eq (h : Alike view left right) : left.isEmpty = right.isEmpty := by
  simpa [isEmpty] using congrArg List.isEmpty h.table

theorem extend (h : Alike view left right) (hentry : entry.seen view = other.seen view) :
    Alike view (left.extend entry) (right.extend other) := by
  obtain ⟨hidentifier, htype, -, -⟩ := Descriptor.seen_eq_iff.1 hentry
  refine ⟨?_, fun type => ?_, fun raw => ?_⟩
  · rw [table_extend, table_extend, List.map_append, List.map_append, h.table, List.map_singleton, List.map_singleton, hentry]
  · rw [findType?_extend, findType?_extend, htype]
    split
    · exact congrArg some hentry
    · exact h.findType? type
  · rw [findIdentifier?_extend, findIdentifier?_extend, hidentifier]
    split
    · exact congrArg some hentry
    · exact h.findIdentifier? raw

/-- The same conflict is found, or none: types and identifiers are compared, names are not. -/
theorem conflict? (h : Alike view left right) (hentry : entry.seen view = other.seen view) :
    (left.conflict? entry).map (RegisterError.seen view) = (right.conflict? other).map (RegisterError.seen view) := by
  obtain ⟨hidentifier, htype, hname, -⟩ := Descriptor.seen_eq_iff.1 hentry
  have hbyType := h.findType? entry.type
  have hbyIdentifier := h.findIdentifier? entry.identifier.text
  unfold Snapshot.conflict?
  rw [← htype, ← hidentifier]
  -- both sides take the same branch, and what the branches tell differs in names only
  rcases option_map_cases hbyType with ⟨hleft, hright⟩ | ⟨bound, found, hleft, hright, hbound⟩
  · rw [hleft, hright]
    rcases option_map_cases hbyIdentifier with ⟨hleft, hright⟩ | ⟨bound, found, hleft, hright, hbound⟩
    · rw [hleft, hright]
    · obtain ⟨-, -, hexisting, -⟩ := Descriptor.seen_eq_iff.1 hbound
      rw [hleft, hright]
      simp [RegisterError.seen, hname, hexisting]
  · obtain ⟨hexisting, -, -, -⟩ := Descriptor.seen_eq_iff.1 hbound
    rw [hleft, hright]
    dsimp only
    rw [hexisting]
    split <;> simp [RegisterError.seen, hname]

end Alike

end Snapshot

/-! ### Registries -/

namespace Registry

variable {left right : Registry} {tables others : TypeTable}

/-- What is published and what was reported look alike. -/
structure Alike (view : View) (left right : Registry) : Prop where
  label : left.label = right.label
  snapshot : left.snapshot.Alike view right.snapshot
  journal : left.journal.map (Event.seen view) = right.journal.map (Event.seen view)

theorem prepare_seen (h : TypeTable.Alike view tables others) (type : NativeType) (text : String) :
    view.outcome (prepare tables type text) = view.outcome (prepare others type text) := by
  unfold prepare
  cases Identifier.parse text with
  | error source => exact congrArg (fun name => Except.error (RegisterError.identifier name source)) (h.name type)
  | ok identifier =>
    cases type.referent? with
    | some referent =>
      simp only [View.outcome_error, RegisterError.seen, h.name type, h.name referent]
    | none =>
      have hzero : Instance.zero tables type = Instance.zero others type := by rw [Instance.zero, Instance.zero, h.zeroText]
      have hseen : (Descriptor.of tables type identifier).seen view = (Descriptor.of others type identifier).seen view :=
        Descriptor.seen_eq_iff.2 ⟨rfl, rfl, h.name type, hzero⟩
      rw [View.outcome_ok, View.outcome_ok, hseen]

namespace Alike

theorem refl (view : View) (registry : Registry) : Alike view registry registry := ⟨rfl, .refl view _, rfl⟩

theorem report (h : Alike view left right) {event other : Event} (hevent : event.seen view = other.seen view) :
    Alike view (left.report event) (right.report other) := by
  refine ⟨h.label, h.snapshot, ?_⟩
  rw [journal_report, journal_report, List.map_append, List.map_append, h.journal, List.map_singleton, List.map_singleton, hevent]

/-- A registration ends alike, also if it is made by another entry point that is blurred together with the first. -/
theorem register (htables : TypeTable.Alike view tables others) (h : Alike view left right) {kind otherKind : MessageKind}
    (hkind : view.kind kind = view.kind otherKind) (type : NativeType) (text : String) :
    view.outcome (left.register tables kind type text).1 = view.outcome (right.register others otherKind type text).1 ∧
      Alike view (left.register tables kind type text).2 (right.register others otherKind type text).2 := by
  rcases View.outcome_cases (prepare_seen htables type text) with
    ⟨error, other, hleft, hright, herror⟩ | ⟨entry, other, hleft, hright, hentry⟩
  · rw [register_of_refused hleft, register_of_refused hright]
    exact ⟨congrArg Except.error herror, h⟩
  · obtain ⟨hidentifier, -, hname, -⟩ := Descriptor.seen_eq_iff.1 hentry
    rcases option_map_cases (h.snapshot.conflict? hentry) with ⟨hfree, hother⟩ | ⟨error, conflict, hconflict, hother, herror⟩
    · rw [register_of_free hleft hfree, register_of_free hright hother]
      refine ⟨congrArg Except.ok hentry, h.label, h.snapshot.extend hentry, ?_⟩
      have hsize : left.size = right.size := h.snapshot.size_eq
      simp only [List.map_append, List.map_singleton, h.journal, Event.seen, h.label, hidentifier, hname, hsize]
    · rw [register_of_conflict hleft hconflict, register_of_conflict hright hother]
      refine ⟨congrArg Except.error herror, h.report ?_⟩
      simp only [Event.seen, h.label, hkind, herror]

theorem registerEach (htables : TypeTable.Alike view tables others) (declarations : List Declaration)
    (h : Alike view left right) :
    (left.registerEach tables declarations).1.mapError (RegisterError.seen view) =
        (right.registerEach others declarations).1.mapError (RegisterError.seen view) ∧
      Alike view (left.registerEach tables declarations).2 (right.registerEach others declarations).2 := by
  induction declarations generalizing left right with
  | nil => exact ⟨rfl, h⟩
  | cons declaration rest ih =>
    have hreported : Alike view (left.report (declaration.event left)) (right.report (declaration.event right)) :=
      h.report (by simp only [Declaration.event, Event.seen, h.label])
    obtain ⟨houtcome, hafter⟩ := hreported.register htables rfl declaration.type declaration.identifier
    rcases View.outcome_cases houtcome with ⟨error, other, hleft, hright, herror⟩ | ⟨entry, other, hleft, hright, -⟩
    · rw [registerEach_of_refused rest (Prod.ext hleft rfl), registerEach_of_refused rest (Prod.ext hright rfl)]
      exact ⟨congrArg Except.error herror, hafter⟩
    · rw [registerEach_of_registered rest (Prod.ext hleft rfl), registerEach_of_registered rest (Prod.ext hright rfl)]
      obtain ⟨hresult, hlast⟩ := ih hafter
      exact ⟨mapError_map_congr (· + 1) hresult, hlast⟩

theorem registerDeclared (htables : TypeTable.Alike view tables others) (declarations : List Declaration)
    (h : Alike view left right) :
    (left.registerDeclared tables declarations).1.mapError (RegisterError.seen view) =
        (right.registerDeclared others declarations).1.mapError (RegisterError.seen view) ∧
      Alike view (left.registerDeclared tables declarations).2 (right.registerDeclared others declarations).2 := by
  obtain ⟨hresult, hafter⟩ := h.registerEach htables (Declaration.inOrder declarations)
  unfold Registry.registerDeclared
  rcases hleft : left.registerEach tables (Declaration.inOrder declarations) with ⟨leftResult, leftAfter⟩
  rcases hright : right.registerEach others (Declaration.inOrder declarations) with ⟨rightResult, rightAfter⟩
  rw [hleft, hright] at hresult hafter
  cases leftResult with
  | error error =>
    cases rightResult with
    | error other => exact ⟨hresult, hafter⟩
    | ok count => exact nomatch hresult
  | ok count =>
    cases rightResult with
    | error other => exact nomatch hresult
    | ok counted =>
      obtain rfl : count = counted := Except.ok.inj hresult
      have hlabel : leftAfter.label = rightAfter.label := hafter.label
      exact ⟨rfl, hafter.report (by simp only [Event.seen, hlabel])⟩

/-! ### Questions -/

theorem byIdentifier (h : Alike view left right) (text : String) :
    (left.byIdentifier text).map (Option.map (Descriptor.seen view)) =
      (right.byIdentifier text).map (Option.map (Descriptor.seen view)) := by
  rw [Registry.byIdentifier, Registry.byIdentifier]
  cases Identifier.parse text with
  | error cause => rfl
  | ok identifier => exact congrArg Except.ok (h.snapshot.findIdentifier? identifier.text)

theorem require (htables : TypeTable.Alike view tables others) (h : Alike view left right) (type : NativeType) (kind : MessageKind) :
    ((left.require tables type kind).map (Descriptor.seen view)).mapError (LookupError.seen view) =
      ((right.require others type kind).map (Descriptor.seen view)).mapError (LookupError.seen view) := by
  rw [Registry.require, Registry.require]
  rcases option_map_cases (h.snapshot.findType? type) with ⟨hleft, hright⟩ | ⟨entry, found, hleft, hright, hentry⟩
  · rw [Registry.byType, hleft, Registry.byType, hright]
    exact congrArg (fun name => Except.error (LookupError.notRegistered name kind)) (htables.name type)
  · rw [Registry.byType, hleft, Registry.byType, hright]
    exact congrArg Except.ok hentry

theorem route (htables : TypeTable.Alike view tables others) (h : Alike view left right) (kind : RouteKind) (type : NativeType) :
    ((Route.build tables left kind type).map (Route.seen view)).mapError (LookupError.seen view) =
      ((Route.build others right kind type).map (Route.seen view)).mapError (LookupError.seen view) := by
  have hrequire := h.require htables type kind.messageKind
  rw [Route.build, Route.build]
  cases hleft : left.require tables type kind.messageKind with
  | error error =>
    cases hright : right.require others type kind.messageKind with
    | error other =>
      rw [hleft, hright] at hrequire
      exact congrArg Except.error (Except.error.inj hrequire)
    | ok found =>
      rw [hleft, hright] at hrequire
      exact nomatch hrequire
  | ok entry =>
    cases hright : right.require others type kind.messageKind with
    | error other =>
      rw [hleft, hright] at hrequire
      exact nomatch hrequire
    | ok found =>
      rw [hleft, hright] at hrequire
      exact congrArg (fun entry => Except.ok (Route.mk kind entry)) (Except.ok.inj hrequire)

theorem query (htables : TypeTable.Alike view tables others) (h : Alike view left right) (question : Query) :
    (question.answer tables left).seen view = (question.answer others right).seen view := by
  cases question with
  | byType type => exact congrArg Answer.found (h.snapshot.findType? type)
  | byIdentifier text => exact congrArg Answer.identified (h.byIdentifier text)
  | require type kind => exact congrArg Answer.required (h.require htables type kind)
  | enumerate =>
    simp only [Query.answer, Cursor.drain_eq]
    exact congrArg Answer.enumerated h.snapshot.table
  | size => exact congrArg Answer.counted h.snapshot.size_eq
  | isEmpty => exact congrArg Answer.decided h.snapshot.isEmpty_eq

end Alike

end Registry

end MessageCatalog
