import MessageCatalog.Application
import MessageCatalog.Concurrent
import MessageCatalog.Proofs.Snapshot.Coherence

/-!
# A registry is a list

What a registry answers, a list of bindings answers too, searched from its beginning and never shortened. The list knows no index, no snapshot and no report; its rule for a registration is the whole of what an application has to know. `Mirrors` is the relation between the two, and coherence is what makes a lookup in an index the same as a search.
-/

namespace MessageCatalog

/-- A type and the identifier that it was registered under. -/
structure Binding where
  type : NativeType
  identifier : Identifier
  deriving DecidableEq, Repr

def Binding.descriptor (table : TypeTable) (binding : Binding) : Descriptor := .of table binding.type binding.identifier

abbrev Ledger := List Binding

namespace Ledger

def findType? (type : NativeType) (ledger : Ledger) : Option Binding :=
  ledger.find? fun binding => binding.type == type

def findIdentifier? (identifier : Identifier) (ledger : Ledger) : Option Binding :=
  ledger.find? fun binding => binding.identifier == identifier

/-- The rule for registering a type under a text. -/
def register (table : TypeTable) (type : NativeType) (text : String) (ledger : Ledger) :
    Except RegisterError Binding × Ledger :=
  match Identifier.parse text with
  | .error cause => (.error (.identifier (table.name type) cause), ledger)
  | .ok identifier =>
    match type with
    | .boxed inner | .shared inner => (.error (.receiverMismatch (table.name type) (table.name inner)), ledger)
    | .value _ =>
      match ledger.findType? type with
      | some existing =>
        if existing.identifier = identifier then (.error (.alreadyRegistered (table.name type) identifier), ledger)
        else (.error (.typeConflict (table.name type) identifier existing.identifier), ledger)
      | none =>
        match ledger.findIdentifier? identifier with
        | some existing => (.error (.identifierConflict (table.name type) identifier (table.name existing.type)), ledger)
        | none => (.ok ⟨type, identifier⟩, ledger ++ [⟨type, identifier⟩])

/-- Registers declarations in the order given and counts them, up to the first refusal. -/
def registerEach (table : TypeTable) (declarations : List Declaration) (ledger : Ledger) : Except RegisterError Nat × Ledger :=
  match declarations with
  | [] => (.ok 0, ledger)
  | declaration :: rest =>
    match ledger.register table declaration.type declaration.identifier with
    | (.error error, ledger) => (.error error, ledger)
    | (.ok _, ledger) =>
      match ledger.registerEach table rest with
      | (.error error, ledger) => (.error error, ledger)
      | (.ok count, ledger) => (.ok (count + 1), ledger)

theorem registerEach_of_refused {table : TypeTable} {declaration : Declaration} {ledger after : Ledger} {error : RegisterError}
    (rest : List Declaration)
    (h : ledger.register table declaration.type declaration.identifier = (.error error, after)) :
    ledger.registerEach table (declaration :: rest) = (.error error, after) := by
  rw [registerEach, h]

theorem registerEach_of_registered {table : TypeTable} {declaration : Declaration} {ledger after : Ledger} {binding : Binding}
    (rest : List Declaration) (h : ledger.register table declaration.type declaration.identifier = (.ok binding, after)) :
    ledger.registerEach table (declaration :: rest) =
      ((after.registerEach table rest).1.map (· + 1), (after.registerEach table rest).2) := by
  rw [registerEach, h]
  rcases hrest : after.registerEach table rest with ⟨count, last⟩
  cases count <;> simp [hrest, Except.map]

def byIdentifier (text : String) (ledger : Ledger) : Except IdentifierError (Option Binding) :=
  match Identifier.parse text with
  | .error cause => .error cause
  | .ok identifier => .ok (ledger.findIdentifier? identifier)

def require (table : TypeTable) (type : NativeType) (kind : MessageKind) (ledger : Ledger) : Except LookupError Binding :=
  match ledger.findType? type with
  | some binding => .ok binding
  | none => .error (.notRegistered (table.name type) kind)

def ask (table : TypeTable) (ledger : Ledger) : Query → Answer
  | .byType type => .found ((ledger.findType? type).map (Binding.descriptor table))
  | .byIdentifier text => .identified ((ledger.byIdentifier text).map (Option.map (Binding.descriptor table)))
  | .require type kind => .required ((ledger.require table type kind).map (Binding.descriptor table))
  | .enumerate => .enumerated (ledger.map (Binding.descriptor table))
  | .size => .counted ledger.length
  | .isEmpty => .decided (ledger.length == 0)

def answer (table : TypeTable) (ledger : Ledger) : Call → Answer × Ledger
  | .register _ type text =>
    let (result, ledger) := ledger.register table type text
    (.registered (result.map (Binding.descriptor table)), ledger)
  | .registerDeclared declarations =>
    let (result, ledger) := ledger.registerEach table (Declaration.inOrder declarations)
    (.declared result, ledger)
  | .query question => (ledger.ask table question, ledger)

def answers (table : TypeTable) (ledger : Ledger) : List Call → List Answer × Ledger
  | [] => ([], ledger)
  | call :: calls =>
    let (answer, ledger) := ledger.answer table call
    let (answers, ledger) := ledger.answers table calls
    (answer :: answers, ledger)

end Ledger

namespace Application

/-- Makes a call by a function that names no registry if there is one for it, and on the shared registry otherwise. -/
def answer (table : TypeTable) (app : Application) : Call → Answer × Application
  | .register kind type identifier =>
    let (result, app) := app.register table kind type identifier
    (.registered result, app)
  | .registerDeclared declarations =>
    let (result, shared) := app.shared.registerDeclared table declarations
    (.declared result, { app with shared })
  | .query (.byType type) => (.found (app.findByType type), app)
  | .query (.byIdentifier identifier) => (.identified (app.findByIdentifier identifier), app)
  | .query .enumerate => (.enumerated app.all.cursor.drain, app)
  | .query question => (question.answer table app.shared, app)

def answers (table : TypeTable) (app : Application) : List Call → List Answer × Application
  | [] => ([], app)
  | call :: calls =>
    let (answer, app) := app.answer table call
    let (answers, app) := app.answers table calls
    (answer :: answers, app)

/-- The functions that name no registry do what the shared one does. -/
theorem answers_eq (table : TypeTable) (app : Application) (calls : List Call) :
    (app.answers table calls).1 = (Call.answers table app.shared calls).1 := by
  induction calls generalizing app with
  | nil => rfl
  | cons call calls ih =>
    have hcall : app.answer table call =
        ((call.answer table app.shared).1, { app with shared := (call.answer table app.shared).2 }) := by
      cases call with
      | register kind type identifier => rfl
      | registerDeclared declarations => rfl
      | query question => cases question <;> rfl
    simp only [answers, Call.answers, hcall, ih]

end Application

/-- The table lists the bindings, and the indexes agree with it. -/
structure Mirrors (table : TypeTable) (ledger : Ledger) (snapshot : Snapshot) : Prop where
  coherent : snapshot.Coherent
  table_eq : snapshot.table = ledger.map (Binding.descriptor table)

namespace Mirrors

variable {table : TypeTable} {ledger : Ledger} {snapshot : Snapshot} {registry : Registry}

theorem empty (table : TypeTable) : Mirrors table [] Snapshot.empty := ⟨Snapshot.coherent_empty, rfl⟩

/-- An index that finds the bindings with a property, and only those, finds the first one. -/
private theorem eq_map_find? {found? : Option Descriptor} {p : Binding → Bool}
    (hfound : ∀ {entry}, found? = some entry ↔ ∃ binding ∈ ledger, p binding ∧ binding.descriptor table = entry) :
    found? = (ledger.find? p).map (Binding.descriptor table) := by
  cases hledger : ledger.find? p with
  | some binding => exact hfound.2 ⟨binding, List.mem_of_find?_eq_some hledger, List.find?_some hledger, rfl⟩
  | none =>
    cases hindex : found? with
    | none => rfl
    | some entry =>
      obtain ⟨binding, hbinding, hp, -⟩ := hfound.1 hindex
      exact absurd hp (List.find?_eq_none.1 hledger binding hbinding)

theorem findType?_eq (h : Mirrors table ledger snapshot) (type : NativeType) :
    snapshot.findType? type = (ledger.findType? type).map (Binding.descriptor table) := by
  apply eq_map_find?
  intro entry
  rw [h.coherent.findType?_iff, h.table_eq, List.mem_map]
  constructor
  · rintro ⟨⟨binding, hbinding, rfl⟩, htype⟩
    exact ⟨binding, hbinding, beq_iff_eq.2 htype, rfl⟩
  · rintro ⟨binding, hbinding, htype, rfl⟩
    exact ⟨⟨binding, hbinding, rfl⟩, beq_iff_eq.1 htype⟩

theorem findIdentifier?_eq (h : Mirrors table ledger snapshot) (identifier : Identifier) :
    snapshot.findIdentifier? identifier.text = (ledger.findIdentifier? identifier).map (Binding.descriptor table) := by
  apply eq_map_find?
  intro entry
  rw [h.coherent.findIdentifier?_iff, h.table_eq, List.mem_map]
  constructor
  · rintro ⟨⟨binding, hbinding, rfl⟩, hidentifier⟩
    exact ⟨binding, hbinding, beq_iff_eq.2 (Identifier.ext hidentifier), rfl⟩
  · rintro ⟨binding, hbinding, hidentifier, rfl⟩
    exact ⟨⟨binding, hbinding, rfl⟩, congrArg Identifier.text (beq_iff_eq.1 hidentifier)⟩

theorem size_eq (h : Mirrors table ledger snapshot) : snapshot.size = ledger.length := by
  rw [Snapshot.size, h.table_eq, List.length_map]

theorem conflict?_of_type (h : Mirrors table ledger snapshot) {type : NativeType} {existing : Binding}
    (htype : ledger.findType? type = some existing) (identifier : Identifier) :
    snapshot.conflict? (.of table type identifier) =
      if existing.identifier = identifier then some (.alreadyRegistered (table.name type) identifier)
      else some (.typeConflict (table.name type) identifier existing.identifier) := by
  rw [Snapshot.conflict?, Descriptor.type_of, h.findType?_eq, htype]
  rfl

theorem conflict?_of_identifier (h : Mirrors table ledger snapshot) {type : NativeType} {identifier : Identifier}
    {existing : Binding} (htype : ledger.findType? type = none)
    (hidentifier : ledger.findIdentifier? identifier = some existing) :
    snapshot.conflict? (.of table type identifier) =
      some (.identifierConflict (table.name type) identifier (table.name existing.type)) := by
  rw [Snapshot.conflict?, Descriptor.type_of, Descriptor.identifier_of, h.findType?_eq, htype, h.findIdentifier?_eq, hidentifier]
  rfl

theorem conflict?_of_free (h : Mirrors table ledger snapshot) {type : NativeType} {identifier : Identifier}
    (htype : ledger.findType? type = none) (hidentifier : ledger.findIdentifier? identifier = none) :
    snapshot.conflict? (.of table type identifier) = none := by
  rw [Snapshot.conflict?, Descriptor.type_of, Descriptor.identifier_of, h.findType?_eq, htype, h.findIdentifier?_eq, hidentifier]
  rfl

/-- A new binding at the end of the list is the extension of the snapshot. -/
theorem extend (h : Mirrors table ledger snapshot) (binding : Binding)
    (hfree : snapshot.conflict? (binding.descriptor table) = none) (hvalue : binding.type.IsValue) :
    Mirrors table (ledger ++ [binding]) (snapshot.extend (binding.descriptor table)) where
  coherent := h.coherent.extend hfree hvalue
  table_eq := by
    rw [Snapshot.table_extend, h.table_eq, List.map_append]
    rfl

/-! ### Calls -/

/-- The two give the same answer, and mirror each other afterwards. -/
def Agree (table : TypeTable) {α β : Type} (f : β → α) (indexed : α × Registry) (listed : β × Ledger) : Prop :=
  indexed.1 = f listed.1 ∧ Mirrors table listed.2 indexed.2.snapshot

theorem register (h : Mirrors table ledger registry.snapshot) (kind : MessageKind) (type : NativeType) (text : String) :
    Agree table (Except.map (Binding.descriptor table)) (registry.register table kind type text)
      (ledger.register table type text) := by
  unfold Ledger.register
  cases hparse : Identifier.parse text with
  | error cause =>
    rw [Registry.register_of_refused (Registry.prepare_of_malformed hparse)]
    exact ⟨rfl, h⟩
  | ok identifier =>
    cases type with
    | boxed inner =>
      rw [Registry.register_of_refused (Registry.prepare_of_referent hparse rfl)]
      exact ⟨rfl, h⟩
    | shared inner =>
      rw [Registry.register_of_refused (Registry.prepare_of_referent hparse rfl)]
      exact ⟨rfl, h⟩
    | value index =>
      have hentry : Registry.prepare table (.value index) text = .ok (.of table (.value index) identifier) :=
        Registry.prepare_of_value hparse rfl
      cases htype : ledger.findType? (.value index) with
      | some existing =>
        have hconflict := h.conflict?_of_type htype identifier
        by_cases hsame : existing.identifier = identifier
        · rw [if_pos hsame] at hconflict
          rw [Registry.register_of_conflict hentry hconflict]
          simp only [if_pos hsame]
          exact ⟨rfl, h⟩
        · rw [if_neg hsame] at hconflict
          rw [Registry.register_of_conflict hentry hconflict]
          simp only [if_neg hsame]
          exact ⟨rfl, h⟩
      | none =>
        cases hidentifier : ledger.findIdentifier? identifier with
        | some existing =>
          rw [Registry.register_of_conflict hentry (h.conflict?_of_identifier htype hidentifier)]
          simp only [hidentifier]
          exact ⟨rfl, h⟩
        | none =>
          have hfree := h.conflict?_of_free htype hidentifier
          rw [Registry.register_of_free hentry hfree]
          simp only [hidentifier]
          exact ⟨rfl, h.extend ⟨.value index, identifier⟩ hfree rfl⟩

theorem registerEach (h : Mirrors table ledger registry.snapshot) (declarations : List Declaration) :
    Agree table id (registry.registerEach table declarations) (ledger.registerEach table declarations) := by
  induction declarations generalizing registry ledger with
  | nil => exact ⟨rfl, h⟩
  | cons declaration rest ih =>
    have hreported : Mirrors table ledger (registry.report (declaration.event registry)).snapshot := h
    obtain ⟨hresult, hafter⟩ := hreported.register declaration.kind declaration.type declaration.identifier
    rcases hindexed : (registry.report (declaration.event registry)).register table declaration.kind declaration.type
      declaration.identifier with ⟨result, after⟩
    rcases hlisted : ledger.register table declaration.type declaration.identifier with ⟨verdict, later⟩
    rw [hindexed, hlisted] at hresult hafter
    dsimp only at hresult hafter
    subst hresult
    cases verdict with
    | error error =>
      rw [Registry.registerEach_of_refused rest hindexed, Ledger.registerEach_of_refused rest hlisted]
      exact ⟨rfl, hafter⟩
    | ok binding =>
      obtain ⟨hcount, hlast⟩ := ih hafter
      rw [Registry.registerEach_of_registered rest hindexed, Ledger.registerEach_of_registered rest hlisted]
      exact ⟨congrArg (Except.map (· + 1)) hcount, hlast⟩

theorem registerDeclared (h : Mirrors table ledger registry.snapshot) (declarations : List Declaration) :
    Agree table id (registry.registerDeclared table declarations)
      (ledger.registerEach table (Declaration.inOrder declarations)) := by
  obtain ⟨hresult, hafter⟩ := h.registerEach (Declaration.inOrder declarations)
  unfold Registry.registerDeclared
  rcases hindexed : registry.registerEach table (Declaration.inOrder declarations) with ⟨count, after⟩
  rw [hindexed] at hresult hafter
  cases count <;> exact ⟨hresult, hafter⟩

theorem byIdentifier_eq (h : Mirrors table ledger registry.snapshot) (text : String) :
    registry.byIdentifier text = (ledger.byIdentifier text).map (Option.map (Binding.descriptor table)) := by
  rw [Registry.byIdentifier, Ledger.byIdentifier]
  cases Identifier.parse text with
  | error cause => rfl
  | ok identifier => exact congrArg Except.ok (h.findIdentifier?_eq identifier)

theorem require_eq (h : Mirrors table ledger registry.snapshot) (type : NativeType) (kind : MessageKind) :
    registry.require table type kind = (ledger.require table type kind).map (Binding.descriptor table) := by
  rw [Registry.require, Registry.byType, h.findType?_eq, Ledger.require]
  cases ledger.findType? type <;> rfl

theorem answer_query (h : Mirrors table ledger registry.snapshot) (question : Query) :
    question.answer table registry = ledger.ask table question := by
  cases question with
  | byType type => exact congrArg Answer.found (h.findType?_eq type)
  | byIdentifier text => exact congrArg Answer.identified (h.byIdentifier_eq text)
  | require type kind => exact congrArg Answer.required (h.require_eq type kind)
  | enumerate => exact congrArg Answer.enumerated ((Cursor.drain_eq _).trans h.table_eq)
  | size => exact congrArg Answer.counted h.size_eq
  | isEmpty =>
    apply congrArg Answer.decided
    rw [Registry.isEmpty, Snapshot.isEmpty, h.table_eq]
    cases ledger <;> rfl

theorem answer (h : Mirrors table ledger registry.snapshot) (call : Call) :
    Agree table id (call.answer table registry) (ledger.answer table call) := by
  cases call with
  | register kind type text =>
    obtain ⟨hresult, hafter⟩ := h.register kind type text
    exact ⟨congrArg Answer.registered hresult, hafter⟩
  | registerDeclared declarations =>
    obtain ⟨hresult, hafter⟩ := h.registerDeclared declarations
    exact ⟨congrArg Answer.declared hresult, hafter⟩
  | query question => exact ⟨h.answer_query question, h⟩

theorem answers (h : Mirrors table ledger registry.snapshot) (calls : List Call) :
    (Call.answers table registry calls).1 = (ledger.answers table calls).1 := by
  induction calls generalizing registry ledger with
  | nil => rfl
  | cons call calls ih =>
    obtain ⟨hanswer, hafter⟩ := h.answer call
    rw [Call.answers, Ledger.answers]
    exact congrArg₂ List.cons hanswer (ih hafter)

end Mirrors

/-- A fresh registry answers every sequence of calls as the empty list does, and so do the functions that work on the shared registry of an application that has just begun. -/
theorem answers_create (table : TypeTable) (serial : Nat) (label : String) (calls : List Call) :
    (Call.answers table (Registry.create serial label) calls).1 = (Ledger.answers table [] calls).1 ∧
      (Application.start.answers table calls).1 = (Ledger.answers table [] calls).1 := by
  have hfresh : ∀ serial label, Mirrors table [] (Registry.create serial label).snapshot :=
    fun _ _ => Mirrors.empty table
  rw [Application.answers_eq]
  exact ⟨(hfresh serial label).answers calls, (hfresh 0 "global").answers calls⟩

end MessageCatalog
