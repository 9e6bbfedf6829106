import MessageCatalog.Declaration
import MessageCatalog.Registry.Query

/-!
# Concurrent use of a registry

Threads that share a registry, each with a list of calls to make in turn. A call is invoked, takes one atomic step on the registry after another, and returns its answer; a scheduler chooses whose turn it is. `State.step` is one turn of one thread, and `State.run` follows a schedule.
-/

namespace MessageCatalog

inductive Query where
  | byType (type : NativeType)
  | byIdentifier (identifier : String)
  | require (type : NativeType) (kind : MessageKind)
  | enumerate
  | size
  | isEmpty
  deriving DecidableEq, Repr

inductive Call where
  | register (kind : MessageKind) (type : NativeType) (identifier : String)
  | registerDeclared (declarations : List Declaration)
  | query (query : Query)
  deriving DecidableEq, Repr

inductive Answer where
  | registered (result : Except RegisterError Descriptor)
  | declared (result : Except RegisterError Nat)
  | found (descriptor? : Option Descriptor)
  | identified (result : Except IdentifierError (Option Descriptor))
  | required (result : Except LookupError Descriptor)
  | enumerated (entries : List Descriptor)
  | counted (count : Nat)
  | decided (value : Bool)

/-- Reads the published snapshot once and answers from it. -/
def Query.answer (table : TypeTable) (registry : Registry) : Query → Answer
  | byType type => .found (registry.byType type)
  | byIdentifier identifier => .identified (registry.byIdentifier identifier)
  | require type kind => .required (registry.require table type kind)
  | enumerate => .enumerated registry.guard.cursor.drain
  | size => .counted registry.size
  | isEmpty => .decided registry.isEmpty

/-- Makes a call that nothing interferes with. -/
def Call.answer (table : TypeTable) (registry : Registry) : Call → Answer × Registry
  | register kind type identifier =>
    let (result, registry) := registry.register table kind type identifier
    (.registered result, registry)
  | registerDeclared declarations =>
    let (result, registry) := registry.registerDeclared table declarations
    (.declared result, registry)
  | query question => (question.answer table registry, registry)

def Call.answers (table : TypeTable) (registry : Registry) : List Call → List Answer × Registry
  | [] => ([], registry)
  | call :: calls =>
    let (answer, registry) := call.answer table registry
    let (answers, registry) := Call.answers table registry calls
    (answer :: answers, registry)

/-- The call registers one type or asks one question. -/
def Call.isSingle : Call → Bool
  | register .. => true
  | registerDeclared .. => false
  | query .. => true

namespace Concurrent

open Merge

/-- Declarations being registered by one call. -/
structure Series where
  /-- The declaration at work, if its registration was begun. -/
  current? : Option Registration
  rest : List Declaration
  done : Nat

/-- What a call that was invoked does next. -/
inductive Pending where
  | registering (registration : Registration)
  | declaring (series : Series)
  | asking (query : Query)
  | returning (answer : Answer)

def Pending.registration? : Pending → Option Registration
  | registering registration => some registration
  | declaring series => series.current?
  | asking _ => none
  | returning _ => none

/-- What a call begins with. Requests that are not in order are refused without a look at the registry. -/
def Pending.start (table : TypeTable) : Call → Pending
  | .register kind type identifier =>
    match Registry.prepare table type identifier with
    | .error error => .returning (.registered (.error error))
    | .ok entry => .registering ⟨kind, entry, .loading 0⟩
  | .registerDeclared declarations => .declaring ⟨none, Declaration.inOrder declarations, 0⟩
  | .query query => .asking query

def Series.step (table : TypeTable) (series : Series) (registry : Registry) : Pending × Registry :=
  match series.current? with
  | some registration =>
    match registration.result? with
    | some (.error error) => (.returning (.declared (.error error)), registry)
    | some (.ok _) => (.declaring ⟨none, series.rest, series.done + 1⟩, registry)
    | none =>
      let (registration, registry) := registration.step registry
      (.declaring { series with current? := some registration }, registry)
  | none =>
    match series.rest with
    | [] => (.returning (.declared (.ok series.done)), registry.report (.declared registry.label series.done))
    | declaration :: rest =>
      let registry := registry.report (declaration.event registry)
      match Registry.prepare table declaration.type declaration.identifier with
      | .error error => (.returning (.declared (.error error)), registry)
      | .ok entry => (.declaring ⟨some ⟨declaration.kind, entry, .loading 0⟩, rest, series.done⟩, registry)

def Pending.step (table : TypeTable) (registry : Registry) : Pending → Pending × Registry
  | registering registration =>
    match registration.result? with
    | some result => (returning (.registered result), registry)
    | none =>
      let (registration, registry) := registration.step registry
      (registering registration, registry)
  | declaring series => series.step table registry
  | asking query => (returning (query.answer table registry), registry)
  | returning answer => (returning answer, registry)

structure Thread where
  pending? : Option Pending := none
  calls : List Call
  answers : List Answer := []

def Thread.registration? (thread : Thread) : Option Registration := thread.pending?.bind Pending.registration?

def Thread.isIdle (thread : Thread) : Bool := thread.pending?.isNone && thread.calls.isEmpty

/-- Something that is seen from outside: a thread makes a call, or has its answer. -/
inductive Moment where
  | invoked (thread : Nat) (call : Call)
  | returned (thread : Nat) (answer : Answer)

structure State where
  registry : Registry
  threads : List Thread
  /-- What was seen so far, oldest first. -/
  history : List Moment := []

/-- One turn of a thread: it invokes its next call, takes an atomic step of the call, or returns. -/
def Thread.step (table : TypeTable) (index : Nat) (thread : Thread) (registry : Registry) :
    Thread × Registry × List Moment :=
  match thread.pending? with
  | none =>
    match thread.calls with
    | [] => (thread, registry, [])
    | call :: calls => ({ thread with pending? := some (Pending.start table call), calls }, registry, [.invoked index call])
  | some (.returning answer) =>
    ({ thread with pending? := none, answers := thread.answers ++ [answer] }, registry, [.returned index answer])
  | some pending =>
    let (pending, registry) := pending.step table registry
    ({ thread with pending? := some pending }, registry, [])

namespace State

/-- Threads that are about to make their calls on a registry. -/
def start (registry : Registry) (calls : List (List Call)) : State :=
  { registry, threads := calls.map fun calls => { calls } }

/-- The turn of one thread. A number that no thread has changes nothing. -/
def step (table : TypeTable) (state : State) (index : Nat) : State :=
  match state.threads[index]? with
  | none => state
  | some thread =>
    let (thread, registry, moments) := thread.step table index state.registry
    { registry, threads := state.threads.set index thread, history := state.history ++ moments }

def run (table : TypeTable) (state : State) (schedule : List Nat) : State := schedule.foldl (step table) state

def isIdle (state : State) : Bool := state.threads.all Thread.isIdle

/-- The schedule in which every thread has its turn once a round. -/
def rounds (threads count : Nat) : List Nat := (List.replicate count (List.range threads)).flatten

end State

end Concurrent

end MessageCatalog
