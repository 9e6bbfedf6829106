import MessageCatalog.Concurrent.Readers
import MessageCatalog.Proofs.Registry.Publication

/-!
# What a turn can do

Whatever call a thread is in, its turn is one of two things: the next step of the registration at work, or something that publishes nothing and leaves at most a fresh registration behind. `State.Holds.run` packages the induction over schedules on top of that, so a fact about the published snapshot and the registrations at work is proved by looking at the steps of a registration only.
-/

namespace MessageCatalog.Concurrent

open Merge

variable {table : TypeTable}

/-- The registration was just begun, for a request that is in order. -/
def IsFresh (table : TypeTable) (registration : Registration) : Prop :=
  registration.phase = .loading 0 ∧
    ∃ type identifier, Registry.prepare table type identifier = .ok registration.entry

/-- Nothing is published. What was at work before, if anything, had come to its end, and what is at work afterwards was just begun. -/
def IsQuiet (table : TypeTable) (registry : Registry) (before? after? : Option Registration) (after : Registry) : Prop :=
  after.current = registry.current ∧ (∀ registration, before? = some registration → registration.result?.isSome) ∧
    ∀ registration, after? = some registration → IsFresh table registration

namespace Pending

theorem start_of_refused {kind : MessageKind} {type : NativeType} {identifier : String} {error : RegisterError}
    (h : Registry.prepare table type identifier = .error error) :
    start table (.register kind type identifier) = .returning (.registered (.error error)) := by
  simp [start, h]

theorem start_of_prepared {kind : MessageKind} {type : NativeType} {identifier : String} {entry : Descriptor}
    (h : Registry.prepare table type identifier = .ok entry) :
    start table (.register kind type identifier) = .registering ⟨kind, entry, .loading 0⟩ := by
  simp [start, h]

theorem step_of_finished {registration : Registration} {result : Except RegisterError Descriptor}
    (h : registration.result? = some result) (registry : Registry) :
    (registering registration).step table registry = (.returning (.registered result), registry) := by
  simp [step, h]

theorem step_of_unfinished {registration : Registration} (h : registration.result? = none) (registry : Registry) :
    (registering registration).step table registry =
      (.registering (registration.step registry).1, (registration.step registry).2) := by
  simp [step, h]

end Pending

namespace Series

variable {registry : Registry} {registration : Registration} {declaration : Declaration} {entry : Descriptor}

theorem step_of_end (done : Nat) (registry : Registry) :
    step table ⟨none, [], done⟩ registry =
      (.returning (.declared (.ok done)), registry.report (.declared registry.label done)) := rfl

theorem step_of_unprepared {error : RegisterError}
    (h : Registry.prepare table declaration.type declaration.identifier = .error error) (rest : List Declaration) (done : Nat)
    (registry : Registry) :
    step table ⟨none, declaration :: rest, done⟩ registry =
      (.returning (.declared (.error error)), registry.report (declaration.event registry)) := by
  simp [step, h]

theorem step_of_prepared (h : Registry.prepare table declaration.type declaration.identifier = .ok entry)
    (rest : List Declaration) (done : Nat) (registry : Registry) :
    step table ⟨none, declaration :: rest, done⟩ registry =
      (.declaring ⟨some ⟨declaration.kind, entry, .loading 0⟩, rest, done⟩, registry.report (declaration.event registry)) := by
  simp [step, h]

theorem step_of_unfinished (h : registration.result? = none) (rest : List Declaration) (done : Nat) (registry : Registry) :
    step table ⟨some registration, rest, done⟩ registry =
      (.declaring ⟨some (registration.step registry).1, rest, done⟩, (registration.step registry).2) := by
  simp [step, h]

theorem step_of_registered (h : registration.result? = some (.ok entry)) (rest : List Declaration) (done : Nat)
    (registry : Registry) :
    step table ⟨some registration, rest, done⟩ registry = (.declaring ⟨none, rest, done + 1⟩, registry) := by
  simp [step, h]

theorem step_of_refused {error : RegisterError} (h : registration.result? = some (.error error)) (rest : List Declaration)
    (done : Nat) (registry : Registry) :
    step table ⟨some registration, rest, done⟩ registry = (.returning (.declared (.error error)), registry) := by
  simp [step, h]

end Series

theorem Pending.isFresh_start {call : Call} {registration : Registration}
    (h : (Pending.start table call).registration? = some registration) : IsFresh table registration := by
  cases call with
  | register kind type identifier =>
    cases hentry : Registry.prepare table type identifier with
    | error error =>
      rw [start_of_refused hentry] at h
      exact absurd h (Option.some_ne_none _).symm
    | ok entry =>
      rw [start_of_prepared hentry] at h
      cases h
      exact ⟨rfl, type, identifier, hentry⟩
  | registerDeclared declarations => simp [Pending.start, Pending.registration?] at h
  | query query => simp [Pending.start, Pending.registration?] at h

theorem Series.step_cases (table : TypeTable) (series : Series) (registry : Registry) :
    IsQuiet table registry series.current? (series.step table registry).1.registration? (series.step table registry).2 ∨
      ∃ registration, series.current? = some registration ∧
        (series.step table registry).1.registration? = some (registration.step registry).1 ∧
        (series.step table registry).2 = (registration.step registry).2 := by
  obtain ⟨current?, rest, done⟩ := series
  cases current? with
  | some registration =>
    unfold Series.step
    cases hresult : registration.result? with
    | none => exact .inr ⟨registration, rfl, by simp [hresult, Pending.registration?], by simp [hresult]⟩
    | some result =>
      cases result <;> exact .inl ⟨by simp [hresult], by simp [hresult], by simp [hresult, Pending.registration?]⟩
  | none =>
    left
    cases rest with
    | nil => exact ⟨rfl, by simp, by simp [Series.step, Pending.registration?]⟩
    | cons declaration rest =>
      unfold Series.step
      cases hentry : Registry.prepare table declaration.type declaration.identifier with
      | error error => exact ⟨by simp [hentry], by simp, by simp [hentry, Pending.registration?]⟩
      | ok entry =>
        refine ⟨by simp [hentry], by simp, fun registration hregistration => ?_⟩
        simp only [hentry, Pending.registration?, Option.some.injEq] at hregistration
        subst hregistration
        exact ⟨rfl, declaration.type, declaration.identifier, hentry⟩

theorem Pending.step_cases (table : TypeTable) (pending : Pending) (registry : Registry) :
    IsQuiet table registry pending.registration? (pending.step table registry).1.registration? (pending.step table registry).2 ∨
      ∃ registration, pending.registration? = some registration ∧
        (pending.step table registry).1.registration? = some (registration.step registry).1 ∧
        (pending.step table registry).2 = (registration.step registry).2 := by
  cases pending with
  | registering registration =>
    cases hresult : registration.result? with
    | none =>
      rw [step_of_unfinished hresult]
      exact .inr ⟨registration, rfl, rfl, rfl⟩
    | some result =>
      rw [step_of_finished hresult]
      exact .inl ⟨rfl, by simp [Pending.registration?, hresult], by simp [Pending.registration?]⟩
  | declaring series => exact series.step_cases table registry
  | asking query => exact .inl ⟨rfl, by simp [Pending.registration?], by simp [Pending.step, Pending.registration?]⟩
  | returning answer => exact .inl ⟨rfl, by simp [Pending.registration?], by simp [Pending.step, Pending.registration?]⟩

theorem Thread.step_cases (table : TypeTable) (index : Nat) (thread : Thread) (registry : Registry) :
    IsQuiet table registry thread.registration? (thread.step table index registry).1.registration?
        (thread.step table index registry).2.1 ∨
      ∃ registration, thread.registration? = some registration ∧
        (thread.step table index registry).1.registration? = some (registration.step registry).1 ∧
        (thread.step table index registry).2.1 = (registration.step registry).2 := by
  obtain ⟨pending?, calls, answers⟩ := thread
  cases pending? with
  | none =>
    left
    cases calls with
    | nil => exact ⟨rfl, by simp [Thread.registration?], by simp [Thread.step, Thread.registration?]⟩
    | cons call calls => exact ⟨rfl, by simp [Thread.registration?], fun _ h => Pending.isFresh_start h⟩
  | some pending =>
    cases pending with
    | returning answer =>
      exact .inl ⟨rfl, by simp [Thread.registration?, Pending.registration?], by simp [Thread.step, Thread.registration?]⟩
    | registering registration => exact Pending.step_cases table (.registering registration) registry
    | declaring series => exact Pending.step_cases table (.declaring series) registry
    | asking query => exact Pending.step_cases table (.asking query) registry

namespace State

theorem step_of_none {state : State} {index : Nat} (h : state.threads[index]? = none) :
    state.step table index = state := by
  simp [State.step, h]

theorem step_of_some {state : State} {index : Nat} {thread : Thread} (h : state.threads[index]? = some thread) :
    state.step table index =
      { registry := (thread.step table index state.registry).2.1
        threads := state.threads.set index (thread.step table index state.registry).1
        history := state.history ++ (thread.step table index state.registry).2.2 } := by
  simp [State.step, h]

@[simp] theorem run_nil (state : State) : state.run table [] = state := rfl

@[simp] theorem run_cons (state : State) (index : Nat) (schedule : List Nat) :
    state.run table (index :: schedule) = (state.step table index).run table schedule := rfl

theorem run_append (state : State) (schedule later : List Nat) :
    state.run table (schedule ++ later) = (state.run table schedule).run table later := by
  simp [State.run, List.foldl_append]

/-! ### Facts that every turn keeps -/

/-- One fact about what is published, and one about every registration at work and what is published. -/
def Holds (published : Published → Prop) (working : Published → Registration → Prop) (state : State) : Prop :=
  published state.registry.current ∧
    ∀ thread ∈ state.threads, ∀ registration, thread.registration? = some registration →
      working state.registry.current registration

/-- The two facts are kept by every step of a registration, its own and those of others, and hold of one that was just begun. -/
structure Keeps (table : TypeTable) (published : Published → Prop) (working : Published → Registration → Prop) :
    Prop where
  fresh : ∀ {current : Published} {registration : Registration},
    published current → IsFresh table registration → working current registration
  own : ∀ {registry : Registry} {registration : Registration},
    published registry.current → working registry.current registration →
      published (registration.step registry).2.current ∧
        working (registration.step registry).2.current (registration.step registry).1
  other : ∀ {registry : Registry} {registration bystander : Registration},
    published registry.current → working registry.current registration → working registry.current bystander →
      working (registration.step registry).2.current bystander

variable {published : Published → Prop} {working : Published → Registration → Prop}

theorem holds_start {registry : Registry} (h : published registry.current) (calls : List (List Call)) :
    (State.start registry calls).Holds published working := by
  refine ⟨h, fun thread hthread registration hregistration => ?_⟩
  obtain ⟨own, -, rfl⟩ := List.mem_map.1 hthread
  simp [Thread.registration?] at hregistration

theorem Holds.step (hkeeps : Keeps table published working) {state : State} (h : state.Holds published working)
    (index : Nat) : (state.step table index).Holds published working := by
  cases hthread : state.threads[index]? with
  | none =>
    rw [step_of_none hthread]
    exact h
  | some thread =>
    rw [step_of_some hthread]
    obtain ⟨hpublished, hworking⟩ := h
    rcases thread.step_cases table index state.registry with ⟨hcurrent, -, hfresh⟩ | hstep
    · rw [Holds, hcurrent]
      refine ⟨hpublished, fun next hnext registration hregistration => ?_⟩
      rcases List.mem_or_eq_of_mem_set hnext with hold | rfl
      · exact hworking next hold registration hregistration
      · exact hkeeps.fresh hpublished (hfresh registration hregistration)
    · obtain ⟨registration, hat, hafter, hregistry⟩ := hstep
      have hregistration := hworking thread (List.mem_of_getElem? hthread) registration hat
      have hown := hkeeps.own hpublished hregistration
      rw [Holds, hregistry]
      refine ⟨hown.1, fun next hnext bystander hbystander => ?_⟩
      rcases List.mem_or_eq_of_mem_set hnext with hold | rfl
      · exact hkeeps.other hpublished hregistration (hworking next hold bystander hbystander)
      · rw [hafter, Option.some.injEq] at hbystander
        exact hbystander ▸ hown.2

theorem Holds.run (hkeeps : Keeps table published working) {state : State} (h : state.Holds published working)
    (schedule : List Nat) : (state.run table schedule).Holds published working := by
  induction schedule generalizing state with
  | nil => exact h
  | cons index schedule ih => exact ih (h.step hkeeps index)

end State

/-! ### Facts that merging keeps -/

/-- The registration is sound, and its request was in order. -/
def IsAtWork (table : TypeTable) (current : Published) (registration : Registration) : Prop :=
  registration.Sound current ∧ ∃ type identifier, Registry.prepare table type identifier = .ok registration.entry

theorem IsFresh.isAtWork {registration : Registration} (h : IsFresh table registration) (current : Published) :
    IsAtWork table current registration := by
  refine ⟨?_, h.2⟩
  rw [Registration.Sound, h.1]
  trivial

theorem IsAtWork.step {registry : Registry} {registration : Registration}
    (h : IsAtWork table registry.current registration) :
    IsAtWork table (registration.step registry).2.current (registration.step registry).1 := by
  obtain ⟨hentry, hsound, -⟩ := Registration.step_cases h.1
  exact ⟨hsound, hentry.symm ▸ h.2⟩

theorem IsAtWork.bystander {registry : Registry} {registration bystander : Registration}
    (h : IsAtWork table registry.current registration) (hbystander : IsAtWork table registry.current bystander) :
    IsAtWork table (registration.step registry).2.current bystander :=
  ⟨hbystander.1.mono (Registration.notAfter_step h.1), hbystander.2⟩

theorem IsAtWork.keeps {published : Published → Prop} (hkeeps : Registry.MergeKeeps table published) {registry : Registry}
    {registration : Registration} (h : IsAtWork table registry.current registration) (hpublished : published registry.current) :
    published (registration.step registry).2.current := by
  obtain ⟨hsound, type, identifier, hentry⟩ := h
  rcases Registration.step_current hsound with hcurrent | hcurrent
  · rwa [hcurrent]
  · rw [hcurrent]
    exact hkeeps.merge hpublished hentry

/-- What merging keeps holds in every state of every interleaving. -/
theorem State.keeps_isAtWork {published : Published → Prop} (hkeeps : Registry.MergeKeeps table published) :
    State.Keeps table published (IsAtWork table) where
  fresh _ hfresh := hfresh.isAtWork _
  own hpublished hwork := ⟨hwork.keeps hkeeps hpublished, hwork.step⟩
  other _ hwork hbystander := hwork.bystander hbystander

theorem State.published_run {published : Published → Prop} (hkeeps : Registry.MergeKeeps table published)
    {registry : Registry} (h : published registry.current) (calls : List (List Call)) (schedule : List Nat) :
    published ((State.start registry calls).run table schedule).registry.current :=
  ((State.holds_start h calls).run (State.keeps_isAtWork hkeeps) schedule).1

/-! ### Onlookers -/

namespace Audience

@[simp] theorem run_nil (audience : Audience) : audience.run table [] = audience := rfl

@[simp] theorem run_cons (audience : Audience) (move : Move) (moves : List Move) :
    audience.run table (move :: moves) = (audience.step table move).run table moves := rfl

theorem run_append (audience : Audience) (moves later : List Move) :
    audience.run table (moves ++ later) = (audience.run table moves).run table later := by
  simp [Audience.run, List.foldl_append]

def turns (moves : List Move) : List Nat :=
  moves.filterMap fun move =>
    match move with
    | .turn thread => some thread
    | _ => none

theorem turns_append (moves later : List Move) : turns (moves ++ later) = turns moves ++ turns later := List.filterMap_append

theorem state_step (audience : Audience) (move : Move) :
    (audience.step table move).state = audience.state.run table (turns [move]) := by
  cases move with
  | turn thread => rfl
  | pin => rfl
  | walk guard via => cases hguard : audience.guards[guard]? <;> simp [Audience.step, hguard, turns]
  | draw reading count => cases hreading : audience.readings[reading]? <;> simp [Audience.step, hreading, turns]

theorem state_run (audience : Audience) (moves : List Move) :
    (audience.run table moves).state = audience.state.run table (turns moves) := by
  induction moves generalizing audience with
  | nil => rfl
  | cons move moves ih =>
    rw [run_cons, ih, state_step, ← State.run_append, ← turns_append, List.singleton_append]

end Audience

/-! ### A race

Two types that are called alike, and two threads that want one identifier for them, in two spellings. -/

def namesakes : TypeTable := ⟨fun _ => "Ping", fun _ => "Ping"⟩

def race : List (List Call) :=
  [[.register .command (.value 0) "4e1b2a0c-9f51-4d3e-b0b7-6b9c1f0e2a11"],
    [.register .event (.value 1) "4E1B2A0C-9F51-4D3E-B0B7-6B9C1F0E2A11", .query .size]]

end MessageCatalog.Concurrent
