import MessageCatalog.Registry.Basic

/-!
# Merging a descriptor into a registry

A registration reads the published snapshot, checks its descriptor against it, builds the next snapshot, and swaps it in if nothing else was published meanwhile; otherwise it starts over. Each of these is one atomic step on the registry, and so is every report, so the steps of several registrations may come in any order. `Merge.run` takes the steps of one registration without interference.
-/

namespace MessageCatalog

namespace Snapshot

/-- How a descriptor conflicts with a snapshot, if it does. The type is looked at before the identifier. -/
def conflict? (snapshot : Snapshot) (entry : Descriptor) : Option RegisterError :=
  match snapshot.findType? entry.type with
  | some existing =>
    if existing.identifier = entry.identifier then some (.alreadyRegistered entry.name entry.identifier)
    else some (.typeConflict entry.name entry.identifier existing.identifier)
  | none =>
    match snapshot.findIdentifier? entry.identifier.text with
    | some existing => some (.identifierConflict entry.name entry.identifier existing.name)
    | none => none

end Snapshot

namespace Merge

/-- How far a registration has come. Each phase counts the races it has lost. -/
inductive Phase where
  /-- About to read the published snapshot. -/
  | loading (retries : Nat)
  /-- About to publish a replacement of what was read. -/
  | swapping (retries : Nat) (seen : Published) (replacement : Snapshot)
  /-- Another publication came first. -/
  | retrying (retries : Nat)
  /-- Published, and about to report it. -/
  | announcing (retries : Nat) (length : Nat)
  /-- In conflict with what was read, and about to report it. -/
  | rejecting (error : RegisterError)
  | finished (result : Except RegisterError Descriptor)

structure Registration where
  kind : MessageKind
  entry : Descriptor
  phase : Phase := .loading 0

namespace Registration

/-- The next atomic step. A finished registration stays as it is. -/
def step (registration : Registration) (registry : Registry) : Registration × Registry :=
  let entry := registration.entry
  match registration.phase with
  | .loading retries =>
    match registry.snapshot.conflict? entry with
    | some error => ({ registration with phase := .rejecting error }, registry)
    | none =>
      ({ registration with phase := .swapping retries registry.current (registry.snapshot.extend entry) }, registry)
  | .swapping retries seen replacement =>
    match registry.compareAndSwap seen.stamp replacement with
    | some registry => ({ registration with phase := .announcing retries replacement.size }, registry)
    | none => ({ registration with phase := .retrying (retries + 1) }, registry)
  | .retrying retries =>
    ({ registration with phase := .loading retries }, registry.report (.retrying registry.label entry.identifier retries))
  | .announcing retries length =>
    ({ registration with phase := .finished (.ok entry) },
      registry.report (.registered registry.label entry.identifier entry.name length retries))
  | .rejecting error =>
    ({ registration with phase := .finished (.error error) },
      registry.report (.rejected registry.label registration.kind error))
  | .finished _ => (registration, registry)

def result? (registration : Registration) : Option (Except RegisterError Descriptor) :=
  match registration.phase with
  | .finished result => some result
  | _ => none

/-- The snapshots that a registration under way has in its hands. -/
def held (registration : Registration) : List Snapshot :=
  match registration.phase with
  | .swapping _ seen replacement => [seen.snapshot, replacement]
  | _ => []

/-- How many steps are left if nothing interferes. -/
def remaining (registration : Registration) (registry : Registry) : Nat :=
  match registration.phase with
  | .loading _ => 3
  | .swapping _ seen _ => if registry.current.stamp = seen.stamp then 2 else 5
  | .retrying _ => 4
  | .announcing .. => 1
  | .rejecting _ => 1
  | .finished _ => 0

variable {kind : MessageKind} {entry : Descriptor} {registry : Registry}

theorem step_loading_of_conflict {retries : Nat} {error : RegisterError}
    (h : registry.snapshot.conflict? entry = some error) :
    step ⟨kind, entry, .loading retries⟩ registry = (⟨kind, entry, .rejecting error⟩, registry) := by
  simp [step, h]

theorem step_loading_of_free {retries : Nat} (h : registry.snapshot.conflict? entry = none) :
    step ⟨kind, entry, .loading retries⟩ registry =
      (⟨kind, entry, .swapping retries registry.current (registry.snapshot.extend entry)⟩, registry) := by
  simp [step, h]

theorem step_swapping_of_current {retries : Nat} {seen : Published} {replacement : Snapshot}
    (h : registry.current.stamp = seen.stamp) :
    step ⟨kind, entry, .swapping retries seen replacement⟩ registry =
      (⟨kind, entry, .announcing retries replacement.size⟩,
        { registry with current := ⟨⟨seen.stamp.registry, seen.stamp.version + 1⟩, replacement⟩ }) := by
  simp [step, Registry.compareAndSwap, h]

theorem step_swapping_of_stale {retries : Nat} {seen : Published} {replacement : Snapshot}
    (h : registry.current.stamp ≠ seen.stamp) :
    step ⟨kind, entry, .swapping retries seen replacement⟩ registry = (⟨kind, entry, .retrying (retries + 1)⟩, registry) := by
  simp [step, Registry.compareAndSwap, h]

theorem step_retrying {retries : Nat} :
    step ⟨kind, entry, .retrying retries⟩ registry =
      (⟨kind, entry, .loading retries⟩, registry.report (.retrying registry.label entry.identifier retries)) := rfl

theorem step_announcing {retries length : Nat} :
    step ⟨kind, entry, .announcing retries length⟩ registry =
      (⟨kind, entry, .finished (.ok entry)⟩,
        registry.report (.registered registry.label entry.identifier entry.name length retries)) := rfl

theorem step_rejecting {error : RegisterError} :
    step ⟨kind, entry, .rejecting error⟩ registry =
      (⟨kind, entry, .finished (.error error)⟩, registry.report (.rejected registry.label kind error)) := rfl

/-- A registration that nothing interferes with comes closer to its end at every step. -/
theorem remaining_step {registration : Registration} {registry : Registry} (h : registration.result? = none) :
    (registration.step registry).1.remaining (registration.step registry).2 < registration.remaining registry := by
  obtain ⟨kind, entry, phase⟩ := registration
  cases phase with
  | loading retries =>
    cases hconflict : registry.snapshot.conflict? entry with
    | some error => simp [step_loading_of_conflict hconflict, remaining]
    | none => simp [step_loading_of_free hconflict, remaining]
  | swapping retries seen replacement =>
    by_cases hseen : registry.current.stamp = seen.stamp
    · simp [step_swapping_of_current hseen, remaining, hseen]
    · simp [step_swapping_of_stale hseen, remaining, hseen]
  | retrying retries => simp [step_retrying, remaining]
  | announcing retries length => simp [step_announcing, remaining]
  | rejecting error => simp [step_rejecting, remaining]
  | finished result => simp [result?] at h

def run (registration : Registration) (registry : Registry) : Except RegisterError Descriptor × Registry :=
  match _h : registration.result? with
  | some result => (result, registry)
  | none => (registration.step registry).1.run (registration.step registry).2
termination_by registration.remaining registry
decreasing_by exact remaining_step _h

theorem run_of_result? {registration : Registration} {result : Except RegisterError Descriptor}
    (h : registration.result? = some result) : registration.run registry = (result, registry) := by
  rw [run]
  split <;> simp_all

theorem run_of_step {registration : Registration} (h : registration.result? = none) :
    registration.run registry = (registration.step registry).1.run (registration.step registry).2 := by
  rw [run]
  split <;> simp_all

theorem run_of_conflict {retries : Nat} {error : RegisterError} (h : registry.snapshot.conflict? entry = some error) :
    run ⟨kind, entry, .loading retries⟩ registry = (.error error, registry.report (.rejected registry.label kind error)) := by
  rw [run_of_step rfl, step_loading_of_conflict h, run_of_step rfl, step_rejecting, run_of_result? rfl]

theorem run_of_free {retries : Nat} (h : registry.snapshot.conflict? entry = none) :
    run ⟨kind, entry, .loading retries⟩ registry =
      (.ok entry,
        { registry with
          current := ⟨⟨registry.current.stamp.registry, registry.current.stamp.version + 1⟩, registry.snapshot.extend entry⟩
          journal := registry.journal ++
            [.registered registry.label entry.identifier entry.name (registry.size + 1) retries] }) := by
  rw [run_of_step rfl, step_loading_of_free h, run_of_step rfl, step_swapping_of_current rfl, run_of_step rfl,
    step_announcing, run_of_result? rfl]
  simp [Registry.report, Registry.size]

end Registration

end Merge

end MessageCatalog
