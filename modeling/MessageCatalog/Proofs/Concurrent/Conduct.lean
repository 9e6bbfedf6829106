import MessageCatalog.Proofs.Concurrent.Exchange

/-!
# What a thread does

What a thread does under a schedule is its `Conduct`: the descriptors that it publishes, the swaps that fail, and what it reports. A turn of a thread is a step of the registration that it has at work, or it publishes nothing and reports no more than how far a series has come, `Thread.deed_of_quiet`. And of a registration the phase tells all that it has done since its beginning, `Registration.Done`: no step adds anything to it that the next phase does not tell.
-/

namespace MessageCatalog

/-! ### Errors and reports -/

/-- The error comes from what is registered already, and not from the request. -/
def RegisterError.isConflict : RegisterError → Bool
  | identifier .. => false
  | receiverMismatch .. => false
  | alreadyRegistered .. => true
  | typeConflict .. => true
  | identifierConflict .. => true

theorem Snapshot.isConflict_of_conflict? {snapshot : Snapshot} {entry : Descriptor} {error : RegisterError}
    (h : snapshot.conflict? entry = some error) : error.isConflict := by
  unfold conflict? at h
  split at h
  · split at h <;> exact Option.some.inj h ▸ rfl
  · split at h
    · exact Option.some.inj h ▸ rfl
    · exact nomatch h

theorem Registry.not_isConflict_of_prepare {table : TypeTable} {type : NativeType} {text : String} {error : RegisterError}
    (h : prepare table type text = .error error) : ¬ error.isConflict := by
  unfold prepare at h
  split at h
  · exact Except.error.inj h ▸ Bool.false_ne_true
  · split at h
    · exact Except.error.inj h ▸ Bool.false_ne_true
    · exact nomatch h

/-- The event tells how far a series of declarations has come, and not what has become of a registration. -/
def Event.isOfSeries : Event → Bool
  | registered .. => false
  | retrying .. => false
  | rejected .. => false
  | declaring .. => true
  | declared .. => true

/-- The reports of the first so many races that a registration has lost. -/
def Event.retries (label : String) (identifier : Identifier) (count : Nat) : List Event :=
  (List.range count).map fun earlier => .retrying label identifier (earlier + 1)

theorem Event.retries_succ (label : String) (identifier : Identifier) (count : Nat) :
    retries label identifier (count + 1) = retries label identifier count ++ [.retrying label identifier (count + 1)] := by
  simp [retries, List.range_succ]

theorem Event.eq_retrying_of_mem_retries {label : String} {identifier : Identifier} {count : Nat} {event : Event}
    (h : event ∈ retries label identifier count) : ∃ attempt, event = .retrying label identifier attempt := by
  obtain ⟨earlier, -, hevent⟩ := List.mem_map.1 h
  exact ⟨earlier + 1, hevent.symm⟩

/-- What is no report of a lost race is not among them. -/
theorem Event.filter_retries {p : Event → Bool} (h : ∀ label identifier attempt, p (.retrying label identifier attempt) = false)
    (label : String) (identifier : Identifier) (count : Nat) : (retries label identifier count).filter p = [] := by
  refine List.filter_eq_nil_iff.2 fun event hevent => ?_
  obtain ⟨attempt, rfl⟩ := eq_retrying_of_mem_retries hevent
  rw [h]
  exact Bool.false_ne_true

/-- The label is the same, and whatever was reported stays. -/
structure Registry.GoesOn (before after : Registry) : Prop where
  label : after.label = before.label
  journal : before.journal <+: after.journal

theorem Registry.GoesOn.refl (registry : Registry) : registry.GoesOn registry := ⟨rfl, List.prefix_rfl⟩

theorem Registry.goesOn_report (registry : Registry) (event : Event) : registry.GoesOn (registry.report event) :=
  ⟨rfl, List.prefix_append _ _⟩

/-! ### Conduct -/

/-- What was done: the descriptors that were published, how many swaps failed, and what was reported. -/
@[ext] structure Conduct where
  published : List Descriptor := []
  losses : Nat := 0
  reports : List Event := []
  deriving DecidableEq, Repr

namespace Conduct

/-- First the one, then the other. -/
instance : Append Conduct :=
  ⟨fun first next => ⟨first.published ++ next.published, first.losses + next.losses, first.reports ++ next.reports⟩⟩

@[simp] theorem published_append (first next : Conduct) : (first ++ next).published = first.published ++ next.published := rfl

@[simp] theorem losses_append (first next : Conduct) : (first ++ next).losses = first.losses + next.losses := rfl

@[simp] theorem reports_append (first next : Conduct) : (first ++ next).reports = first.reports ++ next.reports := rfl

@[simp] theorem mk_append_mk (published next : List Descriptor) (losses more : Nat) (reports later : List Event) :
    (⟨published, losses, reports⟩ ++ ⟨next, more, later⟩ : Conduct) =
      ⟨published ++ next, losses + more, reports ++ later⟩ := rfl

@[simp] theorem append_nothing (conduct : Conduct) : conduct ++ {} = conduct := by
  ext1 <;> simp

@[simp] theorem nothing_append (conduct : Conduct) : {} ++ conduct = conduct := by
  ext1 <;> simp

theorem append_assoc (first next last : Conduct) : first ++ next ++ last = first ++ (next ++ last) := by
  ext1 <;> simp [Nat.add_assoc]

end Conduct

namespace Merge.Registration

variable {registry : Registry} {registration : Registration} {conduct : Conduct}

/-- The next step is a swap, and it fails. -/
def loses (registration : Registration) (registry : Registry) : Bool :=
  match registration.phase with
  | .swapping _ seen replacement => (registry.compareAndSwap seen.stamp replacement).isNone
  | _ => false

/-- What the next step does. -/
def deed (registration : Registration) (registry : Registry) : Conduct where
  published := (registration.publishes? registry).toList
  losses := (registration.loses registry).toNat
  reports := (registration.step registry).2.journal.drop registry.journal.length

@[simp] theorem kind_step (registration : Registration) (registry : Registry) :
    (registration.step registry).1.kind = registration.kind := by
  obtain ⟨kind, entry, phase⟩ := registration
  cases phase <;> simp only [step] <;> split <;> rfl

theorem goesOn_step (registration : Registration) (registry : Registry) : registry.GoesOn (registration.step registry).2 := by
  obtain ⟨kind, entry, phase⟩ := registration
  cases phase with
  | loading retries => simp only [step]; split <;> exact .refl registry
  | swapping retries seen replacement =>
    by_cases hstamp : registry.current.stamp = seen.stamp
    · rw [step_swapping_of_current hstamp]
      exact ⟨rfl, List.prefix_rfl⟩
    · rw [step_swapping_of_stale hstamp]
      exact .refl registry
  | retrying retries => exact registry.goesOn_report _
  | announcing retries length => exact registry.goesOn_report _
  | rejecting error => exact registry.goesOn_report _
  | finished result => exact .refl registry

theorem loses_swapping {kind : MessageKind} {entry : Descriptor} {retries : Nat} {seen : Published} {replacement : Snapshot} :
    loses ⟨kind, entry, .swapping retries seen replacement⟩ registry = true ↔ registry.current.stamp ≠ seen.stamp := by
  simp [loses, Registry.compareAndSwap]

theorem loses_swapping_of_current {kind : MessageKind} {entry : Descriptor} {retries : Nat} {seen : Published} {replacement : Snapshot}
    (h : registry.current.stamp = seen.stamp) : loses ⟨kind, entry, .swapping retries seen replacement⟩ registry = false := by
  simp [loses, Registry.compareAndSwap, h]

theorem loses_of_result? (h : registration.result?.isSome) (registry : Registry) : registration.loses registry = false := by
  obtain ⟨kind, entry, phase⟩ := registration
  cases phase <;> simp_all [result?, loses]

/-- All that a registration has done since its beginning, when it has come so far. -/
inductive Done (label : String) : Registration → Conduct → Prop where
  | loading {kind : MessageKind} {entry : Descriptor} (retries : Nat) :
      Done label ⟨kind, entry, .loading retries⟩ ⟨[], retries, Event.retries label entry.identifier retries⟩
  | swapping {kind : MessageKind} {entry : Descriptor} (retries : Nat) (seen : Published) (replacement : Snapshot) :
      Done label ⟨kind, entry, .swapping retries seen replacement⟩ ⟨[], retries, Event.retries label entry.identifier retries⟩
  | retrying {kind : MessageKind} {entry : Descriptor} (earlier : Nat) :
      Done label ⟨kind, entry, .retrying (earlier + 1)⟩ ⟨[], earlier + 1, Event.retries label entry.identifier earlier⟩
  | announcing {kind : MessageKind} {entry : Descriptor} (retries length : Nat) :
      Done label ⟨kind, entry, .announcing retries length⟩ ⟨[entry], retries, Event.retries label entry.identifier retries⟩
  | rejecting {kind : MessageKind} {entry : Descriptor} {error : RegisterError} (retries : Nat) : error.isConflict →
      Done label ⟨kind, entry, .rejecting error⟩ ⟨[], retries, Event.retries label entry.identifier retries⟩
  | registered {kind : MessageKind} {entry : Descriptor} (retries length : Nat) :
      Done label ⟨kind, entry, .finished (.ok entry)⟩
        ⟨[entry], retries, Event.retries label entry.identifier retries ++
          [.registered label entry.identifier entry.name length retries]⟩
  | rejected {kind : MessageKind} {entry : Descriptor} {error : RegisterError} (retries : Nat) : error.isConflict →
      Done label ⟨kind, entry, .finished (.error error)⟩
        ⟨[], retries, Event.retries label entry.identifier retries ++ [.rejected label kind error]⟩

/-- Apart from lost races a registration reports its end only. -/
theorem Done.filter_reports {label : String} {conduct : Conduct} {p : Event → Bool} (h : registration.Done label conduct)
    (hp : ∀ label identifier attempt, p (.retrying label identifier attempt) = false) :
    registration.result? = none ∧ conduct.reports.filter p = [] ∨
      (∃ length, registration.result? = some (.ok registration.entry) ∧ conduct.reports.filter p =
        [Event.registered label registration.entry.identifier registration.entry.name length conduct.losses].filter p) ∨
      ∃ error, error.isConflict ∧ registration.result? = some (.error error) ∧
        conduct.reports.filter p = [Event.rejected label registration.kind error].filter p := by
  cases h with
  | loading retries => exact .inl ⟨rfl, Event.filter_retries hp ..⟩
  | swapping retries seen replacement => exact .inl ⟨rfl, Event.filter_retries hp ..⟩
  | retrying earlier => exact .inl ⟨rfl, Event.filter_retries hp ..⟩
  | announcing retries length => exact .inl ⟨rfl, Event.filter_retries hp ..⟩
  | rejecting retries hconflict => exact .inl ⟨rfl, Event.filter_retries hp ..⟩
  | registered retries length =>
    refine .inr (.inl ⟨length, rfl, ?_⟩)
    rw [List.filter_append, Event.filter_retries hp, List.nil_append]
  | @rejected kind entry error retries hconflict =>
    refine .inr (.inr ⟨error, hconflict, rfl, ?_⟩)
    rw [List.filter_append, Event.filter_retries hp, List.nil_append]

section Deed

variable {kind : MessageKind} {entry : Descriptor}

theorem deed_loading (retries : Nat) : deed ⟨kind, entry, .loading retries⟩ registry = {} := by
  cases hconflict : registry.snapshot.conflict? entry with
  | some error => simp [deed, publishes?, loses, step_loading_of_conflict hconflict]
  | none => simp [deed, publishes?, loses, step_loading_of_free hconflict]

theorem deed_swapping_of_current {seen : Published} (h : registry.current.stamp = seen.stamp) (retries : Nat) (replacement : Snapshot) :
    deed ⟨kind, entry, .swapping retries seen replacement⟩ registry = ⟨[entry], 0, []⟩ := by
  simp [deed, publishes?, loses, Registry.compareAndSwap, step_swapping_of_current h, h]

theorem deed_swapping_of_stale {seen : Published} (h : registry.current.stamp ≠ seen.stamp) (retries : Nat) (replacement : Snapshot) :
    deed ⟨kind, entry, .swapping retries seen replacement⟩ registry = ⟨[], 1, []⟩ := by
  simp [deed, publishes?, loses, Registry.compareAndSwap, step_swapping_of_stale h, h]

theorem deed_retrying (retries : Nat) :
    deed ⟨kind, entry, .retrying retries⟩ registry = ⟨[], 0, [.retrying registry.label entry.identifier retries]⟩ := by
  simp [deed, publishes?, loses, step_retrying]

theorem deed_announcing (retries length : Nat) :
    deed ⟨kind, entry, .announcing retries length⟩ registry =
      ⟨[], 0, [.registered registry.label entry.identifier entry.name length retries]⟩ := by
  simp [deed, publishes?, loses, step_announcing]

theorem deed_rejecting (error : RegisterError) :
    deed ⟨kind, entry, .rejecting error⟩ registry = ⟨[], 0, [.rejected registry.label kind error]⟩ := by
  simp [deed, publishes?, loses, step_rejecting]

theorem deed_finished (result : Except RegisterError Descriptor) : deed ⟨kind, entry, .finished result⟩ registry = {} := by
  simp [deed, publishes?, loses, step]

end Deed

theorem deed_of_result? {result : Except RegisterError Descriptor} (h : registration.result? = some result) (registry : Registry) :
    registration.deed registry = {} := by
  obtain ⟨kind, entry, phase⟩ := registration
  cases phase with
  | finished result => exact deed_finished result
  | loading retries => exact nomatch h
  | swapping retries seen replacement => exact nomatch h
  | retrying retries => exact nomatch h
  | announcing retries length => exact nomatch h
  | rejecting error => exact nomatch h

theorem Done.step (h : registration.Done registry.label conduct) :
    (registration.step registry).1.Done registry.label (conduct ++ registration.deed registry) := by
  cases h with
  | @loading kind entry retries =>
    rw [deed_loading, Conduct.append_nothing]
    cases hconflict : registry.snapshot.conflict? entry with
    | some error =>
      rw [step_loading_of_conflict hconflict]
      exact .rejecting retries (Snapshot.isConflict_of_conflict? hconflict)
    | none =>
      rw [step_loading_of_free hconflict]
      exact .swapping retries _ _
  | swapping retries seen replacement =>
    by_cases hstamp : registry.current.stamp = seen.stamp
    · rw [deed_swapping_of_current hstamp, step_swapping_of_current hstamp, Conduct.mk_append_mk, List.append_nil]
      exact .announcing retries replacement.size
    · rw [deed_swapping_of_stale hstamp, step_swapping_of_stale hstamp, Conduct.mk_append_mk, List.append_nil, List.append_nil]
      exact .retrying retries
  | retrying earlier =>
    -- the race was counted when it was lost and is reported only now
    rw [deed_retrying, Conduct.mk_append_mk, ← Event.retries_succ]
    exact .loading (earlier + 1)
  | announcing retries length =>
    rw [deed_announcing, Conduct.mk_append_mk]
    exact .registered retries length
  | rejecting retries hconflict =>
    rw [deed_rejecting, Conduct.mk_append_mk]
    exact .rejected retries hconflict
  | registered retries length =>
    rw [deed_finished, Conduct.append_nothing]
    exact .registered retries length
  | rejected retries hconflict =>
    rw [deed_finished, Conduct.append_nothing]
    exact .rejected retries hconflict

end Merge.Registration

namespace Concurrent

open Merge

variable {table : TypeTable} {registry : Registry}

namespace Series

variable {series : Series}

theorem isOfSeries_step (hdone : ∀ registration, series.current? = some registration → registration.result?.isSome) :
    ∀ event ∈ (series.step table registry).2.journal.drop registry.journal.length, event.isOfSeries := by
  obtain ⟨current?, rest, done⟩ := series
  cases current? with
  | some registration =>
    obtain ⟨result, hresult⟩ := Option.isSome_iff_exists.1 (hdone registration rfl)
    cases result with
    | error error => simp [step_of_refused hresult]
    | ok entry => simp [step_of_registered hresult]
  | none =>
    cases rest with
    | nil => simp [step_of_end, Event.isOfSeries]
    | cons declaration rest =>
      cases hentry : Registry.prepare table declaration.type declaration.identifier with
      | error error => simp [step_of_unprepared hentry, Declaration.event, Event.isOfSeries]
      | ok entry => simp [step_of_prepared hentry, Declaration.event, Event.isOfSeries]

theorem goesOn_step (table : TypeTable) (series : Series) (registry : Registry) :
    registry.GoesOn (series.step table registry).2 := by
  unfold Series.step
  split
  · split
    · exact .refl registry
    · exact .refl registry
    · exact Registration.goesOn_step _ registry
  · split
    · exact registry.goesOn_report _
    · dsimp only
      split <;> exact registry.goesOn_report _

end Series

/-! ### One thread -/

namespace Thread

/-- The next turn of the thread is a swap, and it fails. -/
def loses (thread : Thread) (registry : Registry) : Bool :=
  thread.registration?.any fun registration => registration.loses registry

/-- What the next turn of the thread does. -/
def deed (table : TypeTable) (index : Nat) (thread : Thread) (registry : Registry) : Conduct where
  published := (thread.publishes? registry).toList
  losses := (thread.loses registry).toNat
  reports := (thread.step table index registry).2.1.journal.drop registry.journal.length

variable {thread : Thread} {registration : Registration} {calls : List Call} {answers : List Answer}

theorem deed_idle (index : Nat) (calls : List Call) (answers : List Answer) (registry : Registry) :
    deed table index ⟨none, calls, answers⟩ registry = {} := by
  cases calls <;> simp [deed, publishes?, loses, Thread.registration?, Thread.step]

theorem deed_returning (index : Nat) (answer : Answer) (calls : List Call) (answers : List Answer) (registry : Registry) :
    deed table index ⟨some (.returning answer), calls, answers⟩ registry = {} := by
  simp [deed, publishes?, loses, Thread.registration?, Pending.registration?, Thread.step]

/-- A turn that is a step of the registration at work does what the step does. -/
theorem deed_of_step {index : Nat} (hat : thread.registration? = some registration)
    (hregistry : (thread.step table index registry).2.1 = (registration.step registry).2) :
    thread.deed table index registry = registration.deed registry := by
  simp [deed, Registration.deed, publishes?, loses, hat, hregistry]

theorem deed_registering (index : Nat) (registration : Registration) (calls : List Call) (answers : List Answer) (registry : Registry) :
    deed table index ⟨some (.registering registration), calls, answers⟩ registry = registration.deed registry := by
  cases hresult : registration.result? with
  | none =>
    refine deed_of_step rfl ?_
    show ((Pending.registering registration).step table registry).2 = _
    rw [Pending.step_of_unfinished hresult]
  | some result =>
    have hdone : registration.result?.isSome := hresult ▸ rfl
    have hnothing : registration.publishes? registry = none := Registration.publishes?_of_result? hdone registry
    rw [Registration.deed_of_result? hresult]
    simp [deed, publishes?, loses, Thread.registration?, Pending.registration?, Thread.step, Pending.step_of_finished hresult,
      hnothing, Registration.loses_of_result? hdone]

theorem loses_of_quiet (hdone : ∀ registration, thread.registration? = some registration → registration.result?.isSome) :
    thread.loses registry = false := by
  rw [loses]
  cases hat : thread.registration? with
  | none => rfl
  | some registration => exact Registration.loses_of_result? (hdone registration hat) registry

/-- A turn without a registration at work publishes nothing and loses nothing. All that it may report is how far a series has come. -/
theorem deed_of_quiet (hdone : ∀ registration, thread.registration? = some registration → registration.result?.isSome) (index : Nat) :
    ∃ reports, thread.deed table index registry = ⟨[], 0, reports⟩ ∧ ∀ event ∈ reports, event.isOfSeries := by
  refine ⟨(thread.deed table index registry).reports, by simp [deed, publishes?_of_quiet hdone, loses_of_quiet hdone], ?_⟩
  obtain ⟨pending?, calls, answers⟩ := thread
  cases pending? with
  | none => simp [deed_idle]
  | some pending =>
    cases pending with
    | returning answer => simp [deed_returning]
    | asking question => simp [deed, Thread.step, Pending.step]
    | registering registration =>
      obtain ⟨result, hresult⟩ := Option.isSome_iff_exists.1 (hdone registration rfl)
      simp [deed, Thread.step, Pending.step_of_finished hresult]
    | declaring series => exact series.isOfSeries_step hdone

theorem goesOn_step (table : TypeTable) (thread : Thread) (index : Nat) (registry : Registry) :
    registry.GoesOn (thread.step table index registry).2.1 := by
  obtain ⟨pending?, calls, answers⟩ := thread
  cases pending? with
  | none => cases calls <;> exact .refl registry
  | some pending =>
    cases pending with
    | returning answer => exact .refl registry
    | asking question => exact .refl registry
    | registering registration =>
      show registry.GoesOn ((Pending.registering registration).step table registry).2
      cases hresult : registration.result? with
      | some result => rw [Pending.step_of_finished hresult]; exact .refl registry
      | none => rw [Pending.step_of_unfinished hresult]; exact registration.goesOn_step registry
    | declaring series => exact series.goesOn_step table registry

/-- A turn puts what it reports behind all earlier reports. -/
theorem journal_step (thread : Thread) (index : Nat) (registry : Registry) :
    (thread.step table index registry).2.1.journal = registry.journal ++ (thread.deed table index registry).reports :=
  (List.prefix_iff_eq_append.1 (thread.goesOn_step table index registry).journal).symm

end Thread

/-! ### Runs -/

namespace State


/-- What one thread does under a schedule. -/
def conduct (table : TypeTable) (state : State) (schedule : List Nat) (thread : Nat) : Conduct :=
  match schedule with
  | [] => {}
  | index :: schedule =>
    (if index = thread then (state.thread thread).deed table thread state.registry else {}) ++
      (state.step table index).conduct table schedule thread

theorem conduct_append (state : State) (schedule later : List Nat) (thread : Nat) :
    state.conduct table (schedule ++ later) thread =
      state.conduct table schedule thread ++ (state.run table schedule).conduct table later thread := by
  induction schedule generalizing state with
  | nil => exact (Conduct.nothing_append _).symm
  | cons index schedule ih => rw [List.cons_append, conduct, conduct, ih, Conduct.append_assoc, run_cons]

theorem conduct_concat_self (state : State) (schedule : List Nat) (thread : Nat) :
    state.conduct table (schedule ++ [thread]) thread =
      state.conduct table schedule thread ++
        ((state.run table schedule).thread thread).deed table thread (state.run table schedule).registry := by
  rw [conduct_append, conduct, conduct, if_pos rfl, Conduct.append_nothing]

theorem conduct_concat_of_ne {index thread : Nat} (h : index ≠ thread) (state : State) (schedule : List Nat) :
    state.conduct table (schedule ++ [index]) thread = state.conduct table schedule thread := by
  rw [conduct_append, conduct, conduct, if_neg h, Conduct.append_nothing, Conduct.append_nothing]

theorem published_conduct (state : State) (schedule : List Nat) (thread : Nat) :
    (state.conduct table schedule thread).published = publishedBy (state.publications table schedule) thread := by
  induction schedule generalizing state with
  | nil => rfl
  | cons index schedule ih =>
    rw [conduct, publications, publishedBy_append, Conduct.published_append, ih]
    congr 1
    by_cases hown : index = thread
    · subst hown
      cases hpublishes : (state.thread index).publishes? state.registry <;> simp [Thread.deed, publishedBy, hpublishes]
    · cases (state.thread index).publishes? state.registry <;> simp [publishedBy, hown]

theorem label_run (table : TypeTable) (state : State) (schedule : List Nat) :
    (state.run table schedule).registry.label = state.registry.label := by
  induction schedule generalizing state with
  | nil => rfl
  | cons index schedule ih => rw [run_cons, ih, registry_step, ((state.thread index).goesOn_step table index state.registry).label]

end State

end Concurrent

end MessageCatalog
