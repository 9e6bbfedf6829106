import MessageCatalog.Proofs.Client.Failure

/-!
# The journal as an audit trail

A registration publishes its descriptor with one step and reports that it is registered with the next, and between the two others may publish and report. So the reports need not come in the order of the table, but none is lost: `State.perm_announcements` keeps the account, in which every swap that succeeds is entered once, with the place that it was made for, and stands either in the journal or in the hands of a thread that is about to report it. The place is that of the descriptor since nothing else was published between the load and the swap.
-/

namespace MessageCatalog

/-- What is reported of the descriptor that is registered as the `length`-th. -/
def Descriptor.announcement (entry : Descriptor) (label : String) (length retries : Nat) : Event :=
  .registered label entry.identifier entry.name length retries

namespace Event

def length? : Event → Option Nat
  | registered _ _ _ length _ => some length
  | _ => none

/-- What an entry of the table can be known by. -/
def row? : Event → Option (Identifier × String)
  | registered _ identifier messageType _ _ => some (identifier, messageType)
  | _ => none

theorem filterMap_length?_filter (events : List Event) :
    (events.filter isRegistered).filterMap length? = events.filterMap length? := by
  rw [List.filterMap_filter]
  refine List.filterMap_congr fun event _ => ?_
  cases event <;> simp [isRegistered, message, length?]

theorem filterMap_row?_filter (events : List Event) : (events.filter isRegistered).filterMap row? = events.filterMap row? := by
  rw [List.filterMap_filter]
  refine List.filterMap_congr fun event _ => ?_
  cases event <;> simp [isRegistered, message, row?]

end Event

/-- The reports by which a registration is known to be registered, when it has come so far: one of a descriptor that is returned, with the number of lost races, and none of anything else. -/
inductive Tells (label : String) (losses : Nat) : Option (Except RegisterError Descriptor) → List Event → Prop where
  | unfinished : Tells label losses none []
  | refused (error : RegisterError) : Tells label losses (some (.error error)) []
  | registered (entry : Descriptor) (length : Nat) :
    Tells label losses (some (.ok entry)) [entry.announcement label length losses]

/-- The event tells that the entry is registered. -/
def IsReport (label : String) (event : Event) (entry : Descriptor) : Prop :=
  ∃ length retries, event = entry.announcement label length retries

/-! ### One registration -/

namespace Merge.Registration

variable {registry : Registry} {registration : Registration} {label : String} {conduct : Conduct}

/-- What the registration is about to report: it is published. -/
def announcing? (registration : Registration) (label : String) : Option Event :=
  match registration.phase with
  | .announcing retries length => some (registration.entry.announcement label length retries)
  | _ => none

/-- What there will be to report if the next step is a swap, and it succeeds. -/
def announcement? (registration : Registration) (registry : Registry) : Option Event :=
  match registration.phase with
  | .swapping retries seen replacement =>
    if (registry.compareAndSwap seen.stamp replacement).isSome then
      some (registration.entry.announcement registry.label replacement.size retries)
    else none
  | _ => none

theorem Done.tells (h : registration.Done label conduct) :
    Tells label conduct.losses registration.result? (conduct.reports.filter Event.isRegistered) := by
  rcases h.filter_reports Event.isRegistered_retrying with
    ⟨hresult, hreports⟩ | ⟨length, hresult, hreports⟩ | ⟨error, -, hresult, hreports⟩
  · rw [hresult, hreports]
    exact .unfinished
  · rw [hresult, hreports]
    exact .registered _ length
  · rw [hresult, hreports]
    exact .refused error

theorem Done.losses_eq (h : registration.Done label conduct) {retries : Nat} {seen : Published} {replacement : Snapshot}
    (hphase : registration.phase = .swapping retries seen replacement) : conduct.losses = retries := by
  cases h with
  | swapping other old new => exact (Phase.swapping.inj hphase).1
  | loading other => exact nomatch hphase
  | retrying earlier => exact nomatch hphase
  | announcing other length => exact nomatch hphase
  | rejecting other hconflict => exact nomatch hphase
  | registered other length => exact nomatch hphase
  | rejected other hconflict => exact nomatch hphase

theorem announcing?_of_result? (h : registration.result?.isSome) (label : String) (registry : Registry) :
    registration.announcing? label = none ∧ registration.announcement? registry = none := by
  obtain ⟨kind, entry, phase⟩ := registration
  cases phase <;> simp_all [result?, announcing?, announcement?]

/-- What is reported was announced before, and what is announced will be reported. -/
theorem announcing?_step (registration : Registration) (registry : Registry) :
    (registration.deed registry).reports.filter Event.isRegistered ++
        ((registration.step registry).1.announcing? registry.label).toList =
      (registration.announcing? registry.label).toList ++ (registration.announcement? registry).toList := by
  obtain ⟨kind, entry, phase⟩ := registration
  cases phase with
  | loading retries =>
    rw [deed_loading]
    cases hconflict : registry.snapshot.conflict? entry with
    | some error => rw [step_loading_of_conflict hconflict]; rfl
    | none => rw [step_loading_of_free hconflict]; rfl
  | swapping retries seen replacement =>
    by_cases hstamp : registry.current.stamp = seen.stamp
    · rw [deed_swapping_of_current hstamp, step_swapping_of_current hstamp]
      simp [announcing?, announcement?, Registry.compareAndSwap, hstamp]
    · rw [deed_swapping_of_stale hstamp, step_swapping_of_stale hstamp]
      simp [announcing?, announcement?, Registry.compareAndSwap, hstamp]
  | retrying retries => rw [deed_retrying, step_retrying]; rfl
  | announcing retries length =>
    rw [deed_announcing, step_announcing]
    rfl
  | rejecting error => rw [deed_rejecting, step_rejecting]; rfl
  | finished result => rw [deed_finished]; rfl

theorem isReport_step (hresult : registration.result? = none) (registry : Registry) :
    List.Forall₂ (IsReport registry.label) ((registration.deed registry).reports.filter Event.isRegistered)
      ((registration.step registry).1.result?.bind Except.toOption).toList := by
  obtain ⟨kind, entry, phase⟩ := registration
  cases phase with
  | loading retries =>
    rw [deed_loading]
    cases hconflict : registry.snapshot.conflict? entry with
    | some error => rw [step_loading_of_conflict hconflict]; exact .nil
    | none => rw [step_loading_of_free hconflict]; exact .nil
  | swapping retries seen replacement =>
    by_cases hstamp : registry.current.stamp = seen.stamp
    · rw [deed_swapping_of_current hstamp, step_swapping_of_current hstamp]; exact .nil
    · rw [deed_swapping_of_stale hstamp, step_swapping_of_stale hstamp]; exact .nil
  | retrying retries => rw [deed_retrying, step_retrying]; exact .nil
  | announcing retries length =>
    rw [deed_announcing, step_announcing]
    exact .cons ⟨length, retries, rfl⟩ .nil
  | rejecting error => rw [deed_rejecting, step_rejecting]; exact .nil
  | finished result => exact nomatch hresult

/-- What is announced is the descriptor that is published, as the one behind all that was published before. -/
theorem announcement?_cases (h : registration.Sound registry.current) :
    registration.publishes? registry = none ∧ registration.announcement? registry = none ∨
      ∃ retries seen replacement, registration.phase = .swapping retries seen replacement ∧
        registration.publishes? registry = some registration.entry ∧
        registration.announcement? registry =
          some (registration.entry.announcement registry.label (registry.size + 1) retries) := by
  obtain ⟨kind, entry, phase⟩ := registration
  cases phase with
  | swapping retries seen replacement =>
    by_cases hstamp : registry.current.stamp = seen.stamp
    · obtain ⟨hseen, -, hreplacement⟩ := h
      have hsize : replacement.size = registry.size + 1 := by
        rw [hreplacement, Snapshot.size_extend, hseen.eq_of_stamp hstamp]
        rfl
      refine .inr ⟨retries, seen, replacement, rfl, ?_, ?_⟩
      · simp [publishes?, Registry.compareAndSwap, hstamp]
      · simp [announcement?, Registry.compareAndSwap, hstamp, hsize]
    · exact .inl ⟨by simp [publishes?, Registry.compareAndSwap, hstamp], by simp [announcement?, Registry.compareAndSwap, hstamp]⟩
  | loading retries => exact .inl ⟨rfl, rfl⟩
  | retrying retries => exact .inl ⟨rfl, rfl⟩
  | announcing retries length => exact .inl ⟨rfl, rfl⟩
  | rejecting error => exact .inl ⟨rfl, rfl⟩
  | finished result => exact .inl ⟨rfl, rfl⟩

end Merge.Registration

namespace Concurrent

open Merge

variable {table : TypeTable} {registry : Registry} {label : String}

theorem Registers.tells {kind : MessageKind} {type : NativeType} {text : String} {result : Except RegisterError Descriptor}
    {conduct : Conduct} (h : Registers table label kind type text result conduct) :
    Tells label conduct.losses (some result) (conduct.reports.filter Event.isRegistered) := by
  cases h with
  | refused _ => exact .refused _
  | rejected retries _ _ =>
    rw [List.filter_append, Event.filter_retries Event.isRegistered_retrying]
    exact .refused _
  | registered retries length _ =>
    rw [List.filter_append, Event.filter_retries Event.isRegistered_retrying]
    exact .registered _ length

/-! ### One thread -/

namespace Thread

def announcing? (thread : Thread) (label : String) : Option Event :=
  thread.registration?.bind fun registration => registration.announcing? label

def announcement? (thread : Thread) (registry : Registry) : Option Event :=
  thread.registration?.bind fun registration => registration.announcement? registry

theorem announcing?_of_none {thread : Thread} (h : thread.registration? = none) (label : String) :
    thread.announcing? label = none := by
  rw [announcing?, h]
  rfl

theorem announcing?_of_quiet {thread : Thread}
    (hdone : ∀ registration, thread.registration? = some registration → registration.result?.isSome) (label : String)
    (registry : Registry) : thread.announcing? label = none ∧ thread.announcement? registry = none := by
  rw [announcing?, announcement?]
  cases hat : thread.registration? with
  | none => exact ⟨rfl, rfl⟩
  | some registration => exact Registration.announcing?_of_result? (hdone registration hat) label registry

theorem announcing?_step (table : TypeTable) (thread : Thread) (index : Nat) (registry : Registry) :
    (thread.deed table index registry).reports.filter Event.isRegistered ++
        ((thread.step table index registry).1.announcing? registry.label).toList =
      (thread.announcing? registry.label).toList ++ (thread.announcement? registry).toList := by
  rcases thread.step_cases table index registry with ⟨-, hdone, hfresh⟩ | ⟨registration, hat, hafter, hregistry⟩
  · obtain ⟨reports, hdeed, hseries⟩ := deed_of_quiet hdone index
    have hnothing : (thread.step table index registry).1.announcing? registry.label = none := by
      rw [announcing?]
      cases hat : (thread.step table index registry).1.registration? with
      | none => rfl
      | some registration => simp [Registration.announcing?, (hfresh registration hat).1]
    have hreports : reports.filter Event.isRegistered = [] :=
      List.filter_eq_nil_iff.2 fun event hevent => Event.not_isRegistered_of_isOfSeries (hseries event hevent)
    obtain ⟨hbefore, hnone⟩ := announcing?_of_quiet hdone registry.label registry
    rw [hdeed, hreports, hnothing, hbefore, hnone]
    rfl
  · rw [deed_of_step hat hregistry, announcing?, announcing?, announcement?, hafter, hat]
    exact registration.announcing?_step registry

theorem announcement?_cases (thread : Thread)
    (hwork : ∀ registration, thread.registration? = some registration → IsAtWork table registry.current registration) :
    thread.publishes? registry = none ∧ thread.announcement? registry = none ∨ ∃ (entry : Descriptor) (retries : Nat),
      thread.publishes? registry = some entry ∧
        thread.announcement? registry = some (entry.announcement registry.label (registry.size + 1) retries) := by
  rw [publishes?, announcement?]
  cases hat : thread.registration? with
  | none => exact .inl ⟨rfl, rfl⟩
  | some registration =>
    rcases Registration.announcement?_cases (hwork registration hat).1 with
      hnothing | ⟨retries, _, _, -, hpublishes, hannouncement⟩
    · exact .inl hnothing
    · exact .inr ⟨registration.entry, retries, hpublishes, hannouncement⟩

end Thread

/-! ### All threads -/

private theorem filterMap_cons_toList (f : Thread → Option Event) (first : Thread) (rest : List Thread) :
    (first :: rest).filterMap f = (f first).toList ++ rest.filterMap f := by
  cases h : f first <;> simp [h]

theorem count_filterMap_set {threads : List Thread} {index : Nat} {thread : Thread} (h : threads[index]? = some thread)
    (f : Thread → Option Event) (next : Thread) (event : Event) :
    ((threads.set index next).filterMap f).count event + (f thread).toList.count event =
      (threads.filterMap f).count event + (f next).toList.count event := by
  induction threads generalizing index with
  | nil => exact nomatch h
  | cons first rest ih =>
    cases index with
    | zero =>
      obtain rfl : first = thread := Option.some.inj h
      rw [List.set_cons_zero, filterMap_cons_toList, filterMap_cons_toList, List.count_append, List.count_append]
      omega
    | succ index =>
      have hrest := ih h
      rw [List.set_cons_succ, filterMap_cons_toList, filterMap_cons_toList, List.count_append, List.count_append]
      omega

namespace State

variable {state : State}

/-- What the threads have published and did not report yet. -/
def announcing (state : State) : List Event := state.threads.filterMap fun thread => thread.announcing? state.registry.label

/-- What there is to report of the swaps that succeed under a schedule, oldest first. -/
def announcements (table : TypeTable) (state : State) : List Nat → List Event
  | [] => []
  | index :: schedule =>
    ((state.thread index).announcement? state.registry).toList ++ (state.step table index).announcements table schedule

/-- The reports so far that a type is registered. -/
def reported (state : State) : List Event := state.registry.journal.filter Event.isRegistered

theorem reported_step (table : TypeTable) (state : State) (index : Nat) : (state.step table index).reported =
    state.reported ++ ((state.thread index).deed table index state.registry).reports.filter Event.isRegistered := by
  rw [reported, registry_step, Thread.journal_step, List.filter_append]
  rfl

theorem label_step (table : TypeTable) (state : State) (index : Nat) :
    (state.step table index).registry.label = state.registry.label :=
  label_run table state [index]

theorem count_announcing_step (table : TypeTable) (state : State) (index : Nat) (event : Event) :
    (state.step table index).announcing.count event + ((state.thread index).announcing? state.registry.label).toList.count event =
      state.announcing.count event +
        (((state.thread index).step table index state.registry).1.announcing? state.registry.label).toList.count event := by
  rw [announcing, announcing, label_step, State.thread]
  cases hthread : state.threads[index]? with
  | none => rw [step_of_none hthread]; rfl
  | some thread =>
    rw [step_of_some hthread]
    exact count_filterMap_set hthread (fun thread => thread.announcing? state.registry.label) _ event

/-- Along a run every announcement comes to the journal or is still in the hands of a thread. -/
theorem perm_announcements (table : TypeTable) (state : State) (schedule : List Nat) :
    ((state.run table schedule).reported ++ (state.run table schedule).announcing).Perm
      (state.reported ++ state.announcing ++ state.announcements table schedule) := by
  induction schedule generalizing state with
  | nil => rw [announcements, List.append_nil]; rfl
  | cons index schedule ih =>
    refine (ih (state.step table index)).trans (List.perm_iff_count.2 fun event => ?_)
    have hturn := congrArg (List.count event) ((state.thread index).announcing?_step table index state.registry)
    have hthreads := count_announcing_step table state index event
    rw [announcements, reported_step]
    simp only [List.count_append] at hturn ⊢
    omega

/-! ### Places -/

/-- The events tell of the entries in their order, as of those behind so many others. -/
inductive Enumerates (label : String) : Nat → List Event → List Descriptor → Prop where
  | nil (size : Nat) : Enumerates label size [] []
  | cons {size : Nat} {entry : Descriptor} {events : List Event} {entries : List Descriptor} (retries : Nat) :
      Enumerates label (size + 1) events entries →
      Enumerates label size (entry.announcement label (size + 1) retries :: events) (entry :: entries)

namespace Enumerates

variable {size : Nat} {events : List Event} {entries : List Descriptor}

theorem lengths (h : Enumerates label size events entries) :
    events.filterMap Event.length? = List.range' (size + 1) entries.length := by
  induction h with
  | nil size => rfl
  | @cons size entry events entries retries _ ih =>
    rw [List.length_cons, List.range'_succ, ← ih]
    rfl

theorem rows (h : Enumerates label size events entries) :
    events.filterMap Event.row? = entries.map fun entry => (entry.identifier, entry.name) := by
  induction h with
  | nil size => rfl
  | cons retries _ ih => exact congrArg _ ih

theorem exists_of_mem (h : Enumerates label size events entries) {event : Event} (hmem : event ∈ events) :
    ∃ (place : Nat) (entry : Descriptor) (retries : Nat), entries[place]? = some entry ∧
      event = entry.announcement label (size + place + 1) retries := by
  induction h with
  | nil size => exact absurd hmem List.not_mem_nil
  | @cons size entry events entries retries _ ih =>
    rcases List.mem_cons.1 hmem with rfl | hlater
    · exact ⟨0, entry, retries, rfl, rfl⟩
    · obtain ⟨place, later, races, hplace, rfl⟩ := ih hlater
      exact ⟨place + 1, later, races, hplace, congrArg (later.announcement label · races) (by omega)⟩

end Enumerates

theorem size_step {published : Published → Prop} (hkeeps : Registry.MergeKeeps table published)
    (h : state.Holds published (IsAtWork table)) (index : Nat) :
    (state.step table index).registry.size =
      state.registry.size + ((state.thread index).publishes? state.registry).toList.length := by
  have htable := congrArg List.length (table_run hkeeps h [index])
  rw [publications, publications, List.append_nil, List.map_map, List.length_append, List.length_map] at htable
  exact htable

theorem enumerates_announcements {published : Published → Prop} (hkeeps : Registry.MergeKeeps table published)
    (h : state.Holds published (IsAtWork table)) (schedule : List Nat) :
    Enumerates state.registry.label state.registry.size (state.announcements table schedule)
      ((state.publications table schedule).map Publication.entry) := by
  induction schedule generalizing state with
  | nil => exact .nil _
  | cons index schedule ih =>
    have hlater := ih (h.step (keeps_isAtWork hkeeps) index)
    rw [size_step hkeeps h, label_step] at hlater
    rw [announcements, publications]
    rcases (state.thread index).announcement?_cases fun registration hat => h.thread index hat with
      ⟨hpublishes, hannouncement⟩ | ⟨entry, retries, hpublishes, hannouncement⟩
    · rw [hpublishes] at hlater
      rw [hpublishes, hannouncement]
      exact hlater
    · rw [hpublishes] at hlater
      rw [hpublishes, hannouncement]
      exact .cons retries hlater

/-! ### Lost races -/

section Races

variable {start : State} {schedule : List Nat} {thread : Nat} {registration : Registration} {event : Event}

/-- A registration that is about to swap has lost no more races than others have published since it was begun. -/
theorem exists_retries_le (hstart : (start.thread thread).registration? = none)
    (hat : ((start.run table schedule).thread thread).registration? = some registration) {retries : Nat} {seen : Published}
    {replacement : Snapshot} (hphase : registration.phase = .swapping retries seen replacement) :
    ∃ before during, schedule = before ++ during ∧
      retries ≤ ((start.run table before).overtakings table during thread).length := by
  obtain ⟨before, during, rfl, hbegins⟩ := exists_begins hstart hat
  have hfree : (start.run table before).loses thread = false := by
    rw [State.loses, Thread.loses, hbegins.beginning]
    rfl
  have hlosses := losses_add_le table hfree during
  rw [hbegins.done.losses_eq hphase] at hlosses
  exact ⟨before, during, rfl, Nat.le_trans (Nat.le_add_right _ _) hlosses⟩

/-- What is announced is announced by a swap. -/
theorem exists_swap_of_mem_announcements (hmem : event ∈ state.announcements table schedule) :
    ∃ before index after registration retries seen replacement, schedule = before ++ index :: after ∧
      ((state.run table before).thread index).registration? = some registration ∧
      registration.phase = .swapping retries seen replacement ∧
      registration.announcement? (state.run table before).registry = some event := by
  induction schedule generalizing state with
  | nil => exact absurd hmem List.not_mem_nil
  | cons index schedule ih =>
    rw [announcements, List.mem_append, Option.mem_toList] at hmem
    rcases hmem with hnow | hlater
    · obtain ⟨registration, hat, hannouncement⟩ := Option.bind_eq_some_iff.1 hnow
      obtain ⟨kind, entry, phase⟩ := registration
      cases phase with
      | swapping retries seen replacement =>
        exact ⟨[], index, schedule, _, retries, seen, replacement, rfl, hat, rfl, hannouncement⟩
      | loading retries => exact nomatch hannouncement
      | retrying retries => exact nomatch hannouncement
      | announcing retries length => exact nomatch hannouncement
      | rejecting error => exact nomatch hannouncement
      | finished result => exact nomatch hannouncement
    · obtain ⟨before, other, after, registration, retries, seen, replacement, rfl, hswap⟩ := ih hlater
      exact ⟨index :: before, other, after, registration, retries, seen, replacement, rfl, hswap⟩

/-- Of the races that are reported to be lost there are as many publications before at least, all of them of others. -/
theorem exists_of_mem_announcements {published : Published → Prop} (hkeeps : Registry.MergeKeeps table published)
    (h : start.Holds published (IsAtWork table)) (hstart : ∀ thread, (start.thread thread).registration? = none)
    (hmem : event ∈ start.announcements table schedule) :
    ∃ (before during : List Nat) (index : Nat) (after : List Nat) (entry : Descriptor) (retries : Nat),
      schedule = before ++ during ++ index :: after ∧
      event = entry.announcement start.registry.label ((start.run table (before ++ during)).registry.size + 1) retries ∧
      retries ≤ ((start.run table before).overtakings table during index).length := by
  obtain ⟨past, index, after, registration, retries, seen, replacement, rfl, hat, hphase, hannouncement⟩ :=
    exists_swap_of_mem_announcements hmem
  obtain ⟨before, during, rfl, hretries⟩ := exists_retries_le (hstart index) hat hphase
  rcases registration.announcement?_cases ((h.run (keeps_isAtWork hkeeps) _).thread index hat).1 with
    ⟨-, hnothing⟩ | ⟨own, _, _, hown, -, hsome⟩
  · exact nomatch hnothing.symm.trans hannouncement
  · obtain rfl : retries = own := (Phase.swapping.inj (hphase.symm.trans hown)).1
    rw [hsome, label_run, Option.some.injEq] at hannouncement
    exact ⟨before, during, index, after, registration.entry, retries, rfl, hannouncement.symm, hretries⟩

end Races

/-! ### A thread on its own -/

section Alone

variable {schedule : List Nat} {thread : Nat}

/-- The reports of a thread that has all the turns come in the order of its swaps. -/
theorem reported_run_of_alone (table : TypeTable) (state : State) (halone : ∀ index ∈ schedule, index = thread) :
    (state.run table schedule).reported ++ (((state.run table schedule).thread thread).announcing? state.registry.label).toList =
      state.reported ++ ((state.thread thread).announcing? state.registry.label).toList ++ state.announcements table schedule := by
  induction schedule generalizing state with
  | nil => rw [announcements, List.append_nil]; rfl
  | cons index schedule ih =>
    obtain rfl : index = thread := halone index List.mem_cons_self
    have hlater := ih (state.step table index) fun other hother => halone other (List.mem_cons_of_mem index hother)
    rw [label_step] at hlater
    rw [run_cons, hlater, reported_step, thread_step_self, announcements, List.append_assoc state.reported,
      Thread.announcing?_step, List.append_assoc, List.append_assoc, List.append_assoc]

theorem overtakings_of_alone (halone : ∀ index ∈ schedule, index = thread) : state.overtakings table schedule thread = [] := by
  refine List.filter_eq_nil_iff.2 fun publication hpublication => ?_
  simpa using halone _ (thread_mem_of_mem_publications hpublication)

end Alone

theorem Enumerates.eq_mapIdx {size : Nat} {events : List Event} {entries : List Descriptor}
    (h : Enumerates label size events entries)
    (hzero : ∀ event ∈ events, ∃ (entry : Descriptor) (length : Nat), event = entry.announcement label length 0) :
    events = entries.mapIdx fun place entry => entry.announcement label (size + place + 1) 0 := by
  induction h with
  | nil size => rfl
  | @cons size entry events entries retries _ ih =>
    obtain ⟨⟨other, length, hfirst⟩, hrest⟩ := List.forall_mem_cons.1 hzero
    obtain rfl : retries = 0 := (Event.registered.inj hfirst).2.2.2.2
    rw [List.mapIdx_cons, ih hrest]
    refine congrArg _ (congrArg (List.mapIdx · entries) ?_)
    funext place next
    rw [Nat.add_right_comm size 1 place, Nat.add_assoc size place 1]

end State

/-! ### Results -/

/-- The descriptor that the call will return, once it is reported. -/
def Pending.earned? : Pending → Option Descriptor
  | registering registration => registration.result?.bind Except.toOption
  | declaring _ => none
  | asking _ => none
  | returning answer => answer.entry?

namespace Thread

variable {thread : Thread}

/-- The descriptors that registrations of the thread have returned, and the one that is reported and did not return yet. -/
def earned (thread : Thread) : List Descriptor :=
  thread.answers.filterMap Answer.entry? ++ (thread.pending?.bind Pending.earned?).toList

/-- The thread registers one type at a time. -/
structure IsSingle (thread : Thread) : Prop where
  calls : ∀ call ∈ thread.calls, call.isSingle
  pending : ∀ series, thread.pending? ≠ some (.declaring series)

theorem earned_start (table : TypeTable) {call : Call} (h : call.isSingle) :
    (Pending.start table call).earned? = none ∧ ∀ series, Pending.start table call ≠ .declaring series := by
  cases call with
  | register kind type text =>
    cases hentry : Registry.prepare table type text with
    | error error => rw [Pending.start_of_refused hentry]; exact ⟨rfl, by simp⟩
    | ok entry => rw [Pending.start_of_prepared hentry]; exact ⟨rfl, by simp⟩
  | registerDeclared declarations => exact nomatch h
  | query question => exact ⟨rfl, by simp [Pending.start]⟩

/-- A turn of such a thread earns a descriptor if and only if it reports that it is registered. -/
theorem earned_step (table : TypeTable) (h : thread.IsSingle) (index : Nat) (registry : Registry) :
    (thread.step table index registry).1.IsSingle ∧
      ∃ more, (thread.step table index registry).1.earned = thread.earned ++ more ∧
        List.Forall₂ (IsReport registry.label) ((thread.deed table index registry).reports.filter Event.isRegistered) more := by
  obtain ⟨pending?, calls, answers⟩ := thread
  cases pending? with
  | none =>
    rw [deed_idle]
    cases calls with
    | nil => exact ⟨h, [], (List.append_nil _).symm, .nil⟩
    | cons call calls =>
      obtain ⟨hcall, hcalls⟩ := List.forall_mem_cons.1 h.calls
      obtain ⟨hearned, hpending⟩ := earned_start table hcall
      refine ⟨⟨hcalls, fun series hseries => hpending series (Option.some.inj hseries)⟩, [], ?_, .nil⟩
      simp [Thread.step, earned, hearned]
  | some pending =>
    cases pending with
    | returning answer =>
      rw [deed_returning]
      refine ⟨⟨h.calls, by simp [Thread.step]⟩, [], ?_, .nil⟩
      cases hentry : answer.entry? <;> simp [Thread.step, earned, Pending.earned?, hentry]
    | asking question =>
      refine ⟨⟨h.calls, by simp [Thread.step, Pending.step]⟩, [], ?_, by simp [deed, Thread.step, Pending.step]⟩
      cases question <;> exact (List.append_nil _).symm
    | registering registration =>
      rw [deed_registering]
      cases hresult : registration.result? with
      | some result =>
        rw [Registration.deed_of_result? hresult]
        refine ⟨⟨h.calls, fun _ => ?_⟩, [], ?_, .nil⟩
        · simp [Thread.step, Pending.step_of_finished hresult]
        · have hearned : Answer.entry? (.registered result) = result.toOption := by cases result <;> rfl
          simp [Thread.step, Pending.step_of_finished hresult, earned, Pending.earned?, hresult, hearned]
      | none =>
        refine ⟨⟨h.calls, fun _ => ?_⟩, _, ?_, registration.isReport_step hresult registry⟩
        · simp [Thread.step, Pending.step_of_unfinished hresult]
        · simp [Thread.step, Pending.step_of_unfinished hresult, earned, Pending.earned?, hresult]
    | declaring series => exact absurd rfl (h.pending series)

end Thread

theorem State.earned_run (table : TypeTable) {state : State} {thread : Nat} (h : (state.thread thread).IsSingle)
    (schedule : List Nat) :
    ((state.run table schedule).thread thread).IsSingle ∧
      ∃ more, ((state.run table schedule).thread thread).earned = (state.thread thread).earned ++ more ∧
        List.Forall₂ (IsReport state.registry.label) ((state.conduct table schedule thread).reports.filter Event.isRegistered)
          more := by
  induction schedule using List.reverseRecOn with
  | nil => exact ⟨h, [], (List.append_nil _).symm, .nil⟩
  | append_singleton schedule index ih =>
    rw [run_append, run_cons, run_nil]
    by_cases hown : index = thread
    · subst hown
      obtain ⟨hsingle, earlier, hearned, hreports⟩ := ih
      obtain ⟨hafter, more, hmore, hturn⟩ := Thread.earned_step table hsingle index (state.run table schedule).registry
      rw [label_run] at hturn
      rw [thread_step_self, conduct_concat_self, Conduct.reports_append, List.filter_append, hmore, hearned, List.append_assoc]
      exact ⟨hafter, earlier ++ more, rfl, List.rel_append hreports hturn⟩
    · rw [thread_step_of_ne hown, conduct_concat_of_ne hown]
      exact ih

/-! ### All of it -/

/-- The reports that a type is registered tell all that there is to know of the table. -/
structure IsAuditTrail (table : TypeTable) (start : State) (schedule : List Nat) : Prop where
  /-- A registration gives such a report when it returns its descriptor, once and with the number of its swaps that failed, and never else. -/
  among : Throughout table start schedule
    (fun state during thread registration => Tells start.registry.label (state.conduct table during thread).losses
      registration.result? ((state.conduct table during thread).reports.filter Event.isRegistered))
    fun state during thread _ result => Tells start.registry.label (state.conduct table during thread).losses
      (some result) ((state.conduct table during thread).reports.filter Event.isRegistered)
  /-- A turn that is not a step of a registration gives none. -/
  otherwise : ∀ index,
    (∀ registration, ((start.run table schedule).thread index).registration? = some registration → registration.result?.isSome) →
    ∀ event ∈ (((start.run table schedule).thread index).deed table index (start.run table schedule).registry).reports,
      ¬ event.isRegistered
  /-- Nothing is in the journal but what the turns have reported. -/
  recorded : ∀ index, (start.run table (schedule ++ [index])).registry.journal = (start.run table schedule).registry.journal ++
    (((start.run table schedule).thread index).deed table index (start.run table schedule).registry).reports
  /-- A thread that registers one type at a time gives one for each descriptor that it has returned, in their order, and for the one that it is about to return. -/
  returned : ∀ thread, (∀ call ∈ (start.thread thread).calls, call.isSingle) → List.Forall₂ (IsReport start.registry.label)
    ((start.conduct table schedule thread).reports.filter Event.isRegistered)
    ((returns (start.run table schedule).history thread).filterMap Answer.entry? ++
      (((start.run table schedule).thread thread).pending?.bind Pending.earned?).toList)
  /-- The length that is reported is the place of the descriptor, now and at every later moment, and no more races were lost than there are places before it. -/
  placed : ∀ event ∈ (start.run table schedule).registry.journal, event.isRegistered →
    ∃ (entry : Descriptor) (place retries : Nat), event = entry.announcement start.registry.label (place + 1) retries ∧
      retries ≤ place ∧ ∀ later, (start.run table (schedule ++ later)).registry.snapshot.table[place]? = some entry
  nodup : ((start.run table schedule).registry.journal.filterMap Event.length?).Nodup
  /-- When no registration is at work every place was reported. -/
  complete : (∀ thread, ((start.run table schedule).thread thread).registration? = none) →
    ((start.run table schedule).registry.journal.filterMap Event.length?).Perm
      (List.range' 1 (start.run table schedule).registry.size)
  /-- A thread that has all the turns loses no race and reports in the order of the table. -/
  alone : ∀ thread, (∀ index ∈ schedule, index = thread) →
    (start.run table schedule).registry.journal.filter Event.isRegistered ++
        (((start.run table schedule).thread thread).announcing? start.registry.label).toList =
      (start.run table schedule).registry.snapshot.table.mapIdx fun place entry =>
        entry.announcement start.registry.label (place + 1) 0
  /-- So between its registrations the journal has the table. -/
  rebuilt : ∀ thread, (∀ index ∈ schedule, index = thread) →
    ((start.run table schedule).thread thread).registration? = none →
    (start.run table schedule).registry.journal.filterMap Event.row? =
      (start.run table schedule).registry.snapshot.table.map fun entry => (entry.identifier, entry.name)

namespace State

/-- Threads that are about to make their calls on a new registry. -/
abbrev fresh (serial : Nat) (label : String) (calls : List (List Call)) : State :=
  State.start (Registry.create serial label) calls

section Fresh

variable {serial : Nat} {calls : List (List Call)} {schedule : List Nat} {thread : Nat} {event : Event}

theorem holds_fresh (table : TypeTable) (serial : Nat) (label : String) (calls : List (List Call)) :
    (fresh serial label calls).Holds Published.Coherent (IsAtWork table) :=
  State.holds_start (Registry.Reachable.create serial label : Registry.Reachable table _).coherent calls

theorem table_fresh (table : TypeTable) (serial : Nat) (label : String) (calls : List (List Call)) (schedule : List Nat) :
    ((fresh serial label calls).run table schedule).registry.snapshot.table =
      ((fresh serial label calls).publications table schedule).map Publication.entry :=
  table_run (Published.mergeKeeps_coherent table) (holds_fresh table serial label calls) schedule

/-- No descriptor leaves its place. -/
theorem getElem?_table_later {place : Nat} {entry : Descriptor}
    (h : ((fresh serial label calls).run table schedule).registry.snapshot.table[place]? = some entry) (later : List Nat) :
    ((fresh serial label calls).run table (schedule ++ later)).registry.snapshot.table[place]? = some entry := by
  rw [table_fresh, List.getElem?_eq_some_iff] at h
  obtain ⟨hplace, hentry⟩ := h
  rw [table_fresh, publications_append, List.map_append, List.getElem?_append_left hplace, List.getElem?_eq_getElem hplace, hentry]

theorem enumerates_fresh (table : TypeTable) (serial : Nat) (label : String) (calls : List (List Call)) (schedule : List Nat) :
    Enumerates label 0 ((fresh serial label calls).announcements table schedule)
      ((fresh serial label calls).run table schedule).registry.snapshot.table := by
  rw [table_fresh]
  exact enumerates_announcements (Published.mergeKeeps_coherent table) (holds_fresh table serial label calls) schedule

theorem announcing_start (registry : Registry) (calls : List (List Call)) : (State.start registry calls).announcing = [] := by
  refine List.filterMap_eq_nil_iff.2 fun thread hthread => ?_
  obtain ⟨own, -, rfl⟩ := List.mem_map.1 hthread
  rfl

theorem perm_fresh (table : TypeTable) (serial : Nat) (label : String) (calls : List (List Call)) (schedule : List Nat) :
    (((fresh serial label calls).run table schedule).reported ++ ((fresh serial label calls).run table schedule).announcing).Perm
      ((fresh serial label calls).announcements table schedule) := by
  have hperm := perm_announcements table (fresh serial label calls) schedule
  rwa [announcing_start, List.append_nil] at hperm

theorem placed_of_mem (hmem : event ∈ (fresh serial label calls).announcements table schedule) :
    ∃ (entry : Descriptor) (place retries : Nat), event = entry.announcement label (place + 1) retries ∧ retries ≤ place ∧
      ((fresh serial label calls).run table schedule).registry.snapshot.table[place]? = some entry := by
  obtain ⟨place, entry, retries, hplace, rfl⟩ := (enumerates_fresh table serial label calls schedule).exists_of_mem hmem
  obtain ⟨before, during, index, after, other, races, rfl, hevent, hraces⟩ :=
    exists_of_mem_announcements (Published.mergeKeeps_coherent table) (holds_fresh table serial label calls)
      (registration?_start _ calls) hmem
  obtain ⟨-, -, -, hlength, rfl⟩ := Event.registered.inj hevent
  refine ⟨entry, place, retries, by rw [Nat.zero_add], ?_, hplace⟩
  -- all that was published before is in the table that is extended
  have hsize := congrArg List.length (table_fresh table serial label calls (before ++ during))
  rw [publications_append, List.map_append, List.length_append, List.length_map, List.length_map] at hsize
  have hothers := List.length_filter_le (fun publication => publication.thread != index)
    (((fresh serial label calls).run table before).publications table during)
  have hplace : 0 + place + 1 = ((fresh serial label calls).run table (before ++ during)).registry.snapshot.table.length + 1 :=
    hlength
  rw [overtakings] at hraces
  omega

theorem retries_of_alone (halone : ∀ index ∈ schedule, index = thread)
    (hmem : event ∈ (fresh serial label calls).announcements table schedule) :
    ∃ (entry : Descriptor) (length : Nat), event = entry.announcement label length 0 := by
  obtain ⟨before, during, index, after, entry, retries, rfl, rfl, hraces⟩ :=
    exists_of_mem_announcements (Published.mergeKeeps_coherent table) (holds_fresh table serial label calls)
      (registration?_start _ calls) hmem
  obtain rfl : index = thread := halone index (by simp)
  rw [overtakings_of_alone fun other hother => halone other (by simp [hother]), List.length_nil, Nat.le_zero] at hraces
  exact ⟨entry, _, congrArg _ hraces⟩

theorem lengths_fresh (table : TypeTable) (serial : Nat) (label : String) (calls : List (List Call)) (schedule : List Nat) :
    (((fresh serial label calls).run table schedule).registry.journal.filterMap Event.length? ++
        ((fresh serial label calls).run table schedule).announcing.filterMap Event.length?).Perm
      (List.range' 1 ((fresh serial label calls).run table schedule).registry.size) := by
  have hperm := (perm_fresh table serial label calls schedule).filterMap Event.length?
  rwa [List.filterMap_append, reported, Event.filterMap_length?_filter,
    (enumerates_fresh table serial label calls schedule).lengths] at hperm

theorem announcing_of_quiet {state : State} (h : ∀ thread, (state.thread thread).registration? = none) :
    state.announcing = [] := by
  refine List.filterMap_eq_nil_iff.2 fun thread hthread => ?_
  obtain ⟨index, hindex⟩ := List.mem_iff_getElem?.1 hthread
  have hnone := h index
  rw [State.thread, hindex] at hnone
  exact Thread.announcing?_of_none hnone _

theorem reported_of_alone (table : TypeTable) (serial : Nat) (label : String) (calls : List (List Call))
    (halone : ∀ index ∈ schedule, index = thread) : ((fresh serial label calls).run table schedule).reported ++
        ((((fresh serial label calls).run table schedule).thread thread).announcing? label).toList =
      (fresh serial label calls).announcements table schedule := by
  have hreported := reported_run_of_alone table (fresh serial label calls) halone
  rwa [thread_start] at hreported

end Fresh

end State

/-- In every run on a new registry the reports of what is registered tell the table, whoever raced with whom, and of a thread on its own they are the table. -/
theorem isAuditTrail_run (table : TypeTable) (serial : Nat) (label : String) (calls : List (List Call)) (schedule : List Nat) :
    IsAuditTrail table (State.start (Registry.create serial label) calls) schedule where
  among := by
    refine throughout_run schedule (fun before during thread registration hbegins => ?_)
      fun before during thread kind type text result _ hregisters => hregisters.tells
    have hdone := hbegins.done
    rw [State.label_run] at hdone
    exact hdone.tells
  otherwise index hdone event hevent := by
    obtain ⟨reports, hdeed, hseries⟩ := Thread.deed_of_quiet hdone index
    rw [hdeed] at hevent
    exact Event.not_isRegistered_of_isOfSeries (hseries event hevent)
  recorded index := by rw [State.run_append, State.run_cons, State.run_nil, State.registry_step, Thread.journal_step]
  returned thread hsingle := by
    have hstart := State.thread_start (Registry.create serial label) calls thread
    obtain ⟨-, more, hearned, hreports⟩ := State.earned_run table ⟨hsingle, by simp [hstart]⟩ schedule
    rw [hstart, Thread.earned, ← (State.records_run _ calls schedule thread).2] at hearned
    exact hearned ▸ hreports
  placed event hevent hregistered := by
    have hmem := (State.perm_fresh table serial label calls schedule).subset
      (List.mem_append_left _ (List.mem_filter.2 ⟨hevent, hregistered⟩))
    obtain ⟨entry, place, retries, rfl, hretries, hplace⟩ := State.placed_of_mem hmem
    exact ⟨entry, place, retries, rfl, hretries, State.getElem?_table_later hplace⟩
  nodup := (List.nodup_append.1 ((State.lengths_fresh table serial label calls schedule).nodup_iff.2 List.nodup_range')).1
  complete hquiet := by
    have hlengths := State.lengths_fresh table serial label calls schedule
    rwa [State.announcing_of_quiet hquiet, List.filterMap_nil, List.append_nil] at hlengths
  alone thread halone := by
    have htable := (State.enumerates_fresh table serial label calls schedule).eq_mapIdx fun event => State.retries_of_alone halone
    simp only [Nat.zero_add] at htable
    exact (State.reported_of_alone table serial label calls halone).trans htable
  rebuilt thread halone hquiet := by
    have hreported := State.reported_of_alone table serial label calls halone
    rw [Thread.announcing?_of_none hquiet, Option.toList_none, List.append_nil] at hreported
    rw [← Event.filterMap_row?_filter, ← (State.enumerates_fresh table serial label calls schedule).rows, ← hreported]
    rfl

end Concurrent

end MessageCatalog
