import MessageCatalog.Proofs.Concurrent.Coherence
import MessageCatalog.Proofs.Concurrent.History

/-!
# The table only grows

A swap that succeeds puts one descriptor at the end of the table, and nothing else ever changes it. So the table at any moment is what it was at the beginning, followed by the descriptors of the swaps that have succeeded since then, in their order; no publication is lost or made twice, whoever raced with whom. A registration that returned a descriptor is one of those swaps. A guard keeps the table of the moment at which it was taken, and so does every enumeration of it.
-/

namespace MessageCatalog

def Answer.entry? : Answer → Option Descriptor
  | registered (.ok entry) => some entry
  | _ => none

theorem Answer.eq_registered_of_entry? {answer : Answer} {entry : Descriptor} (h : answer.entry? = some entry) :
    answer = .registered (.ok entry) := by
  unfold entry? at h
  split at h
  · exact Option.some.inj h ▸ rfl
  · exact absurd h (Option.some_ne_none _).symm

namespace Merge.Registration

/-- The descriptor that the next step publishes: the step is a swap, and it succeeds. -/
def publishes? (registration : Registration) (registry : Registry) : Option Descriptor :=
  match registration.phase with
  | .swapping _ seen replacement =>
    if (registry.compareAndSwap seen.stamp replacement).isSome then some registration.entry else none
  | _ => none

def published? (registration : Registration) : Option Descriptor := registration.verdict?.bind Except.toOption

variable {registry : Registry} {registration : Registration}

theorem publishes?_of_result? (h : registration.result?.isSome) (registry : Registry) :
    registration.publishes? registry = none := by
  obtain ⟨kind, entry, phase⟩ := registration
  cases phase <;> simp_all [result?, publishes?]

/-- A step publishes nothing, or it is a swap that succeeds. -/
theorem publishes?_cases (registration : Registration) (registry : Registry) :
    registration.publishes? registry = none ∧ (registration.step registry).2.current = registry.current ∧
        (registration.step registry).1.published? = registration.published? ∨
      ∃ retries seen replacement, registration.phase = .swapping retries seen replacement ∧
        registry.current.stamp = seen.stamp ∧ registration.publishes? registry = some registration.entry ∧
        (registration.step registry).2.snapshot = replacement ∧
        (registration.step registry).1.published? = some registration.entry := by
  obtain ⟨kind, entry, phase⟩ := registration
  cases phase with
  | loading retries =>
    cases hconflict : registry.snapshot.conflict? entry with
    | some error =>
      rw [step_loading_of_conflict hconflict]
      exact .inl ⟨rfl, rfl, rfl⟩
    | none =>
      rw [step_loading_of_free hconflict]
      exact .inl ⟨rfl, rfl, rfl⟩
  | swapping retries seen replacement =>
    by_cases hstamp : registry.current.stamp = seen.stamp
    · rw [step_swapping_of_current hstamp]
      exact .inr ⟨retries, seen, replacement, rfl, hstamp, by simp [publishes?, Registry.compareAndSwap, hstamp], rfl, rfl⟩
    · rw [step_swapping_of_stale hstamp]
      exact .inl ⟨by simp [publishes?, Registry.compareAndSwap, hstamp], rfl, rfl⟩
  | retrying retries => exact .inl ⟨rfl, rfl, rfl⟩
  | announcing retries length => exact .inl ⟨rfl, rfl, rfl⟩
  | rejecting error => exact .inl ⟨rfl, rfl, rfl⟩
  | finished result => exact .inl ⟨rfl, rfl, rfl⟩

theorem table_step (h : registration.Sound registry.current) :
    (registration.step registry).2.snapshot.table =
      registry.snapshot.table ++ (registration.publishes? registry).toList := by
  rcases publishes?_cases registration registry with
    ⟨hnothing, hcurrent, -⟩ | ⟨retries, seen, replacement, hphase, hstamp, hentry, hsnapshot, -⟩
  · rw [hnothing, Registry.snapshot, hcurrent]
    exact (List.append_nil _).symm
  · rw [Sound, hphase] at h
    obtain ⟨hseen, -, hreplacement⟩ := h
    rw [hsnapshot, hentry, hreplacement, hseen.eq_of_stamp hstamp]
    rfl

theorem published?_step (registration : Registration) (registry : Registry) :
    (registration.step registry).1.published?.toList =
      registration.published?.toList ++ (registration.publishes? registry).toList := by
  rcases publishes?_cases registration registry with
    ⟨hnothing, -, hsame⟩ | ⟨retries, seen, replacement, hphase, -, hentry, -, hpublished⟩
  · rw [hnothing, hsame]
    exact (List.append_nil _).symm
  · have hbefore : registration.published? = none := by rw [published?, verdict?, hphase]; rfl
    rw [hbefore, hentry, hpublished]
    rfl

end Merge.Registration

namespace Concurrent

open Merge

variable {table : TypeTable} {registry : Registry}

/-! ### One call -/

namespace Pending

def published? (pending : Pending) : Option Descriptor := pending.decided?.bind Answer.entry?

theorem published?_registering (registration : Registration) :
    (registering registration).published? = registration.published? := by
  rw [published?, decided?, Registration.published?, Option.bind_map]
  congr 1
  funext result
  cases result <;> rfl

theorem published?_start (table : TypeTable) (call : Call) : (Pending.start table call).published? = none := by
  cases call with
  | register kind type identifier =>
    cases hentry : Registry.prepare table type identifier with
    | error error => rw [start_of_refused hentry]; rfl
    | ok entry => rw [start_of_prepared hentry]; rfl
  | registerDeclared declarations => rfl
  | query query => rfl

theorem published?_step_series (series : Series) (registry : Registry) :
    (series.step table registry).1.published? = none := by
  unfold Series.step
  split
  · split <;> rfl
  · split
    · rfl
    · dsimp only
      split <;> rfl

/-- A call returns no descriptor but one that it has published. -/
theorem published?_step (pending : Pending) (registry : Registry) :
    (pending.step table registry).1.published?.toList.Sublist
      (pending.published?.toList ++ (pending.registration?.bind fun registration => registration.publishes? registry).toList) := by
  cases pending with
  | registering registration =>
    cases hresult : registration.result? with
    | some result =>
      rw [step_of_finished hresult, published?_registering, Registration.published?, Registration.verdict?_of_result? hresult]
      cases result <;> exact List.sublist_append_left _ _
    | none =>
      rw [step_of_unfinished hresult, published?_registering, published?_registering, Registration.published?_step]
      exact List.Sublist.refl _
  | declaring series =>
    rw [show (declaring series).step table registry = series.step table registry from rfl, published?_step_series]
    exact List.nil_sublist _
  | asking query =>
    cases query <;> exact List.nil_sublist _
  | returning answer => exact List.sublist_append_left _ _

end Pending

/-! ### The threads -/

namespace Thread

def publishes? (thread : Thread) (registry : Registry) : Option Descriptor :=
  thread.registration?.bind fun registration => registration.publishes? registry

/-- The descriptors that registrations of the thread have returned, and the one that is published and did not return yet. -/
def published (thread : Thread) : List Descriptor :=
  thread.answers.filterMap Answer.entry? ++ (thread.pending?.bind Pending.published?).toList

/-- A thread without a registration at work publishes nothing. -/
theorem publishes?_of_quiet {thread : Thread}
    (hdone : ∀ registration, thread.registration? = some registration → registration.result?.isSome) :
    thread.publishes? registry = none := by
  rw [publishes?]
  cases hat : thread.registration? with
  | none => rfl
  | some registration => exact Registration.publishes?_of_result? (hdone registration hat) registry

theorem table_step (thread : Thread) (index : Nat)
    (hwork : ∀ registration, thread.registration? = some registration → IsAtWork table registry.current registration) :
    (thread.step table index registry).2.1.snapshot.table = registry.snapshot.table ++ (thread.publishes? registry).toList := by
  rcases thread.step_cases table index registry with ⟨hcurrent, hdone, -⟩ | ⟨registration, hat, -, hregistry⟩
  · rw [publishes?_of_quiet hdone, Registry.snapshot, hcurrent]
    exact (List.append_nil _).symm
  · rw [hregistry, publishes?, hat]
    exact Registration.table_step (hwork registration hat).1

/-- A thread returns no descriptor but one that it has published. -/
theorem published_step (thread : Thread) (index : Nat) (registry : Registry) :
    (thread.step table index registry).1.published.Sublist (thread.published ++ (thread.publishes? registry).toList) := by
  obtain ⟨pending?, calls, answers⟩ := thread
  cases pending? with
  | none =>
    cases calls with
    | nil => exact List.sublist_append_left _ _
    | cons call calls =>
      show List.Sublist (_ ++ (Pending.start table call).published?.toList) _
      rw [Pending.published?_start]
      exact List.sublist_append_left _ _
  | some pending =>
    have hcall : (answers.filterMap Answer.entry? ++ (pending.step table registry).1.published?.toList).Sublist
        (published ⟨some pending, calls, answers⟩ ++ (publishes? ⟨some pending, calls, answers⟩ registry).toList) := by
      rw [published, List.append_assoc]
      exact (pending.published?_step registry).append_left _
    cases pending with
    | returning answer =>
      have hsame : published ⟨none, calls, answers ++ [answer]⟩ = answers.filterMap Answer.entry? ++ answer.entry?.toList := by
        cases hentry : answer.entry? <;> simp [published, hentry]
      show (published ⟨none, calls, answers ++ [answer]⟩).Sublist _
      rw [hsame]
      exact hcall
    | registering registration => exact hcall
    | declaring series => exact hcall
    | asking query => exact hcall

end Thread

/-! ### Runs -/

/-- A swap that succeeded. -/
structure Publication where
  thread : Nat
  entry : Descriptor
  deriving DecidableEq, Repr

def publishedBy (publications : List Publication) (thread : Nat) : List Descriptor :=
  (publications.filter fun publication => publication.thread == thread).map Publication.entry

theorem publishedBy_append (publications later : List Publication) (thread : Nat) :
    publishedBy (publications ++ later) thread = publishedBy publications thread ++ publishedBy later thread := by
  simp [publishedBy]

namespace State

/-- The swaps that succeed under a schedule, oldest first. -/
def publications (table : TypeTable) (state : State) : List Nat → List Publication
  | [] => []
  | index :: schedule =>
    ((state.thread index).publishes? state.registry).toList.map (Publication.mk index) ++
      (state.step table index).publications table schedule

theorem publications_append (state : State) (schedule later : List Nat) :
    state.publications table (schedule ++ later) =
      state.publications table schedule ++ (state.run table schedule).publications table later := by
  induction schedule generalizing state with
  | nil => rfl
  | cons index schedule ih => rw [List.cons_append, publications, publications, ih, List.append_assoc, run_cons]

theorem Holds.thread {published : Published → Prop} {working : Published → Registration → Prop} {state : State}
    (h : state.Holds published working) (index : Nat) {registration : Registration}
    (hregistration : (state.thread index).registration? = some registration) : working state.registry.current registration := by
  rw [State.thread] at hregistration
  cases hthread : state.threads[index]? with
  | none => simp [hthread, Thread.registration?] at hregistration
  | some thread =>
    rw [hthread] at hregistration
    exact h.2 thread (List.mem_of_getElem? hthread) registration hregistration

theorem table_run {published : Published → Prop} (hkeeps : Registry.MergeKeeps table published) {state : State}
    (h : state.Holds published (IsAtWork table)) (schedule : List Nat) :
    (state.run table schedule).registry.snapshot.table =
      state.registry.snapshot.table ++ (state.publications table schedule).map Publication.entry := by
  induction schedule generalizing state with
  | nil => exact (List.append_nil _).symm
  | cons index schedule ih =>
    have hturn := (state.thread index).table_step index fun registration hat => h.thread index hat
    rw [run_cons, ih (h.step (keeps_isAtWork hkeeps) index), registry_step, hturn, publications, List.map_append, List.map_map,
      List.append_assoc]
    congr 2
    exact (List.map_id _).symm

theorem published_sublist_run (table : TypeTable) (state : State) (schedule : List Nat) (thread : Nat) :
    ((state.run table schedule).thread thread).published.Sublist
      ((state.thread thread).published ++ publishedBy (state.publications table schedule) thread) := by
  induction schedule generalizing state with
  | nil => exact List.sublist_append_left _ _
  | cons index schedule ih =>
    refine (ih (state.step table index)).trans ?_
    rw [publications, publishedBy_append, ← List.append_assoc]
    refine List.Sublist.append_right ?_ _
    by_cases hother : index = thread
    · subst hother
      rw [thread_step_self]
      have hown : publishedBy (((state.thread index).publishes? state.registry).toList.map (Publication.mk index)) index =
          ((state.thread index).publishes? state.registry).toList := by
        cases (state.thread index).publishes? state.registry <;> simp [publishedBy]
      rw [hown]
      exact (state.thread index).published_step index state.registry
    · rw [thread_step_of_ne hother]
      exact List.sublist_append_left _ _

end State

/-! ### Guards and enumerations -/

theorem getElem?_of_prefix {α : Type} {list later : List α} (h : list <+: later) {index : Nat} {a : α}
    (ha : list[index]? = some a) : later[index]? = some a := by
  obtain ⟨hindex, rfl⟩ := List.getElem?_eq_some_iff.1 ha
  exact List.prefix_iff_getElem?.1 h index hindex

namespace Audience

/-- Every enumeration yields the table of its guard. -/
def IsFaithful (audience : Audience) : Prop :=
  ∀ reading ∈ audience.readings, ∃ guard,
    audience.guards[reading.guard]? = some guard ∧ reading.whole = guard.snapshot.table

theorem guards_step (audience : Audience) (move : Move) : audience.guards <+: (audience.step table move).guards := by
  cases move with
  | turn thread => exact List.prefix_rfl
  | pin => exact List.prefix_append _ _
  | walk guard via => cases hguard : audience.guards[guard]? <;> simp [Audience.step, hguard]
  | draw reading count => cases hreading : audience.readings[reading]? <;> simp [Audience.step, hreading]

theorem IsFaithful.step {audience : Audience} (h : audience.IsFaithful) (move : Move) :
    (audience.step table move).IsFaithful := by
  intro reading hreading
  have hkept : ∀ old ∈ audience.readings, ∃ guard,
      (audience.step table move).guards[old.guard]? = some guard ∧ old.whole = guard.snapshot.table := by
    intro old hold
    obtain ⟨guard, hguard, hwhole⟩ := h old hold
    exact ⟨guard, getElem?_of_prefix (guards_step audience move) hguard, hwhole⟩
  cases move with
  | turn thread => exact hkept reading hreading
  | pin => exact hkept reading hreading
  | walk guard via =>
    cases hguard : audience.guards[guard]? with
    | none =>
      simp only [Audience.step, hguard] at hreading hkept ⊢
      exact hkept reading hreading
    | some pinned =>
      simp only [Audience.step, hguard] at hreading hkept ⊢
      rcases List.mem_append.1 hreading with hold | hnew
      · exact hkept reading hold
      · rw [List.mem_singleton.1 hnew]
        refine ⟨pinned, hguard, ?_⟩
        rw [Reading.whole, SnapshotGuard.walk_eq_cursor, Cursor.drain_eq]
        rfl
  | draw index count =>
    cases hindex : audience.readings[index]? with
    | none =>
      simp only [Audience.step, hindex] at hreading hkept ⊢
      exact hkept reading hreading
    | some current =>
      simp only [Audience.step, hindex] at hreading hkept ⊢
      rcases List.mem_or_eq_of_mem_set hreading with hold | rfl
      · exact hkept reading hold
      · rw [Reading.guard_draw, Reading.whole_draw]
        exact hkept current (List.mem_of_getElem? hindex)

theorem IsFaithful.run {audience : Audience} (h : audience.IsFaithful) (moves : List Move) :
    (audience.run table moves).IsFaithful := by
  induction moves generalizing audience with
  | nil => exact h
  | cons move moves ih => exact ih (h.step move)

theorem isFaithful_start (registry : Registry) (calls : List (List Call)) : (start registry calls).IsFaithful :=
  fun _ hreading => absurd hreading List.not_mem_nil

/-! ### All of it -/

def publications (table : TypeTable) (audience : Audience) (moves : List Move) : List Publication :=
  audience.state.publications table (turns moves)

theorem publications_append (audience : Audience) (moves later : List Move) :
    audience.publications table (moves ++ later) =
      audience.publications table moves ++ (audience.run table moves).publications table later := by
  rw [publications, publications, publications, turns_append, State.publications_append, state_run]

variable {calls : List (List Call)}

theorem table_run (hreachable : registry.Reachable table) (calls : List (List Call)) (moves : List Move) :
    ((start registry calls).run table moves).table =
      registry.snapshot.table ++ ((start registry calls).publications table moves).map Publication.entry := by
  have hstart : (State.start registry calls).Holds Published.Coherent (IsAtWork table) :=
    State.holds_start hreachable.coherent calls
  rw [Audience.table, state_run]
  exact State.table_run (Published.mergeKeeps_coherent table) hstart (turns moves)

theorem nodup_table (hreachable : registry.Reachable table) (calls : List (List Call)) (moves : List Move) :
    ((start registry calls).run table moves).table.Nodup := by
  have hcoherent := (hreachable.run calls (turns moves)).coherent
  rw [Audience.table, state_run]
  exact List.Nodup.of_map _ hcoherent.types_nodup

theorem returned_sublist (registry : Registry) (calls : List (List Call)) (moves : List Move) (thread : Nat) :
    ((returns ((start registry calls).run table moves).state.history thread).filterMap Answer.entry?).Sublist
      (publishedBy ((start registry calls).publications table moves) thread) := by
  rw [state_run]
  show ((returns ((State.start registry calls).run table (turns moves)).history thread).filterMap Answer.entry?).Sublist _
  rw [(State.records_run registry calls (turns moves) thread).2]
  have hpublished := (State.start registry calls).published_sublist_run table (turns moves) thread
  rw [State.thread_start] at hpublished
  exact (List.sublist_append_left _ _).trans hpublished

theorem position (hreachable : registry.Reachable table) {moves : List Move} {thread : Nat} {entry : Descriptor}
    (hentry : .registered (.ok entry) ∈ returns ((start registry calls).run table moves).state.history thread) :
    ∃ place, ((start registry calls).publications table moves)[place]? = some ⟨thread, entry⟩ ∧
      ∀ later position, ((start registry calls).run table (moves ++ later)).table[position]? = some entry ↔
        position = registry.size + place := by
  have hreturned : entry ∈ (returns ((start registry calls).run table moves).state.history thread).filterMap Answer.entry? :=
    List.mem_filterMap.2 ⟨_, hentry, rfl⟩
  have hpublished := (returned_sublist registry calls moves thread).subset hreturned
  obtain ⟨publication, hpublication, rfl⟩ := List.mem_map.1 hpublished
  obtain ⟨hmem, hthread⟩ := List.mem_filter.1 hpublication
  obtain ⟨place, hplace⟩ := List.mem_iff_getElem?.1 hmem
  obtain rfl : publication.thread = thread := eq_of_beq hthread
  refine ⟨place, hplace, fun later position => ?_⟩
  have hall : ((start registry calls).publications table (moves ++ later))[place]? = some publication := by
    rw [publications_append]
    exact getElem?_of_prefix (List.prefix_append _ _) hplace
  have hthere : ((start registry calls).run table (moves ++ later)).table[registry.size + place]? = some publication.entry := by
    have hsize : registry.snapshot.table.length = registry.size := rfl
    rw [table_run hreachable, List.getElem?_append_right (hsize ▸ Nat.le_add_right _ _), hsize, Nat.add_sub_cancel_left,
      List.getElem?_map, hall]
    rfl
  constructor
  · intro hposition
    obtain ⟨hbound, -⟩ := List.getElem?_eq_some_iff.1 hposition
    exact (List.getElem?_inj hbound (nodup_table hreachable calls (moves ++ later))).1 (hposition.trans hthere.symm)
  · rintro rfl
    exact hthere

end Audience

end Concurrent

end MessageCatalog
