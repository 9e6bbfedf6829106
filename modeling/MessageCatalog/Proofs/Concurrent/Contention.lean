import MessageCatalog.Proofs.Concurrent.Completion
import MessageCatalog.Proofs.Concurrent.Course
import MessageCatalog.Proofs.Concurrent.RoundTrip

/-!
# Who pays for a lost race

A registration starts over when its swap fails, and nothing in the registration itself says how often that may happen. But every publication has a version of its own, so a swap fails if and only if somebody else has published since the load, and each failure is charged to one such publication: `losses_add_le` keeps the account along a run, with one entry reserved for the swap that is bound to fail next. Others can publish no more than they were given to register, `overtakings_add_le`, and this bounds the races that a registration can lose.
-/

namespace MessageCatalog

namespace Merge.Registration

variable {registry later : Registry} {registration : Registration}

theorem loses_of_current (registration : Registration) (h : later.current = registry.current) :
    registration.loses later = registration.loses registry := by
  simp only [loses, Registry.compareAndSwap, h]
  split
  · split <;> rfl
  · rfl

/-- After a step of its own a registration is about to load, or has just loaded, or is done with swapping. -/
theorem loses_step (registration : Registration) (registry : Registry) :
    (registration.step registry).1.loses (registration.step registry).2 = false := by
  obtain ⟨kind, entry, phase⟩ := registration
  cases phase with
  | loading retries =>
    cases hconflict : registry.snapshot.conflict? entry with
    | some error => rw [step_loading_of_conflict hconflict]; rfl
    | none => rw [step_loading_of_free hconflict]; simp [loses, Registry.compareAndSwap]
  | swapping retries seen replacement =>
    by_cases hstamp : registry.current.stamp = seen.stamp
    · rw [step_swapping_of_current hstamp]; rfl
    · rw [step_swapping_of_stale hstamp]; rfl
  | retrying retries => rfl
  | announcing retries length => rfl
  | rejecting error => rfl
  | finished result => rfl

theorem loses_of_verdict? {verdict : Except RegisterError Descriptor} (h : registration.verdict? = some verdict)
    (registry : Registry) : registration.loses registry = false := by
  obtain ⟨kind, entry, phase⟩ := registration
  cases phase <;> simp_all [verdict?, loses]

/-- What a registration wants to replace is what was published when it loaded. -/
theorem loading_of_step_swapping {retries : Nat} {seen : Published} {replacement : Snapshot}
    (h : (registration.step registry).1.phase = .swapping retries seen replacement) :
    registration = { registration with phase := .loading retries } ∧ seen = registry.current := by
  obtain ⟨kind, entry, phase⟩ := registration
  cases phase with
  | loading earlier =>
    cases hconflict : registry.snapshot.conflict? entry with
    | some error => rw [step_loading_of_conflict hconflict] at h; exact nomatch h
    | none =>
      rw [step_loading_of_free hconflict, Phase.swapping.injEq] at h
      obtain ⟨rfl, rfl, -⟩ := h
      exact ⟨rfl, rfl⟩
  | swapping earlier old other =>
    by_cases hstamp : registry.current.stamp = old.stamp
    · rw [step_swapping_of_current hstamp] at h; exact nomatch h
    · rw [step_swapping_of_stale hstamp] at h; exact nomatch h
  | retrying earlier => exact nomatch h
  | announcing earlier length => exact nomatch h
  | rejecting error => exact nomatch h
  | finished result => exact nomatch h

theorem version_step (registration : Registration) (registry : Registry) :
    (registration.step registry).2.current.stamp.version =
      registry.current.stamp.version + (registration.publishes? registry).toList.length := by
  obtain ⟨kind, entry, phase⟩ := registration
  cases phase with
  | loading retries =>
    cases hconflict : registry.snapshot.conflict? entry with
    | some error => rw [step_loading_of_conflict hconflict]; rfl
    | none => rw [step_loading_of_free hconflict]; rfl
  | swapping retries seen replacement =>
    by_cases hstamp : registry.current.stamp = seen.stamp
    · rw [step_swapping_of_current hstamp]
      simp [publishes?, Registry.compareAndSwap, hstamp]
    · rw [step_swapping_of_stale hstamp]
      simp [publishes?, Registry.compareAndSwap, hstamp]
  | retrying retries => rfl
  | announcing retries length => rfl
  | rejecting error => rfl
  | finished result => rfl

end Merge.Registration

/-- A counter of 32 bits that was raised so many times. -/
def Merge.counter : Nat → UInt32
  | 0 => 0
  | count + 1 => Merge.counter count + 1

theorem Merge.toNat_counter (count : Nat) : (Merge.counter count).toNat = count % 2 ^ 32 := by
  induction count with
  | zero => rfl
  | succ count ih => simp [Merge.counter, UInt32.toNat_add, ih]

namespace Concurrent

open Merge

variable {table : TypeTable} {registry later : Registry}

/-! ### One turn -/

namespace Thread

variable {thread : Thread}

theorem loses_of_current (thread : Thread) (h : later.current = registry.current) : thread.loses later = thread.loses registry := by
  simp only [loses, funext fun registration => Registration.loses_of_current registration h]

theorem version_step (thread : Thread) (index : Nat) (registry : Registry) :
    (thread.step table index registry).2.1.current.stamp.version =
      registry.current.stamp.version + (thread.publishes? registry).toList.length := by
  rcases thread.step_cases table index registry with ⟨hcurrent, hdone, -⟩ | ⟨registration, hat, -, hregistry⟩
  · rw [hcurrent, publishes?_of_quiet hdone]
    rfl
  · rw [hregistry, publishes?, hat]
    exact registration.version_step registry

theorem current_step (index : Nat) (h : thread.publishes? registry = none) :
    (thread.step table index registry).2.1.current = registry.current := by
  rcases thread.step_cases table index registry with ⟨hcurrent, -, -⟩ | ⟨registration, hat, -, hregistry⟩
  · exact hcurrent
  · rw [publishes?, hat] at h
    rw [hregistry]
    rcases Registration.publishes?_cases registration registry with ⟨-, hcurrent, -⟩ | ⟨_, _, _, -, -, hentry, -, -⟩
    · exact hcurrent
    · exact absurd (hentry.symm.trans h) (Option.some_ne_none _)

theorem loses_step (thread : Thread) (index : Nat) (registry : Registry) :
    (thread.step table index registry).1.loses (thread.step table index registry).2.1 = false := by
  rcases thread.step_cases table index registry with ⟨-, -, hfresh⟩ | ⟨registration, -, hafter, hregistry⟩
  · rw [loses]
    cases hat : (thread.step table index registry).1.registration? with
    | none => rfl
    | some registration => simp [Registration.loses, (hfresh registration hat).1]
  · rw [loses, hafter, hregistry]
    exact registration.loses_step registry

end Thread

namespace State

variable {start state : State} {schedule : List Nat} {thread : Nat}

/-! ### Versions -/

theorem version_run (table : TypeTable) (state : State) (schedule : List Nat) :
    (state.run table schedule).registry.current.stamp.version =
      state.registry.current.stamp.version + (state.publications table schedule).length := by
  induction schedule generalizing state with
  | nil => rfl
  | cons index schedule ih =>
    rw [run_cons, ih, registry_step, Thread.version_step, publications, List.length_append, List.length_map, Nat.add_assoc]

theorem current_run (h : state.publications table schedule = []) :
    (state.run table schedule).registry.current = state.registry.current := by
  induction schedule generalizing state with
  | nil => rfl
  | cons index schedule ih =>
    rw [publications, List.append_eq_nil_iff, List.map_eq_nil_iff, Option.toList_eq_nil_iff] at h
    rw [run_cons, ih h.2, registry_step, Thread.current_step index h.1]

/-- No publication ever comes back. -/
theorem current_run_iff (table : TypeTable) (state : State) (schedule : List Nat) :
    (state.run table schedule).registry.current.stamp = state.registry.current.stamp ↔ state.publications table schedule = [] := by
  constructor
  · intro h
    have hversion := version_run table state schedule
    rw [h] at hversion
    exact List.eq_nil_of_length_eq_zero (by omega)
  · intro h
    rw [current_run h]

theorem thread_mem_of_mem_publications {publication : Publication} (h : publication ∈ state.publications table schedule) :
    publication.thread ∈ schedule := by
  induction schedule generalizing state with
  | nil => exact absurd h List.not_mem_nil
  | cons index schedule ih =>
    rw [publications, List.mem_append, List.mem_map] at h
    rcases h with ⟨entry, -, rfl⟩ | hlater
    · exact List.mem_cons_self
    · exact List.mem_cons_of_mem _ (ih hlater)

/-! ### The account of lost races -/

/-- The publications of the other threads. -/
def overtakings (table : TypeTable) (state : State) (schedule : List Nat) (thread : Nat) : List Publication :=
  (state.publications table schedule).filter fun publication => publication.thread != thread

/-- The swap that the thread makes next, if it makes one, is bound to fail. -/
def loses (state : State) (thread : Nat) : Bool := (state.thread thread).loses state.registry

theorem overtakings_concat (state : State) (schedule : List Nat) (index thread : Nat) :
    state.overtakings table (schedule ++ [index]) thread =
      state.overtakings table schedule thread ++ (state.run table schedule).overtakings table [index] thread := by
  rw [overtakings, publications_append, List.filter_append]
  rfl

theorem overtakings_self (state : State) (thread : Nat) : state.overtakings table [thread] thread = [] := by
  simp [overtakings, publications]

theorem overtakings_of_ne {index : Nat} (h : index ≠ thread) (state : State) :
    state.overtakings table [index] thread = state.publications table [index] := by
  refine List.filter_eq_self.2 fun publication hpublication => ?_
  rw [List.mem_singleton.1 (thread_mem_of_mem_publications hpublication)]
  exact bne_iff_ne.2 h

theorem loses_step_self (state : State) (thread : Nat) : (state.step table thread).loses thread = false := by
  rw [loses, thread_step_self, registry_step]
  exact Thread.loses_step _ _ _

/-- The turn of another thread spoils a swap only by publishing. -/
theorem loses_step_of_ne (table : TypeTable) {index : Nat} (h : index ≠ thread) (state : State) :
    ((state.step table index).loses thread).toNat ≤ (state.loses thread).toNat + (state.publications table [index]).length := by
  rw [loses, thread_step_of_ne h]
  cases hpublishes : state.publications table [index] with
  | nil =>
    have hcurrent : (state.step table index).registry.current = state.registry.current := current_run hpublishes
    rw [Thread.loses_of_current _ hcurrent]
    exact Nat.le_refl _
  | cons publication rest =>
    have hone := Bool.toNat_le ((state.thread thread).loses (state.step table index).registry)
    rw [List.length_cons]
    omega

/-- Every race that a thread has lost, and the one that it is bound to lose next, is paid for by a publication of another thread. -/
theorem losses_add_le (table : TypeTable) (hstart : state.loses thread = false) (schedule : List Nat) :
    (state.conduct table schedule thread).losses + ((state.run table schedule).loses thread).toNat ≤
      (state.overtakings table schedule thread).length := by
  induction schedule using List.reverseRecOn with
  | nil => simp [conduct, hstart]
  | append_singleton schedule index ih =>
    rw [run_append, run_cons, run_nil, overtakings_concat, List.length_append]
    by_cases hown : index = thread
    · -- the race that it was bound to lose is lost now, and what was reserved for it is spent
      subst hown
      rw [conduct_concat_self, Conduct.losses_append, loses_step_self, overtakings_self]
      exact ih
    · have hturn := loses_step_of_ne table hown (state.run table schedule)
      rw [conduct_concat_of_ne hown, overtakings_of_ne hown]
      omega

/-! ### What others may still publish -/

theorem openings_thread_le (state : State) (thread : Nat) : (state.thread thread).openings ≤ state.openings := by
  rw [State.thread, openings]
  cases hthread : state.threads[thread]? with
  | none => exact Nat.zero_le _
  | some own =>
    have hsum := sum_map_set hthread Thread.openings { calls := [] }
    have hnothing : Thread.openings { calls := [] } = 0 := rfl
    show own.openings ≤ _
    omega

theorem openings_step_self (table : TypeTable) (state : State) (thread : Nat) :
    (state.step table thread).openings + (state.thread thread).openings =
      state.openings + ((state.step table thread).thread thread).openings := by
  rw [thread_step_self, State.thread]
  cases hthread : state.threads[thread]? with
  | none => rw [step_of_none hthread]; rfl
  | some own =>
    rw [step_of_some hthread]
    exact sum_map_set hthread Thread.openings _

/-- A publication uses up one of the registrations that the threads were given. -/
theorem openings_step_publications (table : TypeTable) (state : State) (index : Nat) :
    (state.publications table [index]).length + (state.step table index).openings ≤ state.openings := by
  have hversion := version_run table state [index]
  rw [run_cons, run_nil] at hversion
  have hone : (state.publications table [index]).length ≤ 1 := by
    simp only [publications, List.append_nil, List.length_map]
    exact Option.length_toList_le
  rcases openings_step table state index with ⟨hcurrent, hle⟩ | hlt
  · rw [hcurrent] at hversion
    omega
  · omega

theorem overtakings_add_openings_le (table : TypeTable) (state : State) (schedule : List Nat) (thread : Nat) :
    (state.overtakings table schedule thread).length + (state.run table schedule).openings + (state.thread thread).openings ≤
      state.openings + ((state.run table schedule).thread thread).openings := by
  induction schedule using List.reverseRecOn with
  | nil => exact Nat.le_of_eq (by simp [overtakings, publications])
  | append_singleton schedule index ih =>
    rw [run_append, run_cons, run_nil, overtakings_concat, List.length_append]
    by_cases hown : index = thread
    · -- what the thread publishes itself is on both sides
      subst hown
      have hturn := openings_step_self table (state.run table schedule) index
      rw [overtakings_self, List.length_nil]
      omega
    · have hturn := openings_step_publications table (state.run table schedule) index
      rw [overtakings_of_ne hown, thread_step_of_ne hown]
      omega

/-- The other threads publish no more than they may, and what the thread may publish itself is not among it. -/
theorem overtakings_add_le (table : TypeTable) (state : State) (schedule : List Nat) (thread : Nat) :
    (state.overtakings table schedule thread).length + (state.thread thread).openings ≤ state.openings := by
  have hrun := overtakings_add_openings_le table state schedule thread
  have hown := (state.run table schedule).openings_thread_le thread
  omega

theorem openings_run_le (table : TypeTable) (state : State) (schedule : List Nat) :
    (state.run table schedule).openings ≤ state.openings := by
  induction schedule generalizing state with
  | nil => exact Nat.le_refl _
  | cons index schedule ih => exact Nat.le_trans (ih _) (openings_step_le table state index)

theorem openings_start (registry : Registry) (calls : List (List Call)) :
    (State.start registry calls).openings = (calls.flatten.map Call.openings).sum := by
  rw [openings, State.start, List.map_map, List.map_flatten, List.sum_flatten, List.map_map]
  congr 1
  refine List.map_congr_left fun calls _ => ?_
  simp [Thread.openings]

/-! ### From the load to the swap -/

/-- A registration that is about to swap has loaded at its last turn. -/
theorem exists_load (hstart : (start.thread thread).registration? = none) {registration : Registration} {retries : Nat}
    {seen : Published} {replacement : Snapshot} (hphase : registration.phase = .swapping retries seen replacement)
    (h : ((start.run table schedule).thread thread).registration? = some registration) :
    ∃ before since, schedule = before ++ thread :: since ∧ thread ∉ since ∧
      ((start.run table before).thread thread).registration? = some { registration with phase := .loading retries } ∧
      seen = (start.run table before).registry.current := by
  induction schedule using List.reverseRecOn with
  | nil => exact nomatch hstart.symm.trans h
  | append_singleton schedule index ih =>
    rw [run_append, run_cons, run_nil] at h
    by_cases hown : index = thread
    · subst hown
      have hturn := ((start.run table schedule).thread index).step_cases table index (start.run table schedule).registry
      rw [← thread_step_self, h] at hturn
      rcases hturn with ⟨-, -, hfresh⟩ | ⟨earlier, hat, hafter, -⟩
      · exact nomatch hphase.symm.trans (hfresh registration rfl).1
      · -- no step but a load leads to a swap
        obtain rfl : registration = _ := Option.some.inj hafter
        obtain ⟨hloading, hseen⟩ := Registration.loading_of_step_swapping hphase
        refine ⟨schedule, [], rfl, List.not_mem_nil, ?_, hseen⟩
        rw [hat, Registration.kind_step, Registration.entry_step]
        exact congrArg some hloading
    · rw [thread_step_of_ne hown] at h
      obtain ⟨before, since, rfl, hsince, hload⟩ := ih h
      refine ⟨before, since ++ [index], List.append_assoc .., ?_, hload⟩
      rw [List.mem_append, List.mem_singleton]
      exact not_or.2 ⟨hsince, fun hindex => hown hindex.symm⟩

theorem publications_of_loading {registration : Registration} {retries : Nat}
    (hat : (state.thread thread).registration? = some registration) (hphase : registration.phase = .loading retries) :
    state.publications table [thread] = [] := by
  simp [publications, Thread.publishes?, hat, Registration.publishes?, hphase]

/-- In the course of the schedule the registration of the thread is finished with the result, and no race is lost until then. -/
def Concludes (table : TypeTable) (state : State) (schedule : List Nat) (thread : Nat) (result : Except RegisterError Descriptor) : Prop :=
  ∃ past registration, past <+: schedule ∧ ((state.run table past).thread thread).registration? = some registration ∧
    registration.result? = some result ∧ (state.conduct table past thread).losses = 0

variable {registration : Registration} {result : Except RegisterError Descriptor}

theorem Concludes.after {later : List Nat} (hlosses : (state.conduct table schedule thread).losses = 0)
    (h : (state.run table schedule).Concludes table later thread result) : state.Concludes table (schedule ++ later) thread result := by
  obtain ⟨past, registration, hpast, hat, hresult, hnothing⟩ := h
  refine ⟨schedule ++ past, registration, (List.prefix_append_right_inj _).2 hpast, ?_, hresult, ?_⟩
  · rwa [run_append]
  · rw [conduct_append, Conduct.losses_append, hlosses, hnothing]

theorem losses_of_not_mem (h : thread ∉ schedule) (state : State) : (state.conduct table schedule thread).losses = 0 := by
  induction schedule generalizing state with
  | nil => rfl
  | cons index schedule ih =>
    obtain ⟨hindex, hschedule⟩ := not_or.1 (mt List.mem_cons.2 h)
    rw [conduct, if_neg (Ne.symm hindex), Conduct.nothing_append, ih hschedule]

theorem losses_of_turn (hat : (state.thread thread).registration? = some registration)
    (hloses : registration.loses state.registry = false) : (state.conduct table [thread] thread).losses = 0 := by
  simp [conduct, Thread.deed, Thread.loses, hat, hloses]

/-- A registration with a verdict is finished as soon as its thread has a turn. -/
theorem concludes_of_verdict? (hat : (state.thread thread).registration? = some registration)
    (hverdict : registration.verdict? = some result) (hturn : thread ∈ schedule) : state.Concludes table schedule thread result := by
  obtain ⟨since, later, rfl, hsince⟩ := List.eq_append_cons_of_mem hturn
  refine .after (losses_of_not_mem hsince state) ?_
  have hsame : (state.run table since).thread thread = state.thread thread := thread_run_of_not_mem hsince state
  rw [← hsame] at hat
  cases hresult : registration.result? with
  | some own =>
    obtain rfl : own = result := Option.some.inj ((Registration.verdict?_of_result? hresult).symm.trans hverdict)
    exact ⟨[], registration, List.nil_prefix, hat, hresult, rfl⟩
  | none =>
    exact ⟨[thread], _, List.cons_prefix_cons.2 ⟨rfl, List.nil_prefix⟩, registration?_step table hat hresult,
      Registration.result?_step_of_verdict? hverdict _, losses_of_turn hat (Registration.loses_of_verdict? hverdict _)⟩

theorem concludes_of_load {retries : Nat} {since later : List Nat} (hat : (state.thread thread).registration? = some registration)
    (hphase : registration.phase = .loading retries) (hsince : thread ∉ since)
    (hnothing : (state.run table [thread]).publications table since = []) (hturn : thread ∈ later) :
    state.Concludes table (thread :: since ++ thread :: later) thread (state.registry.current.merge registration.entry).1 := by
  obtain ⟨kind, entry, phase⟩ := registration
  obtain rfl : phase = .loading retries := hphase
  have hloaded := registration?_step table hat rfl
  have hsame : ((state.run table (thread :: since)).thread thread) = (state.step table thread).thread thread :=
    thread_run_of_not_mem hsince _
  rw [← hsame] at hloaded
  have hcurrent : (state.run table (thread :: since)).registry.current = state.registry.current :=
    (current_run hnothing).trans (current_run (publications_of_loading hat rfl))
  have hload : (state.conduct table (thread :: since) thread).losses = 0 := by
    rw [← List.singleton_append, conduct_append, Conduct.losses_append, losses_of_turn hat rfl, losses_of_not_mem hsince]
  refine .after hload ?_
  cases hconflict : state.registry.snapshot.conflict? entry with
  | some error =>
    rw [Registration.step_loading_of_conflict hconflict] at hloaded
    rw [Published.merge_of_conflict hconflict]
    exact concludes_of_verdict? hloaded rfl List.mem_cons_self
  | none =>
    rw [Registration.step_loading_of_free hconflict] at hloaded
    rw [Published.merge_of_free hconflict]
    -- nothing was published since the load, so the swap succeeds
    have hstamp := congrArg Published.stamp hcurrent
    have hswapped := registration?_step table hloaded rfl
    rw [Registration.step_swapping_of_current hstamp] at hswapped
    exact .after (losses_of_turn hloaded (Registration.loses_swapping_of_current hstamp)) (concludes_of_verdict? hswapped rfl hturn)

/-! ### All of it -/

/-- The races that a thread has lost under a schedule are no more than the publications of the others in it, and fewer than so many registrations. -/
structure IsCharged (table : TypeTable) (state : State) (schedule : List Nat) (thread registrations : Nat) : Prop where
  le_overtakings : (state.conduct table schedule thread).losses ≤ (state.overtakings table schedule thread).length
  lt_registrations : (state.conduct table schedule thread).losses < registrations
  /-- A counter of 32 bits tells the number, as long as the others do not publish as often as it can count. -/
  toNat_counter : (state.overtakings table schedule thread).length < 2 ^ 32 →
    (Merge.counter (state.conduct table schedule thread).losses).toNat = (state.conduct table schedule thread).losses

theorem isCharged {registrations : Nat} (hstart : state.loses thread = false) (hopen : 0 < (state.thread thread).openings)
    (hregistrations : state.openings ≤ registrations) (schedule : List Nat) :
    state.IsCharged table schedule thread registrations := by
  have hlosses := losses_add_le table hstart schedule
  have hothers := overtakings_add_le table state schedule thread
  have hle : (state.conduct table schedule thread).losses ≤ (state.overtakings table schedule thread).length :=
    Nat.le_trans (Nat.le_add_right _ _) hlosses
  refine ⟨hle, by omega, fun hbound => ?_⟩
  rw [Merge.toNat_counter, Nat.mod_eq_of_lt (Nat.lt_of_le_of_lt hle hbound)]

end State

/-- Every race that a registration loses is charged to the publication of another one. -/
structure ChargesRaces (table : TypeTable) (registry : Registry) (calls : List (List Call)) (schedule : List Nat) : Prop where
  /-- A swap fails if and only if another thread has published since the load. -/
  loses_iff : ∀ thread registration retries seen replacement,
    (((State.start registry calls).run table schedule).thread thread).registration? = some registration →
    registration.phase = .swapping retries seen replacement →
    ∃ before since, schedule = before ++ thread :: since ∧ thread ∉ since ∧
      (((State.start registry calls).run table before).thread thread).registration? =
        some { registration with phase := .loading retries } ∧
      seen = ((State.start registry calls).run table before).registry.current ∧
      (registration.loses ((State.start registry calls).run table schedule).registry ↔
        ∃ publication ∈ ((State.start registry calls).run table (before ++ [thread])).publications table since,
          publication.thread ≠ thread)
  /-- A registration during whose attempt nothing is published comes to its end by it. -/
  concludes : ∀ thread registration retries since later,
    (((State.start registry calls).run table schedule).thread thread).registration? = some registration →
    registration.phase = .loading retries → thread ∉ since →
    ((State.start registry calls).run table (schedule ++ [thread])).publications table since = [] → thread ∈ later →
    ((State.start registry calls).run table schedule).Concludes table (thread :: since ++ thread :: later) thread
      (((State.start registry calls).run table schedule).registry.current.merge registration.entry).1
  /-- The lost races of every registration are charged, from its beginning on and, if it is made by a call of its own, from the invocation to the return. -/
  charged : Throughout table (State.start registry calls) schedule
    (fun state during thread _ => state.IsCharged table during thread (calls.flatten.map Call.openings).sum)
    fun state during thread _ _ => state.IsCharged table during thread (calls.flatten.map Call.openings).sum

section Charges

variable {calls : List (List Call)} {schedule : List Nat} {thread : Nat}

theorem loses_iff_of_load {start : State} (hstart : (start.thread thread).registration? = none) {registration : Registration}
    {retries : Nat} {seen : Published} {replacement : Snapshot}
    (hat : ((start.run table schedule).thread thread).registration? = some registration)
    (hphase : registration.phase = .swapping retries seen replacement) :
    ∃ before since, schedule = before ++ thread :: since ∧ thread ∉ since ∧
      ((start.run table before).thread thread).registration? = some { registration with phase := .loading retries } ∧
      seen = (start.run table before).registry.current ∧
      (registration.loses (start.run table schedule).registry ↔
        ∃ publication ∈ (start.run table (before ++ [thread])).publications table since, publication.thread ≠ thread) := by
  obtain ⟨before, since, rfl, hsince, hload, rfl⟩ := State.exists_load hstart hphase hat
  refine ⟨before, since, rfl, hsince, hload, rfl, ?_⟩
  obtain ⟨kind, entry, phase⟩ := registration
  obtain rfl : phase = _ := hphase
  have hloaded : (start.run table (before ++ [thread])).registry.current = (start.run table before).registry.current := by
    rw [State.run_append]
    exact State.current_run (State.publications_of_loading hload rfl)
  rw [Registration.loses_swapping, ← hloaded, List.append_cons, State.run_append start (before ++ [thread]), Ne,
    State.current_run_iff]
  constructor
  · intro hsome
    obtain ⟨publication, hpublication⟩ := List.exists_mem_of_ne_nil _ hsome
    have hthread := State.thread_mem_of_mem_publications hpublication
    exact ⟨publication, hpublication, fun hown => hsince (hown ▸ hthread)⟩
  · rintro ⟨publication, hpublication, -⟩
    exact List.ne_nil_of_mem hpublication

theorem Thread.openings_pos {thread : Thread} {registration : Registration} {retries : Nat}
    (hat : thread.registration? = some registration) (hphase : registration.phase = .loading retries) : 0 < thread.openings := by
  have hone : registration.openings = 1 := by rw [Registration.openings, hphase]
  obtain ⟨pending?, calls, answers⟩ := thread
  cases pending? with
  | none => exact absurd hat.symm (Option.some_ne_none _)
  | some pending =>
    refine Nat.add_pos_left ?_ _
    cases pending with
    | registering own =>
      obtain rfl : own = registration := Option.some.inj hat
      exact Nat.lt_of_lt_of_eq Nat.one_pos hone.symm
    | declaring series =>
      have hcurrent : series.current? = some registration := hat
      simp only [Option.elim, Pending.openings, hcurrent, hone]
      exact Nat.add_pos_left Nat.one_pos _
    | asking question => exact absurd hat.symm (Option.some_ne_none _)
    | returning answer => exact absurd hat.symm (Option.some_ne_none _)

/-- In every run each race that is lost is charged to another thread that has published meanwhile, so a registration loses no more races than others publish in its course. -/
theorem chargesRaces_run (table : TypeTable) (registry : Registry) (calls : List (List Call)) (schedule : List Nat) :
    ChargesRaces table registry calls schedule := by
  have hopenings : ∀ past, ((State.start registry calls).run table past).openings ≤ (calls.flatten.map Call.openings).sum := by
    intro past
    rw [← State.openings_start registry calls]
    exact State.openings_run_le table _ past
  refine ⟨fun thread registration retries seen replacement hat hphase => ?loses,
    fun thread registration retries since later hat hphase hsince hnothing hturn => ?concludes,
    throughout_run schedule (fun before during thread registration hbegins => ?working)
      fun before during thread kind type text result hcompletes _ => ?returned⟩
  case loses => exact loses_iff_of_load (State.registration?_start registry calls thread) hat hphase
  case concludes =>
    rw [State.run_append] at hnothing
    exact State.concludes_of_load hat hphase hsince hnothing hturn
  case working =>
    refine State.isCharged ?_ (Thread.openings_pos hbegins.beginning rfl) (hopenings before) during
    rw [State.loses, Thread.loses, hbegins.beginning]
    rfl
  case returned =>
    refine State.isCharged ?_ ?_ (hopenings before) during
    · rw [State.loses, Thread.loses, Thread.registration?, hcompletes.idle]
      rfl
    · rw [Thread.openings, hcompletes.idle, hcompletes.calls]
      exact Nat.add_pos_right _ (Nat.add_pos_left Nat.one_pos _)

end Charges

end Concurrent

end MessageCatalog
