import MessageCatalog.Proofs.Concurrent.Exchange

/-!
# Found under both keys

A descriptor that a registration has returned is found from then on under its type and under every spelling of its identifier, and under nothing else; and whatever is found was put there by a registration. The two indexes are coherent at every moment, so what is found is what the table holds, `Registry.binds_of_mem`; the table only grows, so what was found stays. What remains is to follow a descriptor back from the table to the registration that returns it. A lookup may come between the swap and the return of that registration, so `Origin` knows both: it has returned the descriptor, or its thread has it in hand and returns it within three turns, `returned_of_inHand`.
-/

namespace MessageCatalog

/-! ### What a registry finds -/

namespace Registry

variable {registry : Registry} {type : NativeType} {text : String} {entry : Descriptor}

theorem byType_eq_some_iff (h : registry.snapshot.Coherent) :
    registry.byType type = some entry ↔ entry ∈ registry.snapshot.table ∧ entry.type = type :=
  h.findType?_iff

theorem byIdentifier_eq_some_iff (h : registry.snapshot.Coherent) :
    registry.byIdentifier text = .ok (some entry) ↔
      entry ∈ registry.snapshot.table ∧ Identifier.normalize text = .ok entry.identifier.text := by
  rw [byIdentifier]
  cases hparse : Identifier.parse text with
  | error cause => simp [Identifier.parse_eq_error_iff.1 hparse]
  | ok identifier =>
    rw [Identifier.parse_eq_ok_iff.1 hparse, Except.ok.injEq, Except.ok.injEq, h.findIdentifier?_iff]
    exact and_congr_right fun _ => eq_comm

/-- The descriptor is found under the type and under every spelling of the text, and under nothing else. -/
structure Binds (registry : Registry) (type : NativeType) (text : String) (entry : Descriptor) : Prop where
  byType_iff : ∀ other, registry.byType other = some entry ↔ other = type
  byIdentifier_iff : ∀ other, registry.byIdentifier other = .ok (some entry) ↔
    Identifier.normalize other = Identifier.normalize text

theorem binds_of_mem (h : registry.snapshot.Coherent) (hentry : entry ∈ registry.snapshot.table) (htype : entry.type = type)
    (htext : Identifier.normalize text = .ok entry.identifier.text) : registry.Binds type text entry where
  byType_iff other := by
    rw [byType_eq_some_iff h, htype]
    exact ⟨fun hother => hother.2.symm, fun hother => ⟨hentry, hother.symm⟩⟩
  byIdentifier_iff other := by
    rw [byIdentifier_eq_some_iff h, htext]
    exact and_iff_right hentry

end Registry

theorem Published.table_subset_merge (current : Published) (entry : Descriptor) :
    current.snapshot.table ⊆ (current.merge entry).2.snapshot.table := by
  cases hconflict : current.snapshot.conflict? entry with
  | some error => rw [Published.merge_of_conflict hconflict]; exact List.Subset.refl _
  | none => rw [Published.merge_of_free hconflict]; exact List.subset_append_left _ _

namespace Merge.Registration

variable {registration : Registration} {entry : Descriptor}

theorem result?_step_of_verdict? {verdict : Except RegisterError Descriptor} (h : registration.verdict? = some verdict)
    (registry : Registry) : (registration.step registry).1.result? = some verdict := by
  obtain ⟨kind, entry, phase⟩ := registration
  cases phase <;> simp_all [verdict?, result?, step]

theorem verdict?_of_published? (h : registration.published? = some entry) : registration.verdict? = some (.ok entry) := by
  rw [published?, Option.bind_eq_some_iff] at h
  obtain ⟨verdict, hverdict, hentry⟩ := h
  cases verdict with
  | error error => exact absurd hentry (Option.some_ne_none _).symm
  | ok own => exact Option.some.inj hentry ▸ hverdict

theorem published?_of_result? (h : registration.result? = some (.ok entry)) : registration.published? = some entry := by
  rw [published?, verdict?_of_result? h]
  rfl

theorem eq_ok_of_published? (h : registration.published? = some entry) {result : Except RegisterError Descriptor}
    (hresult : registration.result? = some result) : result = .ok entry :=
  Option.some.inj ((verdict?_of_result? hresult).symm.trans (verdict?_of_published? h))

theorem published?_step_of_published? (h : registration.published? = some entry) (registry : Registry) :
    (registration.step registry).1.published? = some entry :=
  published?_of_result? (result?_step_of_verdict? (verdict?_of_published? h) registry)

/-- How many turns it takes to report what is published and to fetch the result. -/
def turnsLeft (registration : Registration) : Nat := if registration.result?.isSome then 1 else 2

theorem turnsLeft_pos (registration : Registration) : 0 < registration.turnsLeft := by
  rw [turnsLeft]
  split <;> omega

theorem turnsLeft_le (registration : Registration) : registration.turnsLeft ≤ 2 := by
  rw [turnsLeft]
  split <;> omega

theorem turnsLeft_step (h : registration.published? = some entry) (hresult : registration.result? = none) (registry : Registry) :
    (registration.step registry).1.turnsLeft < registration.turnsLeft := by
  simp [turnsLeft, hresult, result?_step_of_verdict? (verdict?_of_published? h) registry]

end Merge.Registration

namespace Concurrent

open Merge

variable {table : TypeTable} {registry : Registry}

/-! ### From a registration to the table -/

/-- The registration is at work, and once its verdict is a descriptor, the descriptor is in the table. -/
def IsListed (table : TypeTable) (current : Published) (registration : Registration) : Prop :=
  IsAtWork table current registration ∧
    ∀ entry, registration.verdict? = some (.ok entry) → entry ∈ current.snapshot.table

theorem IsListed.step {registration : Registration} (h : IsListed table registry.current registration) :
    IsListed table (registration.step registry).2.current (registration.step registry).1 := by
  obtain ⟨hwork, hlisted⟩ := h
  refine ⟨hwork.step, fun entry hverdict => ?_⟩
  obtain ⟨-, -, ⟨hcurrent, hsame⟩ | ⟨-, verdict, hnext, hmerge⟩⟩ := Registration.step_cases hwork.1
  · rw [hcurrent]
    exact hlisted entry (hsame.symm.trans hverdict)
  · obtain rfl : verdict = .ok entry := Option.some.inj (hnext.symm.trans hverdict)
    cases hconflict : registry.current.snapshot.conflict? registration.entry with
    | some error =>
      rw [Published.merge_of_conflict hconflict] at hmerge
      exact nomatch congrArg Prod.fst hmerge
    | none =>
      rw [Published.merge_of_free hconflict, Prod.mk.injEq, Except.ok.injEq] at hmerge
      rw [hmerge.2, hmerge.1]
      exact List.mem_append_right _ List.mem_cons_self

theorem keeps_isListed (table : TypeTable) : State.Keeps table Published.Coherent (IsListed table) where
  fresh _ hfresh := by
    refine ⟨hfresh.isAtWork _, fun entry hverdict => ?_⟩
    rw [Registration.verdict?, hfresh.1] at hverdict
    exact absurd hverdict (Option.some_ne_none _).symm
  own hpublished hlisted := ⟨hlisted.1.keeps (Published.mergeKeeps_coherent table) hpublished, hlisted.step⟩
  other {registry registration bystander} _ hlisted hbystander := by
    refine ⟨hlisted.1.bystander hbystander.1, fun entry hverdict => ?_⟩
    have hold := hbystander.2 entry hverdict
    rcases Registration.step_current hlisted.1.1 with hcurrent | hcurrent
    · rwa [hcurrent]
    · rw [hcurrent]
      exact Published.table_subset_merge _ _ hold

namespace State

variable {start : State}

theorem table_subset_run (h : start.Holds Published.Coherent (IsListed table)) (schedule later : List Nat) :
    (start.run table schedule).registry.snapshot.table ⊆ (start.run table (schedule ++ later)).registry.snapshot.table := by
  have hnow := h.run (keeps_isListed table) schedule
  have hwork : (start.run table schedule).Holds Published.Coherent (IsAtWork table) :=
    ⟨hnow.1, fun thread hthread registration hat => (hnow.2 thread hthread registration hat).1⟩
  rw [run_append, table_run (Published.mergeKeeps_coherent table) hwork]
  exact List.subset_append_left _ _

/-- What is in the table is found, now and at every later moment. -/
theorem binds_run (h : start.Holds Published.Coherent (IsListed table)) {schedule : List Nat} {entry : Descriptor} {text : String}
    (hentry : entry ∈ (start.run table schedule).registry.snapshot.table)
    (htext : Identifier.normalize text = .ok entry.identifier.text) (later : List Nat) :
    (start.run table (schedule ++ later)).registry.Binds entry.type text entry :=
  Registry.binds_of_mem (h.run (keeps_isListed table) (schedule ++ later)).1 (table_subset_run h schedule later hentry) rfl htext

end State

/-! ### From the table back to a registration -/

/-- What a call has published, for itself or for one of its declarations, and not returned yet. -/
def Pending.inHand? : Pending → Option Descriptor
  | registering registration => registration.published?
  | declaring series => series.current?.bind Registration.published?
  | asking _ => none
  | returning answer => answer.entry?

/-- How many turns it takes to return what is in hand, whatever others do. -/
def Pending.turnsLeft : Pending → Nat
  | registering registration => registration.turnsLeft + 1
  | declaring series => series.current?.elim 0 Registration.turnsLeft
  | asking _ => 0
  | returning _ => 1

namespace Thread

def inHand? (thread : Thread) : Option Descriptor := thread.pending?.bind Pending.inHand?

def turnsLeft (thread : Thread) : Nat := thread.pending?.elim 0 Pending.turnsLeft

end Thread

/-- A registration has returned the descriptor, to its caller or, when it was made for a declared type, to the call that registers declared types. -/
inductive Returned (table : TypeTable) (start : State) (schedule : List Nat) (entry : Descriptor) : Prop where
  | called {thread : Nat} :
      .registered (.ok entry) ∈ returns (start.run table schedule).history thread → Returned table start schedule entry
  /-- A turn of the thread has taken the result, and the call goes on with the next declaration. -/
  | declared {past : List Nat} {thread : Nat} {series : Series} {registration : Registration} :
      past ++ [thread] <+: schedule → ((start.run table past).thread thread).pending? = some (.declaring series) →
      series.current? = some registration → registration.result? = some (.ok entry) → Returned table start schedule entry

/-- A registration has returned the descriptor, or it has published it and is about to return it. -/
inductive Origin (table : TypeTable) (start : State) (schedule : List Nat) (entry : Descriptor) : Prop where
  | returned : Returned table start schedule entry → Origin table start schedule entry
  | inHand {thread : Nat} :
      ((start.run table schedule).thread thread).inHand? = some entry → Origin table start schedule entry

namespace Thread

variable {thread : Thread} {entry : Descriptor}

theorem inHand?_of_registration? {registration : Registration} (hat : thread.registration? = some registration)
    (hpublished : registration.published? = some entry) : thread.inHand? = some entry := by
  obtain ⟨pending, hpending, hown⟩ := Option.bind_eq_some_iff.1 hat
  rw [inHand?, hpending, Option.bind_some]
  cases pending with
  | registering own => exact Option.some.inj hown ▸ hpublished
  | declaring series => exact Option.bind_eq_some_iff.2 ⟨registration, hown, hpublished⟩
  | asking question => exact nomatch hown
  | returning answer => exact nomatch hown

/-- What is in hand is that of the registration at work, or the call is its registration and comes to its end. -/
theorem inHand?_cases (h : thread.inHand? = some entry) :
    (∃ registration, thread.registration? = some registration ∧ registration.published? = some entry) ∨
      entry ∈ thread.published := by
  obtain ⟨pending, hpending, hown⟩ := Option.bind_eq_some_iff.1 h
  rw [registration?, published, hpending]
  cases pending with
  | registering registration => exact .inl ⟨registration, rfl, hown⟩
  | declaring series =>
    obtain ⟨registration, hcurrent, hpublished⟩ := Option.bind_eq_some_iff.1 hown
    exact .inl ⟨registration, hcurrent, hpublished⟩
  | asking question => exact absurd hown (Option.some_ne_none _).symm
  | returning answer => exact .inr (List.mem_append_right _ (Option.mem_toList.2 hown))

theorem turnsLeft_le (thread : Thread) : thread.turnsLeft ≤ 3 := by
  obtain ⟨pending?, calls, answers⟩ := thread
  cases pending? with
  | none => exact Nat.zero_le 3
  | some pending =>
    cases pending with
    | registering registration => exact Nat.succ_le_succ registration.turnsLeft_le
    | declaring series =>
      obtain ⟨current?, rest, done⟩ := series
      cases current? with
      | none => exact Nat.zero_le 3
      | some registration => exact Nat.le_succ_of_le registration.turnsLeft_le
    | asking question => exact Nat.zero_le 3
    | returning answer => exact Nat.le_add_left 1 2

theorem turnsLeft_pos (h : thread.inHand? = some entry) : 0 < thread.turnsLeft := by
  obtain ⟨pending, hpending, hown⟩ := Option.bind_eq_some_iff.1 h
  rw [turnsLeft, hpending]
  cases pending with
  | registering registration => exact Nat.succ_pos _
  | declaring series =>
    obtain ⟨registration, hcurrent, -⟩ := Option.bind_eq_some_iff.1 hown
    rw [Option.elim_some, Pending.turnsLeft, hcurrent]
    exact registration.turnsLeft_pos
  | asking question => exact absurd hown (Option.some_ne_none _).symm
  | returning answer => exact Nat.one_pos

/-- A turn returns what is in hand, or it comes one turn closer to that. -/
theorem inHand?_step (h : thread.inHand? = some entry) (index : Nat) (registry : Registry) :
    .registered (.ok entry) ∈ returns (thread.step table index registry).2.2 index ∨
      (∃ series registration, thread.pending? = some (.declaring series) ∧ series.current? = some registration ∧
        registration.result? = some (.ok entry)) ∨
      (thread.step table index registry).1.inHand? = some entry ∧
        (thread.step table index registry).1.turnsLeft < thread.turnsLeft := by
  obtain ⟨pending?, calls, answers⟩ := thread
  cases pending? with
  | none => exact absurd h (Option.some_ne_none _).symm
  | some pending =>
    cases pending with
    | registering registration =>
      have hpublished : registration.published? = some entry := h
      right
      right
      cases hresult : registration.result? with
      | some result =>
        obtain rfl := Registration.eq_ok_of_published? hpublished hresult
        have hstep : (Thread.step table index ⟨some (.registering registration), calls, answers⟩ registry).1 =
            ⟨some (.returning (.registered (.ok entry))), calls, answers⟩ := by
          simp [Thread.step, Pending.step_of_finished hresult]
        rw [hstep]
        exact ⟨rfl, Nat.succ_lt_succ registration.turnsLeft_pos⟩
      | none =>
        have hstep : (Thread.step table index ⟨some (.registering registration), calls, answers⟩ registry).1 =
            ⟨some (.registering (registration.step registry).1), calls, answers⟩ := by
          simp [Thread.step, Pending.step_of_unfinished hresult]
        rw [hstep]
        exact ⟨Registration.published?_step_of_published? hpublished registry,
          Nat.succ_lt_succ (Registration.turnsLeft_step hpublished hresult registry)⟩
    | declaring series =>
      have hown : series.current?.bind Registration.published? = some entry := h
      obtain ⟨registration, hcurrent, hpublished⟩ := Option.bind_eq_some_iff.1 hown
      right
      cases hresult : registration.result? with
      | some result =>
        obtain rfl := Registration.eq_ok_of_published? hpublished hresult
        exact .inl ⟨series, registration, rfl, hcurrent, hresult⟩
      | none =>
        obtain ⟨current?, rest, done⟩ := series
        obtain rfl : current? = some registration := hcurrent
        have hstep : (Thread.step table index ⟨some (.declaring ⟨some registration, rest, done⟩), calls, answers⟩ registry).1 =
            ⟨some (.declaring ⟨some (registration.step registry).1, rest, done⟩), calls, answers⟩ := by
          simp [Thread.step, Pending.step, Series.step_of_unfinished hresult]
        right
        rw [hstep]
        exact ⟨Registration.published?_step_of_published? hpublished registry,
          Registration.turnsLeft_step hpublished hresult registry⟩
    | asking question => exact absurd h (Option.some_ne_none _).symm
    | returning answer =>
      left
      rw [Answer.eq_registered_of_entry? h]
      simp [Thread.step, returns]

end Thread

section Origin

variable {state : State} {thread : Nat} {schedule later : List Nat} {entry : Descriptor}

theorem Returned.of_run (schedule : List Nat) (h : Returned table (state.run table schedule) later entry) :
    Returned table state (schedule ++ later) entry := by
  cases h with
  | called hreturns => exact .called (state.run_append schedule later ▸ hreturns)
  | declared hpast hpending hcurrent hresult =>
    rw [← State.run_append] at hpending
    refine .declared ?_ hpending hcurrent hresult
    rw [List.append_assoc]
    exact (List.prefix_append_right_inj schedule).2 hpast

theorem Origin.of_run (schedule : List Nat) (h : Origin table (state.run table schedule) later entry) :
    Origin table state (schedule ++ later) entry := by
  cases h with
  | returned hreturned => exact .returned (hreturned.of_run schedule)
  | inHand hentry => exact .inHand (state.run_append schedule later ▸ hentry)

/-- What is in hand stays there until it is returned, and every turn of the thread counts. -/
theorem returned_or_inHand (h : (state.thread thread).inHand? = some entry) (schedule : List Nat) :
    Returned table state schedule entry ∨
      ((state.run table schedule).thread thread).inHand? = some entry ∧
        ((state.run table schedule).thread thread).turnsLeft + schedule.count thread ≤ (state.thread thread).turnsLeft := by
  induction schedule generalizing state with
  | nil => exact .inr ⟨h, Nat.le_refl _⟩
  | cons index schedule ih =>
    have hfirst : Returned table (state.step table index) schedule entry → Returned table state (index :: schedule) entry :=
      Returned.of_run [index]
    by_cases hown : index = thread
    · subst hown
      rcases (state.thread index).inHand?_step h index state.registry with
        hreturns | ⟨series, registration, hpending, hcurrent, hresult⟩ | ⟨hafter, hless⟩
      · have hmem : .registered (.ok entry) ∈ returns (state.step table index).history index := by
          rw [State.history_step, returns_append]
          exact List.mem_append_right _ hreturns
        exact .inl (.called ((((state.step table index).history_prefix_run table schedule).filterMap _).subset hmem))
      · have hturn : [] ++ [index] <+: index :: schedule := List.prefix_append [index] schedule
        exact .inl (.declared hturn hpending hcurrent hresult)
      · rw [← State.thread_step_self] at hafter hless
        refine (ih hafter).imp hfirst (And.imp_right fun hle => ?_)
        rw [List.count_cons_self]
        exact Nat.le_trans (Nat.succ_le_succ hle) hless
    · have hsame : (state.step table index).thread thread = state.thread thread := State.thread_step_of_ne hown state
      rw [List.count_cons_of_ne hown, ← hsame]
      exact (ih (hsame ▸ h)).imp hfirst id

/-- Three turns return what is in hand: one to report it, one to fetch the result, and one to hand it over. -/
theorem returned_of_inHand (h : (state.thread thread).inHand? = some entry) (hturns : 3 ≤ schedule.count thread) :
    Returned table state schedule entry := by
  refine (returned_or_inHand h schedule).resolve_right fun ⟨hafter, hle⟩ => ?_
  have hpos := Thread.turnsLeft_pos hafter
  have hmost := (state.thread thread).turnsLeft_le
  omega

theorem origin_of_inHand (h : (state.thread thread).inHand? = some entry) (schedule : List Nat) :
    Origin table state schedule entry :=
  (returned_or_inHand h schedule).elim .returned fun hafter => .inHand hafter.1

/-- A registration that is not at its end takes the turn of its thread. -/
theorem State.registration?_step (table : TypeTable) {registration : Registration}
    (hat : (state.thread thread).registration? = some registration) (hresult : registration.result? = none) :
    ((state.step table thread).thread thread).registration? = some (registration.step state.registry).1 := by
  rw [thread_step_self]
  rcases (state.thread thread).step_cases table thread state.registry with ⟨-, hdone, -⟩ | ⟨own, hown, hafter, -⟩
  · have hsome := hdone registration hat
    rw [hresult] at hsome
    exact absurd hsome Bool.false_ne_true
  · rw [hat, Option.some.injEq] at hown
    rw [hafter, hown]

theorem origin_of_publication {publication : Publication} (h : publication ∈ state.publications table schedule) :
    Origin table state schedule publication.entry := by
  induction schedule generalizing state with
  | nil => exact absurd h List.not_mem_nil
  | cons index schedule ih =>
    rw [State.publications, List.mem_append, List.mem_map] at h
    refine Origin.of_run [index] ?_
    rcases h with ⟨entry, hentry, rfl⟩ | hlater
    · rw [Option.mem_toList, Thread.publishes?, Option.bind_eq_some_iff] at hentry
      obtain ⟨registration, hat, hpublishes⟩ := hentry
      rcases Registration.publishes?_cases registration state.registry with
        ⟨hnothing, -, -⟩ | ⟨retries, seen, replacement, hphase, -, hown, -, hpublished⟩
      · exact absurd (hnothing.symm.trans hpublishes) (Option.some_ne_none _).symm
      · have hresult : registration.result? = none := by rw [Registration.result?, hphase]
        rw [hown.symm.trans hpublishes] at hpublished
        exact origin_of_inHand (Thread.inHand?_of_registration? (State.registration?_step table hat hresult) hpublished) schedule
    · exact ih hlater

end Origin

section Table

variable {registry : Registry} {schedule : List Nat} {thread : Nat} {entry : Descriptor}

theorem mem_table_of_published (h : Published.Coherent registry.current) {calls : List (List Call)}
    (hentry : entry ∈ (((State.start registry calls).run table schedule).thread thread).published) :
    entry ∈ ((State.start registry calls).run table schedule).registry.snapshot.table := by
  have hpublished := (State.start registry calls).published_sublist_run table schedule thread
  rw [State.thread_start] at hpublished
  obtain ⟨publication, hpublication, rfl⟩ := List.mem_map.1 (hpublished.subset hentry)
  rw [State.table_run (Published.mergeKeeps_coherent table) (State.holds_start h calls)]
  exact List.mem_append_right _ (List.mem_map_of_mem (List.mem_filter.1 hpublication).1)

theorem mem_table_of_answered (h : Published.Coherent registry.current) {calls : List (List Call)}
    (hentry : .registered (.ok entry) ∈ returns ((State.start registry calls).run table schedule).history thread) :
    entry ∈ ((State.start registry calls).run table schedule).registry.snapshot.table := by
  rw [(State.records_run registry calls schedule thread).2] at hentry
  exact mem_table_of_published h (List.mem_append_left _ (List.mem_filterMap.2 ⟨_, hentry, rfl⟩))

theorem mem_table_of_registration? (h : Published.Coherent registry.current) {calls : List (List Call)} {registration : Registration}
    (hat : (((State.start registry calls).run table schedule).thread thread).registration? = some registration)
    (hpublished : registration.published? = some entry) :
    entry ∈ ((State.start registry calls).run table schedule).registry.snapshot.table :=
  (((State.holds_start h calls).run (keeps_isListed table) schedule).thread thread hat).2 entry
    (Registration.verdict?_of_published? hpublished)

/-- What is in the table of a registry that was empty at first is what registrations have returned or are about to return. -/
theorem mem_table_iff_origin (table : TypeTable) (h : Published.Coherent registry.current) (hempty : registry.snapshot.table = [])
    (calls : List (List Call)) (schedule : List Nat) (entry : Descriptor) :
    entry ∈ ((State.start registry calls).run table schedule).registry.snapshot.table ↔
      Origin table (State.start registry calls) schedule entry := by
  constructor
  · intro hentry
    have hstart : (State.start registry calls).registry.snapshot.table = [] := hempty
    rw [State.table_run (Published.mergeKeeps_coherent table) (State.holds_start h calls), hstart, List.nil_append] at hentry
    obtain ⟨publication, hpublication, rfl⟩ := List.mem_map.1 hentry
    exact origin_of_publication hpublication
  · rintro (hreturned | hentry)
    · cases hreturned with
      | called hreturns => exact mem_table_of_answered h hreturns
      | @declared past thread series registration hpast hpending hcurrent hresult =>
        obtain ⟨later, rfl⟩ := (List.prefix_append past [thread]).trans hpast
        have hat : (((State.start registry calls).run table past).thread thread).registration? = some registration :=
          Option.bind_eq_some_iff.2 ⟨_, hpending, hcurrent⟩
        exact State.table_subset_run (State.holds_start h calls) past later
          (mem_table_of_registration? h hat (Registration.published?_of_result? hresult))
    · rcases Thread.inHand?_cases hentry with ⟨registration, hat, hpublished⟩ | hpublished
      · exact mem_table_of_registration? h hat hpublished
      · exact mem_table_of_published h hpublished

end Table

/-! ### All of it -/

/-- What was registered is found under both its keys and under no others, and whatever is found was registered. -/
structure RoundTrip (table : TypeTable) (start : State) (schedule : List Nat) : Prop where
  /-- From the return of a registration on, its descriptor is found under the type and under every spelling of the text. -/
  binds : ∀ (thread number : Nat) kind type text entry,
    (invocations (start.run table schedule).history thread)[number]? = some (.register kind type text) →
    (returns (start.run table schedule).history thread)[number]? = some (.registered (.ok entry)) →
    ∀ later, (start.run table (schedule ++ later)).registry.Binds type text entry
  /-- The same holds of registrations of declared types, and it holds as soon as the descriptor is published. -/
  binds_origin : ∀ entry, Origin table start schedule entry →
    ∀ later, (start.run table (schedule ++ later)).registry.Binds entry.type entry.identifier.text entry
  /-- A registration that has published its descriptor returns it within three turns of its thread. -/
  concludes : ∀ thread entry, ((start.run table schedule).thread thread).inHand? = some entry →
    ∀ later, 3 ≤ later.count thread → Returned table start (schedule ++ later) entry
  byIdentifier : ∀ text entry, (start.run table schedule).registry.byIdentifier text = .ok (some entry) →
    Identifier.normalize text = .ok entry.identifier.text ∧
      (start.run table schedule).registry.byType entry.type = some entry ∧ Origin table start schedule entry
  byType : ∀ type entry, (start.run table schedule).registry.byType type = some entry →
    entry.type = type ∧ (start.run table schedule).registry.byIdentifier entry.identifier.text = .ok (some entry) ∧
      Origin table start schedule entry
  /-- A lookup that has returned was answered so at a moment at which it was under way. -/
  reads : ∀ (thread number : Nat) question answer,
    (invocations (start.run table schedule).history thread)[number]? = some (.query question) →
    (returns (start.run table schedule).history thread)[number]? = some answer →
    start.Reads table schedule thread number question answer

/-- Whatever threads do with a new registry and however their turns come, registrations and lookups by either key agree at every moment. -/
theorem roundTrip_run (table : TypeTable) (serial : Nat) (label : String) (calls : List (List Call)) (schedule : List Nat) :
    RoundTrip table (State.start (Registry.create serial label) calls) schedule := by
  have hempty : Published.Coherent (Registry.create serial label).current := Snapshot.coherent_empty
  have hstart : (State.start (Registry.create serial label) calls).Holds Published.Coherent (IsListed table) :=
    State.holds_start hempty calls
  have hcoherent := (hstart.run (keeps_isListed table) schedule).1
  have horigin := mem_table_iff_origin table hempty rfl calls schedule
  have hrecords : ((State.start (Registry.create serial label) calls).run table schedule).Records calls :=
    State.records_run _ calls schedule
  have haccords := State.accords_run table (Registry.create serial label) calls schedule
  refine ⟨fun thread number kind type text entry hcall hanswer later => ?binds, fun entry hentry later => ?origin,
    fun thread entry hentry later hturns => ?concludes, fun text entry hfound => ?byIdentifier, fun type entry hfound => ?byType,
    fun thread number question answer hcall hanswer => ?reads⟩
  case binds =>
    have hentry := mem_table_of_answered hempty (List.mem_of_getElem? hanswer)
    rw [(hrecords thread).2] at hanswer
    cases (haccords thread).admits hcall hanswer with
    | registered hprepare =>
      obtain ⟨identifier, hparse, -, rfl⟩ := Registry.prepare_eq_ok_iff.1 hprepare
      exact State.binds_run hstart hentry (Identifier.parse_eq_ok_iff.1 hparse) later
  case origin => exact State.binds_run hstart ((horigin entry).2 hentry) entry.identifier.canonical later
  case concludes => exact (returned_of_inHand hentry hturns).of_run schedule
  case byIdentifier =>
    obtain ⟨hentry, htext⟩ := (Registry.byIdentifier_eq_some_iff hcoherent).1 hfound
    exact ⟨htext, (Registry.byType_eq_some_iff hcoherent).2 ⟨hentry, rfl⟩, (horigin entry).1 hentry⟩
  case byType =>
    obtain ⟨hentry, htype⟩ := (Registry.byType_eq_some_iff hcoherent).1 hfound
    exact ⟨htype, (Registry.byIdentifier_eq_some_iff hcoherent).2 ⟨hentry, entry.identifier.canonical⟩, (horigin entry).1 hentry⟩
  case reads =>
    rw [(hrecords thread).2] at hanswer
    cases (haccords thread).admits hcall hanswer with
    | answered hreads => exact hreads

/-! ### A lookup in between

One thread registers a type, and the other one looks it up before the first is told that the type is registered. -/

def sighting : List (List Call) :=
  [[.register .command (.value 0) "4e1b2a0c-9f51-4d3e-b0b7-6b9c1f0e2a11"], [.query (.byType (.value 0))]]

theorem exists_declarations {calls : List (List Call)} {schedule : List Nat} {thread : Nat} {series : Series}
    (h : (((State.start registry calls).run table schedule).thread thread).pending? = some (.declaring series)) :
    ∃ declarations, .registerDeclared declarations ∈ calls[thread]?.getD [] := by
  have haccords := State.accords_run table registry calls schedule thread
  have hrecords : ((State.start registry calls).run table schedule).Records calls := State.records_run registry calls schedule
  rw [Thread.Accords, h] at haccords
  obtain ⟨earlier, call, hinvoked, -, declarations, rfl⟩ := haccords
  refine ⟨declarations, ?_⟩
  rw [← (hrecords thread).1, hinvoked]
  exact List.mem_append_left _ (List.mem_append_right _ List.mem_cons_self)

theorem history_sighting :
    ∃ entry, ((State.start (Registry.create 0 "main") sighting).run namesakes [0, 0, 0, 1, 1, 1]).history =
        [.invoked 0 (.register .command (.value 0) "4e1b2a0c-9f51-4d3e-b0b7-6b9c1f0e2a11"), .invoked 1 (.query (.byType (.value 0))),
          .returned 1 (.found (some entry))] ∧
      ((State.start (Registry.create 0 "main") sighting).run namesakes [0, 0, 0, 1, 1, 1]).registry.byType (.value 0) =
        some entry := by
  have hparse : Identifier.parse "4e1b2a0c-9f51-4d3e-b0b7-6b9c1f0e2a11" =
      .ok ⟨"4e1b2a0c-9f51-4d3e-b0b7-6b9c1f0e2a11", by decide⟩ := Identifier.parse_eq_ok_iff.2 (by decide)
  have hprepare : Registry.prepare namesakes (.value 0) "4e1b2a0c-9f51-4d3e-b0b7-6b9c1f0e2a11" = .ok _ :=
    Registry.prepare_of_value hparse rfl
  simp [State.start, sighting, State.step, Thread.step, Pending.start, hprepare, Pending.step, Registration.result?,
    Registration.step, Registry.compareAndSwap, Snapshot.conflict?, Registry.snapshot, Registry.create, Snapshot.findType?_extend,
    Query.answer, Registry.byType]

/-- What a lookup has found need not have been returned by any registration yet. -/
theorem found_before_returned :
    ∃ entry, .returned 1 (.found (some entry)) ∈
        ((State.start (Registry.create 0 "main") sighting).run namesakes [0, 0, 0, 1, 1, 1]).history ∧
      ((State.start (Registry.create 0 "main") sighting).run namesakes [0, 0, 0, 1, 1, 1]).registry.byType (.value 0) =
        some entry ∧
      ¬ Returned namesakes (State.start (Registry.create 0 "main") sighting) [0, 0, 0, 1, 1, 1] entry := by
  obtain ⟨entry, hhistory, hfound⟩ := history_sighting
  refine ⟨entry, by rw [hhistory]; simp, hfound, fun hreturned => ?_⟩
  cases hreturned with
  | @called thread hreturns =>
    rw [hhistory, returns, List.mem_filterMap] at hreturns
    obtain ⟨moment, hmoment, hanswer⟩ := hreturns
    simp only [List.mem_cons, List.not_mem_nil, or_false] at hmoment
    rcases hmoment with rfl | rfl | rfl <;> simp at hanswer
  | @declared past thread series registration _ hpending _ _ =>
    obtain ⟨declarations, hcall⟩ := exists_declarations hpending
    rcases thread with _ | _ | thread <;> simp [sighting] at hcall

end Concurrent

end MessageCatalog
