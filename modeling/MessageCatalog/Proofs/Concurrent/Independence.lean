import MessageCatalog.Proofs.Concurrent.Completion
import MessageCatalog.Proofs.Concurrent.Contest
import MessageCatalog.Proofs.Concurrent.RoundTrip

/-!
# Requests that do not conflict

Requests that share no type and no identifier, neither with each other nor with the table, do not disturb each other: under every schedule each of them is granted, and schedules differ in the order of the new entries only. A refusal would have to tell of a conflict, and there is none, so `Settled.eq_ok` leaves no request refused; the table then has the old entries and the granted ones, each once, and lookups depend on what is in the table alone.
-/

namespace MessageCatalog

/-- No two of the requests conflict, and none of them conflicts with an entry of the table. -/
structure Apart (before : List Descriptor) (requests : List Request) : Prop where
  pairwise : requests.Pairwise fun left right => ¬ left.binding.Conflicts right.binding
  new : ∀ request ∈ requests, ∀ old ∈ before, ¬ request.binding.Conflicts old.binding

/-! ### The table -/

section Table

variable {table : TypeTable} {before after added : List Descriptor} {requests : List Request}
  {outcome : Fin requests.length → Except RegisterError Descriptor}

theorem Apart.not_conflicts (h : Apart before requests) {i j : Nat} {left right : Request} (hleft : requests[i]? = some left)
    (hright : requests[j]? = some right) (hne : i ≠ j) : ¬ left.binding.Conflicts right.binding := by
  obtain ⟨hi, rfl⟩ := List.getElem?_eq_some_iff.1 hleft
  obtain ⟨hj, rfl⟩ := List.getElem?_eq_some_iff.1 hright
  have hordered := List.pairwise_iff_getElem.1 h.pairwise
  rcases Nat.lt_or_gt_of_ne hne with hlt | hlt
  · exact hordered i j hi hj hlt
  · exact fun hconflict => hordered j i hj hi hlt hconflict.symm

theorem Apart.nodup_descriptors (table : TypeTable) (h : Apart before requests) :
    (requests.map fun request => request.binding.descriptor table).Nodup := by
  refine List.pairwise_map.2 (h.pairwise.imp fun hapart hsame => hapart (.inl ?_))
  exact congrArg Descriptor.type hsame

/-- Requests that are apart are all granted: there is nothing that a refusal could tell. -/
theorem Settled.eq_ok (h : Settled table before after requests outcome) (hapart : Apart before requests)
    {i : Fin requests.length} {request : Request} (hrequest : requests[i.val]? = some request) :
    outcome i = .ok (request.binding.descriptor table) := by
  have hown := (List.getElem?_eq_getElem i.isLt).symm.trans hrequest
  obtain rfl := Option.some.inj hown
  cases houtcome : outcome i with
  | ok entry =>
    rw [h.granted i entry houtcome]
    rfl
  | error error =>
    rcases h.conflicts i error houtcome with ⟨old, hold, hconflict⟩ | ⟨j, entry, hentry, hconflict⟩
    · exact absurd hconflict (hapart.new _ (List.getElem_mem i.isLt) old hold)
    · have hne : i.val ≠ j.val := fun hsame => nomatch (Fin.ext hsame ▸ houtcome).symm.trans hentry
      exact absurd hconflict (hapart.not_conflicts hrequest (List.getElem?_eq_getElem j.isLt) hne)

theorem Settled.mem_iff_of_apart (h : Settled table before after requests outcome) (hapart : Apart before requests)
    (entry : Descriptor) :
    entry ∈ after ↔ entry ∈ before ∨ entry ∈ requests.map fun request => request.binding.descriptor table := by
  rw [h.mem_iff, List.mem_map]
  refine or_congr_right ⟨fun ⟨i, hi⟩ => ?_, fun ⟨request, hrequest, hentry⟩ => ?_⟩
  · have hown := h.eq_ok hapart (List.getElem?_eq_getElem i.isLt)
    exact ⟨_, List.getElem_mem i.isLt, Except.ok.inj (hown.symm.trans hi)⟩
  · obtain ⟨i, hi, hsame⟩ := List.getElem_of_mem hrequest
    exact ⟨⟨i, hi⟩, hentry ▸ h.eq_ok hapart (List.getElem?_eq_some_iff.2 ⟨hi, hsame⟩)⟩

/-- What is new in the table are the descriptors of the requests, each once. -/
theorem Settled.added_perm (h : Settled table before after requests outcome) (hapart : Apart before requests)
    (hafter : after = before ++ added) (hnodup : after.Nodup) :
    added.Perm (requests.map fun request => request.binding.descriptor table) := by
  rw [hafter, List.nodup_append] at hnodup
  obtain ⟨-, hadded, hdisjoint⟩ := hnodup
  rw [List.perm_ext_iff_of_nodup hadded (hapart.nodup_descriptors table)]
  intro entry
  have hmem := h.mem_iff_of_apart hapart entry
  rw [hafter, List.mem_append] at hmem
  constructor
  · intro hentry
    exact (hmem.1 (.inr hentry)).resolve_left fun hold => hdisjoint entry hold entry hentry rfl
  · intro hentry
    refine (hmem.2 (.inr hentry)).resolve_left fun hold => ?_
    obtain ⟨request, hrequest, rfl⟩ := List.mem_map.1 hentry
    exact hapart.new request hrequest _ hold (.inl rfl)

end Table

/-! ### Lookups -/

namespace Snapshot.Coherent

variable {left right : Snapshot}

theorem findType?_congr (hleft : left.Coherent) (hright : right.Coherent)
    (h : ∀ entry, entry ∈ left.table ↔ entry ∈ right.table) (type : NativeType) : left.findType? type = right.findType? type := by
  ext entry
  rw [hleft.findType?_iff, hright.findType?_iff, h]

theorem findIdentifier?_congr (hleft : left.Coherent) (hright : right.Coherent)
    (h : ∀ entry, entry ∈ left.table ↔ entry ∈ right.table) (raw : String) :
    left.findIdentifier? raw = right.findIdentifier? raw := by
  ext entry
  rw [hleft.findIdentifier?_iff, hright.findIdentifier?_iff, h]

end Snapshot.Coherent

/-- The same is found under every type and under every text. -/
def Registry.SameLookups (left right : Registry) : Prop :=
  (∀ type, left.byType type = right.byType type) ∧ ∀ text, left.byIdentifier text = right.byIdentifier text

theorem Registry.sameLookups_of_mem_iff {left right : Registry} (hleft : left.snapshot.Coherent) (hright : right.snapshot.Coherent)
    (h : ∀ entry, entry ∈ left.snapshot.table ↔ entry ∈ right.snapshot.table) : left.SameLookups right := by
  refine ⟨hleft.findType?_congr hright h, fun text => ?_⟩
  rw [byIdentifier, byIdentifier]
  cases Identifier.parse text with
  | error cause => rfl
  | ok identifier =>
    dsimp only
    rw [hleft.findIdentifier?_congr hright h]

namespace Concurrent

variable {table : TypeTable} {registry : Registry} {requests : List Request} {schedule : List Nat}

/-! ### Schedules -/

theorem count_rounds {threads thread : Nat} (h : thread < threads) (count : Nat) :
    (State.rounds threads count).count thread = count := by
  have hone : (List.range threads).count thread = 1 := List.count_eq_one_of_mem List.nodup_range (List.mem_range.2 h)
  rw [State.rounds, List.count_flatten, List.map_replicate, hone, List.sum_replicate_nat, Nat.mul_one]

theorem openings_contest (registry : Registry) (requests : List Request) :
    (State.start registry (contest requests)).openings = requests.length := by
  have hone : ∀ request : Request, Thread.openings { calls := [request.call] } = 1 := fun _ => rfl
  simp [State.openings, State.start, contest, List.map_map, Function.comp_def, hone]

/-- Six turns and three for every race that can be lost are enough. -/
theorem due_contest_le (registry : Registry) (requests : List Request) (thread : Nat) :
    (State.start registry (contest requests)).due thread ≤ 3 * requests.length + 6 := by
  have hown : ((State.start registry (contest requests)).thread thread).due registry ≤ 6 := by
    rw [State.thread_start, contest, List.getElem?_map]
    cases requests[thread]? with
    | none => exact Nat.zero_le _
    | some request => exact Nat.le_refl _
  have hregistry : (State.start registry (contest requests)).registry = registry := rfl
  rw [State.due, openings_contest, hregistry]
  omega

theorem isIdle_contest (table : TypeTable) (registry : Registry)
    (h : ∀ thread < requests.length, 3 * requests.length + 6 ≤ schedule.count thread) :
    ((State.start registry (contest requests)).run table schedule).isIdle := by
  refine State.isIdle_run table fun thread hthread => Nat.le_trans (due_contest_le registry requests thread) (h thread ?_)
  simpa [State.start, contest] using hthread

/-! ### All interleavings -/

/-- Every request has returned its descriptor, and the table has got these descriptors and no others, in some order. -/
structure GrantsAll (table : TypeTable) (registry : Registry) (requests : List Request) (state : State) : Prop where
  returns : ∀ (thread : Nat) request, requests[thread]? = some request →
    returns state.history thread = [.registered (.ok (request.binding.descriptor table))]
  table : ∃ added, added.Perm (requests.map fun request => request.binding.descriptor table) ∧
    state.registry.snapshot.table = registry.snapshot.table ++ added

/-- What does not depend on the schedule when each request has a thread of its own. -/
structure IsScheduleFree (table : TypeTable) (registry : Registry) (requests : List Request) : Prop where
  /-- Enough turns for everybody complete all requests, in whatever order they come. -/
  completes : ∀ schedule, (∀ thread < requests.length, 3 * requests.length + 6 ≤ schedule.count thread) →
    ((State.start registry (contest requests)).run table schedule).isIdle
  grantsAll : ∀ schedule, ((State.start registry (contest requests)).run table schedule).isIdle →
    GrantsAll table registry requests ((State.start registry (contest requests)).run table schedule)
  /-- At no moment has a request returned anything but its descriptor. -/
  returns_prefix : ∀ schedule (thread : Nat) request, requests[thread]? = some request →
    returns ((State.start registry (contest requests)).run table schedule).history thread <+:
      [.registered (.ok (request.binding.descriptor table))]
  sameLookups : ∀ schedule other, ((State.start registry (contest requests)).run table schedule).isIdle →
    ((State.start registry (contest requests)).run table other).isIdle →
    ((State.start registry (contest requests)).run table schedule).registry.SameLookups
      ((State.start registry (contest requests)).run table other).registry

theorem grantsAll_of_isIdle (hreachable : registry.Reachable table) (hapart : Apart registry.snapshot.table requests)
    (hidle : ((State.start registry (contest requests)).run table schedule).isIdle) :
    GrantsAll table registry requests ((State.start registry (contest requests)).run table schedule) := by
  obtain ⟨outcome, hreturns, hsettled⟩ := exists_settled_run hreachable hidle
  have hwork : (State.start registry (contest requests)).Holds Published.Coherent (IsAtWork table) :=
    State.holds_start hreachable.coherent _
  have htable := State.table_run (Published.mergeKeeps_coherent table) hwork schedule
  have hcoherent := (hreachable.run (contest requests) schedule).coherent
  refine ⟨fun thread request hrequest => ?_,
    _, hsettled.added_perm hapart htable (List.Nodup.of_map _ hcoherent.types_nodup), htable⟩
  obtain ⟨hthread, -⟩ := List.getElem?_eq_some_iff.1 hrequest
  have hown := hreturns ⟨thread, hthread⟩
  rwa [hsettled.eq_ok hapart hrequest] at hown

/-- Requests that do not conflict are all granted whatever the schedule, and nothing but the order of the new entries depends on it. -/
theorem isScheduleFree_of_apart (hreachable : registry.Reachable table) (hapart : Apart registry.snapshot.table requests) :
    IsScheduleFree table registry requests where
  completes schedule := isIdle_contest table registry
  grantsAll schedule := grantsAll_of_isIdle hreachable hapart
  returns_prefix schedule thread request hrequest := by
    -- any schedule is the beginning of one that completes all requests
    have hidle : ((State.start registry (contest requests)).run table
        (schedule ++ State.rounds requests.length (3 * requests.length + 6))).isIdle := by
      refine isIdle_contest table registry fun thread hthread => ?_
      rw [List.count_append, count_rounds hthread]
      exact Nat.le_add_left _ _
    rw [← (grantsAll_of_isIdle hreachable hapart hidle).returns thread request hrequest, State.run_append]
    exact (State.history_prefix_run table _ _).filterMap _
  sameLookups schedule other hidle hother := by
    obtain ⟨outcome, -, hsettled⟩ := exists_settled_run hreachable hidle
    obtain ⟨otherOutcome, -, hothers⟩ := exists_settled_run hreachable hother
    refine Registry.sameLookups_of_mem_iff (hreachable.run (contest requests) schedule).coherent
      (hreachable.run (contest requests) other).coherent fun entry => ?_
    rw [hsettled.mem_iff_of_apart hapart, hothers.mem_iff_of_apart hapart]

/-- Two requests that have nothing in common. -/
def strangers : List Request :=
  [⟨.command, "7c9e6679-7425-40de-944b-e07fc1f90ae7", ⟨.value 2, ⟨"7c9e6679-7425-40de-944b-e07fc1f90ae7", by decide⟩⟩,
      Identifier.parse_eq_ok_iff.2 (by decide), rfl⟩,
    ⟨.event, "7C9E6679-7425-40DE-944B-E07FC1F90AE8", ⟨.value 3, ⟨"7c9e6679-7425-40de-944b-e07fc1f90ae8", by decide⟩⟩,
      Identifier.parse_eq_ok_iff.2 (by decide), rfl⟩]

theorem isScheduleFree_of_apart_strangers :
    Registry.Reachable namesakes (Registry.create 0 "main") ∧ Apart (Registry.create 0 "main").snapshot.table strangers ∧
      IsScheduleFree namesakes (Registry.create 0 "main") strangers := by
  have hapart : Apart (Registry.create 0 "main").snapshot.table strangers :=
    ⟨by decide, by simp [Registry.create, Registry.snapshot]⟩
  exact ⟨.create 0 "main", hapart, isScheduleFree_of_apart (.create 0 "main") hapart⟩

end Concurrent

end MessageCatalog
