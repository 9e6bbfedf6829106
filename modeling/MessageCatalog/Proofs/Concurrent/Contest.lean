import Mathlib.Data.List.Pairwise
import Mathlib.Tactic.Choose
import MessageCatalog.Proofs.Concurrent.Coherence
import MessageCatalog.Proofs.Concurrent.Linearization
import MessageCatalog.Proofs.Registry.Conflict

/-!
# Who wins a race

Requests that race for types and identifiers are granted or refused as if they had been made one after another, so what holds of every order holds of every race: those that are granted conflict with nothing and no two of them with each other, and whoever is refused conflicts with something that is in the table and is told so truly. `Settled` collects these facts about the table before and after, and knows nothing of threads.
-/

namespace MessageCatalog

/-! ### Settled requests -/

/-- The requests are granted or refused, and the table after them bears it out. -/
structure Settled (table : TypeTable) (before after : List Descriptor) (requests : List Request)
    (outcome : Fin requests.length → Except RegisterError Descriptor) : Prop where
  granted : ∀ i entry, outcome i = .ok entry → entry = requests[i].binding.descriptor table
  /-- The table has its old entries and those that were granted. -/
  mem_iff : ∀ entry, entry ∈ after ↔ entry ∈ before ∨ ∃ i, outcome i = .ok entry
  not_conflicts_before : ∀ i entry, outcome i = .ok entry → ∀ old ∈ before, ¬ requests[i].binding.Conflicts old.binding
  not_conflicts : ∀ i j entry other, i ≠ j → outcome i = .ok entry → outcome j = .ok other →
    ¬ requests[i].binding.Conflicts requests[j].binding
  /-- A refused request conflicts with an old entry or with a request that is granted. -/
  conflicts : ∀ i error, outcome i = .error error →
    (∃ old ∈ before, requests[i].binding.Conflicts old.binding) ∨
      ∃ j entry, outcome j = .ok entry ∧ requests[i].binding.Conflicts requests[j].binding
  tells : ∀ i error, outcome i = .error error → error.Tells table requests[i].binding after

/-- Requests of one new identifier for different types: one of them is granted, and those whose types are new as well are told whose the identifier is. -/
structure HasOneWinner (table : TypeTable) (before : List Descriptor) (requests : List Request)
    (outcome : Fin requests.length → Except RegisterError Descriptor) (identifier : Identifier) (winner : Fin requests.length) :
    Prop where
  granted : outcome winner = .ok (requests[winner].binding.descriptor table)
  refused : ∀ i, i ≠ winner → ∃ error, outcome i = .error error
  identifierConflict : ∀ i, i ≠ winner → (∀ old ∈ before, old.type ≠ requests[i].binding.type) →
    outcome i = .error (.identifierConflict (table.name requests[i].binding.type) identifier
      (table.name requests[winner].binding.type))

namespace Settled

variable {table : TypeTable} {before after : List Descriptor} {requests : List Request}
  {outcome : Fin requests.length → Except RegisterError Descriptor} {identifier : Identifier}

/-- A request for a new type and a new identifier is granted, or another one is that it conflicts with. -/
theorem exists_granted (h : Settled table before after requests outcome) {i : Fin requests.length}
    (htype : ∀ old ∈ before, old.type ≠ requests[i].binding.type)
    (hidentifier : ∀ old ∈ before, old.identifier ≠ requests[i].binding.identifier) : ∃ winner entry, outcome winner = .ok entry := by
  cases houtcome : outcome i with
  | ok entry => exact ⟨i, entry, houtcome⟩
  | error error =>
    rcases h.conflicts i error houtcome with ⟨old, hold, hconflict⟩ | ⟨j, entry, hentry, -⟩
    · rcases hconflict with hsame | hsame
      · exact absurd hsame.symm (htype old hold)
      · exact absurd hsame.symm (hidentifier old hold)
    · exact ⟨j, entry, hentry⟩

theorem refused_of_ne (h : Settled table before after requests outcome)
    (hsame : ∀ i : Fin requests.length, requests[i].binding.identifier = identifier) {winner i : Fin requests.length}
    {entry : Descriptor} (hwinner : outcome winner = .ok entry) (hne : i ≠ winner) : ∃ error, outcome i = .error error := by
  cases houtcome : outcome i with
  | ok other => exact absurd (.inr ((hsame i).trans (hsame winner).symm)) (h.not_conflicts i winner other entry hne houtcome hwinner)
  | error error => exact ⟨error, rfl⟩

theorem exists_hasOneWinner (h : Settled table before after requests outcome)
    (hsame : ∀ i : Fin requests.length, requests[i].binding.identifier = identifier)
    (hnew : ∀ old ∈ before, old.identifier ≠ identifier)
    (htypes : ∀ i j : Fin requests.length, requests[i].binding.type = requests[j].binding.type → i = j)
    (hsome : ∃ i : Fin requests.length, ∀ old ∈ before, old.type ≠ requests[i].binding.type) :
    ∃ winner, HasOneWinner table before requests outcome identifier winner := by
  obtain ⟨first, hfirst⟩ := hsome
  obtain ⟨winner, entry, hwinner⟩ := h.exists_granted hfirst (hsame first ▸ hnew)
  have hentry := h.granted winner entry hwinner
  have honly : ∀ bound ∈ after, (bound ∈ before ∨ bound = requests[winner].binding.descriptor table) := by
    intro bound hbound
    refine ((h.mem_iff bound).1 hbound).imp_right fun ⟨j, hj⟩ => ?_
    by_cases hne : j = winner
    · subst hne
      exact h.granted j bound hj
    · obtain ⟨error, herror⟩ := h.refused_of_ne hsame hwinner hne
      exact nomatch hj.symm.trans herror
  refine ⟨winner, hentry ▸ hwinner, fun i hne => h.refused_of_ne hsame hwinner hne, fun i hne htype => ?_⟩
  obtain ⟨error, herror⟩ := h.refused_of_ne hsame hwinner hne
  -- the only entry that the table can hold against the request is the winner's
  have htells := h.tells i error herror
  have hother : requests[winner].binding.type ≠ requests[i].binding.type := fun heq => hne (htypes winner i heq).symm
  rw [herror]
  cases htells with
  | alreadyRegistered hbound hbinding =>
    rcases honly _ hbound with hold | rfl
    · exact absurd (congrArg Binding.type hbinding) (htype _ hold)
    · exact absurd (congrArg Binding.type hbinding) hother
  | typeConflict hbound hbinding _ =>
    rcases honly _ hbound with hold | rfl
    · exact absurd hbinding (htype _ hold)
    · exact absurd hbinding hother
  | identifierConflict hbound hbinding _ =>
    rcases honly _ hbound with hold | rfl
    · exact absurd (hbinding.trans (hsame i)) (hnew _ hold)
    · rw [hsame i]
      rfl

end Settled

namespace Concurrent

variable {table : TypeTable} {registry : Registry} {requests : List Request}

/-- One thread for each request. -/
def contest (requests : List Request) : List (List Call) := requests.map fun request => [request.call]

theorem isSingle_contest : ∀ thread ∈ contest requests, ∀ call ∈ thread, call.isSingle := by
  intro thread hthread call hcall
  obtain ⟨request, -, rfl⟩ := List.mem_map.1 hthread
  rw [List.mem_singleton.1 hcall]
  rfl

/-- In an order of all calls of a contest, each request has its place. -/
structure IsRanking (requests : List Request) (history : List Moment) (order : List Operation)
    (operation : Fin requests.length → Operation) : Prop where
  mem : ∀ i, operation i ∈ order
  call : ∀ i, (operation i).call = requests[i].call
  returns : ∀ i : Fin requests.length, returns history i = [(operation i).answer]
  injective : ∀ i j, operation i = operation j → i = j
  exhaustive : ∀ other ∈ order, ∃ i, other = operation i

theorem exists_isRanking {history : List Moment} {order : List Operation}
    (hcalls : ∀ thread, (ofThread order thread).map Operation.call = (contest requests)[thread]?.getD [])
    (hanswers : ∀ thread, (ofThread order thread).map Operation.answer = returns history thread) :
    ∃ operation, IsRanking requests history order operation := by
  have hone : ∀ i : Fin requests.length, ∃ operation, ofThread order i = [operation] ∧ operation.call = requests[i].call := by
    intro i
    have hcall := hcalls i
    rw [contest, List.getElem?_map, List.getElem?_eq_getElem i.isLt] at hcall
    obtain ⟨operation, hoperation, hsame⟩ := List.map_eq_singleton_iff.1 hcall
    exact ⟨operation, hoperation, hsame⟩
  choose operation hoperation hcall using hone
  have hmem : ∀ i, operation i ∈ order ∧ (operation i).thread = i := by
    intro i
    have hown : operation i ∈ ofThread order i := hoperation i ▸ List.mem_cons_self
    obtain ⟨hmem, hthread⟩ := List.mem_filter.1 hown
    exact ⟨hmem, eq_of_beq hthread⟩
  refine ⟨operation, fun i => (hmem i).1, hcall, fun i => ?_, fun i j hsame => ?_, fun other hother => ?_⟩
  · rw [← hanswers, hoperation]
    rfl
  · apply Fin.ext
    rw [← (hmem i).2, ← (hmem j).2, hsame]
  · have hown : other ∈ ofThread order other.thread := List.mem_filter.2 ⟨hother, beq_self_eq_true _⟩
    have hlt : other.thread < requests.length := by
      by_contra hge
      have hnone := hcalls other.thread
      rw [contest, List.getElem?_eq_none (by rw [List.length_map]; omega)] at hnone
      rw [List.map_eq_nil_iff.1 hnone] at hown
      exact absurd hown List.not_mem_nil
    have hsame := hoperation ⟨other.thread, hlt⟩
    rw [hsame, List.mem_singleton] at hown
    exact ⟨_, hown⟩

namespace IsRanking

variable {history : List Moment} {order : List Operation} {operation : Fin requests.length → Operation} {after : Snapshot}

theorem settled {before : List Descriptor} {outcome : Fin requests.length → Except RegisterError Descriptor}
    (h : IsRanking requests history order operation) (hcoherent : after.Coherent)
    (htable : after.table = before ++ order.filterMap fun operation => operation.answer.entry?)
    (houtcome : ∀ i, (operation i).answer = .registered (outcome i))
    (hfits : ∀ i, (operation i).answer.Fits table requests[i] after.table) :
    Settled table before after.table requests outcome := by
  have hentry : ∀ i entry, Answer.entry? (operation i).answer = some entry ↔ outcome i = .ok entry := by
    intro i entry
    rw [houtcome i]
    cases outcome i <;> simp [Answer.entry?]
  have hgranted : ∀ i entry, outcome i = .ok entry → entry = requests[i].binding.descriptor table := by
    intro i entry hi
    have hfit := hfits i
    rw [houtcome i, hi] at hfit
    cases hfit
    rfl
  have hmem : ∀ entry, entry ∈ after.table ↔ entry ∈ before ∨ ∃ i, outcome i = .ok entry := by
    intro entry
    rw [htable, List.mem_append, List.mem_filterMap]
    refine or_congr_right ⟨?_, fun ⟨i, hi⟩ => ⟨operation i, h.mem i, (hentry i entry).2 hi⟩⟩
    rintro ⟨other, hother, hsome⟩
    obtain ⟨i, rfl⟩ := h.exhaustive other hother
    exact ⟨i, (hentry i entry).1 hsome⟩
  have htells : ∀ i error, outcome i = .error error → error.Tells table requests[i].binding after.table := by
    intro i error hi
    have hfit := hfits i
    rw [houtcome i, hi] at hfit
    cases hfit with
    | refused htells => exact htells
  have hpairwise := hcoherent.pairwise_not_conflicts
  rw [htable, List.pairwise_append, List.pairwise_filterMap] at hpairwise
  obtain ⟨-, hwinners, hold⟩ := hpairwise
  refine ⟨hgranted, hmem, fun i entry hi old hmember hconflict => ?before, fun i j entry other hne hi hj hconflict => ?winners,
    fun i error hi => ?conflicts, htells⟩
  case before =>
    refine hold old hmember entry (List.mem_filterMap.2 ⟨operation i, h.mem i, (hentry i entry).2 hi⟩) ?_
    rw [hgranted i entry hi]
    exact hconflict.symm
  case winners =>
    have hsymm : Std.Symm fun first second : Operation => ∀ entry, first.answer.entry? = some entry →
        ∀ other, second.answer.entry? = some other → ¬ entry.binding.Conflicts other.binding :=
      ⟨fun _ _ hapart other hother entry hentry hconflict => hapart entry hentry other hother hconflict.symm⟩
    have hapart := hwinners.forall (h.mem i) (h.mem j) (mt (h.injective i j) hne) entry ((hentry i entry).2 hi) other
      ((hentry j other).2 hj)
    rw [hgranted i entry hi, hgranted j other hj] at hapart
    exact hapart hconflict
  case conflicts =>
    obtain ⟨entry, hmember, hconflict⟩ := (htells i error hi).exists_conflicts
    refine ((hmem entry).1 hmember).imp (fun hold => ⟨entry, hold, hconflict⟩) fun ⟨j, hj⟩ => ⟨j, entry, hj, ?_⟩
    rwa [hgranted j entry hj] at hconflict

theorem exists_settled (h : IsRanking requests history order operation) (hgenuine : registry.snapshot.Genuine table)
    (hreplay : (Call.answers table registry (order.map Operation.call)).1 = order.map Operation.answer)
    (hafter : (Call.answers table registry (order.map Operation.call)).2.snapshot = after) :
    ∃ outcome : Fin requests.length → Except RegisterError Descriptor,
      (∀ i, (operation i).answer = .registered (outcome i)) ∧
        Settled table registry.snapshot.table after.table requests outcome := by
  have hcalls : ∀ call ∈ order.map Operation.call, ∃ request : Request, call = request.call := by
    intro call hcall
    obtain ⟨other, hother, rfl⟩ := List.mem_map.1 hcall
    obtain ⟨i, rfl⟩ := h.exhaustive other hother
    exact ⟨requests[i], h.call i⟩
  obtain ⟨hlast, htable, hfits⟩ := Call.answers_requests hgenuine hcalls
  rw [hafter] at hlast
  rw [hreplay, hafter, List.filterMap_map] at htable
  rw [hreplay, hafter, List.forall₂_map_left_iff, List.forall₂_map_right_iff, List.forall₂_same] at hfits
  have hfit : ∀ i, (operation i).answer.Fits table requests[i] after.table :=
    fun i => hfits (operation i) (h.mem i) requests[i] (h.call i)
  have hresult : ∀ i, ∃ result, (operation i).answer = .registered result := by
    intro i
    generalize hanswer : (operation i).answer = answer
    have hown := hfit i
    rw [hanswer] at hown
    cases hown <;> exact ⟨_, rfl⟩
  choose outcome houtcome using hresult
  exact ⟨outcome, houtcome, h.settled hlast.toCoherent htable houtcome hfit⟩

end IsRanking

/-- Every request returns once, and what they return and what the table holds afterwards is settled by their conflicts. -/
theorem exists_settled_run {schedule : List Nat} (hreachable : registry.Reachable table)
    (hidle : ((State.start registry (contest requests)).run table schedule).isIdle) :
    ∃ outcome : Fin requests.length → Except RegisterError Descriptor,
      (∀ i : Fin requests.length,
        returns ((State.start registry (contest requests)).run table schedule).history i = [.registered (outcome i)]) ∧
      Settled table registry.snapshot.table ((State.start registry (contest requests)).run table schedule).registry.snapshot.table
        requests outcome := by
  obtain ⟨order, hexplains⟩ := (explains_start table registry (contest requests)).run isSingle_contest schedule
  obtain ⟨operation, hranking⟩ := exists_isRanking (fun thread => (hexplains.complete hidle thread).1)
    fun thread => (hexplains.complete hidle thread).2
  obtain ⟨outcome, houtcome, hsettled⟩ := hranking.exists_settled hreachable.genuine hexplains.replay
    (congrArg Published.snapshot hexplains.current)
  exact ⟨outcome, fun i => by rw [hranking.returns i, houtcome i], hsettled⟩

/-- However requests race, every one of them returns, the winners are a largest set without conflicts, and every loser is told a true conflict. Of requests of one new identifier for different types exactly one wins, if the type of any of them is new. -/
theorem exists_settled_contest (hreachable : registry.Reachable table) (requests : List Request) (schedule : List Nat)
    (hidle : ((State.start registry (contest requests)).run table schedule).isIdle) :
    ∃ outcome : Fin requests.length → Except RegisterError Descriptor,
      (∀ i : Fin requests.length,
        returns ((State.start registry (contest requests)).run table schedule).history i = [.registered (outcome i)]) ∧
      Settled table registry.snapshot.table ((State.start registry (contest requests)).run table schedule).registry.snapshot.table
        requests outcome ∧
      ∀ identifier, (∀ i : Fin requests.length, requests[i].binding.identifier = identifier) →
        (∀ old ∈ registry.snapshot.table, old.identifier ≠ identifier) →
        (∀ i j : Fin requests.length, requests[i].binding.type = requests[j].binding.type → i = j) →
        (∃ i : Fin requests.length, ∀ old ∈ registry.snapshot.table, old.type ≠ requests[i].binding.type) →
        ∃ winner, HasOneWinner table registry.snapshot.table requests outcome identifier winner := by
  obtain ⟨outcome, hreturns, hsettled⟩ := exists_settled_run hreachable hidle
  exact ⟨outcome, hreturns, hsettled, fun identifier hsame hnew htypes hsome => hsettled.exists_hasOneWinner hsame hnew htypes hsome⟩

/-- The two registrations of the race, as requests. -/
def rivals : List Request :=
  let identifier : Identifier := ⟨"4e1b2a0c-9f51-4d3e-b0b7-6b9c1f0e2a11", by decide⟩
  [⟨.command, "4e1b2a0c-9f51-4d3e-b0b7-6b9c1f0e2a11", ⟨.value 0, identifier⟩, Identifier.parse_eq_ok_iff.2 (by decide), rfl⟩,
    ⟨.event, "4E1B2A0C-9F51-4D3E-B0B7-6B9C1F0E2A11", ⟨.value 1, identifier⟩, Identifier.parse_eq_ok_iff.2 (by decide), rfl⟩]

theorem isIdle_rivals :
    ((State.start (Registry.create 0 "main") (contest rivals)).run namesakes [0, 1, 0, 1, 0, 1, 0, 0, 0, 1, 1, 1, 1, 1]).isIdle := by
  have hfirst := rivals[0].prepare_eq namesakes
  have hlast := rivals[1].prepare_eq namesakes
  simp only [rivals, List.getElem_cons_zero, List.getElem_cons_succ] at hfirst hlast
  simp [State.start, contest, rivals, Request.call, State.step, Thread.step, Pending.start, hfirst, hlast, Pending.step,
    Merge.Registration.result?, Merge.Registration.step, Registry.compareAndSwap, Snapshot.conflict?, Registry.snapshot,
    Registry.create, Snapshot.findType?_extend, Snapshot.findIdentifier?_extend, Registry.report, State.isIdle, Thread.isIdle,
    Binding.descriptor]

/-- Both have read the empty registry before either publishes, and the second has to read again to find its conflict. -/
theorem exists_settled_contest_race :
    Registry.Reachable namesakes (Registry.create 0 "main") ∧
      ((State.start (Registry.create 0 "main") (contest rivals)).run namesakes
        [0, 1, 0, 1, 0, 1, 0, 0, 0, 1, 1, 1, 1, 1]).isIdle ∧
      ∃ outcome : Fin rivals.length → Except RegisterError Descriptor,
        (∀ i : Fin rivals.length, returns ((State.start (Registry.create 0 "main") (contest rivals)).run namesakes
          [0, 1, 0, 1, 0, 1, 0, 0, 0, 1, 1, 1, 1, 1]).history i = [.registered (outcome i)]) ∧
        ∃ winner, HasOneWinner namesakes [] rivals outcome rivals[0].binding.identifier winner := by
  obtain ⟨outcome, hreturns, -, hwinner⟩ :=
    exists_settled_contest (.create 0 "main") rivals [0, 1, 0, 1, 0, 1, 0, 0, 0, 1, 1, 1, 1, 1] isIdle_rivals
  have hfirst : ∀ old ∈ (Registry.create 0 "main").snapshot.table, old.type ≠ rivals[0].binding.type := by
    simp [Registry.create, Registry.snapshot]
  exact ⟨.create 0 "main", isIdle_rivals, outcome, hreturns, hwinner rivals[0].binding.identifier (by decide)
    (by simp [Registry.create, Registry.snapshot]) (by decide) ⟨⟨0, by decide⟩, hfirst⟩⟩

end Concurrent

end MessageCatalog
