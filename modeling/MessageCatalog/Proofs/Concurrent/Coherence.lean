import MessageCatalog.Proofs.Concurrent.Turn
import MessageCatalog.Proofs.Snapshot.Coherence

/-!
# Every snapshot is coherent

Descriptors enter a snapshot only by a merge, which looks for conflicts in the very publication that it extends, also when it is an attempt after many lost races. So every snapshot in anyone's hands is coherent: the published one, those that guards hold, and those that a registration has read or is about to publish.
-/

namespace MessageCatalog

open Concurrent

variable {table : TypeTable} {registry : Registry}

/-- The registry was created empty, and since then was only used: by one call after another, or by threads at once. -/
inductive Registry.Reachable (table : TypeTable) : Registry → Prop where
  | create (serial : Nat) (label : String) : Reachable table (Registry.create serial label)
  | answer {registry : Registry} (call : Call) : Reachable table registry → Reachable table (call.answer table registry).2
  | run {registry : Registry} (calls : List (List Call)) (schedule : List Nat) :
    Reachable table registry → Reachable table ((State.start registry calls).run table schedule).registry

theorem Registry.MergeKeeps.answer {published : Published → Prop} (hkeeps : Registry.MergeKeeps table published)
    (h : published registry.current) (call : Call) : published (call.answer table registry).2.current := by
  cases call with
  | register kind type identifier => exact hkeeps.register h kind type identifier
  | registerDeclared declarations => exact hkeeps.registerDeclared declarations h
  | query query => exact h

theorem Registry.isValue_of_prepare {type : NativeType} {identifier : String} {entry : Descriptor}
    (h : prepare table type identifier = .ok entry) : entry.type.IsValue := by
  obtain ⟨canonical, -, hvalue, rfl⟩ := prepare_eq_ok_iff.1 h
  exact hvalue

def Published.Coherent (current : Published) : Prop := current.snapshot.Coherent

theorem Published.mergeKeeps_coherent (table : TypeTable) : Registry.MergeKeeps table Published.Coherent := by
  refine ⟨fun {current entry type identifier} h hentry => ?_⟩
  cases hconflict : current.snapshot.conflict? entry with
  | some error =>
    rw [Published.merge_of_conflict hconflict]
    exact h
  | none =>
    rw [Published.merge_of_free hconflict]
    exact h.extend hconflict (Registry.isValue_of_prepare hentry)

theorem Registry.Reachable.coherent (h : registry.Reachable table) : registry.snapshot.Coherent := by
  induction h with
  | create serial label => exact Snapshot.coherent_empty
  | answer call _ ih => exact (Published.mergeKeeps_coherent table).answer ih call
  | run calls schedule _ ih => exact State.published_run (Published.mergeKeeps_coherent table) ih calls schedule

namespace Concurrent

open Merge

/-! ### Snapshots in the hands of registrations -/

/-- The registration is at work, and what it has read and what it would publish are coherent. -/
def HoldsCoherent (table : TypeTable) (current : Published) (registration : Registration) : Prop :=
  IsAtWork table current registration ∧ ∀ snapshot ∈ registration.held, snapshot.Coherent

theorem HoldsCoherent.step {registration : Registration} (h : HoldsCoherent table registry.current registration)
    (hcoherent : registry.snapshot.Coherent) :
    HoldsCoherent table (registration.step registry).2.current (registration.step registry).1 := by
  refine ⟨h.1.step, ?_⟩
  obtain ⟨⟨-, type, identifier, hentry⟩, -⟩ := h
  obtain ⟨kind, entry, phase⟩ := registration
  cases phase with
  | loading retries =>
    cases hconflict : registry.snapshot.conflict? entry with
    | some error => simp [Registration.step_loading_of_conflict hconflict, Registration.held]
    | none =>
      rw [Registration.step_loading_of_free hconflict]
      intro snapshot hsnapshot
      simp only [Registration.held, List.mem_cons, List.not_mem_nil, or_false] at hsnapshot
      rcases hsnapshot with rfl | rfl
      · exact hcoherent
      · exact hcoherent.extend hconflict (Registry.isValue_of_prepare hentry)
  | swapping retries seen replacement =>
    by_cases hstamp : registry.current.stamp = seen.stamp
    · simp [Registration.step_swapping_of_current hstamp, Registration.held]
    · simp [Registration.step_swapping_of_stale hstamp, Registration.held]
  | retrying retries => simp [Registration.step_retrying, Registration.held]
  | announcing retries length => simp [Registration.step_announcing, Registration.held]
  | rejecting error => simp [Registration.step_rejecting, Registration.held]
  | finished result => simp [Registration.step, Registration.held]

theorem keeps_holdsCoherent (table : TypeTable) :
    State.Keeps table Published.Coherent (HoldsCoherent table) where
  fresh _ hfresh := by
    refine ⟨hfresh.isAtWork _, fun snapshot hsnapshot => ?_⟩
    rw [Registration.held, hfresh.1] at hsnapshot
    exact absurd hsnapshot List.not_mem_nil
  own hpublished hwork :=
    ⟨hwork.1.keeps (Published.mergeKeeps_coherent table) hpublished, hwork.step hpublished⟩
  other _ hwork hbystander := ⟨hwork.1.bystander hbystander.1, hbystander.2⟩

namespace Audience

theorem coherent_guards {audience : Audience} (moves : List Move)
    (hstate : audience.state.Holds Published.Coherent (HoldsCoherent table))
    (hguards : ∀ guard ∈ audience.guards, guard.snapshot.Coherent) :
    ∀ guard ∈ (audience.run table moves).guards, guard.snapshot.Coherent := by
  induction moves generalizing audience with
  | nil => exact hguards
  | cons move moves ih =>
    have hnext : (audience.step table move).state.Holds Published.Coherent (HoldsCoherent table) := by
      rw [state_step]
      exact hstate.run (keeps_holdsCoherent table) _
    apply ih hnext
    cases move with
    | turn thread => exact hguards
    | pin =>
      intro guard hguard
      rcases List.mem_append.1 hguard with hold | hnew
      · exact hguards guard hold
      · rw [List.mem_singleton.1 hnew]
        exact hstate.1
    | walk guard via => cases hguard : audience.guards[guard]? <;> simpa [Audience.step, hguard] using hguards
    | draw reading count =>
      cases hreading : audience.readings[reading]? <;> simpa [Audience.step, hreading] using hguards

/-- Whatever threads and onlookers do with a registry, in whatever order, every snapshot in anyone's hands is coherent. -/
theorem coherent_of_mem_snapshots (hreachable : registry.Reachable table) (calls : List (List Call)) (moves : List Move) :
    ∀ snapshot ∈ ((start registry calls).run table moves).snapshots, snapshot.Coherent := by
  have hstart : (State.start registry calls).Holds Published.Coherent (HoldsCoherent table) :=
    State.holds_start hreachable.coherent calls
  have hstate : ((start registry calls).run table moves).state.Holds Published.Coherent (HoldsCoherent table) := by
    rw [state_run]
    exact hstart.run (keeps_holdsCoherent table) (turns moves)
  intro snapshot hsnapshot
  simp only [snapshots, List.mem_cons, List.mem_append, List.mem_map, List.mem_flatMap, Option.mem_toList] at hsnapshot
  rcases hsnapshot with rfl | ⟨guard, hguard, rfl⟩ | ⟨thread, hthread, registration, hregistration, hheld⟩
  · exact hstate.1
  · exact coherent_guards moves hstart (by simp [start]) guard hguard
  · exact (hstate.2 thread hthread registration hregistration).2 snapshot hheld

/-- A guard is taken when one of two threads has published and the other is about to lose the race. -/
theorem coherent_of_mem_snapshots_race :
    Registry.Reachable namesakes (Registry.create 0 "main") ∧
      ∀ snapshot ∈ ((start (Registry.create 0 "main") race).run namesakes
        [.turn 0, .turn 1, .turn 0, .turn 1, .turn 0, .pin, .turn 1]).snapshots, snapshot.Coherent :=
  ⟨.create 0 "main", coherent_of_mem_snapshots (.create 0 "main") race _⟩

end Audience

end Concurrent

end MessageCatalog
