import Mathlib.Algebra.GroupWithZero.Nat
import Mathlib.Data.List.Induction
import MessageCatalog.Proofs.Concurrent.History

/-!
# Every call returns

A registration that loses a race starts over, so the turns that a call takes depend on what others do. Yet there is a bound: somebody else has to publish for a race to be lost, and a publication uses up one of the registrations that the threads were given. `State.due` counts the turns that a thread may still need, together with the races that it may still lose. A turn of its own lowers the count, a turn of another thread never raises it, and so a thread that gets as many turns as it is due has made all its calls and has all its answers.
-/

namespace MessageCatalog

/-- How many descriptors the call may publish. -/
def Call.openings : Call → Nat
  | register .. => 1
  | registerDeclared declarations => declarations.length
  | query _ => 0

/-- How many turns the call takes at most if nothing interferes. -/
def Call.turns : Call → Nat
  | register .. => 6
  | registerDeclared declarations => 5 * declarations.length + 3
  | query _ => 3

/-- Nothing is published, or one of the publications that were open is used up. -/
def Spends (before after : Published) (openings left : Nat) : Prop := after = before ∧ left ≤ openings ∨ left < openings

theorem Spends.of_le {before : Published} {openings left : Nat} (h : left ≤ openings) : Spends before before openings left :=
  .inl ⟨rfl, h⟩

theorem Spends.add_right {before after : Published} {openings left : Nat} (h : Spends before after openings left) (rest : Nat) :
    Spends before after (openings + rest) (left + rest) :=
  h.imp (And.imp_right fun hle => Nat.add_le_add_right hle rest) fun hlt => Nat.add_lt_add_right hlt rest

theorem Call.turns_pos (call : Call) : 0 < call.turns := by
  cases call <;> simp [turns]

/-! ### One registration -/

namespace Merge.Registration

variable {registry later : Registry}

/-- How many descriptors the registration may still publish. -/
def openings (registration : Registration) : Nat :=
  match registration.phase with
  | .loading _ => 1
  | .swapping .. => 1
  | .retrying _ => 1
  | _ => 0

theorem remaining_of_current (registration : Registration) (h : later.current = registry.current) :
    registration.remaining later = registration.remaining registry := by
  simp only [remaining, h]

/-- Whatever is published meanwhile costs no more than one race. -/
theorem remaining_le (registration : Registration) (registry later : Registry) :
    registration.remaining later ≤ registration.remaining registry + 3 := by
  obtain ⟨kind, entry, phase⟩ := registration
  cases phase with
  | swapping retries seen replacement =>
    simp only [remaining]
    split <;> split <;> omega
  | loading retries => exact Nat.le_add_right _ _
  | retrying retries => exact Nat.le_add_right _ _
  | announcing retries length => exact Nat.le_add_right _ _
  | rejecting error => exact Nat.le_add_right _ _
  | finished result => exact Nat.le_add_right _ _

theorem openings_step (registration : Registration) (registry : Registry) :
    Spends registry.current (registration.step registry).2.current registration.openings
      (registration.step registry).1.openings := by
  obtain ⟨kind, entry, phase⟩ := registration
  cases phase with
  | loading retries =>
    cases hconflict : registry.snapshot.conflict? entry with
    | some error =>
      rw [step_loading_of_conflict hconflict]
      exact .of_le (Nat.zero_le _)
    | none =>
      rw [step_loading_of_free hconflict]
      exact .of_le (Nat.le_refl _)
  | swapping retries seen replacement =>
    by_cases hstamp : registry.current.stamp = seen.stamp
    · rw [step_swapping_of_current hstamp]
      exact .inr Nat.zero_lt_one
    · rw [step_swapping_of_stale hstamp]
      exact .of_le (Nat.le_refl _)
  | retrying retries => exact .of_le (Nat.le_refl _)
  | announcing retries length => exact .of_le (Nat.le_refl _)
  | rejecting error => exact .of_le (Nat.le_refl _)
  | finished result => exact .of_le (Nat.le_refl _)

end Merge.Registration

namespace Concurrent

open Merge

variable {table : TypeTable} {registry later : Registry}

/-! ### One call -/

namespace Pending

/-- How many turns are left if nothing interferes, the return included. -/
def due (registry : Registry) : Pending → Nat
  | registering registration => registration.remaining registry + 2
  | declaring series =>
    series.current?.elim 0 (fun registration => registration.remaining registry + 1) + 5 * series.rest.length + 2
  | asking _ => 2
  | returning _ => 1

def openings : Pending → Nat
  | registering registration => registration.openings
  | declaring series => series.current?.elim 0 Registration.openings + series.rest.length
  | asking _ => 0
  | returning _ => 0

theorem due_pos (pending : Pending) (registry : Registry) : 0 < pending.due registry := by
  cases pending <;> simp [due]

theorem due_of_current (pending : Pending) (h : later.current = registry.current) : pending.due later = pending.due registry := by
  simp only [due, Registration.remaining_of_current _ h]

theorem due_le (pending : Pending) (registry later : Registry) : pending.due later ≤ pending.due registry + 3 := by
  cases pending with
  | registering registration => exact Nat.add_le_add_right (registration.remaining_le registry later) 2
  | declaring series =>
    obtain ⟨current?, rest, done⟩ := series
    cases current? with
    | none => exact Nat.le_add_right _ _
    | some registration =>
      have hremaining := registration.remaining_le registry later
      simp only [due, Option.elim]
      omega
  | asking question => exact Nat.le_add_right _ _
  | returning answer => exact Nat.le_add_right _ _

theorem due_start (table : TypeTable) (call : Call) (registry : Registry) : (Pending.start table call).due registry < call.turns := by
  cases call with
  | register kind type identifier =>
    cases hentry : Registry.prepare table type identifier with
    | error error => rw [start_of_refused hentry]; simp [due, Call.turns]
    | ok entry => rw [start_of_prepared hentry]; simp [due, Call.turns, Registration.remaining]
  | registerDeclared declarations =>
    have hlength := (Declaration.inOrder_perm declarations).length_eq
    simp only [start, due, Option.elim, Call.turns]
    omega
  | query question => simp [start, due, Call.turns]

theorem openings_start (table : TypeTable) (call : Call) : (Pending.start table call).openings ≤ call.openings := by
  cases call with
  | register kind type identifier =>
    cases hentry : Registry.prepare table type identifier with
    | error error => rw [start_of_refused hentry]; exact Nat.zero_le _
    | ok entry => rw [start_of_prepared hentry]; exact Nat.le_refl _
  | registerDeclared declarations =>
    have hlength := (Declaration.inOrder_perm declarations).length_eq
    simp only [start, openings, Option.elim, Call.openings]
    omega
  | query question => exact Nat.le_refl _

end Pending

namespace Series

theorem due_step (series : Series) (registry : Registry) :
    (series.step table registry).1.due (series.step table registry).2 < (Pending.declaring series).due registry := by
  obtain ⟨current?, rest, done⟩ := series
  cases current? with
  | some registration =>
    cases hresult : registration.result? with
    | none =>
      have hremaining : _ < registration.remaining registry := Registration.remaining_step hresult
      rw [step_of_unfinished hresult]
      simp only [Pending.due, Option.elim]
      omega
    | some result =>
      cases result with
      | error error => rw [step_of_refused hresult]; simp only [Pending.due, Option.elim]; omega
      | ok entry => rw [step_of_registered hresult]; simp only [Pending.due, Option.elim]; omega
  | none =>
    cases rest with
    | nil => rw [step_of_end]; simp [Pending.due]
    | cons declaration rest =>
      cases hentry : Registry.prepare table declaration.type declaration.identifier with
      | error error => rw [step_of_unprepared hentry]; simp only [Pending.due, List.length_cons]; omega
      | ok entry =>
        rw [step_of_prepared hentry]
        simp only [Pending.due, Option.elim, Registration.remaining, List.length_cons]
        omega

theorem openings_step (series : Series) (registry : Registry) :
    Spends registry.current (series.step table registry).2.current (Pending.declaring series).openings
      (series.step table registry).1.openings := by
  obtain ⟨current?, rest, done⟩ := series
  cases current? with
  | some registration =>
    cases hresult : registration.result? with
    | none =>
      rw [step_of_unfinished hresult]
      exact (registration.openings_step registry).add_right rest.length
    | some result =>
      cases result with
      | error error => rw [step_of_refused hresult]; exact .of_le (Nat.zero_le _)
      | ok entry => rw [step_of_registered hresult]; exact .of_le (Nat.add_le_add_right (Nat.zero_le _) _)
  | none =>
    cases rest with
    | nil => exact .of_le (Nat.le_refl _)
    | cons declaration rest =>
      cases hentry : Registry.prepare table declaration.type declaration.identifier with
      | error error => rw [step_of_unprepared hentry]; exact .of_le (Nat.zero_le _)
      | ok entry =>
        rw [step_of_prepared hentry]
        refine .of_le ?_
        simp only [Pending.openings, Option.elim, Registration.openings, List.length_cons]
        omega

end Series

namespace Pending

/-- A call that has no answer yet comes closer to one. -/
theorem due_step (table : TypeTable) (pending : Pending) (registry : Registry) :
    (pending.step table registry).1.due (pending.step table registry).2 < pending.due registry ∨
      ∃ answer, pending = .returning answer := by
  cases pending with
  | registering registration =>
    left
    cases hresult : registration.result? with
    | none =>
      have hremaining : _ < registration.remaining registry := Registration.remaining_step hresult
      rw [step_of_unfinished hresult]
      exact Nat.add_lt_add_right hremaining 2
    | some result => rw [step_of_finished hresult]; simp only [due]; omega
  | declaring series => exact .inl (series.due_step registry)
  | asking question => exact .inl (Nat.lt_succ_self 1)
  | returning answer => exact .inr ⟨answer, rfl⟩

theorem openings_step (table : TypeTable) (pending : Pending) (registry : Registry) :
    Spends registry.current (pending.step table registry).2.current pending.openings
      (pending.step table registry).1.openings := by
  cases pending with
  | registering registration =>
    cases hresult : registration.result? with
    | none =>
      rw [step_of_unfinished hresult]
      exact registration.openings_step registry
    | some result => rw [step_of_finished hresult]; exact .of_le (Nat.zero_le _)
  | declaring series => exact series.openings_step registry
  | asking question => exact .of_le (Nat.zero_le _)
  | returning answer => exact .of_le (Nat.zero_le _)

end Pending

/-! ### One thread -/

namespace Thread

def due (registry : Registry) (thread : Thread) : Nat :=
  thread.pending?.elim 0 (Pending.due registry) + (thread.calls.map Call.turns).sum

def openings (thread : Thread) : Nat :=
  thread.pending?.elim 0 Pending.openings + (thread.calls.map Call.openings).sum

theorem due_of_current (thread : Thread) (h : later.current = registry.current) : thread.due later = thread.due registry := by
  simp only [due, funext fun pending => Pending.due_of_current pending h]

theorem due_le (thread : Thread) (registry later : Registry) : thread.due later ≤ thread.due registry + 3 := by
  obtain ⟨pending?, calls, answers⟩ := thread
  cases pending? with
  | none => exact Nat.le_add_right _ _
  | some pending =>
    have hpending := pending.due_le registry later
    simp only [due, Option.elim]
    omega

/-- A turn of a thread that has something to do brings it closer to its end. -/
theorem due_step (table : TypeTable) (thread : Thread) (index : Nat) (registry : Registry) (h : thread.isIdle = false) :
    (thread.step table index registry).1.due (thread.step table index registry).2.1 < thread.due registry := by
  obtain ⟨pending?, calls, answers⟩ := thread
  cases pending? with
  | none =>
    cases calls with
    | nil => exact nomatch h
    | cons call calls =>
      have hstart := Pending.due_start table call registry
      simp only [Thread.step, due, Option.elim, List.map_cons, List.sum_cons]
      omega
  | some pending =>
    rcases pending.due_step table registry with hcall | ⟨answer, rfl⟩
    · cases pending with
      | returning answer => exact absurd hcall (Nat.lt_irrefl _)
      | registering registration => exact Nat.add_lt_add_right hcall _
      | declaring series => exact Nat.add_lt_add_right hcall _
      | asking question => exact Nat.add_lt_add_right hcall _
    · simp only [Thread.step, due, Option.elim, Pending.due]
      omega

theorem openings_step (table : TypeTable) (thread : Thread) (index : Nat) (registry : Registry) :
    Spends registry.current (thread.step table index registry).2.1.current thread.openings
      (thread.step table index registry).1.openings := by
  obtain ⟨pending?, calls, answers⟩ := thread
  cases pending? with
  | none =>
    cases calls with
    | nil => exact .of_le (Nat.le_refl _)
    | cons call calls =>
      have hstart := Pending.openings_start table call
      refine .of_le ?_
      simp only [Thread.step, openings, Option.elim, List.map_cons, List.sum_cons]
      omega
  | some pending =>
    have hcall := (pending.openings_step table registry).add_right (calls.map Call.openings).sum
    cases pending with
    | returning answer => exact .of_le (Nat.le_refl _)
    | registering registration => exact hcall
    | declaring series => exact hcall
    | asking question => exact hcall

theorem isIdle_step (table : TypeTable) {thread : Thread} (h : thread.isIdle) (index : Nat) (registry : Registry) :
    (thread.step table index registry).1.isIdle := by
  obtain ⟨pending?, calls, answers⟩ := thread
  cases pending? with
  | some pending => exact nomatch h
  | none =>
    cases calls with
    | cons call calls => exact nomatch h
    | nil => rfl

theorem due_pos {thread : Thread} (h : thread.isIdle = false) (registry : Registry) : 0 < thread.due registry := by
  obtain ⟨pending?, calls, answers⟩ := thread
  cases pending? with
  | some pending => exact Nat.add_pos_left (pending.due_pos registry) _
  | none =>
    cases calls with
    | nil => exact nomatch h
    | cons call calls => exact Nat.add_pos_right _ (Nat.add_pos_left call.turns_pos _)

end Thread

/-! ### All threads -/

theorem sum_map_set {threads : List Thread} {index : Nat} {thread : Thread} (h : threads[index]? = some thread)
    (measure : Thread → Nat) (next : Thread) :
    ((threads.set index next).map measure).sum + measure thread = (threads.map measure).sum + measure next := by
  induction threads generalizing index with
  | nil => exact nomatch h
  | cons first rest ih =>
    cases index with
    | zero =>
      obtain rfl : first = thread := Option.some.inj h
      simp only [List.set_cons_zero, List.map_cons, List.sum_cons]
      omega
    | succ index =>
      have hrest := ih h
      simp only [List.set_cons_succ, List.map_cons, List.sum_cons]
      omega

namespace State

/-- How many descriptors the threads may still publish. -/
def openings (state : State) : Nat := (state.threads.map Thread.openings).sum

/-- How many turns the thread may still need, when every publication may cost it a race. -/
def due (state : State) (index : Nat) : Nat := (state.thread index).due state.registry + 3 * state.openings

theorem openings_step (table : TypeTable) (state : State) (index : Nat) :
    Spends state.registry.current (state.step table index).registry.current state.openings (state.step table index).openings := by
  cases hthread : state.threads[index]? with
  | none =>
    rw [step_of_none hthread]
    exact .of_le (Nat.le_refl _)
  | some thread =>
    have hsum := sum_map_set hthread Thread.openings (thread.step table index state.registry).1
    rw [step_of_some hthread]
    rcases thread.openings_step table index state.registry with ⟨hcurrent, hle⟩ | hlt
    · exact .inl ⟨hcurrent, by simp only [openings]; omega⟩
    · exact .inr (by simp only [openings]; omega)

theorem openings_step_le (table : TypeTable) (state : State) (index : Nat) :
    (state.step table index).openings ≤ state.openings := by
  rcases openings_step table state index with ⟨-, hle⟩ | hlt
  · exact hle
  · exact Nat.le_of_lt hlt

theorem due_step_self (table : TypeTable) {state : State} {index : Nat} (h : (state.thread index).isIdle = false) :
    (state.step table index).due index < state.due index := by
  have hown := (state.thread index).due_step table index state.registry h
  have hopenings := openings_step_le table state index
  rw [due, thread_step_self, registry_step, due]
  omega

theorem due_step_of_ne (table : TypeTable) {index other : Nat} (hother : index ≠ other) (state : State) :
    (state.step table index).due other ≤ state.due other := by
  rw [due, thread_step_of_ne hother, due]
  rcases openings_step table state index with ⟨hcurrent, hle⟩ | hlt
  · rw [Thread.due_of_current _ hcurrent]
    omega
  · -- the race that the publication may cost is paid for by the opening that it uses up
    have hrace := (state.thread other).due_le state.registry (state.step table index).registry
    omega

theorem isIdle_thread_step (table : TypeTable) {state : State} {thread : Nat} (h : (state.thread thread).isIdle) (index : Nat) :
    ((state.step table index).thread thread).isIdle := by
  by_cases hown : index = thread
  · subst hown
    rw [thread_step_self]
    exact Thread.isIdle_step table h index state.registry
  · rw [thread_step_of_ne hown]
    exact h

/-! ### Every run -/

/-- Every turn of a thread that still has something to do counts. -/
theorem isIdle_or_due_run (table : TypeTable) (start : State) (schedule : List Nat) (thread : Nat) :
    ((start.run table schedule).thread thread).isIdle ∨
      (start.run table schedule).due thread + schedule.count thread ≤ start.due thread := by
  induction schedule using List.reverseRecOn with
  | nil => exact .inr (Nat.le_refl _)
  | append_singleton schedule index ih =>
    rw [run_append, run_cons, run_nil]
    rcases ih with hidle | hdue
    · -- a thread that has nothing left to do stays so
      exact .inl (isIdle_thread_step table hidle index)
    · by_cases hown : index = thread
      · subst hown
        cases hidle : ((start.run table schedule).thread index).isIdle with
        | true => exact .inl (isIdle_thread_step table hidle index)
        | false =>
          have hturn := due_step_self table hidle
          rw [List.count_append, List.count_singleton_self]
          exact .inr (by omega)
      · have hturn := due_step_of_ne table hown (start.run table schedule)
        rw [List.count_append, List.count_singleton, beq_eq_false_iff_ne.2 hown]
        exact .inr (by simp only [Bool.false_eq_true, if_false]; omega)

/-- A thread that gets as many turns as it is due has done all that it was given to do, whatever the others do. -/
theorem isIdle_thread_run (table : TypeTable) {start : State} {schedule : List Nat} {thread : Nat}
    (h : start.due thread ≤ schedule.count thread) : ((start.run table schedule).thread thread).isIdle := by
  rcases start.isIdle_or_due_run table schedule thread with hidle | hdue
  · exact hidle
  · cases hbusy : ((start.run table schedule).thread thread).isIdle with
    | true => rfl
    | false =>
      have hpos := Thread.due_pos hbusy (start.run table schedule).registry
      rw [due] at hdue
      omega

theorem length_threads_run (start : State) (schedule : List Nat) :
    (start.run table schedule).threads.length = start.threads.length := by
  induction schedule generalizing start with
  | nil => rfl
  | cons index schedule ih => rw [run_cons, ih, length_threads_step]

/-- Every call returns, in any order of turns in which each thread gets those that it is due. -/
theorem isIdle_run (table : TypeTable) {start : State} {schedule : List Nat}
    (h : ∀ thread < start.threads.length, start.due thread ≤ schedule.count thread) : (start.run table schedule).isIdle := by
  refine List.all_eq_true.2 fun thread hthread => ?_
  obtain ⟨index, hindex, rfl⟩ := List.getElem_of_mem hthread
  have hidle := isIdle_thread_run table (h index (length_threads_run start schedule ▸ hindex))
  rwa [State.thread, List.getElem?_eq_getElem hindex] at hidle

end State

end Concurrent

end MessageCatalog
