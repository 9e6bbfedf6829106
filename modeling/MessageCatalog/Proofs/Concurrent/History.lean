import MessageCatalog.Proofs.Concurrent.Turn

/-!
# What a history says of a thread

A history is a single list for all threads. Read for one of them, it is the calls that the thread has made and the answers that it has got, and `State.Records` says that nothing else is in it: the calls of a thread so far and those it still has to make are what it was given, and its answers are those that returned. A number that no thread has stands for one that was given nothing, so what follows asks of no number whether there is such a thread.
-/

namespace MessageCatalog.Concurrent

open Merge

variable {table : TypeTable}

/-- The calls of one thread, oldest first. -/
def invocations (history : List Moment) (thread : Nat) : List Call :=
  history.filterMap fun moment =>
    match moment with
    | .invoked index call => if index = thread then some call else none
    | .returned .. => none

/-- The answers that one thread has got, oldest first. -/
def returns (history : List Moment) (thread : Nat) : List Answer :=
  history.filterMap fun moment =>
    match moment with
    | .invoked .. => none
    | .returned index answer => if index = thread then some answer else none

@[simp] theorem invocations_append (history later : List Moment) (thread : Nat) :
    invocations (history ++ later) thread = invocations history thread ++ invocations later thread :=
  List.filterMap_append

@[simp] theorem returns_append (history later : List Moment) (thread : Nat) :
    returns (history ++ later) thread = returns history thread ++ returns later thread :=
  List.filterMap_append

theorem length_invocations_le_of_prefix {past history : List Moment} (h : past <+: history) (thread : Nat) :
    (invocations past thread).length ≤ (invocations history thread).length :=
  (h.filterMap _).length_le

theorem length_returns_le_of_prefix {past history : List Moment} (h : past <+: history) (thread : Nat) :
    (returns past thread).length ≤ (returns history thread).length :=
  (h.filterMap _).length_le

/-! ### Answers that are fixed

The answer to a call may be fixed before the call returns, and even before the thread has it in its hands: a registration that has published its descriptor still has to report it. -/

/-- The answer that the call will return with, once nothing can change it. Of a series of declarations it is known only at the end. -/
def Pending.decided? : Pending → Option Answer
  | registering registration => registration.verdict?.map .registered
  | declaring _ => none
  | asking _ => none
  | returning answer => some answer

def Thread.decided? (thread : Thread) : Option Answer := thread.pending?.bind Pending.decided?

/-- The answers that returned, and the one that is fixed and did not return yet. -/
def Thread.settled (thread : Thread) : List Answer := thread.answers ++ thread.decided?.toList

/-! ### One turn -/

namespace Thread

/-- A turn is seen, if at all, as one of the thread itself. -/
theorem moments_step_of_ne {index other : Nat} (hother : index ≠ other) (thread : Thread) (registry : Registry) :
    invocations (thread.step table index registry).2.2 other = [] ∧ returns (thread.step table index registry).2.2 other = [] := by
  obtain ⟨pending?, calls, answers⟩ := thread
  cases pending? with
  | none => cases calls <;> simp [Thread.step, invocations, returns, hother]
  | some pending => cases pending <;> simp [Thread.step, invocations, returns, hother]

/-- A call that is made is one call less to make. -/
theorem calls_step (index : Nat) (thread : Thread) (registry : Registry) :
    invocations (thread.step table index registry).2.2 index ++ (thread.step table index registry).1.calls = thread.calls := by
  obtain ⟨pending?, calls, answers⟩ := thread
  cases pending? with
  | none => cases calls <;> simp [Thread.step, invocations]
  | some pending => cases pending <;> simp [Thread.step, invocations]

theorem answers_step (index : Nat) (thread : Thread) (registry : Registry) :
    (thread.step table index registry).1.answers = thread.answers ++ returns (thread.step table index registry).2.2 index := by
  obtain ⟨pending?, calls, answers⟩ := thread
  cases pending? with
  | none => cases calls <;> simp [Thread.step, returns]
  | some pending => cases pending <;> simp [Thread.step, returns]

end Thread

namespace State

/-- The thread of a number, or one that has nothing to do. -/
def thread (state : State) (index : Nat) : Thread := state.threads[index]?.getD { calls := [] }

theorem thread_of_isIdle {state : State} (h : state.isIdle) (index : Nat) :
    (state.thread index).pending? = none ∧ (state.thread index).calls = [] := by
  rw [State.thread]
  cases hthread : state.threads[index]? with
  | none => exact ⟨rfl, rfl⟩
  | some thread =>
    have hdone := List.all_eq_true.1 h thread (List.mem_of_getElem? hthread)
    simpa [Thread.isIdle] using hdone

theorem length_threads_step (state : State) (index : Nat) : (state.step table index).threads.length = state.threads.length := by
  cases hthread : state.threads[index]? with
  | none => rw [step_of_none hthread]
  | some thread => rw [step_of_some hthread, List.length_set]

theorem registry_step (state : State) (index : Nat) :
    (state.step table index).registry = ((state.thread index).step table index state.registry).2.1 := by
  cases hthread : state.threads[index]? with
  | none => rw [step_of_none hthread, thread, hthread]; rfl
  | some thread => rw [step_of_some hthread, State.thread, hthread]; rfl

theorem history_step (state : State) (index : Nat) :
    (state.step table index).history = state.history ++ ((state.thread index).step table index state.registry).2.2 := by
  cases hthread : state.threads[index]? with
  | none => rw [step_of_none hthread, thread, hthread]; exact (List.append_nil _).symm
  | some thread => rw [step_of_some hthread, State.thread, hthread]; rfl

theorem history_prefix_step (state : State) (index : Nat) : state.history <+: (state.step table index).history := by
  rw [history_step]
  exact List.prefix_append _ _

theorem thread_step_self (state : State) (index : Nat) :
    (state.step table index).thread index = ((state.thread index).step table index state.registry).1 := by
  cases hthread : state.threads[index]? with
  | none => rw [step_of_none hthread, thread, hthread]; rfl
  | some thread =>
    obtain ⟨hindex, -⟩ := List.getElem?_eq_some_iff.1 hthread
    rw [step_of_some hthread, State.thread, State.thread, hthread, List.getElem?_set_self hindex]
    rfl

theorem thread_step_of_ne {index other : Nat} (hother : index ≠ other) (state : State) :
    (state.step table index).thread other = state.thread other := by
  cases hthread : state.threads[index]? with
  | none => rw [step_of_none hthread]
  | some thread => rw [step_of_some hthread, State.thread, State.thread, List.getElem?_set_ne hother]

theorem invocations_step_of_ne {index other : Nat} (hother : index ≠ other) (state : State) :
    invocations (state.step table index).history other = invocations state.history other := by
  rw [history_step, invocations_append, (Thread.moments_step_of_ne hother _ _).1, List.append_nil]

theorem returns_step_of_ne {index other : Nat} (hother : index ≠ other) (state : State) :
    returns (state.step table index).history other = returns state.history other := by
  rw [history_step, returns_append, (Thread.moments_step_of_ne hother _ _).2, List.append_nil]

/-! ### Every run -/

theorem thread_run_of_not_mem {schedule : List Nat} {thread : Nat} (h : thread ∉ schedule) (state : State) :
    (state.run table schedule).thread thread = state.thread thread := by
  induction schedule generalizing state with
  | nil => rfl
  | cons index schedule ih =>
    obtain ⟨hindex, hschedule⟩ := not_or.1 (mt List.mem_cons.2 h)
    rw [run_cons, ih hschedule, thread_step_of_ne (Ne.symm hindex)]

theorem history_prefix_run (table : TypeTable) (state : State) (schedule : List Nat) :
    state.history <+: (state.run table schedule).history := by
  induction schedule generalizing state with
  | nil => exact List.prefix_rfl
  | cons index schedule ih => exact (state.history_prefix_step index).trans (ih (state.step table index))

theorem thread_start (registry : Registry) (calls : List (List Call)) (index : Nat) :
    (State.start registry calls).thread index = { calls := calls[index]?.getD [] } := by
  rw [State.thread, State.start, List.getElem?_map]
  cases calls[index]? <;> rfl

/-- The history tells the calls and the answers of each thread. -/
def Records (calls : List (List Call)) (state : State) : Prop :=
  ∀ index, invocations state.history index ++ (state.thread index).calls = calls[index]?.getD [] ∧
    returns state.history index = (state.thread index).answers

theorem records_start (registry : Registry) (calls : List (List Call)) : (State.start registry calls).Records calls := by
  intro index
  rw [thread_start]
  exact ⟨rfl, rfl⟩

theorem Records.step {calls : List (List Call)} {state : State} (h : state.Records calls) (index : Nat) :
    (state.step table index).Records calls := by
  intro other
  obtain ⟨hcalls, hanswers⟩ := h other
  by_cases hother : index = other
  · subst hother
    rw [thread_step_self, history_step, invocations_append, returns_append, Thread.answers_step, hanswers, List.append_assoc,
      Thread.calls_step]
    exact ⟨hcalls, rfl⟩
  · rw [thread_step_of_ne hother, invocations_step_of_ne hother, returns_step_of_ne hother]
    exact ⟨hcalls, hanswers⟩

theorem Records.run {calls : List (List Call)} {state : State} (h : state.Records calls) (schedule : List Nat) :
    (state.run table schedule).Records calls := by
  induction schedule generalizing state with
  | nil => exact h
  | cons index schedule ih => exact ih (h.step index)

theorem records_run (registry : Registry) (calls : List (List Call)) (schedule : List Nat) :
    ((State.start registry calls).run table schedule).Records calls :=
  (records_start registry calls).run schedule

end State

end MessageCatalog.Concurrent
