import MessageCatalog.Proofs.Concurrent.Settlement

/-!
# The registry is linearizable

Threads that use a registry at once get the answers that they would get one after another, in the order in which their calls take effect. The order is built along the run: a turn at which a call takes effect puts it at the end, and every other turn leaves the order alone. `Explains` is what such an order keeps. A call at the end of it has not returned yet, and every call before it was made already, so no call stands before one that returned before it was made.
-/

namespace MessageCatalog

theorem Call.answers_concat (table : TypeTable) (registry : Registry) (calls : List Call) (call : Call) :
    Call.answers table registry (calls ++ [call]) =
      ((Call.answers table registry calls).1 ++ [(call.answer table (Call.answers table registry calls).2).1],
        (call.answer table (Call.answers table registry calls).2).2) := by
  induction calls generalizing registry with
  | nil => rfl
  | cons first rest ih => simp [Call.answers, ih]

namespace Concurrent

/-- A call that a thread has made, with the answer to it. -/
structure Operation where
  thread : Nat
  /-- How many calls the thread made before. -/
  number : Nat
  call : Call
  answer : Answer

def ofThread (order : List Operation) (thread : Nat) : List Operation :=
  order.filter fun operation => operation.thread == thread

/-- The first operation returned before the second was invoked. -/
def Precedes (history : List Moment) (first second : Operation) : Prop :=
  ∃ past, past <+: history ∧ first.number < (returns past first.thread).length ∧
    (invocations past second.thread).length ≤ second.number

/-- One order of the calls that have taken effect, in which they could have been made one after another: it has every call that returned, and at most one more of each thread. -/
structure IsLinearization (table : TypeTable) (registry : Registry) (state : State) (order : List Operation) : Prop where
  calls : ∀ thread, (ofThread order thread).map Operation.call <+: invocations state.history thread
  answers : ∀ thread, (ofThread order thread).map Operation.answer =
    returns state.history thread ++ (state.thread thread).decided?.toList
  numbers : ∀ thread, (ofThread order thread).map Operation.number = List.range (ofThread order thread).length
  /-- An operation that returned before another was invoked comes first. -/
  realTime : order.Pairwise fun earlier later => ¬ Precedes state.history later earlier
  replay : (Call.answers table registry (order.map Operation.call)).1 = order.map Operation.answer
  snapshot : (Call.answers table registry (order.map Operation.call)).2.snapshot = state.registry.snapshot

variable {table : TypeTable} {registry : Registry} {calls : List (List Call)} {state : State} {order : List Operation}

theorem ofThread_concat_self (order : List Operation) (operation : Operation) :
    ofThread (order ++ [operation]) operation.thread = ofThread order operation.thread ++ [operation] := by
  simp [ofThread]

theorem ofThread_concat_of_ne {operation : Operation} {other : Nat} (hother : operation.thread ≠ other)
    (order : List Operation) : ofThread (order ++ [operation]) other = ofThread order other := by
  simp [ofThread, hother]

/-! ### Real time -/

/-- At some moment the first operation was invoked and the second had not returned. -/
def BeginsBeforeEnd (history : List Moment) (first second : Operation) : Prop :=
  ∃ past, past <+: history ∧ first.number < (invocations past first.thread).length ∧
    (returns past second.thread).length ≤ second.number

theorem BeginsBeforeEnd.mono {history later : List Moment} {first second : Operation}
    (h : BeginsBeforeEnd history first second) (hlater : history <+: later) : BeginsBeforeEnd later first second := by
  obtain ⟨past, hpast, hbegun⟩ := h
  exact ⟨past, hpast.trans hlater, hbegun⟩

theorem BeginsBeforeEnd.not_precedes {history : List Moment} {first second : Operation}
    (h : BeginsBeforeEnd history first second) : ¬ Precedes history second first := by
  rintro ⟨past, hpast, hreturned, hnew⟩
  obtain ⟨middle, hmiddle, hbegun, hopen⟩ := h
  rcases List.prefix_or_prefix_of_prefix hpast hmiddle with hbefore | hbefore
  · have hreturns := length_returns_le_of_prefix hbefore second.thread
    omega
  · have hinvocations := length_invocations_le_of_prefix hbefore first.thread
    omega

/-! ### The order along a run -/

/-- What the order of effects keeps at every turn. -/
structure Explains (table : TypeTable) (registry : Registry) (calls : List (List Call)) (state : State)
    (order : List Operation) : Prop where
  records : state.Records calls
  follows : ∀ index, (state.thread index).Follows table state.registry.current (invocations state.history index)
  invoked : ∀ thread, (ofThread order thread).map Operation.call <+: invocations state.history thread
  settled : ∀ thread, (ofThread order thread).map Operation.answer = (state.thread thread).settled
  numbers : ∀ thread, (ofThread order thread).map Operation.number = List.range (ofThread order thread).length
  begun : order.Pairwise (BeginsBeforeEnd state.history)
  replay : (Call.answers table registry (order.map Operation.call)).1 = order.map Operation.answer
  current : (Call.answers table registry (order.map Operation.call)).2.current = state.registry.current

theorem explains_start (table : TypeTable) (registry : Registry) (calls : List (List Call)) :
    Explains table registry calls (State.start registry calls) [] where
  records := State.records_start registry calls
  follows index := by
    rw [State.thread_start]
    rfl
  invoked thread := List.nil_prefix
  settled thread := by
    rw [State.thread_start]
    rfl
  numbers thread := rfl
  begun := List.Pairwise.nil
  replay := rfl
  current := rfl

namespace Explains

theorem length_ofThread (h : Explains table registry calls state order) (thread : Nat) :
    (ofThread order thread).length = (state.thread thread).settled.length := by
  rw [← h.settled thread, List.length_map]

theorem number_lt (h : Explains table registry calls state order) {operation : Operation} (hmem : operation ∈ order) :
    operation.number < (invocations state.history operation.thread).length := by
  have hown : operation ∈ ofThread order operation.thread := List.mem_filter.2 ⟨hmem, beq_self_eq_true _⟩
  have hnumber := List.mem_map_of_mem (f := Operation.number) hown
  rw [h.numbers, List.mem_range] at hnumber
  have hlength := (h.invoked operation.thread).length_le
  rw [List.length_map] at hlength
  omega

/-- What a thread has still to do are calls that it was given. -/
theorem isSingle_of_mem (h : Explains table registry calls state order)
    (hsingle : ∀ thread ∈ calls, ∀ call ∈ thread, call.isSingle) (index : Nat) :
    ∀ call ∈ (state.thread index).calls, call.isSingle := by
  intro call hcall
  have hgiven : call ∈ calls[index]?.getD [] := by
    rw [← (h.records index).1]
    exact List.mem_append_right _ hcall
  cases hthread : calls[index]? with
  | none => simp [hthread] at hgiven
  | some given =>
    rw [hthread] at hgiven
    exact hsingle given (List.mem_of_getElem? hthread) call hgiven

theorem advances (h : Explains table registry calls state order)
    (hsingle : ∀ thread ∈ calls, ∀ call ∈ thread, call.isSingle) (index : Nat) :
    Thread.Advances table state.registry (invocations (state.step table index).history index) (state.thread index)
      ((state.step table index).thread index) (state.step table index).registry.current := by
  rw [State.history_step, invocations_append, State.thread_step_self, State.registry_step]
  exact ((h.follows index).step (h.isSingle_of_mem hsingle index) index).2

theorem follows_step (h : Explains table registry calls state order)
    (hsingle : ∀ thread ∈ calls, ∀ call ∈ thread, call.isSingle) (index other : Nat) :
    ((state.step table index).thread other).Follows table (state.step table index).registry.current
      (invocations (state.step table index).history other) := by
  by_cases hother : index = other
  · subst hother
    rw [State.history_step, invocations_append, State.thread_step_self, State.registry_step]
    exact ((h.follows index).step (h.isSingle_of_mem hsingle index) index).1
  · rw [State.thread_step_of_ne hother, State.invocations_step_of_ne hother]
    exact (h.follows other).mono (h.advances hsingle index).notAfter

/-- A turn that changes nothing that counts. -/
theorem step_of_same (h : Explains table registry calls state order)
    (hsingle : ∀ thread ∈ calls, ∀ call ∈ thread, call.isSingle) {index : Nat}
    (hcurrent : (state.step table index).registry.current = state.registry.current)
    (hsettled : ((state.step table index).thread index).settled = (state.thread index).settled) :
    Explains table registry calls (state.step table index) order where
  records := h.records.step index
  follows := h.follows_step hsingle index
  invoked thread := (h.invoked thread).trans ((state.history_prefix_step index).filterMap _)
  settled thread := by
    by_cases hother : index = thread
    · subst hother
      rw [hsettled]
      exact h.settled index
    · rw [State.thread_step_of_ne hother]
      exact h.settled thread
  numbers := h.numbers
  begun := h.begun.imp fun hbegun => hbegun.mono (state.history_prefix_step index)
  replay := h.replay
  current := h.current.trans hcurrent.symm

/-- A turn at which a call takes effect. -/
theorem step_of_effect (h : Explains table registry calls state order)
    (hsingle : ∀ thread ∈ calls, ∀ call ∈ thread, call.isSingle) {index : Nat} {earlier : List Call} {call : Call}
    (hinvoked : invocations (state.step table index).history index = earlier ++ [call])
    (hlength : earlier.length = (state.thread index).answers.length) (hcall : call.isSingle)
    (hopen : (state.thread index).settled = (state.thread index).answers)
    (hsettled : ((state.step table index).thread index).settled =
      (state.thread index).settled ++ [(call.answer table state.registry).1])
    (hcurrent : (state.step table index).registry.current = (call.answer table state.registry).2.current) :
    Explains table registry calls (state.step table index)
      (order ++ [⟨index, (state.thread index).answers.length, call, (call.answer table state.registry).1⟩]) := by
  have hown : (ofThread order index).length = (state.thread index).answers.length := by rw [h.length_ofThread, hopen]
  obtain ⟨hanswer, hafter⟩ := Call.answer_congr table hcall h.current
  refine ⟨h.records.step index, h.follows_step hsingle index, fun thread => ?invoked, fun thread => ?settled,
    fun thread => ?numbers, ?begun, ?replay, ?current⟩
  case invoked =>
    by_cases hother : index = thread
    · subst hother
      have hsize : ((ofThread order index).map Operation.call).length = earlier.length := by
        rw [List.length_map, hown, hlength]
      have hold : (ofThread order index).map Operation.call <+: earlier := by
        apply List.prefix_of_prefix_length_le _ (List.prefix_append earlier [call]) (Nat.le_of_eq hsize)
        rw [← hinvoked]
        exact (h.invoked index).trans ((state.history_prefix_step index).filterMap _)
      rw [ofThread_concat_self, List.map_append, hinvoked, hold.eq_of_length hsize]
      exact List.prefix_rfl
    · rw [ofThread_concat_of_ne hother]
      exact (h.invoked thread).trans ((state.history_prefix_step index).filterMap _)
  case settled =>
    by_cases hother : index = thread
    · subst hother
      rw [ofThread_concat_self, List.map_append, h.settled index, hsettled]
      rfl
    · rw [ofThread_concat_of_ne hother, State.thread_step_of_ne hother]
      exact h.settled thread
  case numbers =>
    by_cases hother : index = thread
    · subst hother
      rw [ofThread_concat_self, List.map_append, h.numbers index, List.length_append, List.length_singleton, List.range_succ, hown]
      rfl
    · rw [ofThread_concat_of_ne hother]
      exact h.numbers thread
  case begun =>
    refine List.pairwise_append.2
      ⟨h.begun.imp fun hbegun => hbegun.mono (state.history_prefix_step index), List.pairwise_singleton _ _, fun first hfirst last hlast => ?_⟩
    rw [List.mem_singleton.1 hlast]
    -- the moment before the turn is the one at which the new operation had not returned
    exact ⟨state.history, state.history_prefix_step index, h.number_lt hfirst, Nat.le_of_eq (congrArg List.length (h.records index).2)⟩
  case replay => rw [List.map_append, List.map_singleton, Call.answers_concat, h.replay, hanswer, List.map_append, List.map_singleton]
  case current => rw [List.map_append, List.map_singleton, Call.answers_concat, hafter, hcurrent]

theorem step (h : Explains table registry calls state order) (hsingle : ∀ thread ∈ calls, ∀ call ∈ thread, call.isSingle)
    (index : Nat) : ∃ next, Explains table registry calls (state.step table index) next := by
  rcases h.advances hsingle index with ⟨hcurrent, hsettled⟩ | ⟨earlier, call, hinvoked, hlength, hcall, hopen, hsettled, hcurrent⟩
  · exact ⟨order, h.step_of_same hsingle hcurrent hsettled⟩
  · exact ⟨_, h.step_of_effect hsingle hinvoked hlength hcall hopen hsettled hcurrent⟩

theorem run (h : Explains table registry calls state order) (hsingle : ∀ thread ∈ calls, ∀ call ∈ thread, call.isSingle)
    (schedule : List Nat) : ∃ last, Explains table registry calls (state.run table schedule) last := by
  induction schedule generalizing state order with
  | nil => exact ⟨order, h⟩
  | cons index schedule ih =>
    obtain ⟨next, hnext⟩ := h.step hsingle index
    exact ih hnext

theorem isLinearization (h : Explains table registry calls state order) : IsLinearization table registry state order where
  calls := h.invoked
  answers thread := by
    rw [h.settled, (h.records thread).2]
    rfl
  numbers := h.numbers
  realTime := h.begun.imp BeginsBeforeEnd.not_precedes
  replay := h.replay
  snapshot := congrArg Published.snapshot h.current

/-- A thread with nothing left to do has made all its calls, and all of them are in the order. -/
theorem complete (h : Explains table registry calls state order) (hidle : state.isIdle) (index : Nat) :
    (ofThread order index).map Operation.call = calls[index]?.getD [] ∧
      (ofThread order index).map Operation.answer = returns state.history index := by
  have hthread := State.thread_of_isIdle hidle index
  have hsettled : (state.thread index).settled = (state.thread index).answers := by
    rw [Thread.settled, Thread.decided?, hthread.1]
    exact List.append_nil _
  have hlength : (invocations state.history index).length = (state.thread index).answers.length := by
    have hfollows := h.follows index
    rwa [Thread.Follows, hthread.1] at hfollows
  obtain ⟨hcalls, hreturns⟩ := h.records index
  rw [hthread.2, List.append_nil] at hcalls
  constructor
  · rw [← hcalls]
    apply (h.invoked index).eq_of_length
    rw [List.length_map, h.length_ofThread, hsettled, hlength]
  · rw [h.settled, hsettled, hreturns]

end Explains

/-- Whatever the threads call and however their turns come, there is one order of the calls that gives every answer and the table, and that respects real time. When the threads are done, it is an order of all their calls. -/
theorem exists_linearization (table : TypeTable) (registry : Registry) (calls : List (List Call))
    (hsingle : ∀ thread ∈ calls, ∀ call ∈ thread, call.isSingle) (schedule : List Nat) :
    ∃ order, IsLinearization table registry ((State.start registry calls).run table schedule) order ∧
      (((State.start registry calls).run table schedule).isIdle → ∀ thread,
        (ofThread order thread).map Operation.call = calls[thread]?.getD [] ∧
          (ofThread order thread).map Operation.answer =
            returns ((State.start registry calls).run table schedule).history thread) := by
  obtain ⟨order, hexplains⟩ := (explains_start table registry calls).run hsingle schedule
  exact ⟨order, hexplains.isLinearization, hexplains.complete⟩

/-- Both threads have read the empty registry before either publishes. -/
theorem exists_linearization_race :
    (∀ thread ∈ race, ∀ call ∈ thread, call.isSingle) ∧
      ∃ order, IsLinearization namesakes (Registry.create 0 "main")
        ((State.start (Registry.create 0 "main") race).run namesakes [0, 1, 0, 1, 0, 1]) order := by
  have hsingle : ∀ thread ∈ race, ∀ call ∈ thread, call.isSingle := by decide
  obtain ⟨order, hlinearization, -⟩ :=
    exists_linearization namesakes (Registry.create 0 "main") race hsingle [0, 1, 0, 1, 0, 1]
  exact ⟨hsingle, order, hlinearization⟩

end Concurrent

end MessageCatalog
