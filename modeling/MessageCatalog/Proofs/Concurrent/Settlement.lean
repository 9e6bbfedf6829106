import MessageCatalog.Proofs.Concurrent.History

/-!
# Where a call takes effect

A call may take many turns, but its answer is decided at one of them, and at that turn the registry changes as if the whole call were made there without interference: `Decides` says so of a step, and `Thread.Follows.step` of a turn. The turn is the invocation for a request that is refused outright, the read for a conflict and for a question, and the swap for a registration that is published. A series of declarations is many registrations and takes effect at no single turn, so it has no place here.
-/

namespace MessageCatalog

/-! ### Calls that nothing interferes with -/

namespace Call

variable {table : TypeTable} {call : Call}

/-- The answer to a call, and what is published after it, depend on nothing but what is published. -/
theorem answer_congr (table : TypeTable) (hsingle : call.isSingle) {left right : Registry} (h : left.current = right.current) :
    (call.answer table left).1 = (call.answer table right).1 ∧
      (call.answer table left).2.current = (call.answer table right).2.current := by
  cases call with
  | register kind type identifier =>
    cases hentry : Registry.prepare table type identifier with
    | error error => simpa [Call.answer, Registry.register_of_refused hentry] using h
    | ok entry =>
      have hmerge := Registry.register_of_prepared kind left hentry
      rw [h, ← Registry.register_of_prepared kind right hentry, Prod.mk.injEq] at hmerge
      exact ⟨congrArg Answer.registered hmerge.1, hmerge.2⟩
  | registerDeclared declarations => exact absurd hsingle Bool.false_ne_true
  | query question =>
    have hsnapshot : left.snapshot = right.snapshot := congrArg Published.snapshot h
    refine ⟨?_, h⟩
    cases question <;>
      simp [Call.answer, Query.answer, Registry.byType, Registry.byIdentifier, Registry.require, Registry.guard,
        SnapshotGuard.cursor, Registry.size, Registry.isEmpty, hsnapshot]

theorem notAfter_answer (hsingle : call.isSingle) (registry : Registry) :
    registry.current.NotAfter (call.answer table registry).2.current := by
  cases call with
  | register kind type identifier =>
    cases hentry : Registry.prepare table type identifier with
    | error error =>
      rw [Call.answer, Registry.register_of_refused hentry]
      exact .refl _
    | ok entry =>
      have hmerge : (registry.register table kind type identifier).2.current = (registry.current.merge entry).2 :=
        congrArg Prod.snd (Registry.register_of_prepared kind registry hentry)
      rw [Call.answer, hmerge]
      exact Published.notAfter_merge _ _
  | registerDeclared declarations => exact absurd hsingle Bool.false_ne_true
  | query question => exact .refl _

end Call

namespace Concurrent

open Merge

variable {table : TypeTable} {registry : Registry} {call : Call}

/-! ### One call -/

/-- Either nothing that counts changes, or the call takes effect: its answer is decided, and what is published changes accordingly. -/
def Decides (table : TypeTable) (registry : Registry) (call : Call) (before? after? : Option Answer) (after : Published) :
    Prop :=
  after = registry.current ∧ after? = before? ∨
    before? = none ∧ after? = some (call.answer table registry).1 ∧ after = (call.answer table registry).2.current

namespace Pending

/-- What is under way belongs to the call and may go on after the current publication. -/
def Serves (table : TypeTable) (current : Published) (call : Call) : Pending → Prop
  | registering registration =>
    registration.Sound current ∧ ∃ kind type identifier,
      call = .register kind type identifier ∧ Registry.prepare table type identifier = .ok registration.entry
  | declaring _ => False
  | asking query => call = .query query
  | returning _ => True

theorem Serves.mono {pending : Pending} {current later : Published} (h : pending.Serves table current call)
    (hlater : current.NotAfter later) : pending.Serves table later call := by
  cases pending with
  | registering registration => exact ⟨h.1.mono hlater, h.2⟩
  | declaring series => exact h
  | asking query => exact h
  | returning answer => trivial

theorem serves_start (hsingle : call.isSingle) (current : Published) : (Pending.start table call).Serves table current call := by
  cases call with
  | register kind type identifier =>
    cases hentry : Registry.prepare table type identifier with
    | error error =>
      rw [start_of_refused hentry]
      trivial
    | ok entry =>
      rw [start_of_prepared hentry]
      exact ⟨trivial, kind, type, identifier, rfl, hentry⟩
  | registerDeclared declarations => exact absurd hsingle Bool.false_ne_true
  | query query => rfl

theorem decides_start (call : Call) (registry : Registry) :
    Decides table registry call none (Pending.start table call).decided? registry.current := by
  cases call with
  | register kind type identifier =>
    cases hentry : Registry.prepare table type identifier with
    | error error =>
      rw [Decides, start_of_refused hentry, Call.answer, Registry.register_of_refused hentry]
      exact .inr ⟨rfl, rfl, rfl⟩
    | ok entry =>
      rw [start_of_prepared hentry]
      exact .inl ⟨rfl, rfl⟩
  | registerDeclared declarations => exact .inl ⟨rfl, rfl⟩
  | query query => exact .inl ⟨rfl, rfl⟩

theorem serves_step {pending : Pending} (h : pending.Serves table registry.current call) :
    (pending.step table registry).1.Serves table (pending.step table registry).2.current call := by
  cases pending with
  | registering registration =>
    obtain ⟨hsound, kind, type, identifier, rfl, hentry⟩ := h
    cases hresult : registration.result? with
    | some result =>
      rw [step_of_finished hresult]
      trivial
    | none =>
      rw [step_of_unfinished hresult]
      obtain ⟨hsame, hafter, -⟩ := Registration.step_cases hsound
      exact ⟨hafter, kind, type, identifier, rfl, hsame.symm ▸ hentry⟩
  | declaring series => exact h.elim
  | asking query => trivial
  | returning answer => trivial

theorem decides_step {pending : Pending} (h : pending.Serves table registry.current call) :
    Decides table registry call pending.decided? (pending.step table registry).1.decided?
      (pending.step table registry).2.current := by
  cases pending with
  | registering registration =>
    obtain ⟨hsound, kind, type, identifier, rfl, hentry⟩ := h
    cases hresult : registration.result? with
    | some result =>
      rw [step_of_finished hresult]
      exact .inl ⟨rfl, by simp [decided?, Registration.verdict?_of_result? hresult]⟩
    | none =>
      rw [step_of_unfinished hresult]
      obtain ⟨-, -, hsame | ⟨hopen, verdict, hverdict, hmerge⟩⟩ := Registration.step_cases hsound
      · exact .inl ⟨hsame.1, by simp [decided?, hsame.2]⟩
      · right
        rw [← Registry.register_of_prepared kind registry hentry, Prod.mk.injEq] at hmerge
        refine ⟨by simp [decided?, hopen], ?_, hmerge.2⟩
        simp [decided?, hverdict, hmerge.1, Call.answer]
  | declaring series => exact h.elim
  | asking query =>
    subst h
    exact .inr ⟨rfl, rfl, rfl⟩
  | returning answer => exact .inl ⟨rfl, rfl⟩

end Pending

/-! ### One turn -/

namespace Thread

variable {thread next : Thread} {invoked : List Call} {after : Published}

/-- Of the calls that the thread has made, all have their answers but for the one under way. -/
def Follows (table : TypeTable) (current : Published) (invoked : List Call) (thread : Thread) : Prop :=
  match thread.pending? with
  | none => invoked.length = thread.answers.length
  | some pending => ∃ earlier call,
      invoked = earlier ++ [call] ∧ earlier.length = thread.answers.length ∧ call.isSingle ∧ pending.Serves table current call

/-- Either nothing that counts changes, or the last call of the thread takes effect. -/
def Advances (table : TypeTable) (registry : Registry) (invoked : List Call) (thread next : Thread) (after : Published) :
    Prop :=
  after = registry.current ∧ next.settled = thread.settled ∨
    ∃ earlier call, invoked = earlier ++ [call] ∧ earlier.length = thread.answers.length ∧ call.isSingle ∧
      thread.settled = thread.answers ∧ next.settled = thread.settled ++ [(call.answer table registry).1] ∧
      after = (call.answer table registry).2.current

theorem Follows.mono {current later : Published} (h : thread.Follows table current invoked)
    (hlater : current.NotAfter later) : thread.Follows table later invoked := by
  obtain ⟨pending?, calls, answers⟩ := thread
  cases pending? with
  | none => exact h
  | some pending =>
    obtain ⟨earlier, call, hinvoked, hlength, hsingle, hserves⟩ := h
    exact ⟨earlier, call, hinvoked, hlength, hsingle, hserves.mono hlater⟩

theorem Advances.notAfter (h : Advances table registry invoked thread next after) : registry.current.NotAfter after := by
  rcases h with ⟨hcurrent, -⟩ | ⟨earlier, call, -, -, hsingle, -, -, hcurrent⟩
  · exact .inl hcurrent.symm
  · rw [hcurrent]
    exact Call.notAfter_answer hsingle registry

/-- A thread advances as its call does. -/
theorem advances_of_decides {earlier : List Call} (hinvoked : invoked = earlier ++ [call])
    (hlength : earlier.length = thread.answers.length) (hsingle : call.isSingle) (hanswers : next.answers = thread.answers)
    (h : Decides table registry call thread.decided? next.decided? after) :
    Advances table registry invoked thread next after := by
  rcases h with ⟨hcurrent, hsame⟩ | ⟨hbefore, hafter, hcurrent⟩
  · left
    rw [settled, settled, hanswers, hsame]
    exact ⟨hcurrent, rfl⟩
  · right
    have hsettled : thread.settled = thread.answers := by rw [settled, hbefore]; exact List.append_nil _
    refine ⟨earlier, call, hinvoked, hlength, hsingle, hsettled, ?_, hcurrent⟩
    rw [hsettled, settled, hanswers, hafter]
    rfl

theorem Follows.step_pending {pending : Pending} {calls : List Call} {answers : List Answer}
    (h : Follows table registry.current invoked ⟨some pending, calls, answers⟩) :
    Follows table (pending.step table registry).2.current invoked ⟨some (pending.step table registry).1, calls, answers⟩ ∧
      Advances table registry invoked ⟨some pending, calls, answers⟩ ⟨some (pending.step table registry).1, calls, answers⟩
        (pending.step table registry).2.current := by
  obtain ⟨earlier, call, hinvoked, hlength, hsingle, hserves⟩ := h
  exact ⟨⟨earlier, call, hinvoked, hlength, hsingle, Pending.serves_step hserves⟩,
    advances_of_decides hinvoked hlength hsingle rfl (Pending.decides_step hserves)⟩

theorem Follows.step (h : thread.Follows table registry.current invoked) (hsingle : ∀ call ∈ thread.calls, call.isSingle)
    (index : Nat) :
    (thread.step table index registry).1.Follows table (thread.step table index registry).2.1.current
        (invoked ++ invocations (thread.step table index registry).2.2 index) ∧
      Advances table registry (invoked ++ invocations (thread.step table index registry).2.2 index) thread
        (thread.step table index registry).1 (thread.step table index registry).2.1.current := by
  obtain ⟨pending?, calls, answers⟩ := thread
  cases pending? with
  | none =>
    cases calls with
    | nil =>
      rw [show invocations (Thread.step table index ⟨none, [], answers⟩ registry).2.2 index = [] from rfl, List.append_nil]
      exact ⟨h, .inl ⟨rfl, rfl⟩⟩
    | cons call calls =>
      have hcall : call.isSingle := hsingle call List.mem_cons_self
      have hinvoked : invocations (Thread.step table index ⟨none, call :: calls, answers⟩ registry).2.2 index = [call] := by
        simp [Thread.step, invocations]
      rw [hinvoked]
      exact ⟨⟨invoked, call, rfl, h, hcall, Pending.serves_start hcall _⟩,
        advances_of_decides rfl h hcall rfl (Pending.decides_start call registry)⟩
  | some pending =>
    have hinvoked : invocations (Thread.step table index ⟨some pending, calls, answers⟩ registry).2.2 index = [] := by
      cases pending <;> simp [Thread.step, invocations]
    rw [hinvoked, List.append_nil]
    cases pending with
    | returning answer =>
      obtain ⟨earlier, call, hcall, hlength, -, -⟩ := h
      refine ⟨?_, .inl ⟨rfl, List.append_nil _⟩⟩
      show invoked.length = (answers ++ [answer]).length
      rw [hcall, List.length_append, List.length_append, hlength]
      rfl
    | registering registration => exact h.step_pending
    | declaring series => exact h.step_pending
    | asking query => exact h.step_pending

end Thread

end Concurrent

end MessageCatalog
