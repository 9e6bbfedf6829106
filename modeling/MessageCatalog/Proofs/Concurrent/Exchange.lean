import Mathlib.Data.List.Induction
import MessageCatalog.Proofs.Concurrent.Growth

/-!
# Calls and their answers

The calls of a thread return in the order in which they were made, so the answer to a call is found by its number. An answer is one that its call can get, `Call.Admits`: a descriptor in it is the very one that the request is for, and a question is answered from the registry of one moment at which it was under way, `State.Reads`. `Thread.Accords` carries this through every turn of a thread, for all kinds of calls.
-/

namespace MessageCatalog

/-- The answer is one that the call can get, where questions get what is read for them. -/
inductive Call.Admits (table : TypeTable) (reads : Query → Answer → Prop) : Call → Answer → Prop where
  | registered {kind : MessageKind} {type : NativeType} {text : String} {entry : Descriptor} :
      Registry.prepare table type text = .ok entry → Admits table reads (.register kind type text) (.registered (.ok entry))
  | refused {kind : MessageKind} {type : NativeType} {text : String} {error : RegisterError} :
      Admits table reads (.register kind type text) (.registered (.error error))
  | declared {declarations : List Declaration} {result : Except RegisterError Nat} :
      Admits table reads (.registerDeclared declarations) (.declared result)
  | answered {question : Query} {answer : Answer} : reads question answer → Admits table reads (.query question) answer

theorem Call.Admits.mono {table : TypeTable} {reads later : Query → Answer → Prop} {call : Call} {answer : Answer}
    (h : call.Admits table reads answer) (hlater : ∀ question answer, reads question answer → later question answer) :
    call.Admits table later answer := by
  cases h with
  | registered hprepare => exact .registered hprepare
  | refused => exact .refused
  | declared => exact .declared
  | answered hreads => exact .answered (hlater _ _ hreads)

namespace Merge.Registration

variable {registry : Registry} {registration : Registration}

@[simp] theorem entry_step (registration : Registration) (registry : Registry) :
    (registration.step registry).1.entry = registration.entry := by
  obtain ⟨kind, entry, phase⟩ := registration
  cases phase <;> simp only [step] <;> split <;> rfl

/-- A registration publishes no descriptor but its own. -/
def PublishesOwn (registration : Registration) : Prop := ∀ entry, registration.published? = some entry → entry = registration.entry

theorem PublishesOwn.step (h : registration.PublishesOwn) (registry : Registry) : (registration.step registry).1.PublishesOwn := by
  intro entry hentry
  rw [entry_step]
  rcases publishes?_cases registration registry with ⟨-, -, hsame⟩ | ⟨-, -, -, -, -, -, -, hpublished⟩
  · exact h entry (hsame ▸ hentry)
  · exact (Option.some.inj (hpublished.symm.trans hentry)).symm

end Merge.Registration

namespace Concurrent

open Merge

variable {table : TypeTable} {registry : Registry} {call : Call}

/-! ### One call -/

/-- What is under way can come to an answer to the call. -/
def Pending.Belongs (table : TypeTable) (reads : Query → Answer → Prop) (call : Call) : Pending → Prop
  | registering registration => registration.PublishesOwn ∧ ∃ kind type text,
      call = .register kind type text ∧ Registry.prepare table type text = .ok registration.entry
  | declaring _ => ∃ declarations, call = .registerDeclared declarations
  | asking question => call = .query question
  | returning answer => call.Admits table reads answer

namespace Pending

variable {reads later : Query → Answer → Prop} {pending : Pending}

theorem Belongs.mono (h : pending.Belongs table reads call)
    (hlater : ∀ question answer, reads question answer → later question answer) : pending.Belongs table later call := by
  cases pending with
  | registering registration => exact h
  | declaring series => exact h
  | asking question => exact h
  | returning answer => exact Call.Admits.mono h hlater

theorem belongs_start (table : TypeTable) (reads : Query → Answer → Prop) (call : Call) :
    (Pending.start table call).Belongs table reads call := by
  cases call with
  | register kind type text =>
    cases hentry : Registry.prepare table type text with
    | error error =>
      rw [start_of_refused hentry]
      exact .refused
    | ok entry =>
      rw [start_of_prepared hentry]
      exact ⟨fun _ hpublished => (nomatch hpublished), kind, type, text, rfl, hentry⟩
  | registerDeclared declarations => exact ⟨declarations, rfl⟩
  | query question => rfl

/-- A series goes on, or it ends with the answer to a call for declared types. -/
theorem declaring_or_declared (table : TypeTable) (series : Series) (registry : Registry) :
    (∃ next, (series.step table registry).1 = .declaring next) ∨
      ∃ result, (series.step table registry).1 = .returning (.declared result) := by
  unfold Series.step
  split
  · split <;> simp
  · split
    · simp
    · dsimp only
      split <;> simp

theorem Belongs.step (h : pending.Belongs table reads call)
    (hreads : ∀ question, pending = .asking question → reads question (question.answer table registry)) :
    (pending.step table registry).1.Belongs table reads call := by
  cases pending with
  | registering registration =>
    obtain ⟨hown, kind, type, text, rfl, hentry⟩ := h
    cases hresult : registration.result? with
    | none =>
      rw [step_of_unfinished hresult]
      exact ⟨hown.step registry, kind, type, text, rfl, (registration.entry_step registry).symm ▸ hentry⟩
    | some result =>
      rw [step_of_finished hresult]
      cases result with
      | error error => exact .refused
      | ok entry =>
        have hpublished : registration.published? = some entry := by
          rw [Registration.published?, Registration.verdict?_of_result? hresult]
          rfl
        rw [hown entry hpublished]
        exact .registered hentry
  | declaring series =>
    obtain ⟨declarations, rfl⟩ := h
    show (series.step table registry).1.Belongs table reads _
    rcases declaring_or_declared table series registry with ⟨next, hnext⟩ | ⟨result, hresult⟩
    · rw [hnext]
      exact ⟨declarations, rfl⟩
    · rw [hresult]
      exact .declared
  | asking question =>
    obtain rfl : call = .query question := h
    exact .answered (hreads question rfl)
  | returning answer => exact h

end Pending

/-! ### One thread -/

/-- Every call has its answer, and what is read for a question may depend on the number of the call. -/
structure Answered (table : TypeTable) (reads : Nat → Query → Answer → Prop) (calls : List Call) (answers : List Answer) : Prop where
  length_eq : calls.length = answers.length
  admits : ∀ {number : Nat} {call : Call} {answer : Answer}, calls[number]? = some call → answers[number]? = some answer →
    call.Admits table (reads number) answer

/-- Every call that has returned has its answer, and what is under way belongs to the last call. -/
def Thread.Accords (table : TypeTable) (reads : Nat → Query → Answer → Prop) (invoked : List Call) (thread : Thread) : Prop :=
  match thread.pending? with
  | none => Answered table reads invoked thread.answers
  | some pending => ∃ earlier call, invoked = earlier ++ [call] ∧ Answered table reads earlier thread.answers ∧
      pending.Belongs table (reads thread.answers.length) call

section Accords

variable {reads later : Nat → Query → Answer → Prop} {calls invoked : List Call} {answers : List Answer} {thread : Thread}

theorem Answered.nil (table : TypeTable) (reads : Nat → Query → Answer → Prop) : Answered table reads [] [] :=
  ⟨rfl, fun hcall => by simp at hcall⟩

theorem Answered.concat (h : Answered table reads calls answers) {answer : Answer}
    (hadmits : call.Admits table (reads answers.length) answer) : Answered table reads (calls ++ [call]) (answers ++ [answer]) := by
  refine ⟨by simp [h.length_eq], fun {number other reply} hother hreply => ?_⟩
  rcases Nat.lt_or_ge number answers.length with hold | hnew
  · rw [List.getElem?_append_left (h.length_eq ▸ hold)] at hother
    rw [List.getElem?_append_left hold] at hreply
    exact h.admits hother hreply
  · have hlast := (List.getElem?_eq_some_iff.1 hreply).1
    rw [List.length_append, List.length_singleton] at hlast
    obtain rfl : number = answers.length := by omega
    rw [← h.length_eq, List.getElem?_concat_length, Option.some.injEq] at hother
    rw [List.getElem?_concat_length, Option.some.injEq] at hreply
    rw [← hother, ← hreply]
    exact hadmits

theorem Answered.mono (h : Answered table reads calls answers)
    (hlater : ∀ number question answer, reads number question answer → later number question answer) :
    Answered table later calls answers :=
  ⟨h.length_eq, fun hcall hanswer => (h.admits hcall hanswer).mono (hlater _)⟩

theorem Thread.Accords.mono (h : thread.Accords table reads invoked)
    (hlater : ∀ number question answer, reads number question answer → later number question answer) :
    thread.Accords table later invoked := by
  obtain ⟨pending?, calls, answers⟩ := thread
  cases pending? with
  | none => exact Answered.mono h hlater
  | some pending =>
    obtain ⟨earlier, call, hinvoked, hearlier, hbelongs⟩ := h
    exact ⟨earlier, call, hinvoked, hearlier.mono hlater, hbelongs.mono (hlater _)⟩

theorem Thread.Accords.step (h : thread.Accords table reads invoked)
    (hreads : ∀ question, thread.pending? = some (.asking question) →
      reads thread.answers.length question (question.answer table registry)) (index : Nat) :
    (thread.step table index registry).1.Accords table reads
      (invoked ++ invocations (thread.step table index registry).2.2 index) := by
  obtain ⟨pending?, calls, answers⟩ := thread
  cases pending? with
  | none =>
    cases calls with
    | nil =>
      rw [show invocations (Thread.step table index ⟨none, [], answers⟩ registry).2.2 index = [] from rfl, List.append_nil]
      exact h
    | cons call calls =>
      have hinvoked : invocations (Thread.step table index ⟨none, call :: calls, answers⟩ registry).2.2 index = [call] := by
        simp [Thread.step, invocations]
      rw [hinvoked]
      exact ⟨invoked, call, rfl, h, Pending.belongs_start table _ call⟩
  | some pending =>
    obtain ⟨earlier, call, rfl, hearlier, hbelongs⟩ := h
    have hinvoked : invocations (Thread.step table index ⟨some pending, calls, answers⟩ registry).2.2 index = [] := by
      cases pending <;> simp [Thread.step, invocations]
    rw [hinvoked, List.append_nil]
    have hnext : (pending.step table registry).1.Belongs table (reads answers.length) call :=
      hbelongs.step fun question hasking => hreads question (congrArg some hasking)
    cases pending with
    | returning answer => exact hearlier.concat hbelongs
    | registering registration => exact ⟨earlier, call, rfl, hearlier, hnext⟩
    | declaring series => exact ⟨earlier, call, rfl, hearlier, hnext⟩
    | asking question => exact ⟨earlier, call, rfl, hearlier, hnext⟩

theorem Thread.Accords.answered (h : thread.Accords table reads invoked) :
    ∃ earlier, earlier <+: invoked ∧ Answered table reads earlier thread.answers := by
  obtain ⟨pending?, calls, answers⟩ := thread
  cases pending? with
  | none => exact ⟨invoked, List.prefix_rfl, h⟩
  | some pending =>
    obtain ⟨earlier, last, rfl, hearlier, -⟩ := h
    exact ⟨earlier, List.prefix_append _ _, hearlier⟩

theorem Answered.exists_call (h : Answered table reads calls answers) {number : Nat} {answer : Answer}
    (hanswer : answers[number]? = some answer) : ∃ call, calls[number]? = some call ∧ call.Admits table (reads number) answer := by
  have hlt : number < calls.length := h.length_eq ▸ (List.getElem?_eq_some_iff.1 hanswer).1
  have hcall := List.getElem?_eq_getElem hlt
  exact ⟨calls[number], hcall, h.admits hcall hanswer⟩

theorem Thread.Accords.admits (h : thread.Accords table reads invoked) {number : Nat} {answer : Answer}
    (hcall : invoked[number]? = some call) (hanswer : thread.answers[number]? = some answer) :
    call.Admits table (reads number) answer := by
  obtain ⟨earlier, hprefix, hearlier⟩ := h.answered
  obtain ⟨own, hown, hadmits⟩ := hearlier.exists_call hanswer
  have hsame := getElem?_of_prefix hprefix hown
  rw [hcall] at hsame
  exact Option.some.inj hsame ▸ hadmits

end Accords

/-! ### Every run -/

namespace State

/-- The question is answered from the registry of one moment: the thread was asking it then, as the call of this number. -/
def Reads (table : TypeTable) (start : State) (schedule : List Nat) (thread number : Nat) (question : Query) (answer : Answer) :
    Prop :=
  ∃ past, past <+: schedule ∧ ((start.run table past).thread thread).pending? = some (.asking question) ∧
    ((start.run table past).thread thread).answers.length = number ∧
    answer = question.answer table (start.run table past).registry

theorem Reads.mono {start : State} {schedule later : List Nat} {thread number : Nat} {question : Query} {answer : Answer}
    (h : start.Reads table schedule thread number question answer) (hlater : schedule <+: later) :
    start.Reads table later thread number question answer := by
  obtain ⟨past, hpast, hreads⟩ := h
  exact ⟨past, hpast.trans hlater, hreads⟩

theorem accords_run (table : TypeTable) (registry : Registry) (calls : List (List Call)) (schedule : List Nat) (thread : Nat) :
    (((State.start registry calls).run table schedule).thread thread).Accords table
      ((State.start registry calls).Reads table schedule thread)
      (invocations ((State.start registry calls).run table schedule).history thread) := by
  induction schedule using List.reverseRecOn with
  | nil =>
    rw [run_nil, thread_start]
    exact .nil table _
  | append_singleton schedule index ih =>
    have hlater : schedule <+: schedule ++ [index] := List.prefix_append _ _
    have hnow := ih.mono fun number question answer hreads => hreads.mono hlater
    rw [run_append, run_cons, run_nil]
    by_cases hown : index = thread
    · subst hown
      rw [thread_step_self, history_step, invocations_append]
      exact hnow.step (fun question hasking => ⟨schedule, hlater, hasking, rfl, rfl⟩) index
    · rw [thread_step_of_ne hown, invocations_step_of_ne hown]
      exact hnow

end State

end Concurrent

end MessageCatalog
