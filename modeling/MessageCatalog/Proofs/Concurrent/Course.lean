import MessageCatalog.Proofs.Concurrent.Conduct

/-!
# The course of a registration

Between its invocation and its return a call may take any number of turns, and the turns of others fall in between as they like. Yet what a registration has done in its course is one of three things, `Registers`: it was refused outright and has done nothing, or it has lost some races and was rejected, or it has lost some races and has published its descriptor. `Stage.step` follows one call from turn to turn. Registrations of declared types have no invocation of their own, so they are followed from their beginning, `State.exists_begins`; `throughout_run` is for facts that are to hold of both.
-/

namespace MessageCatalog.Concurrent

open Merge

variable {table : TypeTable} {registry : Registry}

namespace State

variable {start state : State}

theorem registration?_start (registry : Registry) (calls : List (List Call)) (thread : Nat) :
    ((State.start registry calls).thread thread).registration? = none := by
  rw [thread_start]
  rfl

/-! ### From its beginning

A registration is begun by a turn of its thread, for a call of its own or for a declaration, and keeps the thread busy until it is finished. -/

/-- The registration at work was begun just before the schedule, and has been at work ever since. -/
structure Begins (table : TypeTable) (state : State) (schedule : List Nat) (thread : Nat) (registration : Registration) : Prop where
  beginning : (state.thread thread).registration? = some { registration with phase := .loading 0 }
  isPrepared : ∃ type text, Registry.prepare table type text = .ok registration.entry
  now : ((state.run table schedule).thread thread).registration? = some registration
  done : registration.Done state.registry.label (state.conduct table schedule thread)

section Begins

variable {schedule : List Nat} {thread : Nat} {registration : Registration}

theorem begins_of_isFresh (hat : (state.thread thread).registration? = some registration) (h : IsFresh table registration) :
    state.Begins table [] thread registration := by
  obtain ⟨kind, entry, phase⟩ := registration
  obtain ⟨rfl, hprepared⟩ := h
  exact ⟨hat, hprepared, hat, .loading 0⟩

theorem Begins.step (h : state.Begins table schedule thread registration)
    (hafter : ((state.run table (schedule ++ [thread])).thread thread).registration? =
      some (registration.step (state.run table schedule).registry).1)
    (hregistry : (state.run table (schedule ++ [thread])).registry = (registration.step (state.run table schedule).registry).2) :
    state.Begins table (schedule ++ [thread]) thread (registration.step (state.run table schedule).registry).1 := by
  obtain ⟨hbeginning, hprepared, hnow, hdone⟩ := h
  refine ⟨?_, by rwa [Registration.entry_step], hafter, ?_⟩
  · rw [hbeginning, Registration.kind_step, Registration.entry_step]
  · rw [run_append, run_cons, run_nil, registry_step] at hregistry
    rw [conduct_concat_self, Thread.deed_of_step hnow hregistry]
    rw [← label_run table state schedule] at hdone ⊢
    exact hdone.step

theorem Begins.other {index : Nat} (h : state.Begins table schedule thread registration) (hindex : index ≠ thread) :
    state.Begins table (schedule ++ [index]) thread registration := by
  obtain ⟨hbeginning, hprepared, hnow, hdone⟩ := h
  refine ⟨hbeginning, hprepared, ?_, ?_⟩
  · rwa [run_append, run_cons, run_nil, thread_step_of_ne hindex]
  · rwa [conduct_concat_of_ne hindex]

/-- Every registration at work was begun at some moment. -/
theorem exists_begins (hstart : (start.thread thread).registration? = none) {schedule : List Nat}
    (h : ((start.run table schedule).thread thread).registration? = some registration) :
    ∃ before during, schedule = before ++ during ∧ (start.run table before).Begins table during thread registration := by
  induction schedule using List.reverseRecOn generalizing registration with
  | nil => exact nomatch hstart.symm.trans h
  | append_singleton schedule index ih =>
    rw [run_append, run_cons, run_nil] at h
    by_cases hown : index = thread
    · subst hown
      have hturn := ((start.run table schedule).thread index).step_cases table index (start.run table schedule).registry
      rw [← thread_step_self] at hturn
      -- the turn has begun the registration, or it has taken an earlier one a step further
      rcases hturn with ⟨-, -, hfresh⟩ | ⟨earlier, hat, hafter, hregistry⟩
      · refine ⟨schedule ++ [index], [], (List.append_nil _).symm, begins_of_isFresh ?_ (hfresh registration h)⟩
        rwa [run_append, run_cons, run_nil]
      · obtain ⟨before, during, rfl, hbegins⟩ := ih hat
        obtain rfl : _ = registration := Option.some.inj (hafter.symm.trans h)
        rw [run_append] at hafter hregistry ⊢
        refine ⟨before, during ++ [index], List.append_assoc .., hbegins.step ?_ ?_⟩
        · rwa [run_append, run_cons, run_nil]
        · rwa [run_append, run_cons, run_nil, registry_step]
    · rw [thread_step_of_ne hown] at h
      obtain ⟨before, during, rfl, hbegins⟩ := ih h
      exact ⟨before, during ++ [index], List.append_assoc .., hbegins.other hown⟩

end Begins

end State

/-! ### From invocation to return -/

/-- What comes of a registration, and all that it has done by then. -/
inductive Registers (table : TypeTable) (label : String) (kind : MessageKind) (type : NativeType) (text : String) :
    Except RegisterError Descriptor → Conduct → Prop where
  /-- The request is not in order. -/
  | refused {error : RegisterError} : Registry.prepare table type text = .error error →
      Registers table label kind type text (.error error) {}
  /-- There is a conflict, after so many lost races. -/
  | rejected {entry : Descriptor} {error : RegisterError} (retries : Nat) : Registry.prepare table type text = .ok entry →
      error.isConflict → Registers table label kind type text (.error error)
        ⟨[], retries, Event.retries label entry.identifier retries ++ [.rejected label kind error]⟩
  /-- The descriptor is published, after so many lost races. -/
  | registered {entry : Descriptor} (retries length : Nat) : Registry.prepare table type text = .ok entry →
      Registers table label kind type text (.ok entry)
        ⟨[entry], retries, Event.retries label entry.identifier retries ++
          [.registered label entry.identifier entry.name length retries]⟩

theorem Registers.of_done {label : String} {kind : MessageKind} {type : NativeType} {text : String} {registration : Registration}
    {result : Except RegisterError Descriptor} {conduct : Conduct} (hkind : registration.kind = kind)
    (hprepare : Registry.prepare table type text = .ok registration.entry) (h : registration.Done label conduct)
    (hresult : registration.result? = some result) : Registers table label kind type text result conduct := by
  subst hkind
  cases h with
  | registered retries length => exact Option.some.inj hresult ▸ .registered retries length hprepare
  | rejected retries hconflict => exact Option.some.inj hresult ▸ .rejected retries hprepare hconflict
  | loading retries => exact nomatch hresult
  | swapping retries seen replacement => exact nomatch hresult
  | retrying earlier => exact nomatch hresult
  | announcing retries length => exact nomatch hresult
  | rejecting retries hconflict => exact nomatch hresult

/-- How far a thread has come with a call that registers a type, the calls after it and the answers before it aside, and what it has done in its course. -/
inductive Stage (table : TypeTable) (label : String) (kind : MessageKind) (type : NativeType) (text : String)
    (calls : List Call) (answers : List Answer) : Thread → Conduct → Prop where
  | waiting : Stage table label kind type text calls answers ⟨none, .register kind type text :: calls, answers⟩ {}
  | working {registration : Registration} {conduct : Conduct} : registration.kind = kind →
      Registry.prepare table type text = .ok registration.entry → registration.Done label conduct →
      Stage table label kind type text calls answers ⟨some (.registering registration), calls, answers⟩ conduct
  | returning {result : Except RegisterError Descriptor} {conduct : Conduct} : Registers table label kind type text result conduct →
      Stage table label kind type text calls answers ⟨some (.returning (.registered result)), calls, answers⟩ conduct
  | returned {result : Except RegisterError Descriptor} {conduct : Conduct} : Registers table label kind type text result conduct →
      Stage table label kind type text calls answers ⟨none, calls, answers ++ [.registered result]⟩ conduct

namespace Stage

variable {kind : MessageKind} {type : NativeType} {text : String} {calls : List Call} {answers : List Answer} {thread : Thread}
  {conduct : Conduct}

/-- A turn of the thread brings the call further, or it makes the next call. -/
theorem step (h : Stage table registry.label kind type text calls answers thread conduct) (index : Nat) :
    Stage table registry.label kind type text calls answers (thread.step table index registry).1
        (conduct ++ thread.deed table index registry) ∨
      (thread.step table index registry).1.calls.length < calls.length := by
  cases h with
  | waiting =>
    left
    rw [Thread.deed_idle, Conduct.append_nothing]
    cases hentry : Registry.prepare table type text with
    | error error =>
      show Stage table _ kind type text calls answers ⟨some (Pending.start table _), calls, answers⟩ {}
      rw [Pending.start_of_refused hentry]
      exact .returning (.refused hentry)
    | ok entry =>
      show Stage table _ kind type text calls answers ⟨some (Pending.start table _), calls, answers⟩ {}
      rw [Pending.start_of_prepared hentry]
      exact .working rfl hentry (.loading 0)
  | @working registration _ hkind hprepare hdone =>
    left
    rw [Thread.deed_registering]
    show Stage table _ kind type text calls answers ⟨some ((Pending.registering registration).step table registry).1, calls, answers⟩ _
    cases hresult : registration.result? with
    | some result =>
      rw [Pending.step_of_finished hresult, Registration.deed_of_result? hresult, Conduct.append_nothing]
      exact .returning (.of_done hkind hprepare hdone hresult)
    | none =>
      rw [Pending.step_of_unfinished hresult]
      exact .working ((registration.kind_step registry).trans hkind) ((registration.entry_step registry).symm ▸ hprepare) hdone.step
  | returning hregisters =>
    rw [Thread.deed_returning, Conduct.append_nothing]
    exact .inl (.returned hregisters)
  | returned hregisters =>
    rw [Thread.deed_idle, Conduct.append_nothing]
    cases calls with
    | nil => exact .inl (.returned hregisters)
    | cons call calls => exact .inr (Nat.lt_succ_self _)

/-- Once the thread has one answer more, it is the answer to the call. -/
theorem registers_of_answers {label : String} {answer : Answer} (h : Stage table label kind type text calls answers thread conduct)
    (hanswers : thread.answers = answers ++ [answer]) :
    ∃ result, answer = .registered result ∧ Registers table label kind type text result conduct := by
  cases h with
  | returned hregisters =>
    rw [List.append_cancel_left_eq, List.singleton_inj] at hanswers
    exact ⟨_, hanswers.symm, hregisters⟩
  | waiting => exact absurd (List.self_eq_append_right.1 hanswers) (List.cons_ne_nil _ _)
  | working _ _ _ => exact absurd (List.self_eq_append_right.1 hanswers) (List.cons_ne_nil _ _)
  | returning _ => exact absurd (List.self_eq_append_right.1 hanswers) (List.cons_ne_nil _ _)

end Stage

theorem Thread.length_calls_step (index : Nat) (thread : Thread) (registry : Registry) :
    (thread.step table index registry).1.calls.length ≤ thread.calls.length := by
  have hcalls : invocations (thread.step table index registry).2.2 index ++ (thread.step table index registry).1.calls =
      thread.calls := Thread.calls_step index thread registry
  rw [← hcalls, List.length_append]
  exact Nat.le_add_left _ _

private theorem getElem?_concat_new {α : Type} {list : List α} {last a : α} {number : Nat} (h : (list ++ [last])[number]? = some a)
    (hnew : list[number]? ≠ some a) : list.length = number ∧ last = a := by
  rcases Nat.lt_trichotomy number list.length with hold | rfl | hafter
  · rw [List.getElem?_append_left hold] at h
    exact absurd h hnew
  · rw [List.getElem?_concat_length, Option.some.injEq] at h
    exact ⟨rfl, h⟩
  · have hlast := (List.getElem?_eq_some_iff.1 h).1
    rw [List.length_append, List.length_singleton] at hlast
    omega

/-- A thread has no answer more after its turn, or it returns from a call. -/
theorem Thread.answers_step_cases (table : TypeTable) (index : Nat) (thread : Thread) (registry : Registry) :
    (thread.step table index registry).1.answers = thread.answers ∨
      ∃ answer, thread.pending? = some (.returning answer) ∧
        (thread.step table index registry).1 = ⟨none, thread.calls, thread.answers ++ [answer]⟩ := by
  obtain ⟨pending?, calls, answers⟩ := thread
  cases pending? with
  | none => cases calls <;> exact .inl rfl
  | some pending =>
    cases pending with
    | returning answer => exact .inr ⟨answer, rfl, rfl⟩
    | registering registration => exact .inl rfl
    | declaring series => exact .inl rfl
    | asking question => exact .inl rfl

namespace State

variable {start state : State} {schedule : List Nat} {thread : Nat} {call : Call} {answer : Answer}

/-- Under the schedule the thread makes the call, as its next one, and has the answer to it. -/
structure Completes (table : TypeTable) (state : State) (schedule : List Nat) (thread : Nat) (call : Call) (answer : Answer) : Prop where
  idle : (state.thread thread).pending? = none
  calls : (state.thread thread).calls = call :: ((state.run table schedule).thread thread).calls
  answers : ((state.run table schedule).thread thread).answers = (state.thread thread).answers ++ [answer]

theorem stage_run {kind : MessageKind} {type : NativeType} {text : String} {calls : List Call}
    (hidle : (state.thread thread).pending? = none) (hcalls : (state.thread thread).calls = .register kind type text :: calls)
    (schedule : List Nat) :
    Stage table state.registry.label kind type text calls (state.thread thread).answers ((state.run table schedule).thread thread)
        (state.conduct table schedule thread) ∨
      ((state.run table schedule).thread thread).calls.length < calls.length := by
  induction schedule using List.reverseRecOn with
  | nil =>
    have hwaiting : state.thread thread = ⟨none, .register kind type text :: calls, (state.thread thread).answers⟩ := by
      rw [← hidle, ← hcalls]
    rw [run_nil, hwaiting]
    exact .inl .waiting
  | append_singleton schedule index ih =>
    rw [run_append, run_cons, run_nil]
    by_cases hown : index = thread
    · subst hown
      rw [thread_step_self, conduct_concat_self]
      rcases ih with hstage | hnext
      · rw [← label_run table state schedule] at hstage ⊢
        exact hstage.step index
      · exact .inr (Nat.lt_of_le_of_lt (Thread.length_calls_step index _ _) hnext)
    · rw [thread_step_of_ne hown, conduct_concat_of_ne hown]
      exact ih

/-- A call that registers a type returns what comes of the registration. -/
theorem registers_of_completes {kind : MessageKind} {type : NativeType} {text : String}
    (h : state.Completes table schedule thread (.register kind type text) answer) :
    ∃ result, answer = .registered result ∧
      Registers table state.registry.label kind type text result (state.conduct table schedule thread) := by
  rcases stage_run h.idle h.calls schedule with hstage | hnext
  · exact hstage.registers_of_answers h.answers
  · exact absurd hnext (Nat.lt_irrefl _)

/-- A thread that is in the course of a call has made it at some moment. -/
theorem exists_invocation (hidle : (start.thread thread).pending? = none) {pending : Pending}
    (h : ((start.run table schedule).thread thread).pending? = some pending) :
    ∃ before during call, schedule = before ++ during ∧ ((start.run table before).thread thread).pending? = none ∧
      ((start.run table before).thread thread).calls = call :: ((start.run table schedule).thread thread).calls ∧
      ((start.run table before).thread thread).answers = ((start.run table schedule).thread thread).answers := by
  induction schedule using List.reverseRecOn generalizing pending with
  | nil => exact nomatch hidle.symm.trans h
  | append_singleton schedule index ih =>
    rw [run_append, run_cons, run_nil] at h ⊢
    by_cases hown : index = thread
    · subst hown
      rw [thread_step_self] at h ⊢
      rcases hthread : (start.run table schedule).thread index with ⟨pending?, calls, answers⟩
      rw [hthread] at h ih
      cases pending? with
      | none =>
        cases calls with
        | nil => exact nomatch h
        | cons call calls => exact ⟨schedule, [index], call, rfl, by rw [hthread], by rw [hthread]; rfl, by rw [hthread]; rfl⟩
      | some earlier =>
        obtain ⟨before, during, call, rfl, hbefore, hcalls, hanswers⟩ := ih rfl
        refine ⟨before, during ++ [index], call, List.append_assoc .., hbefore, ?_, ?_⟩
        · cases earlier with
          | returning answer => exact hcalls
          | registering registration => exact hcalls
          | declaring series => exact hcalls
          | asking question => exact hcalls
        · cases earlier with
          | returning answer => exact nomatch h
          | registering registration => exact hanswers
          | declaring series => exact hanswers
          | asking question => exact hanswers
    · rw [thread_step_of_ne hown] at h ⊢
      obtain ⟨before, during, call, rfl, hmade⟩ := ih h
      exact ⟨before, during ++ [index], call, List.append_assoc .., hmade⟩

/-- Every answer of a thread is the answer to a call that it has made. -/
theorem exists_completes_of_answers (hidle : (start.thread thread).pending? = none) (hnew : (start.thread thread).answers = [])
    {number : Nat} (h : ((start.run table schedule).thread thread).answers[number]? = some answer) :
    ∃ before during later call, schedule = before ++ during ++ later ∧ (start.run table before).Completes table during thread call answer ∧
      ((start.run table before).thread thread).answers.length = number := by
  induction schedule using List.reverseRecOn with
  | nil =>
    rw [run_nil, hnew] at h
    exact nomatch h
  | append_singleton schedule index ih =>
    by_cases hold : ((start.run table schedule).thread thread).answers[number]? = some answer
    · obtain ⟨before, during, later, call, rfl, hmade⟩ := ih hold
      exact ⟨before, during, later ++ [index], call, List.append_assoc .., hmade⟩
    · rw [run_append, run_cons, run_nil] at h
      by_cases hown : index = thread
      · subst hown
        rw [thread_step_self] at h
        rcases Thread.answers_step_cases table index ((start.run table schedule).thread index) (start.run table schedule).registry with
          hsame | ⟨last, hreturning, hafter⟩
        · exact absurd (hsame ▸ h) hold
        · obtain ⟨before, during, call, rfl, hbefore, hcalls, hanswers⟩ := exists_invocation hidle hreturning
          have hlast : ((start.run table before).run table (during ++ [index])).thread index =
              ⟨none, ((start.run table (before ++ during)).thread index).calls,
                ((start.run table (before ++ during)).thread index).answers ++ [last]⟩ := by
            rw [run_append, run_cons, run_nil, ← run_append, thread_step_self, hafter]
          rw [hafter] at h
          obtain ⟨rfl, rfl⟩ := getElem?_concat_new h hold
          refine ⟨before, during ++ [index], [], call, by simp, ⟨hbefore, ?_, ?_⟩, congrArg List.length hanswers⟩
          · rw [hlast, hcalls]
          · rw [hlast, hanswers]
      · rw [thread_step_of_ne hown] at h
        exact absurd h hold

/-- Between the call of a number and the answer of that number lie the turns in which the thread makes the call. -/
theorem exists_completes {registry : Registry} {calls : List (List Call)} {number : Nat}
    (hcall : (invocations ((State.start registry calls).run table schedule).history thread)[number]? = some call)
    (hanswer : (returns ((State.start registry calls).run table schedule).history thread)[number]? = some answer) :
    ∃ before during later, schedule = before ++ during ++ later ∧
      ((State.start registry calls).run table before).Completes table during thread call answer := by
  have hstart := thread_start registry calls thread
  have hrecords : ∀ past, ((State.start registry calls).run table past).Records calls := State.records_run registry calls
  rw [(hrecords schedule thread).2] at hanswer
  obtain ⟨before, during, later, made, hschedule, hcompletes, hlength⟩ :=
    exists_completes_of_answers (congrArg Thread.pending? hstart) (congrArg Thread.answers hstart) hanswer
  refine ⟨before, during, later, hschedule, ?_⟩
  -- the calls that the thread was given tell which one it makes with so many answers
  have haccords := accords_run table registry calls before thread
  rw [Thread.Accords, hcompletes.idle] at haccords
  have hmade : (calls[thread]?.getD [])[number]? = some made := by
    rw [← (hrecords before thread).1, hcompletes.calls, ← hlength, ← haccords.length_eq]
    simp
  rw [← (hrecords schedule thread).1, List.getElem?_append_left (List.getElem?_eq_some_iff.1 hcall).1, hcall,
    Option.some.injEq] at hmade
  exact hmade ▸ hcompletes

end State

/-- Something holds of every registration at work, with the turns since its beginning, and something of every call that has registered a type, with the turns from its invocation to its return. -/
structure Throughout (table : TypeTable) (start : State) (schedule : List Nat)
    (atWork : State → List Nat → Nat → Registration → Prop)
    (afterwards : State → List Nat → Nat → MessageKind → Except RegisterError Descriptor → Prop) : Prop where
  working : ∀ thread registration, ((start.run table schedule).thread thread).registration? = some registration →
    ∃ before during, schedule = before ++ during ∧ (start.run table before).Begins table during thread registration ∧
      atWork (start.run table before) during thread registration
  returned : ∀ (thread number : Nat) kind type text answer,
    (invocations (start.run table schedule).history thread)[number]? = some (.register kind type text) →
    (returns (start.run table schedule).history thread)[number]? = some answer →
    ∃ before during later result, schedule = before ++ during ++ later ∧ answer = .registered result ∧
      (start.run table before).Completes table during thread (.register kind type text) answer ∧
      Registers table start.registry.label kind type text result ((start.run table before).conduct table during thread) ∧
      afterwards (start.run table before) during thread kind result

theorem throughout_run {registry : Registry} {calls : List (List Call)}
    {atWork : State → List Nat → Nat → Registration → Prop}
    {afterwards : State → List Nat → Nat → MessageKind → Except RegisterError Descriptor → Prop} (schedule : List Nat)
    (hwork : ∀ before during thread registration,
      ((State.start registry calls).run table before).Begins table during thread registration →
      atWork ((State.start registry calls).run table before) during thread registration)
    (hafter : ∀ before during thread kind type text result,
      ((State.start registry calls).run table before).Completes table during thread (.register kind type text) (.registered result) →
      Registers table registry.label kind type text result
        (((State.start registry calls).run table before).conduct table during thread) →
      afterwards ((State.start registry calls).run table before) during thread kind result) :
    Throughout table (State.start registry calls) schedule atWork afterwards where
  working thread registration hat := by
    obtain ⟨before, during, rfl, hbegins⟩ := State.exists_begins (State.registration?_start registry calls thread) hat
    exact ⟨before, during, rfl, hbegins, hwork before during thread registration hbegins⟩
  returned thread number kind type text answer hcall hanswer := by
    obtain ⟨before, during, later, rfl, hcompletes⟩ := State.exists_completes hcall hanswer
    obtain ⟨result, rfl, hregisters⟩ := State.registers_of_completes hcompletes
    rw [State.label_run] at hregisters
    exact ⟨before, during, later, result, rfl, rfl, hcompletes, hregisters,
      hafter before during thread kind type text result hcompletes hregisters⟩

end MessageCatalog.Concurrent
