import MessageCatalog.Proofs.Concurrent.Growth
import MessageCatalog.Proofs.Registry.Plan

/-!
# Callers that declare the same types

Registering declarations is not one atomic step, so callers that do it at once might each register a part. They do not: all of them begin with the same declaration, one of them publishes it, and whoever comes to it later is refused and stops. `Contested` is this invariant. As long as the registry is empty all callers are level; from the first publication on one of them is ahead, everything in the registry is its own, and nobody else will ever publish anything.
-/

namespace MessageCatalog.Concurrent

open Merge

variable {table : TypeTable} {registry : Registry}

/-! ### One caller -/

theorem Thread.step_declaring (series : Series) (calls : List Call) (answers : List Answer) (index : Nat)
    (registry : Registry) :
    Thread.step table index ⟨some (.declaring series), calls, answers⟩ registry =
      (⟨some (series.step table registry).1, calls, answers⟩, (series.step table registry).2, []) := rfl

variable {declarations : List Declaration} {entries own : List Descriptor} {thread : Thread}

/-- A caller that met no conflict, and the descriptors that it has published. -/
inductive Progress (table : TypeTable) (declarations : List Declaration) (entries : List Descriptor) :
    List Descriptor → Thread → Prop where
  | waiting : Progress table declarations entries [] ⟨none, [.registerDeclared declarations], []⟩
  | between {rest : List Declaration} {own coming : List Descriptor} :
      List.Forall₂ (Declaration.Denotes table) rest coming → own ++ coming = entries →
      Progress table declarations entries own ⟨some (.declaring ⟨none, rest, own.length⟩), [], []⟩
  | trying {registration : Registration} {rest : List Declaration} {own coming : List Descriptor} :
      registration.verdict? = none → List.Forall₂ (Declaration.Denotes table) rest coming →
      own ++ registration.entry :: coming = entries →
      Progress table declarations entries own ⟨some (.declaring ⟨some registration, rest, own.length⟩), [], []⟩
  | registered {registration : Registration} {rest : List Declaration} {own coming : List Descriptor} :
      registration.verdict? = some (.ok registration.entry) → List.Forall₂ (Declaration.Denotes table) rest coming →
      own ++ registration.entry :: coming = entries →
      Progress table declarations entries (own ++ [registration.entry])
        ⟨some (.declaring ⟨some registration, rest, own.length⟩), [], []⟩
  | returning : Progress table declarations entries entries ⟨some (.returning (.declared (.ok entries.length))), [], []⟩
  | returned : Progress table declarations entries entries ⟨none, [], [.declared (.ok entries.length)]⟩

/-- A caller that is behind another one: it has published nothing, and if it knows, it knows because of the first declaration. -/
inductive Beaten (table : TypeTable) (declarations : List Declaration) (first : Descriptor) (later : List Descriptor) :
    Thread → Prop where
  | behind {thread : Thread} : Progress table declarations (first :: later) [] thread →
      Beaten table declarations first later thread
  | refused {registration : Registration} {rest : List Declaration} {done : Nat} :
      registration.verdict? = some (.error (.alreadyRegistered first.name first.identifier)) →
      Beaten table declarations first later ⟨some (.declaring ⟨some registration, rest, done⟩), [], []⟩
  | returning : Beaten table declarations first later
      ⟨some (.returning (.declared (.error (.alreadyRegistered first.name first.identifier)))), [], []⟩
  | returned : Beaten table declarations first later
      ⟨none, [], [.declared (.error (.alreadyRegistered first.name first.identifier))]⟩

namespace Progress

theorem isPrefix (h : Progress table declarations entries own thread) : own <+: entries := by
  cases h with
  | waiting => exact List.nil_prefix
  | between _ hentries => exact ⟨_, hentries⟩
  | trying _ _ hentries => exact ⟨_, hentries⟩
  | registered _ _ hentries => exact ⟨_, by rw [List.append_assoc]; exact hentries⟩
  | returning => exact List.prefix_rfl
  | returned => exact List.prefix_rfl

theorem answers_of_idle (h : Progress table declarations entries own thread) (hpending : thread.pending? = none)
    (hcalls : thread.calls = []) : own = entries ∧ thread.answers = [.declared (.ok entries.length)] := by
  cases h with
  | returned => exact ⟨rfl, rfl⟩
  | waiting => exact nomatch hcalls
  | between _ _ => exact nomatch hpending
  | trying _ _ _ => exact nomatch hpending
  | registered _ _ _ => exact nomatch hpending
  | returning => exact nomatch hpending

/-- A turn changes nothing that counts, or it merges the next descriptor. -/
theorem step_cases (hplan : Plan table declarations entries)
    (hsound : ∀ registration, thread.registration? = some registration → registration.Sound registry.current)
    (h : Progress table declarations entries own thread) (index : Nat) :
    (thread.step table index registry).2.1.current = registry.current ∧
        Progress table declarations entries own (thread.step table index registry).1 ∨
      ∃ registration rest coming, List.Forall₂ (Declaration.Denotes table) rest coming ∧
        own ++ registration.entry :: coming = entries ∧
        registration.verdict? = some (registry.current.merge registration.entry).1 ∧
        (thread.step table index registry).1 = ⟨some (.declaring ⟨some registration, rest, own.length⟩), [], []⟩ ∧
        (thread.step table index registry).2.1.current = (registry.current.merge registration.entry).2 := by
  cases h with
  | waiting => exact .inl ⟨rfl, .between hplan.denotes rfl⟩
  | between hrest hentries =>
    rw [Thread.step_declaring]
    cases hrest with
    | nil =>
      rw [List.append_nil] at hentries
      rw [Series.step_of_end, hentries]
      exact .inl ⟨rfl, .returning⟩
    | cons hdenotes hrest =>
      rw [Series.step_of_prepared (Registry.prepare_eq_ok_iff.2 hdenotes)]
      exact .inl ⟨rfl, .trying rfl hrest hentries⟩
  | @trying registration rest _ coming hopen hrest hentries =>
    rw [Thread.step_declaring, Series.step_of_unfinished (Registration.result?_of_verdict?_eq_none hopen)]
    have hentry := (Registration.step_cases (hsound registration rfl)).1
    have hstep := Registration.step_of_open (hsound registration rfl) hopen
    rw [← hentry] at hentries hstep
    rcases hstep with ⟨hcurrent, hverdict⟩ | ⟨hverdict, hcurrent⟩
    · exact .inl ⟨hcurrent, .trying hverdict hrest hentries⟩
    · exact .inr ⟨_, rest, coming, hrest, hentries, hverdict, rfl, hcurrent⟩
  | @registered registration rest earlier coming hverdict hrest hentries =>
    rw [Thread.step_declaring]
    cases hresult : registration.result? with
    | none =>
      rw [Series.step_of_unfinished hresult]
      have hentry := (Registration.step_cases (hsound registration rfl)).1
      obtain ⟨hcurrent, hsame⟩ := Registration.step_of_verdict (hsound registration rfl) hverdict
      rw [← hentry] at hentries hsame ⊢
      exact .inl ⟨hcurrent, .registered hsame hrest hentries⟩
    | some result =>
      have hok := (Registration.verdict?_of_result? hresult).symm.trans hverdict
      have hlength : earlier.length + 1 = (earlier ++ [registration.entry]).length := by
        rw [List.length_append, List.length_singleton]
      rw [Series.step_of_registered (hresult.trans hok), hlength]
      exact .inl ⟨rfl, .between hrest (by rw [List.append_assoc]; exact hentries)⟩
  | returning => exact .inl ⟨rfl, .returned⟩
  | returned => exact .inl ⟨rfl, .returned⟩

/-- The turn of a caller that has published all that is published. -/
theorem step (hplan : Plan table declarations entries) (hcoherent : registry.current.Coherent)
    (hsound : ∀ registration, thread.registration? = some registration → registration.Sound registry.current)
    (htable : registry.current.snapshot.table = own) (h : Progress table declarations entries own thread) (index : Nat) :
    Progress table declarations entries (thread.step table index registry).2.1.current.snapshot.table
      (thread.step table index registry).1 := by
  rcases h.step_cases hplan hsound index with
    ⟨hcurrent, hnext⟩ | ⟨registration, rest, coming, hrest, hentries, hverdict, hthread, hcurrent⟩
  · rw [hcurrent, htable]
    exact hnext
  · rw [hplan.merge_next hentries hcoherent htable] at hverdict hcurrent
    rw [hthread, hcurrent, Published.next, Snapshot.table_extend, htable]
    exact .registered hverdict hrest hentries

end Progress

namespace Beaten

variable {first : Descriptor} {later : List Descriptor}

theorem answers_of_idle (h : Beaten table declarations first later thread) (hpending : thread.pending? = none)
    (hcalls : thread.calls = []) : thread.answers = [.declared (.error (.alreadyRegistered first.name first.identifier))] := by
  cases h with
  | behind hprogress => exact nomatch (hprogress.answers_of_idle hpending hcalls).1
  | refused _ => exact nomatch hpending
  | returning => exact nomatch hpending
  | returned => rfl

/-- The turn of a caller that is behind, when the first descriptor is in the registry. -/
theorem step (hplan : Plan table declarations (first :: later)) (hcoherent : registry.current.Coherent)
    (hsound : ∀ registration, thread.registration? = some registration → registration.Sound registry.current)
    (hfirst : first ∈ registry.current.snapshot.table) (h : Beaten table declarations first later thread) (index : Nat) :
    (thread.step table index registry).2.1.current = registry.current ∧
      Beaten table declarations first later (thread.step table index registry).1 := by
  cases h with
  | behind hprogress =>
    rcases hprogress.step_cases hplan hsound index with
      ⟨hcurrent, hnext⟩ | ⟨registration, rest, coming, hrest, hentries, hverdict, hthread, hcurrent⟩
    · exact ⟨hcurrent, .behind hnext⟩
    · -- a caller that has published nothing is at the first declaration
      have hsame : registration.entry = first := (List.cons.inj hentries).1
      rw [hsame, Published.merge_of_conflict (hcoherent.conflict?_of_mem hfirst)] at hverdict hcurrent
      rw [hthread]
      exact ⟨hcurrent, .refused hverdict⟩
  | @refused registration rest done hverdict =>
    rw [Thread.step_declaring]
    cases hresult : registration.result? with
    | none =>
      obtain ⟨hcurrent, hsame⟩ := Registration.step_of_verdict (hsound registration rfl) hverdict
      rw [Series.step_of_unfinished hresult]
      exact ⟨hcurrent, .refused hsame⟩
    | some result =>
      have herror := (Registration.verdict?_of_result? hresult).symm.trans hverdict
      rw [Series.step_of_refused (hresult.trans herror)]
      exact ⟨rfl, .returning⟩
  | returning => exact ⟨rfl, .returned⟩
  | returned => exact ⟨rfl, .returned⟩

end Beaten

/-! ### All callers -/

/-- Callers that register the same declarations at once. -/
def unison (callers : Nat) (declarations : List Declaration) : List (List Call) :=
  List.replicate callers [.registerDeclared declarations]

/-- All callers are level, or one of them is ahead and all others are behind it. -/
inductive Standing (table : TypeTable) (declarations : List Declaration) (first : Descriptor) (later : List Descriptor)
    (callers : Nat) (state : State) : Prop where
  | level : state.registry.current.snapshot.table = [] →
      (∀ index < callers, Progress table declarations (first :: later) [] (state.thread index)) →
      Standing table declarations first later callers state
  | ahead {winner : Nat} : winner < callers → first ∈ state.registry.current.snapshot.table →
      Progress table declarations (first :: later) state.registry.current.snapshot.table (state.thread winner) →
      (∀ index < callers, index ≠ winner → Beaten table declarations first later (state.thread index)) →
      Standing table declarations first later callers state

/-- What holds of a registry that is used by the callers and by nobody else. -/
structure Contested (table : TypeTable) (declarations : List Declaration) (first : Descriptor) (later : List Descriptor)
    (callers : Nat) (state : State) : Prop where
  holds : state.Holds Published.Coherent (IsAtWork table)
  length_threads : state.threads.length = callers
  standing : Standing table declarations first later callers state

variable {callers : Nat} {state : State} {first : Descriptor} {later : List Descriptor}

/-- A turn of a caller that is level with all others puts it ahead if it publishes. -/
theorem Standing.step_level (hplan : Plan table declarations (first :: later)) (hcoherent : state.registry.current.Coherent)
    {index : Nat} (hindex : index < callers)
    (hwork : ∀ registration, (state.thread index).registration? = some registration →
      IsAtWork table state.registry.current registration)
    (hempty : state.registry.current.snapshot.table = [])
    (hlevel : ∀ other < callers, Progress table declarations (first :: later) [] (state.thread other)) :
    Standing table declarations first later callers (state.step table index) := by
  have hown := (hlevel index hindex).step hplan hcoherent (fun registration hat => (hwork registration hat).1) hempty index
  rw [← State.thread_step_self, ← State.registry_step] at hown
  have hothers : ∀ other < callers, other ≠ index →
      Progress table declarations (first :: later) [] ((state.step table index).thread other) := by
    intro other hother hne
    rw [State.thread_step_of_ne hne.symm]
    exact hlevel other hother
  cases htable : (state.step table index).registry.current.snapshot.table with
  | nil =>
    refine .level htable fun other hother => ?_
    by_cases hne : other = index
    · rw [hne, ← htable]
      exact hown
    · exact hothers other hother hne
  | cons entry rest =>
    have hprefix := hown.isPrefix
    rw [htable] at hprefix
    have hfirst : entry = first := (List.cons_prefix_cons.1 hprefix).1
    refine .ahead hindex ?_ hown fun other hother hne => .behind (hothers other hother hne)
    rw [htable, hfirst]
    exact List.mem_cons_self

theorem Standing.step_ahead (hplan : Plan table declarations (first :: later)) (hcoherent : state.registry.current.Coherent)
    {index winner : Nat} (hindex : index < callers)
    (hwork : ∀ registration, (state.thread index).registration? = some registration →
      IsAtWork table state.registry.current registration)
    (hwinner : winner < callers) (hfirst : first ∈ state.registry.current.snapshot.table)
    (hahead : Progress table declarations (first :: later) state.registry.current.snapshot.table (state.thread winner))
    (hothers : ∀ other < callers, other ≠ winner → Beaten table declarations first later (state.thread other)) :
    Standing table declarations first later callers (state.step table index) := by
  have hsound := fun registration hat => (hwork registration hat).1
  by_cases hne : index = winner
  · subst hne
    have hown := hahead.step hplan hcoherent hsound rfl index
    have hgrown := (state.thread index).table_step index hwork
    rw [← State.registry_step] at hown hgrown
    rw [← State.thread_step_self] at hown
    refine .ahead hindex ?_ hown fun other hother hne => ?_
    · rw [← Registry.snapshot, hgrown]
      exact List.mem_append_left _ hfirst
    · rw [State.thread_step_of_ne hne.symm]
      exact hothers other hother hne
  · obtain ⟨hcurrent, hbeaten⟩ := (hothers index hindex hne).step hplan hcoherent hsound hfirst index
    rw [← State.registry_step] at hcurrent
    rw [← State.thread_step_self] at hbeaten
    refine .ahead hwinner (hcurrent ▸ hfirst) ?_ fun other hother hother' => ?_
    · rw [hcurrent, State.thread_step_of_ne hne]
      exact hahead
    · by_cases hsame : index = other
      · exact hsame ▸ hbeaten
      · rw [State.thread_step_of_ne hsame]
        exact hothers other hother hother'

namespace Contested

theorem start (hcoherent : registry.current.Coherent) (hempty : registry.current.snapshot.table = []) :
    Contested table declarations first later callers (State.start registry (unison callers declarations)) where
  holds := State.holds_start hcoherent _
  length_threads := by rw [State.start, List.length_map, unison, List.length_replicate]
  standing := by
    refine .level hempty fun index hindex => ?_
    rw [State.thread_start, unison, List.getElem?_replicate, if_pos hindex]
    exact .waiting

theorem step (hplan : Plan table declarations (first :: later)) (h : Contested table declarations first later callers state)
    (index : Nat) : Contested table declarations first later callers (state.step table index) := by
  by_cases hindex : index < callers
  · have hwork : ∀ registration, (state.thread index).registration? = some registration →
        IsAtWork table state.registry.current registration := fun registration hat => h.holds.thread index hat
    refine ⟨h.holds.step (State.keeps_isAtWork (Published.mergeKeeps_coherent table)) index, ?_, ?_⟩
    · rw [State.length_threads_step, h.length_threads]
    · cases h.standing with
      | level hempty hlevel => exact .step_level hplan h.holds.1 hindex hwork hempty hlevel
      | ahead hwinner hfirst hahead hothers => exact .step_ahead hplan h.holds.1 hindex hwork hwinner hfirst hahead hothers
  · rw [State.step_of_none (List.getElem?_eq_none (h.length_threads ▸ Nat.not_lt.1 hindex))]
    exact h

theorem run (hplan : Plan table declarations (first :: later)) (h : Contested table declarations first later callers state)
    (schedule : List Nat) : Contested table declarations first later callers (state.run table schedule) := by
  induction schedule generalizing state with
  | nil => exact h
  | cons index schedule ih => exact ih (h.step hplan index)

end Contested

/-- One caller has registered all declarations, and all others were refused because of the first of them. -/
structure AdmitsOne (table : TypeTable) (declarations : List Declaration) (callers : Nat) (history : List Moment)
    (entries : List Descriptor) (winner : Nat) : Prop where
  winner_lt : winner < callers
  admitted : returns history winner = [.declared (.ok declarations.length)]
  refused : ∃ smallest ∈ declarations, ∃ entry, smallest.Denotes table entry ∧
    (∀ declaration ∈ declarations, smallest.identifier ≤ declaration.identifier) ∧
    ∀ other < callers, other ≠ winner →
      returns history other = [.declared (.error (.alreadyRegistered entry.name entry.identifier))]
  /-- The declarations are in the registry, each once, in ascending order of their texts. -/
  ascending : ∃ sorted : List Declaration, sorted.Perm declarations ∧
    sorted.Pairwise (fun left right => left.identifier < right.identifier) ∧
    List.Forall₂ (Declaration.Denotes table) sorted entries

/-- Of callers that register the same declarations at once, in an empty registry that nobody else uses, exactly one is admitted, however their turns come. -/
theorem exists_admitsOne (hreachable : registry.Reachable table) (hempty : registry.snapshot.table = [])
    (hdeclarable : Declarable declarations) (hcallers : 0 < callers) (schedule : List Nat)
    (hidle : ((State.start registry (unison callers declarations)).run table schedule).isIdle) :
    ∃ winner, AdmitsOne table declarations callers
      ((State.start registry (unison callers declarations)).run table schedule).history
      ((State.start registry (unison callers declarations)).run table schedule).registry.snapshot.table winner := by
  obtain ⟨entries, hplan⟩ := hdeclarable.exists_plan table
  obtain ⟨first, later, rfl⟩ := List.exists_cons_of_ne_nil hplan.ne_nil
  have hstart : Contested table declarations first later callers (State.start registry (unison callers declarations)) :=
    .start hreachable.coherent hempty
  have hdone := State.thread_of_isIdle hidle
  have hrecords : ((State.start registry (unison callers declarations)).run table schedule).Records (unison callers declarations) :=
    State.records_run registry _ schedule
  have hreturns := fun index => (hrecords index).2
  cases (hstart.run hplan schedule).standing with
  | level _ hlevel =>
    have hnothing := ((hlevel 0 hcallers).answers_of_idle (hdone 0).1 (hdone 0).2).1
    exact nomatch hnothing
  | @ahead winner hwinner _ hahead hothers =>
    obtain ⟨htable, hanswers⟩ := hahead.answers_of_idle (hdone winner).1 (hdone winner).2
    obtain ⟨smallest, rest, hsmallest, -, hsorted⟩ := List.forall₂_cons_right_iff.1 hplan.denotes
    have hperm := Declaration.inOrder_perm declarations
    refine ⟨winner, hwinner, ?admitted, ⟨smallest, ?mem, first, hsmallest, fun declaration hdeclaration => ?least,
      fun other hother hne => ?refused⟩, _, hperm, hdeclarable.pairwise_lt, ?entries⟩
    case admitted => rw [hreturns, hanswers, hplan.length_eq]
    case mem => exact hperm.mem_iff.1 (hsorted ▸ List.mem_cons_self)
    case least =>
      have hmem := hperm.mem_iff.2 hdeclaration
      have hle := Declaration.pairwise_inOrder declarations
      rw [hsorted] at hmem hle
      rcases List.mem_cons.1 hmem with rfl | hrest
      · exact String.le_refl _
      · exact (List.pairwise_cons.1 hle).1 declaration hrest
    case refused => rw [hreturns, (hothers other hother hne).answers_of_idle (hdone other).1 (hdone other).2]
    case entries =>
      rw [Registry.snapshot, htable]
      exact hplan.denotes

/-- Two declarations of one package. The order of the texts is not the order of the identifiers. -/
def siblings : List Declaration :=
  [⟨"a8098c1a-f86e-11da-bd1a-00112444be1e", .command, .value 0, "billing"⟩,
    ⟨"B8098C1A-F86E-11DA-BD1A-00112444BE1E", .event, .value 1, "billing"⟩]

theorem declarable_siblings : Declarable siblings where
  ne_nil := by decide
  isOk := by
    simp only [siblings, List.forall_mem_cons, List.not_mem_nil, false_implies, implies_true, and_true]
    exact ⟨⟨"a8098c1a-f86e-11da-bd1a-00112444be1e", by decide⟩, ⟨"b8098c1a-f86e-11da-bd1a-00112444be1e", by decide⟩⟩
  isValue := by simp [siblings, NativeType.IsValue, NativeType.referent?]
  types_nodup := by decide
  identifiers_nodup := by decide

theorem inOrder_siblings :
    Declaration.inOrder siblings =
      [⟨"B8098C1A-F86E-11DA-BD1A-00112444BE1E", .event, .value 1, "billing"⟩,
        ⟨"a8098c1a-f86e-11da-bd1a-00112444be1e", .command, .value 0, "billing"⟩] := by
  have hlast : ¬ "a8098c1a-f86e-11da-bd1a-00112444be1e" ≤ "B8098C1A-F86E-11DA-BD1A-00112444BE1E" := by decide
  simp [Declaration.inOrder, siblings, List.mergeSort, hlast]

theorem isIdle_siblings :
    ((State.start (Registry.create 0 "main") (unison 2 siblings)).run namesakes
      [0, 1, 0, 1, 0, 1, 0, 1, 0, 0, 0, 0, 0, 0, 0, 0, 0, 1, 1, 1, 1, 1]).isIdle := by
  have hfirst : Registry.prepare namesakes (.value 1) "B8098C1A-F86E-11DA-BD1A-00112444BE1E" =
      .ok (.of namesakes (.value 1) ⟨"b8098c1a-f86e-11da-bd1a-00112444be1e", by decide⟩) :=
    Registry.prepare_of_value (Identifier.parse_eq_ok_iff.2 (by decide)) rfl
  have hlast : Registry.prepare namesakes (.value 0) "a8098c1a-f86e-11da-bd1a-00112444be1e" =
      .ok (.of namesakes (.value 0) ⟨"a8098c1a-f86e-11da-bd1a-00112444be1e", by decide⟩) :=
    Registry.prepare_of_value (Identifier.parse_eq_ok_iff.2 (by decide)) rfl
  simp [State.start, unison, State.step, Thread.step, Pending.start, inOrder_siblings, hfirst, hlast, Pending.step,
    Series.step, Merge.Registration.result?, Merge.Registration.step, Registry.compareAndSwap, Snapshot.conflict?,
    Registry.snapshot, Registry.create, Snapshot.findType?_extend, Snapshot.findIdentifier?_extend, Registry.report,
    State.isIdle, Thread.isIdle]

/-- Both callers have read the empty registry before either publishes. -/
theorem exists_admitsOne_tie :
    Registry.Reachable namesakes (Registry.create 0 "main") ∧ (Registry.create 0 "main").snapshot.table = [] ∧
      Declarable siblings ∧ 0 < 2 ∧
      ((State.start (Registry.create 0 "main") (unison 2 siblings)).run namesakes
        [0, 1, 0, 1, 0, 1, 0, 1, 0, 0, 0, 0, 0, 0, 0, 0, 0, 1, 1, 1, 1, 1]).isIdle ∧
      ∃ winner, AdmitsOne namesakes siblings 2
        ((State.start (Registry.create 0 "main") (unison 2 siblings)).run namesakes
          [0, 1, 0, 1, 0, 1, 0, 1, 0, 0, 0, 0, 0, 0, 0, 0, 0, 1, 1, 1, 1, 1]).history
        ((State.start (Registry.create 0 "main") (unison 2 siblings)).run namesakes
          [0, 1, 0, 1, 0, 1, 0, 1, 0, 0, 0, 0, 0, 0, 0, 0, 0, 1, 1, 1, 1, 1]).registry.snapshot.table winner :=
  ⟨.create 0 "main", rfl, declarable_siblings, Nat.two_pos, isIdle_siblings,
    exists_admitsOne (.create 0 "main") rfl declarable_siblings Nat.two_pos _ isIdle_siblings⟩

end MessageCatalog.Concurrent
