import MessageCatalog.Declaration

/-!
# The one step that counts

A registration takes many small steps, and others may come between any two of them. Yet it does its work at one step alone: at the read that finds a conflict, or at the swap that publishes its descriptor. `Published.merge` is that work in one piece, and `Registration.step_cases` says that every step either leaves the publication and the verdict as they are or is that work. All theorems on interleavings rest on this fact and look at no phase again.
-/

namespace MessageCatalog

namespace Published

def next (current : Published) (snapshot : Snapshot) : Published :=
  ⟨⟨current.stamp.registry, current.stamp.version + 1⟩, snapshot⟩

/-- Merging a descriptor in one piece: the verdict on it, and what is published afterwards. -/
def merge (current : Published) (entry : Descriptor) : Except RegisterError Descriptor × Published :=
  match current.snapshot.conflict? entry with
  | some error => (.error error, current)
  | none => (.ok entry, current.next (current.snapshot.extend entry))

variable {seen current later : Published} {entry : Descriptor}

theorem merge_of_conflict {error : RegisterError} (h : current.snapshot.conflict? entry = some error) :
    current.merge entry = (.error error, current) := by
  simp [merge, h]

theorem merge_of_free (h : current.snapshot.conflict? entry = none) :
    current.merge entry = (.ok entry, current.next (current.snapshot.extend entry)) := by
  simp [merge, h]

/-! ### Earlier publications

A stamp never comes back, so a publication with the current stamp is the current one, whatever happened in between. -/

/-- What was seen is still published, or something of a later version is. -/
def NotAfter (seen current : Published) : Prop := seen = current ∨ seen.stamp.version < current.stamp.version

theorem NotAfter.refl (current : Published) : current.NotAfter current := .inl rfl

theorem NotAfter.trans (hseen : seen.NotAfter current) (hcurrent : current.NotAfter later) : seen.NotAfter later := by
  rcases hseen with rfl | hseen
  · exact hcurrent
  · rcases hcurrent with rfl | hcurrent
    · exact .inr hseen
    · exact .inr (Nat.lt_trans hseen hcurrent)

theorem NotAfter.eq_of_stamp (h : seen.NotAfter current) (hstamp : current.stamp = seen.stamp) : seen = current := by
  rcases h with h | h
  · exact h
  · rw [hstamp] at h
    exact absurd h (Nat.lt_irrefl _)

theorem notAfter_next (current : Published) (snapshot : Snapshot) : current.NotAfter (current.next snapshot) :=
  .inr (Nat.lt_succ_self _)

theorem notAfter_merge (current : Published) (entry : Descriptor) : current.NotAfter (current.merge entry).2 := by
  cases hconflict : current.snapshot.conflict? entry with
  | some error =>
    rw [merge_of_conflict hconflict]
    exact .refl current
  | none =>
    rw [merge_of_free hconflict]
    exact notAfter_next current _

end Published

namespace Merge.Registration

variable {registry : Registry} {registration : Registration}

/-- The outcome that is fixed, though the registration may still have to report it. -/
def verdict? (registration : Registration) : Option (Except RegisterError Descriptor) :=
  match registration.phase with
  | .announcing .. => some (.ok registration.entry)
  | .rejecting error => some (.error error)
  | .finished result => some result
  | _ => none

theorem verdict?_of_result? {result : Except RegisterError Descriptor} (h : registration.result? = some result) :
    registration.verdict? = some result := by
  obtain ⟨kind, entry, phase⟩ := registration
  cases phase <;> simp_all [result?, verdict?]

theorem result?_of_verdict?_eq_none (h : registration.verdict? = none) : registration.result? = none :=
  Option.eq_none_iff_forall_ne_some.2 fun _ hresult => Option.some_ne_none _ ((verdict?_of_result? hresult).symm.trans h)

/-- What is about to be published extends a publication in which no conflict was found and which is not after the current one. -/
def Sound (current : Published) (registration : Registration) : Prop :=
  match registration.phase with
  | .swapping _ seen replacement =>
    seen.NotAfter current ∧ seen.snapshot.conflict? registration.entry = none ∧
      replacement = seen.snapshot.extend registration.entry
  | _ => True

theorem Sound.mono {current later : Published} (h : registration.Sound current) (hlater : current.NotAfter later) :
    registration.Sound later := by
  unfold Sound at h ⊢
  split at h
  · exact ⟨h.1.trans hlater, h.2⟩
  · trivial

/-- The step that settles a registration: it merges the descriptor into what is published at that moment. -/
def Settles (registration : Registration) (registry : Registry) (next : Registration × Registry) : Prop :=
  registration.verdict? = none ∧ ∃ verdict,
    next.1.verdict? = some verdict ∧ (verdict, next.2.current) = registry.current.merge registration.entry

/-- Every step keeps a registration sound, and either it settles the registration or nothing that counts changes. -/
theorem step_cases (h : registration.Sound registry.current) :
    (registration.step registry).1.entry = registration.entry ∧
      (registration.step registry).1.Sound (registration.step registry).2.current ∧
      ((registration.step registry).2.current = registry.current ∧
          (registration.step registry).1.verdict? = registration.verdict? ∨
        registration.Settles registry (registration.step registry)) := by
  obtain ⟨kind, entry, phase⟩ := registration
  cases phase with
  | loading retries =>
    cases hconflict : registry.snapshot.conflict? entry with
    | some error =>
      rw [step_loading_of_conflict hconflict]
      exact ⟨rfl, trivial, .inr ⟨rfl, .error error, rfl, (Published.merge_of_conflict hconflict).symm⟩⟩
    | none =>
      rw [step_loading_of_free hconflict]
      exact ⟨rfl, ⟨.refl _, hconflict, rfl⟩, .inl ⟨rfl, rfl⟩⟩
  | swapping retries seen replacement =>
    obtain ⟨hseen, hfree, hreplacement⟩ := h
    by_cases hstamp : registry.current.stamp = seen.stamp
    · have hcurrent := hseen.eq_of_stamp hstamp
      rw [step_swapping_of_current hstamp]
      refine ⟨rfl, trivial, .inr ⟨rfl, .ok entry, rfl, ?_⟩⟩
      rw [hreplacement, hcurrent, Published.merge_of_free (hcurrent ▸ hfree)]
      rfl
    · rw [step_swapping_of_stale hstamp]
      exact ⟨rfl, trivial, .inl ⟨rfl, rfl⟩⟩
  | retrying retries =>
    rw [step_retrying]
    exact ⟨rfl, trivial, .inl ⟨rfl, rfl⟩⟩
  | announcing retries length =>
    rw [step_announcing]
    exact ⟨rfl, trivial, .inl ⟨rfl, rfl⟩⟩
  | rejecting error =>
    rw [step_rejecting]
    exact ⟨rfl, trivial, .inl ⟨rfl, rfl⟩⟩
  | finished result => exact ⟨rfl, trivial, .inl ⟨rfl, rfl⟩⟩

/-- A step publishes nothing but the merge of its own descriptor. -/
theorem step_current (h : registration.Sound registry.current) :
    (registration.step registry).2.current = registry.current ∨
      (registration.step registry).2.current = (registry.current.merge registration.entry).2 := by
  obtain ⟨-, -, hsame | ⟨-, verdict, -, hmerge⟩⟩ := step_cases h
  · exact .inl hsame.1
  · exact .inr (congrArg Prod.snd hmerge)

theorem notAfter_step (h : registration.Sound registry.current) :
    registry.current.NotAfter (registration.step registry).2.current := by
  rcases step_current h with hcurrent | hcurrent
  · rw [hcurrent]
    exact .refl _
  · rw [hcurrent]
    exact Published.notAfter_merge _ _

theorem step_of_open (h : registration.Sound registry.current) (hopen : registration.verdict? = none) :
    (registration.step registry).2.current = registry.current ∧ (registration.step registry).1.verdict? = none ∨
      (registration.step registry).1.verdict? = some (registry.current.merge registration.entry).1 ∧
        (registration.step registry).2.current = (registry.current.merge registration.entry).2 := by
  obtain ⟨-, -, ⟨hcurrent, hsame⟩ | ⟨-, verdict, hverdict, hmerge⟩⟩ := step_cases h
  · exact .inl ⟨hcurrent, hsame.trans hopen⟩
  · rw [← hmerge]
    exact .inr ⟨hverdict, rfl⟩

/-- A registration with a verdict changes nothing that counts any more. -/
theorem step_of_verdict {verdict : Except RegisterError Descriptor} (h : registration.Sound registry.current)
    (hverdict : registration.verdict? = some verdict) :
    (registration.step registry).2.current = registry.current ∧ (registration.step registry).1.verdict? = some verdict := by
  obtain ⟨-, -, ⟨hcurrent, hsame⟩ | ⟨hopen, -⟩⟩ := step_cases h
  · exact ⟨hcurrent, hsame.trans hverdict⟩
  · exact nomatch hverdict.symm.trans hopen

/-- A registration that nothing interferes with merges its descriptor into what is published. -/
theorem run_loading (kind : MessageKind) (entry : Descriptor) (retries : Nat) (registry : Registry) :
    ((run ⟨kind, entry, .loading retries⟩ registry).1, (run ⟨kind, entry, .loading retries⟩ registry).2.current) =
      registry.current.merge entry := by
  cases hconflict : registry.snapshot.conflict? entry with
  | some error => rw [run_of_conflict hconflict, Published.merge_of_conflict hconflict, Registry.current_report]
  | none => rw [run_of_free hconflict, Published.merge_of_free hconflict]; rfl

end Merge.Registration

/-! ### Registrations that nothing interferes with -/

namespace Registry

variable {table : TypeTable}

theorem register_of_prepared (kind : MessageKind) {type : NativeType} {identifier : String} (registry : Registry)
    {entry : Descriptor} (hentry : prepare table type identifier = .ok entry) :
    ((registry.register table kind type identifier).1, (registry.register table kind type identifier).2.current) =
      registry.current.merge entry := by
  rw [← Merge.Registration.run_loading kind entry 0 registry]
  simp only [register, hentry]

/-- Merging the descriptor of a request that is in order keeps the fact. -/
structure MergeKeeps (table : TypeTable) (published : Published → Prop) : Prop where
  merge : ∀ {current : Published} {entry : Descriptor} {type : NativeType} {identifier : String},
    published current → prepare table type identifier = .ok entry → published (current.merge entry).2

variable {published : Published → Prop}

theorem MergeKeeps.register (hkeeps : MergeKeeps table published) {registry : Registry} (h : published registry.current)
    (kind : MessageKind) (type : NativeType) (identifier : String) :
    published (registry.register table kind type identifier).2.current := by
  cases hentry : prepare table type identifier with
  | error error =>
    rw [register_of_refused hentry]
    exact h
  | ok entry =>
    have hmerge := congrArg Prod.snd (register_of_prepared kind registry hentry)
    dsimp only at hmerge
    rw [hmerge]
    exact hkeeps.merge h hentry

theorem MergeKeeps.registerEach (hkeeps : MergeKeeps table published) (declarations : List Declaration)
    {registry : Registry} (h : published registry.current) :
    published (registry.registerEach table declarations).2.current := by
  induction declarations generalizing registry with
  | nil => exact h
  | cons declaration rest ih =>
    have hfirst : published _ :=
      hkeeps.register (show published (registry.report (declaration.event registry)).current from h) declaration.kind
        declaration.type declaration.identifier
    rcases hresult : (registry.report (declaration.event registry)).register table declaration.kind declaration.type
      declaration.identifier with ⟨result, after⟩
    rw [hresult] at hfirst
    cases result with
    | error error => rwa [registerEach_of_refused rest hresult]
    | ok entry =>
      rw [registerEach_of_registered rest hresult]
      exact ih hfirst

theorem MergeKeeps.registerDeclared (hkeeps : MergeKeeps table published) (declarations : List Declaration)
    {registry : Registry} (h : published registry.current) :
    published (registry.registerDeclared table declarations).2.current := by
  have hall := hkeeps.registerEach (Declaration.inOrder declarations) h
  unfold Registry.registerDeclared
  split <;> rename_i hresult <;> rwa [hresult] at hall

end Registry

end MessageCatalog
