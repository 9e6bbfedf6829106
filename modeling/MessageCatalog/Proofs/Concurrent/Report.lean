import MessageCatalog.Proofs.Concurrent.Course
import MessageCatalog.Proofs.Registry.Receiver

/-!
# What is reported of a registration

A registration reports the races that it has lost, and then its end. But it does so only once its request has been found in order: a request that is refused outright leaves no report at all, and an onlooker who waits for a warning waits in vain. So a registration is warned of if and only if it was in conflict with what is registered, `Registry.isConflict_iff`, and then exactly once, with the label of the registry, the kind of the entry point and the error that is returned.
-/

namespace MessageCatalog

def Event.isWarning (event : Event) : Bool := event.level == .warn

/-- The warnings that belong to a result: one of a conflict, and none of anything else. -/
def warnings (label : String) (kind : MessageKind) : Except RegisterError Descriptor → List Event
  | .error error => if error.isConflict then [.rejected label kind error] else []
  | .ok _ => []

theorem warnings_of_conflict {error : RegisterError} (h : error.isConflict) (label : String) (kind : MessageKind) :
    warnings label kind (.error error) = [.rejected label kind error] := if_pos h

theorem warnings_of_not_conflict {error : RegisterError} (h : ¬ error.isConflict) (label : String) (kind : MessageKind) :
    warnings label kind (.error error) = [] := if_neg h

theorem Event.isWarning_retrying (label : String) (identifier : Identifier) (attempt : Nat) :
    isWarning (.retrying label identifier attempt) = false := rfl

theorem Event.not_isWarning_of_isOfSeries {event : Event} (h : event.isOfSeries) : ¬ event.isWarning := by
  cases event with
  | declaring registry identifier kind package => exact Bool.false_ne_true
  | declared registry count => exact Bool.false_ne_true
  | registered registry identifier messageType length retries => exact nomatch h
  | retrying registry identifier attempt => exact nomatch h
  | rejected registry kind error => exact nomatch h

/-! ### Without interference -/

namespace Registry

variable {table : TypeTable} {registry : Registry} {kind : MessageKind} {type : NativeType} {text : String} {error : RegisterError}

theorem warnings_register (table : TypeTable) (kind : MessageKind) (type : NativeType) (text : String) (registry : Registry) :
    ∃ reports, (registry.register table kind type text).2.journal = registry.journal ++ reports ∧
      reports.filter Event.isWarning = warnings registry.label kind (registry.register table kind type text).1 := by
  rcases register_cases table kind type text registry with
    ⟨error, hprepare, hregister⟩ | ⟨entry, error, -, hconflict, hregister⟩ | ⟨entry, -, -, hregister⟩
  · rw [hregister, warnings_of_not_conflict (not_isConflict_of_prepare hprepare)]
    exact ⟨[], (List.append_nil _).symm, rfl⟩
  · rw [hregister, warnings_of_conflict (Snapshot.isConflict_of_conflict? hconflict)]
    exact ⟨[.rejected registry.label kind error], rfl, rfl⟩
  · rw [hregister]
    exact ⟨_, rfl, rfl⟩

/-- Of the errors of a registration those are conflicts that are returned though the request is in order. -/
theorem isConflict_iff (h : (registry.register table kind type text).1 = .error error) :
    error.isConflict ↔ ∃ entry, prepare table type text = .ok entry := by
  rcases register_cases table kind type text registry with
    ⟨cause, hprepare, hregister⟩ | ⟨entry, cause, hprepare, hconflict, hregister⟩ | ⟨entry, -, -, hregister⟩
  · rw [hregister, Except.error.injEq] at h
    subst h
    refine iff_of_false (not_isConflict_of_prepare hprepare) ?_
    rintro ⟨entry, hentry⟩
    exact nomatch hprepare.symm.trans hentry
  · rw [hregister, Except.error.injEq] at h
    subst h
    exact iff_of_true (Snapshot.isConflict_of_conflict? hconflict) ⟨entry, hprepare⟩
  · rw [hregister] at h
    exact nomatch h

end Registry

/-! ### Among others -/

namespace Merge.Registration

theorem Done.warnings {label : String} {registration : Registration} {conduct : Conduct} (h : registration.Done label conduct) :
    conduct.reports.filter Event.isWarning = registration.result?.elim [] (warnings label registration.kind) := by
  rcases h.filter_reports Event.isWarning_retrying with
    ⟨hresult, hreports⟩ | ⟨length, hresult, hreports⟩ | ⟨error, hconflict, hresult, hreports⟩
  · rw [hresult, hreports]
    rfl
  · rw [hresult, hreports]
    rfl
  · rw [hresult, hreports]
    exact (warnings_of_conflict hconflict _ _).symm

end Merge.Registration

namespace Concurrent

variable {table : TypeTable}

theorem Registers.warnings {label : String} {kind : MessageKind} {type : NativeType} {text : String}
    {result : Except RegisterError Descriptor} {conduct : Conduct} (h : Registers table label kind type text result conduct) :
    conduct.reports.filter Event.isWarning = warnings label kind result := by
  cases h with
  | refused hprepare => exact (warnings_of_not_conflict (Registry.not_isConflict_of_prepare hprepare) _ _).symm
  | rejected retries _ hconflict =>
    rw [List.filter_append, Event.filter_retries Event.isWarning_retrying]
    exact (warnings_of_conflict hconflict _ _).symm
  | registered retries length _ =>
    rw [List.filter_append, Event.filter_retries Event.isWarning_retrying]
    rfl

/-! ### All of it -/

/-- Registrations are warned of if they are in conflict with what is registered, once each, and there is no other warning. -/
structure WarnsOfConflicts (table : TypeTable) (registry : Registry) (calls : List (List Call)) (schedule : List Nat) : Prop where
  /-- A registration that nothing interferes with gives the warnings that belong to its result. -/
  alone : ∀ (before : Registry) kind type text, ∃ reports,
    (before.register table kind type text).2.journal = before.journal ++ reports ∧
      reports.filter Event.isWarning = warnings before.label kind (before.register table kind type text).1
  /-- The errors that are warned of are those of requests in order. -/
  isConflict_iff : ∀ (before : Registry) kind type text error, (before.register table kind type text).1 = .error error →
    (error.isConflict ↔ ∃ entry, Registry.prepare table type text = .ok entry)
  /-- Among others, a registration has given no warning before it is finished, and then those that belong to its result. -/
  among : Throughout table (State.start registry calls) schedule
    (fun state during thread registration => (state.conduct table during thread).reports.filter Event.isWarning =
      registration.result?.elim [] (warnings registry.label registration.kind))
    fun state during thread kind result =>
      (state.conduct table during thread).reports.filter Event.isWarning = warnings registry.label kind result
  /-- A turn that is not a step of a registration warns of nothing. -/
  otherwise : ∀ index,
    (∀ registration, (((State.start registry calls).run table schedule).thread index).registration? = some registration →
      registration.result?.isSome) →
    ∀ event ∈ ((((State.start registry calls).run table schedule).thread index).deed table index
      ((State.start registry calls).run table schedule).registry).reports, ¬ event.isWarning
  /-- Nothing is in the journal but what the turns have reported. -/
  recorded : ∀ index, ((State.start registry calls).run table (schedule ++ [index])).registry.journal =
    ((State.start registry calls).run table schedule).registry.journal ++
      ((((State.start registry calls).run table schedule).thread index).deed table index
        ((State.start registry calls).run table schedule).registry).reports

/-- In every run, a registration is warned of exactly if its request is in order and in conflict with what is registered. -/
theorem warnsOfConflicts_run (table : TypeTable) (registry : Registry) (calls : List (List Call)) (schedule : List Nat) :
    WarnsOfConflicts table registry calls schedule where
  alone before kind type text := Registry.warnings_register table kind type text before
  isConflict_iff before kind type text error h := Registry.isConflict_iff h
  among := by
    refine throughout_run schedule (fun before during thread registration hbegins => ?_)
      fun before during thread kind type text result _ hregisters => hregisters.warnings
    have hdone := hbegins.done
    rw [State.label_run] at hdone
    exact hdone.warnings
  otherwise index hdone event hevent := by
    obtain ⟨reports, hdeed, hseries⟩ := Thread.deed_of_quiet hdone index
    rw [hdeed] at hevent
    exact Event.not_isWarning_of_isOfSeries (hseries event hevent)
  recorded index := by
    rw [State.run_append, State.run_cons, State.run_nil, State.registry_step, Thread.journal_step]

/-- A malformed identifier is refused without a warning, and so is a box. -/
theorem not_warned_of_refused :
    (Registry.create 0 "main").register Registry.layered .command (.value 0) "4e1b2a0c" =
        (.error (.identifier "Order" (.malformed "4e1b2a0c" (.length 8))), Registry.create 0 "main") ∧
      (Registry.create 0 "main").register Registry.layered .command (.boxed (.value 0)) Registry.orderIdentifier.text =
        (.error (.receiverMismatch "Box<Order>" "Order"), Registry.create 0 "main") ∧
      ¬ ∀ (registry : Registry) kind type text error, (registry.register Registry.layered kind type text).1 = .error error →
        ∃ reports, (registry.register Registry.layered kind type text).2.journal = registry.journal ++ reports ∧
          reports.filter Event.isWarning = [.rejected registry.label kind error] := by
  have hmalformed : (Registry.create 0 "main").register Registry.layered .command (.value 0) "4e1b2a0c" =
      (.error (.identifier "Order" (.malformed "4e1b2a0c" (.length 8))), Registry.create 0 "main") :=
    Registry.register_of_refused (Registry.prepare_of_malformed (Identifier.parse_eq_error_iff.2 rfl))
  refine ⟨hmalformed, ?_, fun hwarned => ?_⟩
  · rw [Registry.register_of_referent? (Identifier.parse_text Registry.orderIdentifier) rfl]
    rfl
  · obtain ⟨reports, hjournal, hwarning⟩ :=
      hwarned (Registry.create 0 "main") .command (.value 0) "4e1b2a0c" _ (congrArg Prod.fst hmalformed)
    rw [hmalformed, List.self_eq_append_right] at hjournal
    rw [hjournal] at hwarning
    exact nomatch hwarning

end Concurrent

end MessageCatalog
