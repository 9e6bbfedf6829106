import Mathlib.Data.List.Forall2
import MessageCatalog.Proofs.Concurrent.Growth
import MessageCatalog.Proofs.Registry.Ledger

/-!
# Bindings in conflict

Two bindings conflict when they share the type or the identifier. A coherent table has no two of them, and the error that refuses a registration is a statement about the table: it names an entry that the request conflicts with. Since a table only grows, what an error tells stays so. `answers_requests` says this of a list of registrations, made one after another.
-/

namespace MessageCatalog

/-- The two cannot both be in a registry. -/
def Binding.Conflicts (left right : Binding) : Prop := left.type = right.type ∨ left.identifier = right.identifier

instance (left right : Binding) : Decidable (left.Conflicts right) := inferInstanceAs (Decidable (_ ∨ _))

theorem Binding.Conflicts.symm {left right : Binding} (h : left.Conflicts right) : right.Conflicts left :=
  h.imp Eq.symm Eq.symm

def Descriptor.binding (entry : Descriptor) : Binding := ⟨entry.type, entry.identifier⟩

/-! ### What an error tells -/

/-- What the error tells of the binding and of a table is so. -/
inductive RegisterError.Tells (table : TypeTable) (binding : Binding) (entries : List Descriptor) : RegisterError → Prop where
  | alreadyRegistered {entry : Descriptor} : entry ∈ entries → entry.binding = binding →
      Tells table binding entries (.alreadyRegistered (table.name binding.type) binding.identifier)
  | typeConflict {entry : Descriptor} : entry ∈ entries → entry.type = binding.type → entry.identifier ≠ binding.identifier →
      Tells table binding entries (.typeConflict (table.name binding.type) binding.identifier entry.identifier)
  | identifierConflict {entry : Descriptor} : entry ∈ entries → entry.identifier = binding.identifier → entry.type ≠ binding.type →
      Tells table binding entries (.identifierConflict (table.name binding.type) binding.identifier (table.name entry.type))

namespace RegisterError.Tells

variable {table : TypeTable} {binding : Binding} {entries later : List Descriptor} {error : RegisterError}

theorem mono (h : error.Tells table binding entries) (hlater : entries ⊆ later) : error.Tells table binding later := by
  cases h with
  | alreadyRegistered hentry hsame => exact .alreadyRegistered (hlater hentry) hsame
  | typeConflict hentry htype hother => exact .typeConflict (hlater hentry) htype hother
  | identifierConflict hentry hidentifier hother => exact .identifierConflict (hlater hentry) hidentifier hother

theorem exists_conflicts (h : error.Tells table binding entries) : ∃ entry ∈ entries, binding.Conflicts entry.binding := by
  cases h with
  | alreadyRegistered hentry hsame => exact ⟨_, hentry, .inl (congrArg Binding.type hsame).symm⟩
  | typeConflict hentry htype _ => exact ⟨_, hentry, .inl htype.symm⟩
  | identifierConflict hentry hidentifier _ => exact ⟨_, hentry, .inr hidentifier.symm⟩

end RegisterError.Tells

namespace Snapshot

/-- A coherent snapshot of nothing but descriptors of types under identifiers, each made as it would be today. -/
structure Genuine (table : TypeTable) (snapshot : Snapshot) : Prop extends snapshot.Coherent where
  eq_descriptor : ∀ entry ∈ snapshot.table, entry = entry.binding.descriptor table

theorem Coherent.pairwise_not_conflicts {snapshot : Snapshot} (h : snapshot.Coherent) :
    snapshot.table.Pairwise fun left right => ¬ left.binding.Conflicts right.binding := by
  have htypes := List.pairwise_map.1 h.types_nodup
  have hidentifiers := List.pairwise_map.1 h.identifiers_nodup
  exact (htypes.and hidentifiers).imp fun hboth => not_or.2 hboth

namespace Genuine

variable {table : TypeTable} {snapshot : Snapshot} {binding : Binding}

theorem empty (table : TypeTable) : Genuine table Snapshot.empty := ⟨coherent_empty, by simp⟩

theorem extend (h : Genuine table snapshot) (hfree : snapshot.conflict? (binding.descriptor table) = none)
    (hvalue : binding.type.IsValue) : Genuine table (snapshot.extend (binding.descriptor table)) := by
  refine ⟨h.toCoherent.extend hfree hvalue, fun entry hentry => ?_⟩
  rcases List.mem_append.1 hentry with hold | hnew
  · exact h.eq_descriptor entry hold
  · rw [List.mem_singleton.1 hnew]
    rfl

theorem tells_of_conflict? {error : RegisterError} (h : Genuine table snapshot)
    (hconflict : snapshot.conflict? (binding.descriptor table) = some error) : error.Tells table binding snapshot.table := by
  unfold Snapshot.conflict? at hconflict
  cases htype : snapshot.findType? binding.type with
  | some existing =>
    obtain ⟨hmem, hsame⟩ := h.findType?_iff.1 htype
    by_cases hidentifier : existing.identifier = binding.identifier
    · simp only [Binding.descriptor, Descriptor.type_of, Descriptor.identifier_of, Descriptor.name_of, htype, hidentifier,
        if_true, Option.some.injEq] at hconflict
      subst hconflict
      exact .alreadyRegistered hmem (congrArg₂ Binding.mk hsame hidentifier)
    · simp only [Binding.descriptor, Descriptor.type_of, Descriptor.identifier_of, Descriptor.name_of, htype, hidentifier,
        if_false, Option.some.injEq] at hconflict
      subst hconflict
      exact .typeConflict hmem hsame hidentifier
  | none =>
    cases hidentifier : snapshot.findIdentifier? binding.identifier.text with
    | some existing =>
      obtain ⟨hmem, hsame⟩ := h.findIdentifier?_iff.1 hidentifier
      have hname : existing.name = table.name existing.type := congrArg Descriptor.name (h.eq_descriptor existing hmem)
      simp only [Binding.descriptor, Descriptor.type_of, Descriptor.identifier_of, Descriptor.name_of, htype, hidentifier, hname,
        Option.some.injEq] at hconflict
      subst hconflict
      refine .identifierConflict hmem (Identifier.ext hsame) fun hother => ?_
      have hfound := h.findType?_iff.2 ⟨hmem, hother⟩
      exact Option.some_ne_none _ (hfound.symm.trans htype)
    | none =>
      simp only [Binding.descriptor, Descriptor.type_of, Descriptor.identifier_of, htype, hidentifier] at hconflict
      exact absurd hconflict (Option.some_ne_none _).symm

end Genuine

end Snapshot

theorem Published.mergeKeeps_genuine (table : TypeTable) :
    Registry.MergeKeeps table fun current => current.snapshot.Genuine table := by
  refine ⟨fun {current entry type identifier} h hentry => ?_⟩
  obtain ⟨canonical, -, hvalue, rfl⟩ := Registry.prepare_eq_ok_iff.1 hentry
  cases hconflict : current.snapshot.conflict? (.of table type canonical) with
  | some error =>
    rw [Published.merge_of_conflict hconflict]
    exact h
  | none =>
    rw [Published.merge_of_free hconflict]
    have hfree : current.snapshot.conflict? (Binding.descriptor table ⟨type, canonical⟩) = none := hconflict
    exact h.extend hfree hvalue

theorem Registry.Reachable.genuine {table : TypeTable} {registry : Registry} (h : registry.Reachable table) :
    registry.snapshot.Genuine table := by
  induction h with
  | create serial label => exact .empty table
  | answer call _ ih => exact (Published.mergeKeeps_genuine table).answer ih call
  | run calls schedule _ ih => exact Concurrent.State.published_run (Published.mergeKeeps_genuine table) ih calls schedule

/-! ### Registrations in order -/

/-- A registration whose text spells an identifier and whose type is held by value. -/
structure Request where
  kind : MessageKind
  text : String
  binding : Binding
  parse_text : Identifier.parse text = .ok binding.identifier
  isValue : binding.type.IsValue

namespace Request

def call (request : Request) : Call := .register request.kind request.binding.type request.text

theorem prepare_eq (table : TypeTable) (request : Request) :
    Registry.prepare table request.binding.type request.text = .ok (request.binding.descriptor table) :=
  Registry.prepare_of_value request.parse_text request.isValue

end Request

/-- The answer to a request, as a table bears it out. -/
inductive Answer.Fits (table : TypeTable) (request : Request) (entries : List Descriptor) : Answer → Prop where
  | registered : request.binding.descriptor table ∈ entries →
      Fits table request entries (.registered (.ok (request.binding.descriptor table)))
  | refused {error : RegisterError} : error.Tells table request.binding entries →
      Fits table request entries (.registered (.error error))

theorem Answer.Fits.mono {table : TypeTable} {request : Request} {entries later : List Descriptor} {answer : Answer}
    (h : answer.Fits table request entries) (hlater : entries ⊆ later) : answer.Fits table request later := by
  cases h with
  | registered hentry => exact .registered (hlater hentry)
  | refused htells => exact .refused (htells.mono hlater)

namespace Call

variable {table : TypeTable} {registry : Registry}

theorem answer_request (h : registry.snapshot.Genuine table) (request : Request) :
    (request.call.answer table registry).2.snapshot.Genuine table ∧
      (request.call.answer table registry).2.snapshot.table =
        registry.snapshot.table ++ [(request.call.answer table registry).1].filterMap Answer.entry? ∧
      (request.call.answer table registry).1.Fits table request (request.call.answer table registry).2.snapshot.table := by
  have hentry := request.prepare_eq table
  cases hconflict : registry.snapshot.conflict? (request.binding.descriptor table) with
  | some error =>
    have hanswer : request.call.answer table registry =
        (.registered (.error error), registry.report (.rejected registry.label request.kind error)) := by
      rw [Request.call, answer, Registry.register_of_conflict hentry hconflict]
    rw [hanswer]
    exact ⟨h, (List.append_nil _).symm, .refused (h.tells_of_conflict? hconflict)⟩
  | none =>
    have hresult : (request.call.answer table registry).1 = .registered (.ok (request.binding.descriptor table)) := by
      rw [Request.call, answer, Registry.register_of_free hentry hconflict]
    have hsnapshot : (request.call.answer table registry).2.snapshot = registry.snapshot.extend (request.binding.descriptor table) := by
      rw [Request.call, answer, Registry.register_of_free hentry hconflict]
      rfl
    rw [hresult, hsnapshot]
    refine ⟨h.extend hconflict request.isValue, rfl, .registered ?_⟩
    rw [Snapshot.table_extend]
    exact List.mem_append_right _ List.mem_cons_self

/-- Requests made one after another: each that is granted puts its descriptor at the end of the table, and the table in the end bears out every answer. -/
theorem answers_requests (h : registry.snapshot.Genuine table) {calls : List Call}
    (hcalls : ∀ call ∈ calls, ∃ request : Request, call = request.call) :
    (Call.answers table registry calls).2.snapshot.Genuine table ∧
      (Call.answers table registry calls).2.snapshot.table =
        registry.snapshot.table ++ (Call.answers table registry calls).1.filterMap Answer.entry? ∧
      List.Forall₂ (fun call answer => ∀ request : Request, call = request.call →
          answer.Fits table request (Call.answers table registry calls).2.snapshot.table)
        calls (Call.answers table registry calls).1 := by
  induction calls generalizing registry with
  | nil => exact ⟨h, (List.append_nil _).symm, .nil⟩
  | cons call calls ih =>
    obtain ⟨request, rfl⟩ := hcalls call List.mem_cons_self
    obtain ⟨hfirst, htable, -⟩ := answer_request h request
    obtain ⟨hlast, hgrown, hrest⟩ := ih hfirst fun call hcall => hcalls call (List.mem_cons_of_mem _ hcall)
    rw [Call.answers]
    refine ⟨hlast, ?_, .cons (fun other hother => ?_) hrest⟩
    · dsimp only
      rw [hgrown, htable, List.append_assoc, ← List.filterMap_append, List.singleton_append]
    · rw [hother] at hgrown hfirst ⊢
      refine (answer_request h other).2.2.mono ?_
      dsimp only
      rw [hgrown]
      exact List.subset_append_left _ _

end Call

end MessageCatalog
