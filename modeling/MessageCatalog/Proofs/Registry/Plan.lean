import Mathlib.Data.List.Forall2
import MessageCatalog.Proofs.Concurrent.Coherence
import MessageCatalog.Proofs.Declaration.Order

/-!
# Declarations that fit together

Declarations with distinct types and distinct identifiers, all of them in order, come to a fixed list of descriptors: a plan, which depends on nothing but the declarations and has them in the order of their texts. A registry that holds the beginning of a plan and nothing else has room for the next descriptor of it, `Plan.merge_next`.
-/

namespace MessageCatalog

/-- The descriptor is the one that registering the declaration publishes. -/
def Declaration.Denotes (table : TypeTable) (declaration : Declaration) (entry : Descriptor) : Prop :=
  ∃ identifier, Identifier.parse declaration.identifier = .ok identifier ∧ declaration.type.IsValue ∧
    entry = Descriptor.of table declaration.type identifier

/-- Declarations that an empty registry can take, all of them. -/
structure Declarable (declarations : List Declaration) : Prop where
  ne_nil : declarations ≠ []
  isOk : ∀ declaration ∈ declarations, ∃ text, Identifier.normalize declaration.identifier = .ok text
  isValue : ∀ declaration ∈ declarations, declaration.type.IsValue
  types_nodup : (declarations.map Declaration.type).Nodup
  /-- No two texts have the same canonical spelling. -/
  identifiers_nodup : (declarations.map fun declaration => Identifier.normalize declaration.identifier).Nodup

/-- The descriptors that the declarations come to, in the order in which they are registered. -/
structure Plan (table : TypeTable) (declarations : List Declaration) (entries : List Descriptor) : Prop where
  denotes : List.Forall₂ (Declaration.Denotes table) (Declaration.inOrder declarations) entries
  ne_nil : entries ≠ []
  types_nodup : (entries.map Descriptor.type).Nodup
  identifiers_nodup : (entries.map Descriptor.identifier).Nodup

variable {table : TypeTable} {declarations : List Declaration} {entries : List Descriptor}

private theorem exists_denotes (h : ∀ declaration ∈ declarations, ∃ entry, declaration.Denotes table entry) :
    ∃ entries, List.Forall₂ (Declaration.Denotes table) declarations entries := by
  induction declarations with
  | nil => exact ⟨[], .nil⟩
  | cons declaration rest ih =>
    obtain ⟨entry, hentry⟩ := h declaration List.mem_cons_self
    obtain ⟨entries, hentries⟩ := ih fun other hother => h other (List.mem_cons_of_mem _ hother)
    exact ⟨entry :: entries, .cons hentry hentries⟩

theorem map_eq_of_denotes (h : List.Forall₂ (Declaration.Denotes table) declarations entries) :
    entries.map Descriptor.type = declarations.map Declaration.type ∧
      (entries.map Descriptor.identifier).map (fun identifier => Except.ok identifier.text) =
        declarations.map fun declaration => Identifier.normalize declaration.identifier := by
  induction h with
  | nil => exact ⟨rfl, rfl⟩
  | cons hentry _ ih =>
    obtain ⟨identifier, hparse, -, rfl⟩ := hentry
    simp [ih.1, ih.2, Identifier.parse_eq_ok_iff.1 hparse]

namespace Declarable

theorem exists_plan (h : Declarable declarations) (table : TypeTable) : ∃ entries, Plan table declarations entries := by
  have hperm := Declaration.inOrder_perm declarations
  have hdenotes : ∀ declaration ∈ Declaration.inOrder declarations, ∃ entry, declaration.Denotes table entry := by
    intro declaration hdeclaration
    have hmem := hperm.mem_iff.1 hdeclaration
    obtain ⟨text, htext⟩ := h.isOk declaration hmem
    have hcanonical := Identifier.normalize_normalize htext
    exact ⟨_, ⟨text, hcanonical⟩, Identifier.parse_eq_ok_iff.2 htext, h.isValue declaration hmem, rfl⟩
  obtain ⟨entries, hentries⟩ := exists_denotes hdenotes
  obtain ⟨htypes, hidentifiers⟩ := map_eq_of_denotes hentries
  refine ⟨entries, hentries, ?_, ?_, ?_⟩
  · rintro rfl
    rw [List.forall₂_nil_right_iff.1 hentries] at hperm
    exact h.ne_nil hperm.nil_eq.symm
  · rw [htypes]
    exact (hperm.map _).nodup_iff.2 h.types_nodup
  · apply List.Nodup.of_map fun identifier : Identifier => (Except.ok identifier.text : Except IdentifierError String)
    rw [hidentifiers]
    exact (hperm.map _).nodup_iff.2 h.identifiers_nodup

theorem pairwise_lt (h : Declarable declarations) :
    (Declaration.inOrder declarations).Pairwise fun left right => left.identifier < right.identifier :=
  Declaration.pairwise_lt_inOrder h.identifiers_nodup

end Declarable

namespace Plan

variable {own coming : List Descriptor} {entry : Descriptor} {current : Published}

theorem length_eq (h : Plan table declarations entries) : entries.length = declarations.length := by
  rw [← h.denotes.length_eq, (Declaration.inOrder_perm declarations).length_eq]

/-- Where the first descriptors of a plan were published and nothing else was, there is room for the next one. -/
theorem merge_next (h : Plan table declarations entries) (hentries : own ++ entry :: coming = entries)
    (hcoherent : current.Coherent) (htable : current.snapshot.table = own) :
    current.merge entry = (.ok entry, current.next (current.snapshot.extend entry)) := by
  have hnotMem : ∀ {κ : Type} (key : Descriptor → κ), (entries.map key).Nodup → key entry ∉ own.map key := by
    intro κ key hnodup hmem
    rw [← hentries, List.map_append, List.map_cons] at hnodup
    exact (List.nodup_append.1 hnodup).2.2 _ hmem _ List.mem_cons_self rfl
  apply Published.merge_of_free
  apply hcoherent.conflict?_of_notMem <;> rw [htable]
  · exact hnotMem _ h.types_nodup
  · exact hnotMem _ h.identifiers_nodup

end Plan

end MessageCatalog
