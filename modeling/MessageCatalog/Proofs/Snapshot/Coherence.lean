import Mathlib.Data.List.Nodup
import MessageCatalog.Registry.Merge

/-!
# Coherent snapshots

The table and the two indexes of a snapshot are meant to be three views of one set of descriptors. Extending a snapshot checks nothing and overwrites silently, so the views agree only as long as every extension was found free of conflicts with the very snapshot that it extends. `Coherent.extend` is that fact; the rest of the theory reaches the indexes through the fields of `Coherent`.
-/

namespace MessageCatalog.Snapshot

/-- The table and both indexes hold the same descriptors, each under a type and an identifier of its own. -/
structure Coherent (snapshot : Snapshot) : Prop where
  types_nodup : (snapshot.table.map Descriptor.type).Nodup
  identifiers_nodup : (snapshot.table.map Descriptor.identifier).Nodup
  findIdentifier?_iff : ∀ {raw : String} {entry : Descriptor},
    snapshot.findIdentifier? raw = some entry ↔ entry ∈ snapshot.table ∧ entry.identifier.text = raw
  findType?_iff : ∀ {type : NativeType} {entry : Descriptor},
    snapshot.findType? type = some entry ↔ entry ∈ snapshot.table ∧ entry.type = type
  size_byIdentifier : snapshot.byIdentifier.size = snapshot.size
  size_byType : snapshot.byType.size = snapshot.size
  /-- Every text under which something is found is the canonical spelling of an identifier. -/
  canonical : ∀ {raw : String} {entry : Descriptor},
    snapshot.findIdentifier? raw = some entry → Identifier.normalize raw = .ok raw
  isValue : ∀ entry ∈ snapshot.table, entry.type.IsValue
  /-- No type stands beside one that refers to it. -/
  referent?_ne : ∀ entry ∈ snapshot.table, ∀ other ∈ snapshot.table, other.type.referent? ≠ some entry.type

theorem coherent_empty : empty.Coherent where
  types_nodup := List.nodup_nil
  identifiers_nodup := List.nodup_nil
  findIdentifier?_iff := by simp
  findType?_iff := by simp
  size_byIdentifier := by simp [empty, size]
  size_byType := by simp [empty, size]
  canonical := by simp
  isValue := by simp
  referent?_ne := by simp

/-! ### Lookups by a key

What holds of the index by identifier and of the index by type for the same reason. -/

section Lookup

variable {κ : Type} (key : Descriptor → κ) {find : κ → Option Descriptor} {table : List Descriptor}
  {entry : Descriptor}

private theorem key_notMem_of_find_eq_none (hfind : ∀ {k found}, find k = some found ↔ found ∈ table ∧ key found = k)
    (hfree : find (key entry) = none) : key entry ∉ table.map key := by
  intro hmem
  obtain ⟨existing, hexisting, hkey⟩ := List.mem_map.1 hmem
  have hfound := hfind.2 ⟨hexisting, hkey⟩
  rw [hfree] at hfound
  exact Option.some_ne_none _ hfound.symm

/-- Under a key that was free, a new descriptor hides nothing. -/
private theorem find_concat_iff [DecidableEq κ] (hfind : ∀ {k found}, find k = some found ↔ found ∈ table ∧ key found = k)
    (hfree : find (key entry) = none) {k : κ} {found : Descriptor} :
    (if key entry = k then some entry else find k) = some found ↔ found ∈ table ++ [entry] ∧ key found = k := by
  rw [List.mem_append, List.mem_singleton]
  by_cases hk : key entry = k
  · rw [if_pos hk]
    constructor
    · rintro ⟨rfl⟩
      exact ⟨.inr rfl, hk⟩
    · rintro ⟨hold | rfl, hfound⟩
      · have hmem := List.mem_map_of_mem (f := key) hold
        rw [hfound.trans hk.symm] at hmem
        exact absurd hmem (key_notMem_of_find_eq_none key hfind hfree)
      · rfl
  · rw [if_neg hk, hfind]
    constructor
    · exact fun hold => ⟨.inl hold.1, hold.2⟩
    · rintro ⟨hold | rfl, hfound⟩
      · exact ⟨hold, hfound⟩
      · exact absurd hfound hk

end Lookup

/-! ### Extending -/

theorem conflict?_eq_none_iff {snapshot : Snapshot} {entry : Descriptor} :
    snapshot.conflict? entry = none ↔
      snapshot.findType? entry.type = none ∧ snapshot.findIdentifier? entry.identifier.text = none := by
  unfold conflict?
  cases htype : snapshot.findType? entry.type with
  | some existing =>
    by_cases hsame : existing.identifier = entry.identifier <;> simp [hsame]
  | none =>
    cases hidentifier : snapshot.findIdentifier? entry.identifier.text <;> simp

namespace Coherent

variable {snapshot : Snapshot} {entry : Descriptor}

theorem type_notMem (h : snapshot.Coherent) (hfree : snapshot.conflict? entry = none) :
    entry.type ∉ snapshot.table.map Descriptor.type :=
  key_notMem_of_find_eq_none Descriptor.type h.findType?_iff (conflict?_eq_none_iff.1 hfree).1

theorem identifier_notMem (h : snapshot.Coherent) (hfree : snapshot.conflict? entry = none) :
    entry.identifier ∉ snapshot.table.map Descriptor.identifier := by
  intro hmem
  obtain ⟨existing, hexisting, hidentifier⟩ := List.mem_map.1 hmem
  apply key_notMem_of_find_eq_none (fun entry => entry.identifier.text) h.findIdentifier?_iff
    (conflict?_eq_none_iff.1 hfree).2
  exact List.mem_map.2 ⟨existing, hexisting, congrArg Identifier.text hidentifier⟩

theorem conflict?_of_notMem (h : snapshot.Coherent) (htype : entry.type ∉ snapshot.table.map Descriptor.type)
    (hidentifier : entry.identifier ∉ snapshot.table.map Descriptor.identifier) : snapshot.conflict? entry = none := by
  refine conflict?_eq_none_iff.2 ⟨?_, ?_⟩
  · refine Option.eq_none_iff_forall_ne_some.2 fun existing hexisting => htype ?_
    obtain ⟨hmem, hsame⟩ := h.findType?_iff.1 hexisting
    exact List.mem_map.2 ⟨existing, hmem, hsame⟩
  · refine Option.eq_none_iff_forall_ne_some.2 fun existing hexisting => hidentifier ?_
    obtain ⟨hmem, hsame⟩ := h.findIdentifier?_iff.1 hexisting
    exact List.mem_map.2 ⟨existing, hmem, Identifier.ext hsame⟩

theorem conflict?_of_mem (h : snapshot.Coherent) (hentry : entry ∈ snapshot.table) :
    snapshot.conflict? entry = some (.alreadyRegistered entry.name entry.identifier) := by
  simp [conflict?, h.findType?_iff.2 ⟨hentry, rfl⟩]

/-- An extension that was checked against the snapshot itself keeps the three views together. -/
theorem extend (h : snapshot.Coherent) (hfree : snapshot.conflict? entry = none) (hvalue : entry.type.IsValue) :
    (snapshot.extend entry).Coherent := by
  obtain ⟨htype, hidentifier⟩ := conflict?_eq_none_iff.1 hfree
  have hidentifiers : ∀ {raw found}, (snapshot.extend entry).findIdentifier? raw = some found ↔
      found ∈ (snapshot.extend entry).table ∧ found.identifier.text = raw := by
    intro raw found
    rw [findIdentifier?_extend, table_extend]
    exact find_concat_iff (fun entry => entry.identifier.text) h.findIdentifier?_iff hidentifier
  have hvalues : ∀ bound ∈ (snapshot.extend entry).table, bound.type.IsValue := by
    intro bound hbound
    rw [table_extend, List.mem_append, List.mem_singleton] at hbound
    rcases hbound with hold | rfl
    · exact h.isValue bound hold
    · exact hvalue
  refine ⟨?types, ?identifiers, hidentifiers, ?byType, ?identifierSize, ?typeSize, ?canonical, hvalues, ?referents⟩
  case types =>
    rw [table_extend, List.map_append]
    exact List.nodup_append_comm.1 (List.nodup_cons.2 ⟨h.type_notMem hfree, h.types_nodup⟩)
  case identifiers =>
    rw [table_extend, List.map_append]
    exact List.nodup_append_comm.1 (List.nodup_cons.2 ⟨h.identifier_notMem hfree, h.identifiers_nodup⟩)
  case byType =>
    intro type found
    rw [findType?_extend, table_extend]
    exact find_concat_iff Descriptor.type h.findType?_iff htype
  case identifierSize =>
    rw [size_extend, ← h.size_byIdentifier]
    exact (IdentifierMap.size_insert _ _ _).trans (if_pos hidentifier)
  case typeSize =>
    rw [size_extend, ← h.size_byType]
    have hmem : entry.type ∉ snapshot.byType := by
      rw [Std.HashMap.mem_iff_isSome_getElem?, show snapshot.byType[entry.type]? = none from htype]
      exact Bool.false_ne_true
    exact Std.HashMap.size_insert.trans (if_neg hmem)
  case canonical =>
    intro raw found hfound
    rw [← (hidentifiers.1 hfound).2]
    exact found.identifier.canonical
  case referents =>
    intro bound _ other hother hreferent
    rw [show other.type.referent? = none from hvalues other hother] at hreferent
    exact Option.some_ne_none _ hreferent.symm

end Coherent

end MessageCatalog.Snapshot
