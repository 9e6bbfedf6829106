import Mathlib.Data.List.Nodup
import MessageCatalog.Declaration
import MessageCatalog.Proofs.Text.Bytes

/-!
# The order of declarations

Declarations are registered in the byte order of their texts, and those with the same text in the order in which they stood. This leaves no choice: two lists in ascending order that agree on the declarations of every text are the same list, `eq_of_withKey_eq`. So the order in which declarations are found does not matter, except for those that share a text.
-/

namespace MessageCatalog.Declaration

/-- What declarations are sorted by. -/
def key (declaration : Declaration) : List UInt8 := Text.bytes declaration.identifier

/-- The declarations with this key, as they stand. -/
def withKey (bytes : List UInt8) (declarations : List Declaration) : List Declaration :=
  declarations.filter fun declaration => declaration.key = bytes

/-- The same declarations sorted by their keys, those with equal keys as they stood. -/
structure Arranges (declarations sorted : List Declaration) : Prop where
  perm : sorted.Perm declarations
  ascending : sorted.Pairwise fun left right => left.key ≤ right.key
  withKey_eq : ∀ bytes, withKey bytes sorted = withKey bytes declarations

variable {declaration : Declaration} {declarations left right sorted : List Declaration} {bytes : List UInt8}

theorem key_eq_iff {left right : Declaration} : left.key = right.key ↔ left.identifier = right.identifier := Text.bytes_inj

theorem mem_withKey : declaration ∈ withKey bytes declarations ↔ declaration ∈ declarations ∧ declaration.key = bytes := by
  rw [withKey, List.mem_filter, decide_eq_true_iff]

theorem withKey_cons_of_eq (h : declaration.key = bytes) :
    withKey bytes (declaration :: declarations) = declaration :: withKey bytes declarations :=
  List.filter_cons_of_pos (decide_eq_true h)

theorem withKey_cons_of_ne (h : declaration.key ≠ bytes) :
    withKey bytes (declaration :: declarations) = withKey bytes declarations :=
  List.filter_cons_of_neg (by simpa using h)

theorem mem_of_withKey_eq (h : ∀ bytes, withKey bytes left = withKey bytes right) (hmem : declaration ∈ left) :
    declaration ∈ right := by
  have hown : declaration ∈ withKey declaration.key left := mem_withKey.2 ⟨hmem, rfl⟩
  rw [h] at hown
  exact (mem_withKey.1 hown).1

theorem eq_of_withKey_eq (hleft : left.Pairwise fun first last => first.key ≤ last.key)
    (hright : right.Pairwise fun first last => first.key ≤ last.key) (h : ∀ bytes, withKey bytes left = withKey bytes right) :
    left = right := by
  induction left generalizing right with
  | nil =>
    cases right with
    | nil => rfl
    | cons other right => exact absurd (mem_of_withKey_eq (fun bytes => (h bytes).symm) List.mem_cons_self) List.not_mem_nil
  | cons first left ih =>
    cases right with
    | nil => exact absurd (mem_of_withKey_eq h List.mem_cons_self) List.not_mem_nil
    | cons other right =>
      obtain ⟨hfirst, hleft⟩ := List.pairwise_cons.1 hleft
      obtain ⟨hother, hrest⟩ := List.pairwise_cons.1 hright
      -- each of the two heads is in both lists, so neither key is greater
      have hkey : first.key = other.key := by
        rcases List.mem_cons.1 (mem_of_withKey_eq h List.mem_cons_self) with rfl | hmem
        · rfl
        · rcases List.mem_cons.1 (mem_of_withKey_eq (fun bytes => (h bytes).symm) List.mem_cons_self) with rfl | hmem'
          · rfl
          · exact List.le_antisymm (hfirst other hmem') (hother first hmem)
      have hhead := h first.key
      rw [withKey_cons_of_eq rfl, withKey_cons_of_eq hkey.symm] at hhead
      obtain rfl : first = other := (List.cons.inj hhead).1
      refine congrArg (first :: ·) (ih hleft hrest fun bytes => ?_)
      have hbytes := h bytes
      by_cases hsame : first.key = bytes
      · rw [withKey_cons_of_eq hsame, withKey_cons_of_eq hsame] at hbytes
        exact (List.cons.inj hbytes).2
      · rwa [withKey_cons_of_ne hsame, withKey_cons_of_ne hsame] at hbytes

theorem Arranges.unique {other : List Declaration} (h : Arranges declarations sorted) (hother : Arranges declarations other) :
    sorted = other :=
  eq_of_withKey_eq h.ascending hother.ascending fun bytes => (h.withKey_eq bytes).trans (hother.withKey_eq bytes).symm

theorem arranges_inOrder (declarations : List Declaration) : Arranges declarations (inOrder declarations) where
  perm := inOrder_perm declarations
  ascending := (pairwise_inOrder declarations).imp Text.le_iff_bytes_le.1
  withKey_eq bytes := by
    -- the declarations of one key are sorted as they stand, so the sort keeps them as they stand
    have hties : (withKey bytes declarations).Pairwise
        fun left right => decide (left.identifier ≤ right.identifier) = true := by
      apply List.pairwise_of_forall_mem_list
      intro left hleft right hright
      have hsame := (mem_withKey.1 hleft).2.trans (mem_withKey.1 hright).2.symm
      rw [key_eq_iff.1 hsame]
      exact decide_eq_true (String.le_refl _)
    have hsorted : (withKey bytes declarations).Sublist (inOrder declarations) := by
      apply List.sublist_mergeSort _ _ hties List.filter_sublist
      · exact fun _ _ _ hleft hright => decide_eq_true (String.le_trans (of_decide_eq_true hleft) (of_decide_eq_true hright))
      · exact fun left right => by simpa using String.le_total left.identifier right.identifier
    have hfiltered := hsorted.filter fun declaration => decide (declaration.key = bytes)
    rw [show (withKey bytes declarations).filter _ = withKey bytes declarations from List.filter_filter.trans (by simp [withKey])]
      at hfiltered
    exact (hfiltered.eq_of_length (((inOrder_perm declarations).filter _).length_eq).symm).symm

/-- The order in which declarations stand counts for those with equal keys only. -/
theorem inOrder_congr (h : ∀ bytes, withKey bytes left = withKey bytes right) : inOrder left = inOrder right :=
  eq_of_withKey_eq (arranges_inOrder left).ascending (arranges_inOrder right).ascending fun bytes => by
    rw [(arranges_inOrder left).withKey_eq, (arranges_inOrder right).withKey_eq, h]

theorem withKey_eq_of_perm (hnodup : (left.map Declaration.identifier).Nodup) (hperm : left.Perm right) (bytes : List UInt8) :
    withKey bytes left = withKey bytes right := by
  -- at most one declaration has the key, so any order of those that have it is the order of the other list
  have hsame : ∀ first last, first ∈ withKey bytes left → last ∈ withKey bytes right → True → True → first = last := by
    intro first last hfirst hlast _ _
    obtain ⟨hfirst, hkey⟩ := mem_withKey.1 hfirst
    obtain ⟨hlast, hother⟩ := mem_withKey.1 hlast
    exact List.inj_on_of_nodup_map hnodup hfirst (hperm.mem_iff.2 hlast) (key_eq_iff.1 (hkey.trans hother.symm))
  exact (hperm.filter _).eq_of_pairwise hsame (List.pairwise_of_forall fun _ _ => trivial) (List.pairwise_of_forall fun _ _ => trivial)

/-- Texts with different canonical spellings differ, so their order is a strict one. -/
theorem pairwise_lt_inOrder (h : (declarations.map fun declaration => Identifier.normalize declaration.identifier).Nodup) :
    (inOrder declarations).Pairwise fun left right => left.identifier < right.identifier := by
  have hne := List.pairwise_map.1 (((inOrder_perm declarations).map _).nodup_iff.2 h)
  refine ((pairwise_inOrder declarations).and hne).imp fun hboth => ?_
  exact Std.lt_of_le_of_ne hboth.1 fun hsame => hboth.2 (congrArg Identifier.normalize hsame)

end MessageCatalog.Declaration
