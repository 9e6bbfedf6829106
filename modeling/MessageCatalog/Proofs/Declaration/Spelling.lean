import MessageCatalog.Identifier.Order
import MessageCatalog.Proofs.Declaration.Outcome
import MessageCatalog.Proofs.Identifier.Grammar

/-!
# Declarations in the order of their texts

Declarations are sorted by their texts, where every capital comes before every small letter; what is enumerated afterwards is identifiers, which have no capitals. So an enumeration ascends exactly if normalizing keeps the order of the texts, `ascending_iff`. It does where no text has a capital at the position of a small letter of another one, `lt_of_not_clashes`, and it may not where one has.
-/

namespace MessageCatalog

/-! ### Letter case and order -/

namespace Identifier

/-- The left text has a capital at a position where the right one has a small letter. -/
def Clashes (left right : String) : Prop :=
  ∃ (position : Nat) (c d : Char), left.toList[position]? = some c ∧ right.toList[position]? = some d ∧ IsCapital c ∧ IsSmall d

theorem IsDigit.lowered_lt {c d : Char} (hc : IsDigit c) (hd : IsDigit d) (h : c < d) (hcase : ¬ (IsCapital c ∧ IsSmall d)) :
    lowered c < lowered d := by
  have hall : (hexDigits.all fun c => hexDigits.all fun d =>
      decide (c < d → ¬ (IsCapital c ∧ IsSmall d) → lowered c < lowered d)) = true := by decide
  have hboth := List.all_eq_true.1 (List.all_eq_true.1 hall c hc.mem_hexDigits) d hd.mem_hexDigits
  exact of_decide_eq_true hboth h hcase

theorem Fits.lowered_lt {position : Nat} {c d : Char} (hc : Fits position c) (hd : Fits position d) (h : c < d)
    (hcase : ¬ (IsCapital c ∧ IsSmall d)) : Identifier.lowered c < Identifier.lowered d := by
  by_cases hposition : IsSeparator position
  · rw [(fits_of_separator hposition).1 hc, (fits_of_separator hposition).1 hd] at h
    exact absurd h (Std.lt_irrefl)
  · exact ((fits_of_not_separator hposition).1 hc).lowered_lt ((fits_of_not_separator hposition).1 hd) h hcase

private theorem map_lowered_lt {start : Nat} {left right : List Char} (hleft : FitsFrom start left) (hright : FitsFrom start right)
    (h : left < right)
    (hcase : ∀ (position : Nat) (c d : Char), left[position]? = some c → right[position]? = some d → ¬ (IsCapital c ∧ IsSmall d)) :
    left.map lowered < right.map lowered := by
  induction h generalizing start with
  | nil => exact List.nil_lt_cons _ _
  | rel hlt =>
    obtain ⟨hc, -⟩ := fitsFrom_cons.1 hleft
    obtain ⟨hd, -⟩ := fitsFrom_cons.1 hright
    exact .rel (hc.lowered_lt hd hlt (hcase 0 _ _ rfl rfl))
  | cons _ ih =>
    refine .cons (ih (fitsFrom_cons.1 hleft).2 (fitsFrom_cons.1 hright).2 fun position c d hc hd => ?_)
    exact hcase (position + 1) c d hc hd

theorem lt_of_not_clashes {left right first last : String} (hleft : normalize left = .ok first) (hright : normalize right = .ok last)
    (h : left < right) (hcase : ¬ Clashes left right) : first < last := by
  obtain ⟨hspelling, rfl⟩ := normalize_eq_ok_iff.1 hleft
  obtain ⟨hother, rfl⟩ := normalize_eq_ok_iff.1 hright
  rw [folded, folded, String.lt_iff, String.toList_ofList, String.toList_ofList]
  apply map_lowered_lt hspelling.toIsWellFormed.fitsFrom hother.toIsWellFormed.fitsFrom h
  exact fun position c d hc hd hboth => hcase ⟨position, c, d, hc, hd, hboth⟩

end Identifier

/-! ### The order of what was registered -/

/-- Each descriptor has a greater identifier than those before it. -/
def Ascending (entries : List Descriptor) : Prop := entries.Pairwise fun left right => left.identifier < right.identifier

/-- Declarations whose texts ascend have canonical spellings that ascend. -/
def KeepOrder (declarations : List Declaration) : Prop :=
  ∀ left ∈ declarations, ∀ right ∈ declarations, left.identifier < right.identifier →
    ∀ first last, Identifier.normalize left.identifier = .ok first → Identifier.normalize right.identifier = .ok last → first < last

variable {table : TypeTable} {registry after : Registry} {declarations : List Declaration} {entries : List Descriptor} {count : Nat}

theorem keepOrder_of_not_clashes
    (h : ∀ left ∈ declarations, ∀ right ∈ declarations, ¬ Identifier.Clashes left.identifier right.identifier) :
    KeepOrder declarations :=
  fun left hleft right hright hlt _ _ hfirst hlast => Identifier.lt_of_not_clashes hfirst hlast hlt (h left hleft right hright)

/-- A smaller spelling, as far as both are spellings. -/
private def Before (left right : Except IdentifierError String) : Prop :=
  ∀ first last, left = .ok first → right = .ok last → first < last

private theorem ascending_iff_before : Ascending entries ↔ (entries.map Descriptor.spelling).Pairwise Before := by
  rw [Ascending, List.pairwise_map]
  refine List.Pairwise.iff fun left right => ⟨fun hlt first last hfirst hlast => ?_, fun h => h _ _ rfl rfl⟩
  rwa [← Except.ok.inj hfirst, ← Except.ok.inj hlast]

private theorem keepOrder_iff_before
    (hsorted : (Declaration.inOrder declarations).Pairwise fun left right => left.identifier < right.identifier) :
    KeepOrder declarations ↔
      ((Declaration.inOrder declarations).map fun declaration => Identifier.normalize declaration.identifier).Pairwise Before := by
  have hperm := Declaration.inOrder_perm declarations
  rw [List.pairwise_map]
  constructor
  · intro h
    apply hsorted.imp_of_mem
    exact fun hleft hright hlt => h _ (hperm.mem_iff.1 hleft) _ (hperm.mem_iff.1 hright) hlt
  · intro h left hleft right hright hlt
    obtain ⟨i, hi, rfl⟩ := List.mem_iff_getElem.1 (hperm.mem_iff.2 hleft)
    obtain ⟨j, hj, rfl⟩ := List.mem_iff_getElem.1 (hperm.mem_iff.2 hright)
    -- the texts ascend, so the one that is smaller comes first
    rcases Nat.lt_trichotomy i j with hij | rfl | hji
    · exact List.pairwise_iff_getElem.1 h i j hi hj hij
    · exact absurd hlt (String.lt_irrefl _)
    · exact absurd hlt (String.lt_asymm (List.pairwise_iff_getElem.1 hsorted j i hj hi hji))

namespace Registry

/-- What an empty registry is found to hold after all declarations were registered. -/
theorem listed_of_ok (hreachable : registry.Reachable table) (hempty : registry.snapshot.table = [])
    (hok : registry.registerDeclared table declarations = (.ok count, after)) :
    List.Forall₂ (Declaration.Denotes table) (Declaration.inOrder declarations) after.guard.cursor.drain ∧
      (Declaration.inOrder declarations).Pairwise (fun left right => left.identifier < right.identifier) ∧
      (Ascending after.guard.cursor.drain ↔ KeepOrder declarations) := by
  have hroom := (hreachable.exists_ok_iff declarations).1 ⟨count, congrArg Prod.fst hok⟩
  have hsorted := Declaration.pairwise_lt_inOrder hroom.identifiers_nodup
  rcases hreachable.completes_or_stops declarations with ⟨-, entries, reached, last, hcompletes⟩ | ⟨hnone, -⟩
  · obtain ⟨-, rfl⟩ := Prod.mk.inj (hcompletes.result_eq.symm.trans hok)
    have htable : last.guard.cursor.drain = reached.snapshot.table :=
      (Cursor.drain_eq _).trans (congrArg (fun published => published.snapshot.table) hcompletes.current_eq)
    refine ⟨?_, hsorted, ?_⟩
    · rw [htable, hcompletes.grants.table_eq, hempty, List.nil_append]
      exact hcompletes.grants.denotes
    · rw [htable, ascending_iff_before, hcompletes.grants.keys.2, hempty, keepOrder_iff_before hsorted, List.map_nil, List.nil_append]
  · exact absurd hroom hnone

/-- Declared types are enumerated in the order of the texts of their identifiers. This is the order of the identifiers if normalizing keeps it, and only then. -/
theorem ascending_registerDeclared (hreachable : registry.Reachable table) (hempty : registry.snapshot.table = [])
    (hok : registry.registerDeclared table declarations = (.ok count, after)) :
    (∃ sorted, Declaration.Arranges declarations sorted ∧ sorted.Pairwise (fun left right => left.key < right.key) ∧
        List.Forall₂ (Declaration.Denotes table) sorted after.guard.cursor.drain) ∧
      (Ascending after.guard.cursor.drain ↔ KeepOrder declarations) ∧
      ((∀ left ∈ declarations, ∀ right ∈ declarations, ¬ Identifier.Clashes left.identifier right.identifier) →
        Ascending after.guard.cursor.drain) := by
  obtain ⟨hdenotes, hsorted, hascending⟩ := listed_of_ok hreachable hempty hok
  refine ⟨⟨_, Declaration.arranges_inOrder declarations, hsorted.imp Text.lt_iff_bytes_lt.1, hdenotes⟩, hascending, ?_⟩
  exact fun h => hascending.2 (keepOrder_of_not_clashes h)

/-- Six types, three of them declared in capitals. -/
def shop : List Declaration :=
  [⟨"65f9620a-65c1-434e-8292-60cd7938c4de", .event, .value 0, "shop"⟩,
    ⟨"d2f8c6b4-3e1a-4a57-9c0d-7e5b2f8a1c44", .timeout, .value 1, "shop"⟩,
    ⟨"0B5C3A8E-1D74-4F62-9A1E-3C8D2E6F4B22", .command, .value 2, "shop"⟩,
    ⟨"F1A3B5C7-D9E0-4F12-A345-6789ABCDEF88", .event, .value 3, "shop"⟩,
    ⟨"a7d0e3f2-5b86-4c19-8e2d-9f1a6b3c5d33", .event, .value 4, "shop"⟩,
    ⟨"A7D0E3F2-5B86-4C19-8E2D-9F1A6B3C5D34", .command, .value 5, "shop"⟩]

theorem hasRoom_shop : HasRoom (create 0 "main").snapshot.table shop where
  isOk := by
    have hall : (shop.all fun declaration => (Identifier.normalize declaration.identifier).isOk) = true := by decide
    intro declaration hmem
    have hok := List.all_eq_true.1 hall declaration hmem
    cases hspelling : Identifier.normalize declaration.identifier with
    | ok text => exact ⟨text, rfl⟩
    | error cause =>
      rw [hspelling] at hok
      exact nomatch hok
  isValue := by simp [shop, NativeType.IsValue, NativeType.referent?]
  types_nodup := by decide
  identifiers_nodup := by decide
  types_absent := by simp
  identifiers_absent := by simp

theorem ascending_registerDeclared_shop :
    Reachable Concurrent.namesakes (create 0 "main") ∧ (create 0 "main").snapshot.table = [] ∧
      ∃ after, (create 0 "main").registerDeclared Concurrent.namesakes shop = (.ok 6, after) ∧
        (Ascending after.guard.cursor.drain ↔ KeepOrder shop) := by
  obtain ⟨after, hok⟩ := (Reachable.create 0 "main").exists_of_hasRoom hasRoom_shop
  exact ⟨.create 0 "main", rfl, after, hok, (ascending_registerDeclared (.create 0 "main") rfl hok).2.1⟩

/-- The fourth identifier is greater than the fifth, but the text that declares it is smaller. -/
theorem not_ascending_shop :
    ∃ after, (create 0 "main").registerDeclared Concurrent.namesakes shop = (.ok 6, after) ∧
      ¬ Ascending after.guard.cursor.drain := by
  obtain ⟨after, hok⟩ := (Reachable.create 0 "main").exists_of_hasRoom hasRoom_shop
  refine ⟨after, hok, fun hascending => ?_⟩
  have hkeep := (listed_of_ok (.create 0 "main") rfl hok).2.2.1 hascending
  have hlt := hkeep shop[3] (List.getElem_mem _) shop[4] (List.getElem_mem _) (by decide)
    "f1a3b5c7-d9e0-4f12-a345-6789abcdef88" "a7d0e3f2-5b86-4c19-8e2d-9f1a6b3c5d33" (by decide) (by decide)
  exact absurd hlt (by decide)

end Registry

end MessageCatalog
