import Mathlib.Data.List.Dedup
import Mathlib.Data.Finset.Card
import Mathlib.Data.String.Basic
import MessageCatalog.Identifier.Order
import MessageCatalog.Proofs.Identifier.Number
import MessageCatalog.Proofs.Text.Bytes

/-!
# Identifiers ascend as numbers

Canonical texts are compared at the first character where they differ. There both have a digit, since hyphens stand at the same places, and none of the digits is a capital, so the greater character has the greater value; what comes after it writes less than one unit of its place, `numberFrom_lt_of_lt`. So the order of identifiers is the order of their numbers, and to sort or to count them is to sort or to count numbers.
-/

namespace MessageCatalog.Identifier

/-! ### Texts and numbers -/

/-- The number that is written by going on with the digits of a text. -/
def numberFrom (start : Nat) (text : List Char) : Nat := text.foldl (fun number c => 16 * number + digitValue c) start

theorem numberFrom_cons (start : Nat) (c : Char) (text : List Char) :
    numberFrom start (c :: text) = numberFrom (16 * start + digitValue c) text := rfl

/-- Whoever is ahead stays ahead, whatever digits follow, if they are equally many. -/
theorem numberFrom_lt_of_lt {start other : Nat} {left right : List Char} (h : start < other)
    (hlength : left.length = right.length) (hdigits : ∀ c ∈ left, IsDigit c) : numberFrom start left < numberFrom other right := by
  induction left generalizing start other right with
  | nil =>
    rw [List.eq_nil_of_length_eq_zero hlength.symm]
    exact h
  | cons c left ih =>
    obtain ⟨d, right, rfl⟩ := List.exists_cons_of_length_eq_add_one hlength.symm
    have hvalue := digitValue_lt (hdigits c List.mem_cons_self)
    rw [numberFrom_cons, numberFrom_cons]
    refine ih ?_ (Nat.succ.inj hlength) fun d hd => hdigits d (List.mem_cons_of_mem c hd)
    omega

/-- Nothing in the text is a capital digit. -/
def IsSmallText (text : List Char) : Prop := ∀ c ∈ text, lowered c = c

theorem digitValue_lt_digitValue {c d : Char} (hc : IsDigit c) (hd : IsDigit d) (hsmall : lowered c = c) (hother : lowered d = d)
    (h : c < d) : digitValue c < digitValue d := by
  have hall : (hexDigits.all fun c => hexDigits.all fun d =>
      decide (lowered c = c → lowered d = d → c < d → digitValue c < digitValue d)) = true := by decide
  have hboth := List.all_eq_true.1 (List.all_eq_true.1 hall c hc.mem_hexDigits) d hd.mem_hexDigits
  exact of_decide_eq_true hboth hsmall hother h

theorem numberFrom_digits_lt {start value : Nat} {left right : List Char} (hleft : FitsFrom start left)
    (hright : FitsFrom start right) (hsmall : IsSmallText left) (hother : IsSmallText right)
    (hlength : left.length = right.length) (h : left < right) :
    numberFrom value (digits left) < numberFrom value (digits right) := by
  induction h generalizing start value with
  | nil => exact nomatch hlength
  | @rel c left d right hlt =>
    obtain ⟨hc, hrest⟩ := fitsFrom_cons.1 hleft
    obtain ⟨hd, hafter⟩ := fitsFrom_cons.1 hright
    by_cases hstart : IsSeparator start
    · rw [(fits_of_separator hstart).1 hc, (fits_of_separator hstart).1 hd] at hlt
      exact absurd hlt (lt_irrefl _)
    · rw [fits_of_not_separator hstart] at hc hd
      have hvalue := digitValue_lt_digitValue hc hd (hsmall c List.mem_cons_self) (hother d List.mem_cons_self) hlt
      have hcount : (digits left).length = (digits right).length := by
        rw [hrest.length_digits, hafter.length_digits, Nat.succ.inj hlength]
      rw [digits_cons_of_isDigit hc, digits_cons_of_isDigit hd, numberFrom_cons, numberFrom_cons]
      exact numberFrom_lt_of_lt (by omega) hcount fun d => hrest.isDigit_of_mem
  | @cons c left right _ ih =>
    obtain ⟨hc, hrest⟩ := fitsFrom_cons.1 hleft
    have hnext : ∀ value, numberFrom value (digits left) < numberFrom value (digits right) := fun value =>
      ih hrest (fitsFrom_cons.1 hright).2 (fun d hd => hsmall d (List.mem_cons_of_mem c hd))
        (fun d hd => hother d (List.mem_cons_of_mem c hd)) (Nat.succ.inj hlength)
    by_cases hstart : IsSeparator start
    · rw [(fits_of_separator hstart).1 hc, digits_cons_hyphen, digits_cons_hyphen]
      exact hnext value
    · rw [fits_of_not_separator hstart] at hc
      rw [digits_cons_of_isDigit hc, digits_cons_of_isDigit hc, numberFrom_cons, numberFrom_cons]
      exact hnext _

/-! ### Identifiers -/

theorem isSmallText_text (identifier : Identifier) : IsSmallText identifier.text.toList := by
  obtain ⟨-, hfolded⟩ := normalize_eq_ok_iff.1 identifier.canonical
  have hsame := congrArg String.toList hfolded
  rw [toList_folded] at hsame
  exact List.map_inj_left.1 (hsame.symm.trans (List.map_id _).symm)

theorem number_lt_of_lt {left right : Identifier} (h : left < right) : number left.text < number right.text := by
  obtain ⟨hleft, -⟩ := normalize_eq_ok_iff.1 left.canonical
  obtain ⟨hright, -⟩ := normalize_eq_ok_iff.1 right.canonical
  have hlength : left.text.toList.length = right.text.toList.length := by
    rw [String.length_toList, String.length_toList, hleft.length_eq, hright.length_eq]
  exact numberFrom_digits_lt hleft.fitsFrom hright.fitsFrom (isSmallText_text left) (isSmallText_text right) hlength h

theorem compare_eq_compare_number (left right : Identifier) :
    compare left right = compare (number left.text) (number right.text) := by
  show compare left.text right.text = _
  rcases lt_trichotomy left.text right.text with hlt | hsame | hgt
  · rw [compare_lt_iff_lt.2 hlt, compare_lt_iff_lt.2 (number_lt_of_lt hlt)]
  · rw [hsame, compare_eq_iff_eq.2 rfl, compare_eq_iff_eq.2 rfl]
  · rw [compare_gt_iff_gt.2 hgt, compare_gt_iff_gt.2 (number_lt_of_lt hgt)]

theorem compare_eq_lt_iff_bytes_lt {left right : Identifier} :
    compare left right = .lt ↔ Text.bytes left.text < Text.bytes right.text :=
  compare_lt_iff_lt.trans Text.lt_iff_bytes_lt

theorem le_iff_number_le {left right : Identifier} : left ≤ right ↔ number left.text ≤ number right.text := by
  rw [le_def, ← compare_le_iff_le, ← compare_le_iff_le]
  exact iff_of_eq (congrArg (· ≠ .gt) (compare_eq_compare_number left right))

theorem number_injective : Function.Injective fun identifier : Identifier => number identifier.text :=
  Set.injOn_univ.1 bijOn_number.injOn

/-! ### Lists of identifiers -/

theorem parseAllFrom_of_forall {candidates : List String}
    (h : ∀ candidate ∈ candidates, ∃ identifier, parse candidate = .ok identifier)
    (start : Nat) : ∃ identifiers, parseAllFrom start candidates = .ok identifiers ∧
      List.Forall₂ (fun candidate identifier => parse candidate = .ok identifier) candidates identifiers := by
  induction candidates generalizing start with
  | nil => exact ⟨[], rfl, .nil⟩
  | cons candidate rest ih =>
    obtain ⟨identifier, hparse⟩ := h candidate List.mem_cons_self
    obtain ⟨identifiers, hrest, hall⟩ := ih (fun other hother => h other (List.mem_cons_of_mem candidate hother)) (start + 1)
    exact ⟨identifier :: identifiers, by rw [parseAllFrom, hparse]; dsimp only; rw [hrest], .cons hparse hall⟩

theorem map_number_of_parsed {candidates : List String} {identifiers : List Identifier}
    (h : List.Forall₂ (fun candidate identifier => parse candidate = .ok identifier) candidates identifiers) :
    identifiers.map (fun identifier => number identifier.text) = candidates.map number := by
  induction h with
  | nil => rfl
  | cons hparse _ ih => rw [List.map_cons, List.map_cons, ih, number_text_of_parse hparse]

theorem pairwise_sort (identifiers : List Identifier) :
    (sort identifiers).Pairwise fun left right => number left.text ≤ number right.text := by
  have hsorted : (sort identifiers).Pairwise fun left right => decide (left ≤ right) = true := by
    apply List.pairwise_mergeSort
    · exact fun _ _ _ hleft hright => decide_eq_true (String.le_trans (of_decide_eq_true hleft) (of_decide_eq_true hright))
    · exact fun left right => by simpa [le_def] using String.le_total left.text right.text
  exact hsorted.imp fun h => le_iff_number_le.1 (of_decide_eq_true h)

/-- The numbers leave no choice: equal ones belong to equal identifiers. -/
theorem eq_sort_iff {sorted identifiers : List Identifier} : sorted = sort identifiers ↔
    sorted.Perm identifiers ∧ sorted.Pairwise fun left right => number left.text ≤ number right.text := by
  constructor
  · rintro rfl
    exact ⟨sort_perm identifiers, pairwise_sort identifiers⟩
  · rintro ⟨hperm, hpairwise⟩
    refine List.Perm.eq_of_pairwise ?_ hpairwise (pairwise_sort identifiers) (hperm.trans (sort_perm identifiers).symm)
    exact fun left right _ _ hle hge => number_injective (Nat.le_antisymm hle hge)

theorem map_number_sort (identifiers : List Identifier) : (sort identifiers).map (fun identifier => number identifier.text) =
    (identifiers.map fun identifier => number identifier.text).mergeSort fun left right => decide (left ≤ right) :=
  List.map_mergeSort fun _ _ _ _ => decide_eq_decide.2 le_iff_number_le

theorem nodup_distinct (identifiers : List Identifier) : (distinct identifiers).Nodup := by
  rw [distinct]
  match identifiers with
  | [] => exact List.nodup_nil
  | first :: rest =>
    rw [List.eraseDups_cons, List.nodup_cons, List.mem_eraseDups]
    exact ⟨by simp, nodup_distinct _⟩
termination_by identifiers.length
decreasing_by exact Nat.lt_succ_of_le (List.length_filter_le _ _)

theorem length_distinct (identifiers : List Identifier) : (distinct identifiers).length =
    (identifiers.map fun identifier => number identifier.text).toFinset.card := by
  have hnodup := (nodup_distinct identifiers).map number_injective
  rw [← List.length_map fun identifier : Identifier => number identifier.text, ← List.toFinset_card_of_nodup hnodup]
  congr 1
  ext value
  simp [distinct]

/-- Identifiers are compared as the numbers that their spellings write, in any letter case, and as the bytes of their texts. So a list of spellings has one sorted order, which is that of the numbers, and as many identifiers in it as numbers. -/
theorem order_of_spellings :
    (∀ left right first second, parse left = .ok first → parse right = .ok second →
        compare first second = compare (number left) (number right) ∧
          (compare first second = .lt ↔ Text.bytes first.text < Text.bytes second.text)) ∧
      ∀ candidates, (∀ candidate ∈ candidates, ∃ identifier, parse candidate = .ok identifier) →
        ∃ identifiers, parseAll candidates = .ok identifiers ∧
          List.Forall₂ (fun candidate identifier => parse candidate = .ok identifier) candidates identifiers ∧
          (∀ sorted, sorted = sort identifiers ↔
            sorted.Perm identifiers ∧ sorted.Pairwise fun left right => number left.text ≤ number right.text) ∧
          (sort identifiers).map (fun identifier => number identifier.text) =
            (candidates.map number).mergeSort (fun left right => decide (left ≤ right)) ∧
          (distinct identifiers).length = (candidates.map number).toFinset.card := by
  refine ⟨fun left right first second hleft hright => ?_, fun candidates hall => ?_⟩
  · refine ⟨?_, compare_eq_lt_iff_bytes_lt⟩
    rw [compare_eq_compare_number, number_text_of_parse hleft, number_text_of_parse hright]
  · obtain ⟨identifiers, hparse, hparsed⟩ := parseAllFrom_of_forall hall 0
    refine ⟨identifiers, hparse, hparsed, fun sorted => eq_sort_iff, ?_, ?_⟩
    · rw [map_number_sort, map_number_of_parsed hparsed]
    · rw [length_distinct, map_number_of_parsed hparsed]

def adjusted : Identifier := ⟨"f1a3b5c7-d9e0-4f12-a345-6789abcdef88", by decide⟩

def cancelled : Identifier := ⟨"a7d0e3f2-5b86-4c19-8e2d-9f1a6b3c5d33", by decide⟩

/-- The first text is in capitals, and smaller than the second one. -/
theorem order_of_spellings_capitals :
    compare "F1A3B5C7-D9E0-4F12-A345-6789ABCDEF88" "a7d0e3f2-5b86-4c19-8e2d-9f1a6b3c5d33" = .lt ∧
      compare adjusted cancelled = .gt ∧
      parseAll ["F1A3B5C7-D9E0-4F12-A345-6789ABCDEF88", "a7d0e3f2-5b86-4c19-8e2d-9f1a6b3c5d33",
        "A7D0E3F2-5B86-4C19-8E2D-9F1A6B3C5D33"] = .ok [adjusted, cancelled, cancelled] ∧
      sort [adjusted, cancelled, cancelled] = [cancelled, cancelled, adjusted] ∧
      (distinct [adjusted, cancelled, cancelled]).length = 2 := by
  have hfirst : parse "F1A3B5C7-D9E0-4F12-A345-6789ABCDEF88" = .ok adjusted := parse_eq_ok_iff.2 (by decide)
  have hsecond : parse "a7d0e3f2-5b86-4c19-8e2d-9f1a6b3c5d33" = .ok cancelled := parse_eq_ok_iff.2 (by decide)
  have hthird : parse "A7D0E3F2-5B86-4C19-8E2D-9F1A6B3C5D33" = .ok cancelled := parse_eq_ok_iff.2 (by decide)
  have hall : parseAll ["F1A3B5C7-D9E0-4F12-A345-6789ABCDEF88", "a7d0e3f2-5b86-4c19-8e2d-9f1a6b3c5d33",
      "A7D0E3F2-5B86-4C19-8E2D-9F1A6B3C5D33"] = .ok [adjusted, cancelled, cancelled] := by
    simp only [parseAll, parseAllFrom, hfirst, hsecond, hthird]
  obtain ⟨hcompare, hlists⟩ := order_of_spellings
  obtain ⟨identifiers, hparse, -, hsort, -, hdistinct⟩ := hlists ["F1A3B5C7-D9E0-4F12-A345-6789ABCDEF88",
    "a7d0e3f2-5b86-4c19-8e2d-9f1a6b3c5d33", "A7D0E3F2-5B86-4C19-8E2D-9F1A6B3C5D33"] (by simp [hfirst, hsecond, hthird])
  obtain rfl := Except.ok.inj (hparse.symm.trans hall)
  refine ⟨by decide, (hcompare _ _ _ _ hfirst hsecond).1.trans (by decide), hall, ?_, hdistinct.trans (by decide)⟩
  exact ((hsort _).2 ⟨by decide, by decide⟩).symm

end MessageCatalog.Identifier
