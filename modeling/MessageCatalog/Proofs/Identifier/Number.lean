import Mathlib.Data.List.Forall2
import Mathlib.Data.Nat.Digits.Lemmas
import MessageCatalog.Proofs.Identifier.Grammar

/-!
# Identifiers are numbers

The digits of a spelling write a number in base sixteen, and the spellings of one number differ in the case of their letters only. A well-formed text is nothing but its digits with hyphens woven in, so texts may be taken apart and put together again; that digits and numbers determine each other is a fact about numerals and comes from there. Together they make the identifiers as many as the numbers of 128 bits without zero.
-/

namespace MessageCatalog.Identifier

/-! ### Digits and hyphens

What fits its positions is determined by what it has beside hyphens. -/

def digits (text : List Char) : List Char := text.filter fun c => c != '-'

/-- How many of the positions from the given one on are those of digits. -/
def places (start : Nat) : Nat → Nat
  | 0 => 0
  | count + 1 => if IsSeparator start then places (start + 1) count else places (start + 1) count + 1

/-- The digits in their order, at the positions from the given one on where digits belong. -/
def weave (start : Nat) : Nat → List Char → List Char
  | 0, _ => []
  | count + 1, text =>
    if IsSeparator start then '-' :: weave (start + 1) count text
    else text.take 1 ++ weave (start + 1) count (text.drop 1)

theorem digits_cons_hyphen (text : List Char) : digits ('-' :: text) = digits text := rfl

theorem digits_cons_of_isDigit {c : Char} (h : IsDigit c) (text : List Char) : digits (c :: text) = c :: digits text :=
  List.filter_cons_of_pos (bne_iff_ne.2 h.ne_hyphen)

theorem mem_digits {c : Char} {text : List Char} : c ∈ digits text ↔ c ∈ text ∧ c ≠ '-' := by
  rw [digits, List.mem_filter, bne_iff_ne]

namespace FitsFrom

variable {start : Nat} {text : List Char}

theorem length_digits (h : FitsFrom start text) : (digits text).length = places start text.length := by
  induction text generalizing start with
  | nil => rfl
  | cons c rest ih =>
    obtain ⟨hc, hrest⟩ := fitsFrom_cons.1 h
    by_cases hstart : IsSeparator start
    · obtain rfl := (fits_of_separator hstart).1 hc
      rw [digits_cons_hyphen, List.length_cons, places, if_pos hstart, ih hrest]
    · rw [digits_cons_of_isDigit ((fits_of_not_separator hstart).1 hc), List.length_cons, List.length_cons, places, if_neg hstart,
        ih hrest]

theorem weave_digits (h : FitsFrom start text) : weave start text.length (digits text) = text := by
  induction text generalizing start with
  | nil => rfl
  | cons c rest ih =>
    obtain ⟨hc, hrest⟩ := fitsFrom_cons.1 h
    by_cases hstart : IsSeparator start
    · obtain rfl := (fits_of_separator hstart).1 hc
      rw [digits_cons_hyphen, List.length_cons, weave, if_pos hstart, ih hrest]
    · rw [digits_cons_of_isDigit ((fits_of_not_separator hstart).1 hc), List.length_cons, weave, if_neg hstart, List.drop_one,
        List.tail_cons, ih hrest]
      rfl

theorem isDigit_of_mem (h : FitsFrom start text) {c : Char} (hc : c ∈ digits text) : IsDigit c := by
  obtain ⟨hmem, hhyphen⟩ := mem_digits.1 hc
  obtain ⟨offset, hat⟩ := List.mem_iff_getElem?.1 hmem
  have hfits := h offset c hat
  by_cases hposition : IsSeparator (start + offset)
  · exact absurd ((fits_of_separator hposition).1 hfits) hhyphen
  · exact (fits_of_not_separator hposition).1 hfits

end FitsFrom

/-- Digits, as many as there are places for, can be woven in and read back. -/
theorem weave_facts {start count : Nat} {text : List Char} (hlength : text.length = places start count)
    (hdigits : ∀ c ∈ text, IsDigit c) :
    (weave start count text).length = count ∧ FitsFrom start (weave start count text) ∧ digits (weave start count text) = text := by
  induction count generalizing start text with
  | zero =>
    rw [List.eq_nil_of_length_eq_zero hlength]
    exact ⟨rfl, fitsFrom_nil start, rfl⟩
  | succ count ih =>
    by_cases hstart : IsSeparator start
    · rw [places, if_pos hstart] at hlength
      obtain ⟨hcount, hfits, hback⟩ := ih hlength hdigits
      rw [weave, if_pos hstart]
      exact ⟨congrArg (· + 1) hcount, fitsFrom_cons.2 ⟨(fits_of_separator hstart).2 rfl, hfits⟩, hback⟩
    · rw [places, if_neg hstart] at hlength
      obtain ⟨c, rest, rfl⟩ := List.exists_cons_of_length_eq_add_one hlength
      have hc := hdigits c List.mem_cons_self
      obtain ⟨hcount, hfits, hback⟩ := ih (Nat.succ.inj hlength) fun d hd => hdigits d (List.mem_cons_of_mem c hd)
      rw [weave, if_neg hstart, List.drop_one, List.tail_cons]
      exact ⟨congrArg (· + 1) hcount, fitsFrom_cons.2 ⟨(fits_of_not_separator hstart).2 hc, hfits⟩,
        (digits_cons_of_isDigit hc _).trans (congrArg (c :: ·) hback)⟩

/-- The text with the given digits. -/
def spelled (text : List Char) : String := String.ofList (weave 0 36 text)

theorem places_eq : places 0 36 = 32 := by decide

namespace IsWellFormed

variable {text : String}

theorem length_digits (h : IsWellFormed text) : (digits text.toList).length = 32 := by
  rw [h.fitsFrom.length_digits, String.length_toList, h.length_eq, places_eq]

theorem spelled_digits (h : IsWellFormed text) : spelled (digits text.toList) = text := by
  have hweave := h.fitsFrom.weave_digits
  rw [String.length_toList, h.length_eq] at hweave
  rw [spelled, hweave, String.ofList_toList]

end IsWellFormed

theorem isWellFormed_spelled {text : List Char} (hlength : text.length = 32) (hdigits : ∀ c ∈ text, IsDigit c) :
    IsWellFormed (spelled text) ∧ digits (spelled text).toList = text := by
  obtain ⟨hcount, hfits, hback⟩ := weave_facts (hlength.trans places_eq.symm) hdigits
  rw [spelled]
  refine ⟨.of_fitsFrom ?_ ?_, ?_⟩
  · rw [String.length_ofList, hcount]
  · rwa [String.toList_ofList]
  · rwa [String.toList_ofList]

/-! ### Small letters -/

theorem lowered_hyphen {c : Char} : lowered c = '-' ↔ c = '-' := by
  unfold lowered
  split <;> simp

theorem lowered_eq_or_mem (c : Char) : lowered c = c ∨ c ∈ ['A', 'B', 'C', 'D', 'E', 'F'] := by
  unfold lowered
  split <;> simp

theorem lowered_lowered (c : Char) : lowered (lowered c) = lowered c := by
  rcases lowered_eq_or_mem c with hsame | hcapital
  · rw [hsame, hsame]
  · have hall : (['A', 'B', 'C', 'D', 'E', 'F'].all fun c => lowered (lowered c) == lowered c) = true := by decide
    exact beq_iff_eq.1 (List.all_eq_true.1 hall c hcapital)

theorem Fits.lowered {position : Nat} {c : Char} (h : Fits position c) : Fits position (Identifier.lowered c) := by
  by_cases hposition : IsSeparator position
  · rw [fits_of_separator hposition] at h ⊢
    exact lowered_hyphen.2 h
  · rw [fits_of_not_separator hposition] at h ⊢
    have hall : (hexDigits.all fun c => isHexDigit (Identifier.lowered c)) = true := by decide
    exact isHexDigit_iff.1 (List.all_eq_true.1 hall c h.mem_hexDigits)

theorem toList_folded (text : String) : (folded text).toList = text.toList.map lowered := String.toList_ofList

theorem digits_map_lowered (text : List Char) : digits (text.map lowered) = (digits text).map lowered := by
  rw [digits, digits, List.filter_map]
  congr 2
  funext c
  rw [Function.comp_apply, Bool.eq_iff_iff, bne_iff_ne, bne_iff_ne, ne_eq, ne_eq, lowered_hyphen]

theorem IsWellFormed.folded {text : String} (h : IsWellFormed text) : IsWellFormed (folded text) := by
  refine ⟨?_, fun position c hc => ?_⟩
  · rw [Identifier.folded, String.length_ofList, List.length_map, String.length_toList, h.length_eq]
  · rw [toList_folded, List.getElem?_map, Option.map_eq_some_iff] at hc
    obtain ⟨d, hd, rfl⟩ := hc
    exact (h.fits position d hd).lowered

/-! ### Numbers -/

def digitValue (c : Char) : Nat :=
  if c ≤ '9' then c.toNat - '0'.toNat else if c ≤ 'F' then c.toNat - 'A'.toNat + 10 else c.toNat - 'a'.toNat + 10

/-- The number that the digits of a text write in base sixteen. -/
def number (text : String) : Nat := (digits text.toList).foldl (fun number c => 16 * number + digitValue c) 0

theorem number_eq_ofDigits (text : String) :
    number text = Nat.ofDigits 16 ((digits text.toList).map digitValue).reverse := by
  rw [Nat.ofDigits_eq_foldr, List.foldr_reverse, List.foldl_map, number]
  congr 1
  funext number c
  exact Nat.add_comm _ _

theorem digitValue_lowered (c : Char) : digitValue (lowered c) = digitValue c := by
  unfold lowered
  split <;> rfl

theorem digitChar_digitValue {c : Char} (h : IsDigit c) : (digitValue c).digitChar = lowered c := by
  have hall : (hexDigits.all fun c => (digitValue c).digitChar == lowered c) = true := by decide
  exact beq_iff_eq.1 (List.all_eq_true.1 hall c h.mem_hexDigits)

theorem digitValue_lt {c : Char} (h : IsDigit c) : digitValue c < 16 := by
  have hall : (hexDigits.all fun c => decide (digitValue c < 16)) = true := by decide
  exact of_decide_eq_true (List.all_eq_true.1 hall c h.mem_hexDigits)

theorem digitChar_facts {value : Nat} (h : value < 16) :
    IsDigit value.digitChar ∧ lowered value.digitChar = value.digitChar ∧ digitValue value.digitChar = value := by
  have hall : ((List.range 16).all fun value => isHexDigit value.digitChar && lowered value.digitChar == value.digitChar &&
      digitValue value.digitChar == value) = true := by decide
  have hvalue := List.all_eq_true.1 hall value (List.mem_range.2 h)
  simp only [Bool.and_eq_true, beq_iff_eq] at hvalue
  exact ⟨isHexDigit_iff.1 hvalue.1.1, hvalue.1.2, hvalue.2⟩

theorem number_folded (text : String) : number (folded text) = number text := by
  rw [number_eq_ofDigits, number_eq_ofDigits, toList_folded, digits_map_lowered, List.map_map]
  congr 3
  funext c
  exact digitValue_lowered c

namespace IsWellFormed

variable {text other : String}

theorem digitValue_lt (h : IsWellFormed text) : ∀ value ∈ ((digits text.toList).map digitValue).reverse, value < 16 := by
  intro value hvalue
  rw [List.mem_reverse, List.mem_map] at hvalue
  obtain ⟨c, hc, rfl⟩ := hvalue
  exact Identifier.digitValue_lt (h.fitsFrom.isDigit_of_mem hc)

theorem number_lt (h : IsWellFormed text) : number text < 2 ^ 128 := by
  have hlt := Nat.ofDigits_lt_base_pow_length (by decide) h.digitValue_lt
  rw [List.length_reverse, List.length_map, h.length_digits] at hlt
  rw [number_eq_ofDigits]
  calc _ < 16 ^ 32 := hlt
    _ = 2 ^ 128 := by norm_num

theorem map_digitChar (h : IsWellFormed text) :
    ((digits text.toList).map digitValue).map Nat.digitChar = digits (Identifier.folded text).toList := by
  rw [toList_folded, digits_map_lowered, List.map_map]
  apply List.map_congr_left
  intro c hc
  exact digitChar_digitValue (h.fitsFrom.isDigit_of_mem hc)

/-- Texts that write the same number have the same digits, up to case. -/
theorem folded_eq_of_number_eq (h : IsWellFormed text) (hother : IsWellFormed other) (hnumber : number text = number other) :
    Identifier.folded text = Identifier.folded other := by
  rw [number_eq_ofDigits, number_eq_ofDigits] at hnumber
  have hlength : ((digits text.toList).map digitValue).reverse.length = ((digits other.toList).map digitValue).reverse.length := by
    simp only [List.length_reverse, List.length_map, h.length_digits, hother.length_digits]
  have hvalues := List.reverse_injective
    (Nat.ofDigits_inj_of_len_eq (by decide) hlength h.digitValue_lt hother.digitValue_lt hnumber)
  rw [← h.folded.spelled_digits, ← hother.folded.spelled_digits, ← h.map_digitChar, ← hother.map_digitChar, hvalues]

/-- The number is zero when every digit is. -/
theorem number_ne_zero_iff (h : IsWellFormed text) : number text ≠ 0 ↔ IsSpelling text := by
  have hzero : ∀ {c}, IsDigit c → (digitValue c = 0 ↔ c = '0') := by
    intro c hc
    have hall : (hexDigits.all fun c => decide (digitValue c = 0 ↔ c = '0')) = true := by decide
    exact of_decide_eq_true (List.all_eq_true.1 hall c hc.mem_hexDigits)
  rw [h.isSpelling_iff, ← Bool.not_eq_true, not_iff_not, h.isNil_iff, number_eq_ofDigits]
  constructor
  · intro hnumber position c hc hposition
    have hdigit := (fits_of_not_separator hposition).1 (h.fits position c hc)
    have hmem := mem_digits.2 ⟨List.mem_of_getElem? hc, hdigit.ne_hyphen⟩
    exact (hzero hdigit).1
      (Nat.digits_zero_of_eq_zero (by decide) hnumber _ (List.mem_reverse.2 (List.mem_map_of_mem hmem)))
  · intro hall
    have hvalues : ((digits text.toList).map digitValue).reverse = List.replicate 32 0 := by
      apply List.eq_replicate_iff.2
      refine ⟨by rw [List.length_reverse, List.length_map, h.length_digits], fun value hvalue => ?_⟩
      rw [List.mem_reverse, List.mem_map] at hvalue
      obtain ⟨c, hc, rfl⟩ := hvalue
      obtain ⟨position, hat⟩ := List.mem_iff_getElem?.1 (mem_digits.1 hc).1
      refine (hzero (h.fitsFrom.isDigit_of_mem hc)).2 (hall position c hat fun hposition => ?_)
      exact (mem_digits.1 hc).2 ((fits_of_separator hposition).1 (h.fits position c hat))
    rw [hvalues, Nat.ofDigits_replicate_zero]

end IsWellFormed

/-- Every number that is not too large is written by a text in small letters. -/
theorem exists_of_number_lt {value : Nat} (h : value < 2 ^ 128) :
    ∃ text, IsWellFormed text ∧ folded text = text ∧ number text = value := by
  have hvalue : value < 16 ^ 32 := by
    calc value < 2 ^ 128 := h
      _ = 16 ^ 32 := by norm_num
  obtain ⟨values, ⟨hlength, hvalues⟩, rfl⟩ := (Nat.bijOn_ofDigits (by decide) 32).surjOn hvalue
  have hchars : ∀ c ∈ values.reverse.map Nat.digitChar, IsDigit c ∧ lowered c = c := by
    intro c hc
    obtain ⟨digit, hdigit, rfl⟩ := List.mem_map.1 hc
    obtain ⟨his, hlow, -⟩ := digitChar_facts (hvalues digit (List.mem_reverse.1 hdigit))
    exact ⟨his, hlow⟩
  have hcount : (values.reverse.map Nat.digitChar).length = 32 := by rw [List.length_map, List.length_reverse, hlength]
  obtain ⟨hwell, hdigits⟩ := isWellFormed_spelled hcount fun c hc => (hchars c hc).1
  refine ⟨spelled (values.reverse.map Nat.digitChar), hwell, ?_, ?_⟩
  · have hlow : (values.reverse.map Nat.digitChar).map lowered = values.reverse.map Nat.digitChar :=
      (List.map_congr_left fun c hc => (hchars c hc).2).trans (List.map_id _)
    rw [← hwell.folded.spelled_digits, toList_folded, digits_map_lowered, hdigits, hlow]
  · have hback : (values.reverse.map Nat.digitChar).map digitValue = values.reverse := by
      rw [List.map_map]
      refine (List.map_congr_left fun digit hdigit => ?_).trans (List.map_id _)
      exact (digitChar_facts (hvalues digit (List.mem_reverse.1 hdigit))).2.2
    rw [number_eq_ofDigits, hdigits, hback, List.reverse_reverse]

/-! ### Letter case -/

def IsCapitalOf (capital small : Char) : Prop := 'A' ≤ capital ∧ capital ≤ 'Z' ∧ small.toNat = capital.toNat + 32

/-- The same character, or the same letter of the Latin alphabet in the other case. -/
def SameLetter (c d : Char) : Prop := c = d ∨ IsCapitalOf c d ∨ IsCapitalOf d c

def SameButForCase (left right : String) : Prop := List.Forall₂ SameLetter left.toList right.toList

theorem lowered_eq_or_isCapitalOf (c : Char) : lowered c = c ∨ IsCapitalOf c (lowered c) := by
  unfold lowered
  split
  case h_7 => exact .inl rfl
  all_goals exact .inr ⟨by decide, by decide, rfl⟩

theorem sameLetter_of_lowered_eq {c d : Char} (h : lowered c = lowered d) : SameLetter c d := by
  rcases lowered_eq_or_isCapitalOf c with hc | hc <;> rcases lowered_eq_or_isCapitalOf d with hd | hd
  · exact .inl (hc.symm.trans (h.trans hd))
  · rw [← h, hc] at hd
    exact .inr (.inr hd)
  · rw [h, hd] at hc
    exact .inr (.inl hc)
  · left
    have hvalues := hc.2.2.symm.trans ((congrArg Char.toNat h).trans hd.2.2)
    exact Char.toNat_inj.1 (Nat.add_right_cancel hvalues)

theorem Fits.lowered_eq_of_isCapitalOf {position : Nat} {c d : Char} (hfits : Fits position c) (h : IsCapitalOf c d) :
    Identifier.lowered c = Identifier.lowered d := by
  obtain ⟨hfirst, hlast, hvalue⟩ := h
  by_cases hposition : IsSeparator position
  · rw [(fits_of_separator hposition).1 hfits] at hfirst
    exact absurd hfirst (by decide)
  · have hall : (hexDigits.all fun c => decide ('A' ≤ c → c ≤ 'Z' → (Identifier.lowered c).toNat = c.toNat + 32)) = true := by
      decide
    have hcapital := of_decide_eq_true (List.all_eq_true.1 hall c ((fits_of_not_separator hposition).1 hfits).mem_hexDigits)
    have hd : Identifier.lowered c = d := Char.toNat_inj.1 ((hcapital hfirst hlast).trans hvalue.symm)
    rw [← hd, lowered_lowered]

theorem IsWellFormed.sameButForCase_iff {text other : String} (h : IsWellFormed text) (hother : IsWellFormed other) :
    SameButForCase text other ↔ Identifier.folded text = Identifier.folded other := by
  have hfits : ∀ {text : String}, IsWellFormed text → ∀ c ∈ text.toList, ∃ position, Fits position c := by
    intro text h c hc
    obtain ⟨position, hat⟩ := List.mem_iff_getElem?.1 hc
    exact ⟨position, h.fits position c hat⟩
  have hfolded : Identifier.folded text = Identifier.folded other ↔
      List.Forall₂ (fun c d => lowered c = lowered d) text.toList other.toList := by
    rw [Identifier.folded, Identifier.folded, String.ofList_inj, ← List.forall₂_eq_eq_eq, List.forall₂_map_left_iff,
      List.forall₂_map_right_iff]
  rw [hfolded]
  constructor
  · intro hsame
    obtain ⟨hlength, hletters⟩ := List.forall₂_iff_zip.1 hsame
    refine List.forall₂_iff_zip.2 ⟨hlength, fun {c d} hpair => ?_⟩
    obtain ⟨_, hc⟩ := hfits h c (List.of_mem_zip hpair).1
    obtain ⟨_, hd⟩ := hfits hother d (List.of_mem_zip hpair).2
    obtain rfl | hcapital | hcapital := hletters hpair
    · rfl
    · exact hc.lowered_eq_of_isCapitalOf hcapital
    · exact (hd.lowered_eq_of_isCapitalOf hcapital).symm
  · exact fun hlow => hlow.imp fun _ _ => sameLetter_of_lowered_eq

/-! ### Identifiers and their numbers -/

theorem isSpelling_of_parse {candidate : String} {identifier : Identifier} (h : parse candidate = .ok identifier) :
    IsSpelling candidate ∧ identifier.text = folded candidate :=
  normalize_eq_ok_iff.1 (parse_eq_ok_iff.1 h)

theorem eq_iff_folded_eq {left right : String} {first second : Identifier} (hleft : parse left = .ok first)
    (hright : parse right = .ok second) : first = second ↔ folded left = folded right := by
  rw [Identifier.ext_iff, (isSpelling_of_parse hleft).2, (isSpelling_of_parse hright).2]

theorem number_text_of_parse {candidate : String} {identifier : Identifier} (h : parse candidate = .ok identifier) :
    number identifier.text = number candidate := by
  rw [(isSpelling_of_parse h).2, number_folded]

theorem bijOn_number : Set.BijOn (fun identifier : Identifier => number identifier.text) Set.univ (Set.Icc 1 (2 ^ 128 - 1)) := by
  refine ⟨fun identifier _ => ?range, fun left _ right _ hnumber => ?injective, fun value hvalue => ?surjective⟩
  case range =>
    obtain ⟨hspelling, -⟩ := normalize_eq_ok_iff.1 identifier.canonical
    have hwell := hspelling.toIsWellFormed
    exact ⟨Nat.one_le_iff_ne_zero.2 (hwell.number_ne_zero_iff.2 hspelling), Nat.le_pred_of_lt hwell.number_lt⟩
  case injective =>
    obtain ⟨hleft, hsmall⟩ := normalize_eq_ok_iff.1 left.canonical
    obtain ⟨hright, hsmall'⟩ := normalize_eq_ok_iff.1 right.canonical
    apply Identifier.ext
    rw [hsmall, hsmall']
    exact hleft.folded_eq_of_number_eq hright.toIsWellFormed hnumber
  case surjective =>
    obtain ⟨text, hwell, hsmall, hnumber⟩ := exists_of_number_lt (Nat.lt_of_le_pred (by decide) hvalue.2)
    have hspelling := hwell.number_ne_zero_iff.1 (hnumber ▸ Nat.one_le_iff_ne_zero.1 hvalue.1)
    exact ⟨⟨text, normalize_eq_ok_iff.2 ⟨hspelling, hsmall.symm⟩⟩, Set.mem_univ _, hnumber⟩

/-- An identifier is a number: its spellings are those of the number and differ in case alone, every number of 128 bits but zero has one canonical spelling, and that spelling is its own. -/
theorem identifiers_name_numbers :
    (∀ left right first second, parse left = .ok first → parse right = .ok second →
        (first = second ↔ number left = number right) ∧ (first = second ↔ SameButForCase left right)) ∧
      (∀ candidate identifier, parse candidate = .ok identifier → number identifier.text = number candidate) ∧
      Set.BijOn (fun identifier : Identifier => number identifier.text) Set.univ (Set.Icc 1 (2 ^ 128 - 1)) ∧
      (∀ value ∈ Set.Icc 1 (2 ^ 128 - 1), ∃! text, normalize text = .ok text ∧ number text = value) ∧
      ∀ candidate text, normalize candidate = .ok text → normalize text = .ok text := by
  refine ⟨fun left right first second hleft hright => ⟨?numbers, ?letters⟩, fun _ _ => number_text_of_parse, bijOn_number,
    fun value hvalue => ?spelling, fun _ _ => normalize_normalize⟩
  case numbers =>
    rw [← number_text_of_parse hleft, ← number_text_of_parse hright]
    exact (bijOn_number.injOn.eq_iff (Set.mem_univ _) (Set.mem_univ _)).symm
  case letters =>
    rw [eq_iff_folded_eq hleft hright]
    exact ((isSpelling_of_parse hleft).1.sameButForCase_iff (isSpelling_of_parse hright).1.toIsWellFormed).symm
  case spelling =>
    obtain ⟨identifier, -, hnumber⟩ := bijOn_number.surjOn hvalue
    refine ⟨identifier.text, ⟨identifier.canonical, hnumber⟩, fun text htext => ?_⟩
    have hsame : (⟨text, htext.1⟩ : Identifier) = identifier :=
      bijOn_number.injOn (Set.mem_univ _) (Set.mem_univ _) (htext.2.trans hnumber.symm)
    exact congrArg Identifier.text hsame

/-- Two spellings of one number. -/
theorem identifiers_name_numbers_capitals :
    ∃ identifier, parse "4e1b2a0c-9f51-4d3e-b0b7-6b9c1f0e2a11" = .ok identifier ∧
      parse "4E1B2A0C-9F51-4D3E-B0B7-6B9C1F0E2A11" = .ok identifier ∧
      number "4e1b2a0c-9f51-4d3e-b0b7-6b9c1f0e2a11" = number "4E1B2A0C-9F51-4D3E-B0B7-6B9C1F0E2A11" ∧
      SameButForCase "4e1b2a0c-9f51-4d3e-b0b7-6b9c1f0e2a11" "4E1B2A0C-9F51-4D3E-B0B7-6B9C1F0E2A11" := by
  have hsmall : parse "4e1b2a0c-9f51-4d3e-b0b7-6b9c1f0e2a11" = .ok ⟨"4e1b2a0c-9f51-4d3e-b0b7-6b9c1f0e2a11", by decide⟩ :=
    parse_eq_ok_iff.2 (by decide)
  have hcapital : parse "4E1B2A0C-9F51-4D3E-B0B7-6B9C1F0E2A11" = .ok ⟨"4e1b2a0c-9f51-4d3e-b0b7-6b9c1f0e2a11", by decide⟩ :=
    parse_eq_ok_iff.2 (by decide)
  obtain ⟨hnumber, hcase⟩ := identifiers_name_numbers.1 _ _ _ _ hsmall hcapital
  exact ⟨_, hsmall, hcapital, hnumber.1 rfl, hcase.1 rfl⟩

end MessageCatalog.Identifier
