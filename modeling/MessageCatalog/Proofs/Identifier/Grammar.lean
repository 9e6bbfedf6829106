import MessageCatalog.Identifier.Basic

/-!
# What spells an identifier

The rule of spellings, said without the loop that checks it: which character may stand where, which texts are spellings, and what is the first thing wrong with a text that is none. Normalizing accepts the spellings and no other text, turns capitals into small letters and changes nothing else; what it refuses, it refuses for the first thing that is wrong.
-/

namespace MessageCatalog.Identifier

/-! ### The rule of a position -/

def IsSeparator (position : Nat) : Prop := position = 8 ∨ position = 13 ∨ position = 18 ∨ position = 23

instance (position : Nat) : Decidable (IsSeparator position) := inferInstanceAs (Decidable (_ ∨ _))

def IsDigit (c : Char) : Prop := '0' ≤ c ∧ c ≤ '9' ∨ 'a' ≤ c ∧ c ≤ 'f' ∨ 'A' ≤ c ∧ c ≤ 'F'

def IsCapital (c : Char) : Prop := 'A' ≤ c ∧ c ≤ 'F'

def IsSmall (c : Char) : Prop := 'a' ≤ c ∧ c ≤ 'f'

instance (c : Char) : Decidable (IsCapital c) := inferInstanceAs (Decidable (_ ∧ _))

instance (c : Char) : Decidable (IsSmall c) := inferInstanceAs (Decidable (_ ∧ _))

def Fits (position : Nat) (c : Char) : Prop := if IsSeparator position then c = '-' else IsDigit c

/-- What there is to say of a character that breaks the rule of its position. -/
def misfit (position : Nat) (c : Char) : Defect :=
  if IsSeparator position then .separator position c else .digit position c

def lowered : Char → Char
  | 'A' => 'a'
  | 'B' => 'b'
  | 'C' => 'c'
  | 'D' => 'd'
  | 'E' => 'e'
  | 'F' => 'f'
  | c => c

theorem isHexDigit_iff {c : Char} : isHexDigit c = true ↔ IsDigit c := by
  simp only [isHexDigit, Char.isDigit, IsDigit, Bool.or_eq_true, Bool.and_eq_true, decide_eq_true_eq, or_assoc]
  exact Iff.rfl

theorem IsDigit.mem_hexDigits {c : Char} (h : IsDigit c) : c ∈ hexDigits :=
  Identifier.mem_hexDigits (isHexDigit_iff.2 h)

theorem mem_separatorPositions {position : Nat} : position ∈ separatorPositions ↔ IsSeparator position := by
  simp [separatorPositions, IsSeparator]

theorem IsDigit.ne_hyphen {c : Char} (h : IsDigit c) : c ≠ '-' := by
  rintro rfl
  exact absurd h.mem_hexDigits (by decide)

theorem IsDigit.toLower_eq {c : Char} (h : IsDigit c) : c.toLower = lowered c := by
  have hall : (hexDigits.all fun c => c.toLower == lowered c) = true := by decide
  exact beq_iff_eq.1 (List.all_eq_true.1 hall c h.mem_hexDigits)

theorem IsCapital.lowered_ne {c : Char} (h : IsCapital c) : lowered c ≠ c := by
  have hall : (hexDigits.all fun c => decide (IsCapital c → lowered c ≠ c)) = true := by decide
  have hdigit : IsDigit c := .inr (.inr h)
  exact of_decide_eq_true (List.all_eq_true.1 hall c hdigit.mem_hexDigits) h

theorem fits_of_separator {position : Nat} {c : Char} (h : IsSeparator position) : Fits position c ↔ c = '-' := by
  rw [Fits, if_pos h]

theorem fits_of_not_separator {position : Nat} {c : Char} (h : ¬ IsSeparator position) : Fits position c ↔ IsDigit c := by
  rw [Fits, if_neg h]

theorem Fits.toLower_eq {position : Nat} {c : Char} (h : Fits position c) : c.toLower = lowered c := by
  by_cases hposition : IsSeparator position
  · rw [(fits_of_separator hposition).1 h]
    decide
  · exact ((fits_of_not_separator hposition).1 h).toLower_eq

theorem defectAt_of_fits {position : Nat} {c : Char} (h : Fits position c) : defectAt position c = none := by
  unfold defectAt
  by_cases hposition : IsSeparator position
  · rw [if_pos (mem_separatorPositions.2 hposition), if_pos ((fits_of_separator hposition).1 h)]
  · rw [if_neg (mt mem_separatorPositions.1 hposition),
      if_pos (isHexDigit_iff.2 ((fits_of_not_separator hposition).1 h))]

theorem defectAt_of_not_fits {position : Nat} {c : Char} (h : ¬ Fits position c) :
    defectAt position c = some (misfit position c) := by
  unfold defectAt misfit
  by_cases hposition : IsSeparator position
  · rw [if_pos (mem_separatorPositions.2 hposition), if_neg (mt (fits_of_separator hposition).2 h), if_pos hposition]
  · rw [if_neg (mt mem_separatorPositions.1 hposition),
      if_neg (mt isHexDigit_iff.1 (mt (fits_of_not_separator hposition).2 h)), if_neg hposition]

/-! ### The first misfit

What the walk along a text finds, from whichever position it starts. -/

def FitsFrom (start : Nat) (text : List Char) : Prop := ∀ offset c, text[offset]? = some c → Fits (start + offset) c

theorem fitsFrom_nil (start : Nat) : FitsFrom start [] := fun _ _ h => absurd h (Option.some_ne_none _).symm

theorem fitsFrom_cons {start : Nat} {first : Char} {rest : List Char} :
    FitsFrom start (first :: rest) ↔ Fits start first ∧ FitsFrom (start + 1) rest := by
  constructor
  · intro h
    refine ⟨h 0 first rfl, fun offset c hc => ?_⟩
    rw [Nat.add_right_comm]
    exact h (offset + 1) c hc
  · rintro ⟨hfirst, hrest⟩ offset c hc
    cases offset with
    | zero => exact Option.some.inj hc ▸ hfirst
    | succ offset => exact Nat.add_right_comm start 1 offset ▸ hrest offset c hc

theorem firstMisfit_eq_none_iff {start : Nat} {text : List Char} : firstMisfit start text = none ↔ FitsFrom start text := by
  induction text generalizing start with
  | nil => simp [firstMisfit, fitsFrom_nil]
  | cons first rest ih =>
    rw [fitsFrom_cons]
    by_cases hfirst : Fits start first
    · simp [firstMisfit, defectAt_of_fits hfirst, hfirst, ih]
    · simp [firstMisfit, defectAt_of_not_fits hfirst, hfirst]

theorem exists_of_firstMisfit {start : Nat} {text : List Char} {defect : Defect} (h : firstMisfit start text = some defect) :
    ∃ offset c, text[offset]? = some c ∧ ¬ Fits (start + offset) c ∧ defect = misfit (start + offset) c ∧
      ∀ earlier < offset, ∀ d, text[earlier]? = some d → Fits (start + earlier) d := by
  induction text generalizing start with
  | nil => exact absurd h (Option.some_ne_none _).symm
  | cons first rest ih =>
    by_cases hfirst : Fits start first
    · rw [firstMisfit, defectAt_of_fits hfirst] at h
      obtain ⟨offset, c, hc, hmisfit, hdefect, hearlier⟩ := ih h
      rw [Nat.add_right_comm] at hmisfit hdefect
      refine ⟨offset + 1, c, hc, hmisfit, hdefect, fun earlier hlt d hd => ?_⟩
      cases earlier with
      | zero => exact Option.some.inj hd ▸ hfirst
      | succ earlier => exact Nat.add_right_comm start 1 earlier ▸ hearlier earlier (Nat.lt_of_succ_lt_succ hlt) d hd
    · rw [firstMisfit, defectAt_of_not_fits hfirst] at h
      exact ⟨0, first, rfl, hfirst, (Option.some.inj h).symm, fun earlier hlt => absurd hlt (Nat.not_lt_zero _)⟩

/-- A misfit before which everything fits is the one that is found. -/
theorem firstMisfit_eq_some {start offset : Nat} {text : List Char} {c : Char} (hc : text[offset]? = some c)
    (hmisfit : ¬ Fits (start + offset) c) (hearlier : ∀ earlier < offset, ∀ d, text[earlier]? = some d → Fits (start + earlier) d) :
    firstMisfit start text = some (misfit (start + offset) c) := by
  cases hfirst : firstMisfit start text with
  | none => exact absurd (firstMisfit_eq_none_iff.1 hfirst offset c hc) hmisfit
  | some defect =>
    obtain ⟨other, d, hd, hother, rfl, hbefore⟩ := exists_of_firstMisfit hfirst
    rcases Nat.lt_trichotomy other offset with hlt | rfl | hlt
    · exact absurd (hearlier other hlt d hd) hother
    · rw [Option.some.inj (hc.symm.trans hd)]
    · exact absurd (hbefore offset hlt c hc) hmisfit

/-! ### Spellings -/

/-- The length is right, and so is every character at its position. -/
structure IsWellFormed (candidate : String) : Prop where
  length_eq : candidate.length = 36
  fits : ∀ position c, candidate.toList[position]? = some c → Fits position c

/-- A well-formed text in which some digit is not zero. -/
structure IsSpelling (candidate : String) : Prop extends IsWellFormed candidate where
  nonzero : ∃ position c, candidate.toList[position]? = some c ∧ ¬ IsSeparator position ∧ c ≠ '0'

/-- The first thing wrong with a text: its length, then the first character that breaks the rule of its position, then that all its digits are zero. -/
inductive FirstFault (candidate : String) : IdentifierError → Prop where
  | length : candidate.length ≠ 36 → FirstFault candidate (.malformed candidate (.length candidate.length))
  | misfit {position : Nat} {c : Char} : candidate.length = 36 → candidate.toList[position]? = some c → ¬ Fits position c →
      (∀ earlier < position, ∀ d, candidate.toList[earlier]? = some d → Fits earlier d) →
      FirstFault candidate (.malformed candidate (misfit position c))
  | zero : IsWellFormed candidate →
      (∀ position c, candidate.toList[position]? = some c → ¬ IsSeparator position → c = '0') →
      FirstFault candidate (.reserved candidate)

/-- The text with its capital digits made small. -/
def folded (candidate : String) : String := String.ofList (candidate.toList.map lowered)

namespace IsWellFormed

variable {candidate : String}

theorem of_fitsFrom (hlength : candidate.length = 36) (h : FitsFrom 0 candidate.toList) : IsWellFormed candidate :=
  ⟨hlength, fun position c hc => Nat.zero_add position ▸ h position c hc⟩

theorem fitsFrom (h : IsWellFormed candidate) : FitsFrom 0 candidate.toList :=
  fun position c hc => (Nat.zero_add position).symm ▸ h.fits position c hc

theorem defect?_eq_none (h : IsWellFormed candidate) : defect? candidate.toList = none := by
  have hlength : candidate.toList.length = size := String.length_toList.trans h.length_eq
  rw [defect?, if_pos hlength]
  exact firstMisfit_eq_none_iff.2 h.fitsFrom

theorem isNil_iff (h : IsWellFormed candidate) : isNil candidate.toList = true ↔
    ∀ position c, candidate.toList[position]? = some c → ¬ IsSeparator position → c = '0' := by
  rw [isNil, List.all_eq_true]
  constructor
  · intro hall position c hc hposition
    have hdigit := (fits_of_not_separator hposition).1 (h.fits position c hc)
    simpa [hdigit.ne_hyphen] using hall c (List.mem_of_getElem? hc)
  · intro hall c hmem
    obtain ⟨position, hc⟩ := List.mem_iff_getElem?.1 hmem
    by_cases hposition : IsSeparator position
    · simp [(fits_of_separator hposition).1 (h.fits position c hc)]
    · simp [hall position c hc hposition]

theorem map_toLower (h : IsWellFormed candidate) : candidate.toList.map Char.toLower = candidate.toList.map lowered := by
  apply List.map_congr_left
  intro c hmem
  obtain ⟨position, hc⟩ := List.mem_iff_getElem?.1 hmem
  exact (h.fits position c hc).toLower_eq

theorem isSpelling_iff (h : IsWellFormed candidate) : IsSpelling candidate ↔ isNil candidate.toList = false := by
  rw [← Bool.not_eq_true, h.isNil_iff]
  constructor
  · rintro hspelling hzero
    obtain ⟨position, c, hc, hposition, hnonzero⟩ := hspelling.nonzero
    exact hnonzero (hzero position c hc hposition)
  · intro hzero
    simp only [Classical.not_forall] at hzero
    obtain ⟨position, c, hc, hposition, hnonzero⟩ := hzero
    exact ⟨h, position, c, hc, hposition, hnonzero⟩

end IsWellFormed

theorem normalize_of_isSpelling {candidate : String} (h : IsSpelling candidate) : normalize candidate = .ok (folded candidate) := by
  have hwell := h.toIsWellFormed
  rw [normalize, hwell.defect?_eq_none]
  dsimp only
  rw [hwell.isSpelling_iff.1 h, hwell.map_toLower]
  rfl

theorem normalize_of_defect {candidate : String} {defect : Defect} (h : defect? candidate.toList = some defect) :
    normalize candidate = .error (.malformed candidate defect) := by
  rw [normalize, h]

namespace FirstFault

variable {candidate : String} {cause : IdentifierError}

theorem normalize_eq_error (h : FirstFault candidate cause) : normalize candidate = .error cause := by
  cases h with
  | length hlength =>
    apply normalize_of_defect
    rw [defect?, if_neg (String.length_toList ▸ hlength), String.length_toList]
  | @misfit position c hlength hc hmisfit hearlier =>
    apply normalize_of_defect
    rw [← Nat.zero_add position] at hmisfit
    have hsize : candidate.toList.length = size := String.length_toList.trans hlength
    have hfirst := firstMisfit_eq_some hc hmisfit fun earlier hlt d hd => (Nat.zero_add earlier).symm ▸ hearlier earlier hlt d hd
    rw [defect?, if_pos hsize, hfirst, Nat.zero_add]
  | zero hwell hzero =>
    rw [normalize, hwell.defect?_eq_none]
    dsimp only
    rw [if_pos (hwell.isNil_iff.2 hzero)]

theorem candidate_eq (h : FirstFault candidate cause) : cause.candidate = candidate := by
  cases h <;> rfl

end FirstFault

/-- A text is a spelling, or something is wrong with it first. -/
theorem isSpelling_or_firstFault (candidate : String) : IsSpelling candidate ∨ ∃ cause, FirstFault candidate cause := by
  by_cases hlength : candidate.length = 36
  · cases hfirst : firstMisfit 0 candidate.toList with
    | some defect =>
      obtain ⟨position, c, hc, hmisfit, -, hearlier⟩ := exists_of_firstMisfit hfirst
      rw [Nat.zero_add] at hmisfit
      exact .inr ⟨_, .misfit hlength hc hmisfit fun earlier hlt d hd => Nat.zero_add earlier ▸ hearlier earlier hlt d hd⟩
    | none =>
      have hwell := IsWellFormed.of_fitsFrom hlength (firstMisfit_eq_none_iff.1 hfirst)
      cases hnil : isNil candidate.toList with
      | true => exact .inr ⟨_, .zero hwell (hwell.isNil_iff.1 hnil)⟩
      | false => exact .inl (hwell.isSpelling_iff.2 hnil)
  · exact .inr ⟨_, .length hlength⟩

theorem normalize_eq_ok_iff {candidate text : String} :
    normalize candidate = .ok text ↔ IsSpelling candidate ∧ text = folded candidate := by
  constructor
  · intro h
    rcases isSpelling_or_firstFault candidate with hspelling | ⟨cause, hfault⟩
    · exact ⟨hspelling, Except.ok.inj (h.symm.trans (normalize_of_isSpelling hspelling))⟩
    · exact nomatch h.symm.trans hfault.normalize_eq_error
  · rintro ⟨hspelling, rfl⟩
    exact normalize_of_isSpelling hspelling

theorem normalize_eq_error_iff {candidate : String} {cause : IdentifierError} :
    normalize candidate = .error cause ↔ FirstFault candidate cause := by
  constructor
  · intro h
    rcases isSpelling_or_firstFault candidate with hspelling | ⟨other, hfault⟩
    · exact nomatch h.symm.trans (normalize_of_isSpelling hspelling)
    · exact Except.error.inj (h.symm.trans hfault.normalize_eq_error) ▸ hfault
  · exact FirstFault.normalize_eq_error

theorem Conversion.map_text_convert (conversion : Conversion) (candidate : String) :
    (conversion.convert candidate).map Identifier.text = normalize candidate := by
  rw [conversion.convert_eq_parse]
  cases hparse : parse candidate with
  | ok identifier => exact (parse_eq_ok_iff.1 hparse).symm
  | error cause => exact (parse_eq_error_iff.1 hparse).symm

/-- Exactly the spellings have a canonical form, which differs from them in the case of their letters only. Every other text is refused for the first thing wrong with it, under its own name, and so it is by every conversion. -/
theorem normalize_decides_grammar (candidate : String) :
    (∀ text, normalize candidate = .ok text ↔ IsSpelling candidate ∧ text = folded candidate) ∧
      (∀ cause, normalize candidate = .error cause ↔ FirstFault candidate cause) ∧
      (∀ cause, normalize candidate = .error cause → cause.candidate = candidate) ∧
      ∀ conversion : Conversion, (conversion.convert candidate).map Identifier.text = normalize candidate :=
  ⟨fun _ => normalize_eq_ok_iff, fun _ => normalize_eq_error_iff, fun _ h => (normalize_eq_error_iff.1 h).candidate_eq,
    fun conversion => conversion.map_text_convert candidate⟩

/-- A dash that is no hyphen is found before the letter behind it, and its position counts characters. -/
theorem normalize_decides_grammar_dash :
    normalize "4e1b2a0c–9f51-4d3e-b0b7-6b9c1f0e2aXY" =
        .error (.malformed "4e1b2a0c–9f51-4d3e-b0b7-6b9c1f0e2aXY" (.separator 8 '–')) ∧
      FirstFault "4e1b2a0c–9f51-4d3e-b0b7-6b9c1f0e2aXY"
        (.malformed "4e1b2a0c–9f51-4d3e-b0b7-6b9c1f0e2aXY" (.separator 8 '–')) := by
  have herror : normalize "4e1b2a0c–9f51-4d3e-b0b7-6b9c1f0e2aXY" =
      .error (.malformed "4e1b2a0c–9f51-4d3e-b0b7-6b9c1f0e2aXY" (.separator 8 '–')) := rfl
  exact ⟨herror, ((normalize_decides_grammar _).2.1 _).1 herror⟩

end MessageCatalog.Identifier
