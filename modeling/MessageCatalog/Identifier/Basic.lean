import MessageCatalog.Identifier.Defect

/-!
# Identifiers

An identifier is a UUID other than the nil one, held in its canonical spelling: 36 characters, a hyphen at positions 8, 13, 18 and 23, a lower-case hex digit everywhere else. `normalize` turns any spelling into the canonical one or names what is wrong with it; an `Identifier` is a text that `normalize` leaves as it is, so two identifiers are equal exactly when their texts are.
-/

namespace MessageCatalog

namespace Identifier

def size : Nat := 36

def separatorPositions : List Nat := [8, 13, 18, 23]

def isHexDigit (c : Char) : Bool :=
  c.isDigit || ('a' ≤ c && c ≤ 'f') || ('A' ≤ c && c ≤ 'F')

def defectAt (position : Nat) (c : Char) : Option Defect :=
  if position ∈ separatorPositions then
    if c = '-' then none else some (.separator position c)
  else if isHexDigit c then none
  else some (.digit position c)

/-- The first character that breaks the rule of its position, counting positions from the given one. -/
def firstMisfit : Nat → List Char → Option Defect
  | _, [] => none
  | position, c :: rest =>
    match defectAt position c with
    | some defect => some defect
    | none => firstMisfit (position + 1) rest

/-- A wrong length comes before every misplaced character. -/
def defect? (candidate : List Char) : Option Defect :=
  if candidate.length = size then firstMisfit 0 candidate else some (.length candidate.length)

/-- Every digit is zero. The question is asked of well-formed candidates, which have nothing but digits and hyphens. -/
def isNil (candidate : List Char) : Bool := candidate.all fun c => c == '0' || c == '-'

/-- The canonical spelling of a candidate, or the reason why it has none. -/
def normalize (candidate : String) : Except IdentifierError String :=
  match defect? candidate.toList with
  | some defect => .error (.malformed candidate defect)
  | none =>
    if isNil candidate.toList then .error (.reserved candidate)
    else .ok (String.ofList (candidate.toList.map Char.toLower))

/-! ### The canonical spelling is its own -/

def hexDigits : List Char :=
  ['0', '1', '2', '3', '4', '5', '6', '7', '8', '9', 'a', 'b', 'c', 'd', 'e', 'f', 'A', 'B', 'C', 'D', 'E', 'F']

theorem mem_hexDigits {c : Char} (h : isHexDigit c = true) : c ∈ hexDigits := by
  have hval : (48 ≤ c.toNat ∧ c.toNat ≤ 57 ∨ 97 ≤ c.toNat ∧ c.toNat ≤ 102) ∨ 65 ≤ c.toNat ∧ c.toNat ≤ 70 := by
    simpa [isHexDigit, Char.isDigit, Char.le_def, UInt32.le_iff_toNat_le] using h
  have hc : c = Char.ofNat c.toNat := c.ofNat_toNat.symm
  generalize c.toNat = n at hval hc
  have hn : n = 48 ∨ n = 49 ∨ n = 50 ∨ n = 51 ∨ n = 52 ∨ n = 53 ∨ n = 54 ∨ n = 55 ∨ n = 56 ∨ n = 57 ∨ n = 97 ∨
      n = 98 ∨ n = 99 ∨ n = 100 ∨ n = 101 ∨ n = 102 ∨ n = 65 ∨ n = 66 ∨ n = 67 ∨ n = 68 ∨ n = 69 ∨ n = 70 := by
    omega
  rcases hn with rfl | rfl | rfl | rfl | rfl | rfl | rfl | rfl | rfl | rfl | rfl | rfl | rfl | rfl | rfl | rfl | rfl |
    rfl | rfl | rfl | rfl | rfl <;> subst hc <;> decide

private theorem toLower_facts {c : Char} (h : isHexDigit c = true) :
    isHexDigit c.toLower = true ∧ c.toLower.toLower = c.toLower ∧
      (c.toLower == '0' || c.toLower == '-') = (c == '0' || c == '-') := by
  have hall : (hexDigits.all fun d => isHexDigit d.toLower && d.toLower.toLower == d.toLower &&
      (d.toLower == '0' || d.toLower == '-') == (d == '0' || d == '-')) = true := by decide
  have hc := List.all_eq_true.1 hall c (mem_hexDigits h)
  simp only [Bool.and_eq_true, beq_iff_eq] at hc
  exact ⟨hc.1.1, hc.1.2, hc.2⟩

private theorem toLower_of_defectAt {position : Nat} {c : Char} (h : defectAt position c = none) :
    defectAt position c.toLower = none ∧ c.toLower.toLower = c.toLower ∧
      (c.toLower == '0' || c.toLower == '-') = (c == '0' || c == '-') := by
  unfold defectAt at h ⊢
  split at h
  · rename_i hposition
    split at h
    · rename_i hc
      subst hc
      have hlow : '-'.toLower = '-' := by decide
      simp [hposition, hlow]
    · simp at h
  · rename_i hposition
    split at h
    · rename_i hc
      have := toLower_facts hc
      simpa [hposition, this.1] using this.2
    · simp at h

private theorem toLower_of_firstMisfit {position : Nat} {candidate : List Char}
    (h : firstMisfit position candidate = none) :
    firstMisfit position (candidate.map Char.toLower) = none ∧
      (candidate.map Char.toLower).map Char.toLower = candidate.map Char.toLower ∧
      isNil (candidate.map Char.toLower) = isNil candidate := by
  induction candidate generalizing position with
  | nil => simp [firstMisfit]
  | cons c rest ih =>
    simp only [firstMisfit] at h
    split at h
    · simp at h
    · rename_i hc
      obtain ⟨hlow, htwice, hzero⟩ := toLower_of_defectAt hc
      obtain ⟨hrest, hmap, hnil⟩ := ih h
      refine ⟨by simp [firstMisfit, hlow, hrest], by simp only [List.map_cons, htwice, hmap], ?_⟩
      simp only [isNil, List.map_cons, List.all_cons, hzero] at hnil ⊢
      rw [hnil]

theorem normalize_normalize {candidate text : String} (h : normalize candidate = .ok text) :
    normalize text = .ok text := by
  unfold normalize at h
  split at h
  · simp at h
  · rename_i hdefect
    split at h
    · simp at h
    · rename_i hnil
      simp only [Except.ok.injEq] at h
      subst h
      unfold defect? at hdefect
      split at hdefect
      · rename_i hlength
        obtain ⟨hfirst, hmap, hzero⟩ := toLower_of_firstMisfit hdefect
        have hwhole : defect? (candidate.toList.map Char.toLower) = none := by
          simp only [defect?, List.length_map, hlength, if_true]
          exact hfirst
        simp only [normalize, String.toList_ofList, hwhole, hzero, hnil, hmap]
        rfl
      · simp at hdefect

end Identifier

/-- A UUID other than the nil one, in its canonical spelling. -/
@[ext] structure Identifier where
  text : String
  canonical : Identifier.normalize text = .ok text

namespace Identifier

instance : DecidableEq Identifier := fun left right =>
  if h : left.text = right.text then isTrue (Identifier.ext h)
  else isFalse fun heq => h (congrArg text heq)

instance : Hashable Identifier := ⟨fun identifier => hash identifier.text⟩

instance : Repr Identifier := ⟨fun identifier _ => Text.quoted identifier.text⟩

/-- The identifier that a candidate spells, in any letter case. -/
def parse (candidate : String) : Except IdentifierError Identifier :=
  match h : normalize candidate with
  | .error cause => .error cause
  | .ok text => .ok ⟨text, normalize_normalize h⟩

theorem parse_eq_ok_iff {candidate : String} {identifier : Identifier} :
    parse candidate = .ok identifier ↔ normalize candidate = .ok identifier.text := by
  unfold parse
  split
  · rename_i h
    simp [h]
  · rename_i h
    simp [h, Identifier.ext_iff]

theorem parse_eq_error_iff {candidate : String} {cause : IdentifierError} :
    parse candidate = .error cause ↔ normalize candidate = .error cause := by
  unfold parse
  split <;> rename_i h <;> simp [h]

@[simp] theorem parse_text (identifier : Identifier) : parse identifier.text = .ok identifier :=
  parse_eq_ok_iff.2 identifier.canonical

/-- The ways to make an identifier of a text: by asking for one, by reading a value from its text, and by conversion from a text that is borrowed or given away. -/
inductive Conversion where
  | parsing
  | reading
  | borrowing
  | taking
  deriving DecidableEq, Repr

def Conversion.convert : Conversion → String → Except IdentifierError Identifier
  | parsing, candidate => parse candidate
  | reading, candidate => parse candidate
  | borrowing, candidate => parse candidate
  | taking, candidate => parse candidate

theorem Conversion.convert_eq_parse (conversion : Conversion) : conversion.convert = parse := by
  cases conversion <;> rfl

/-- The text that names the value and its kind, as diagnostics show it. -/
def describe (identifier : Identifier) : String := "Identifier(" ++ Text.quoted identifier.text ++ ")"

end Identifier

end MessageCatalog
