import MessageCatalog.Identifier.Basic
import MessageCatalog.Proofs.Text.Quoted

/-!
# What a message tells of a candidate

A message quotes text that anyone may have written. It cannot be made to say anything else than what it says: every message is a fixed wording with parts in it that end themselves, `Text.SelfDelimiting`, and no two wordings begin alike. So a message determines the error. The wordings and the parts have no control character in them, so a message stays on its line.
-/

namespace MessageCatalog

namespace Text

/-- Wholes that are equal begin alike, as far as both beginnings are known. -/
theorem take_eq_of_append_eq {left right s t : List Char} (count : Nat) (h : left ++ s = right ++ t)
    (hleft : count ≤ left.length) (hright : count ≤ right.length) : left.take count = right.take count := by
  rw [← List.take_append_of_le_length hleft, h, List.take_append_of_le_length hright]

theorem toList_toString (number : Nat) : (toString number).toList = Nat.toDigits 10 number := by
  rw [Nat.toString_eq_ofList_toDigits, String.toList_ofList]

end Text

open Text

/-! ### Defects -/

namespace Defect

/-- A position and what was found there, as they stand at the end of a message. -/
def placed (position : Nat) (found : Char) : List Char :=
  (Nat.toDigits 10 position ++ [',']) ++ (" found ".toList ++ (quotedChar found).toList)

theorem placed_inj {position other : Nat} {found foundOther : Char} (h : placed position found = placed other foundOther) :
    position = other ∧ found = foundOther := by
  obtain ⟨hposition, hrest⟩ := selfDelimiting_toDigits (by decide) (by decide) (by decide) position other _ _ h
  exact ⟨hposition, selfDelimiting_quotedChar.injective (List.append_cancel_left hrest)⟩

theorem isPlain_placed (position : Nat) (found : Char) : IsPlain (placed position found) := by
  have hposition : IsPlain (Nat.toDigits 10 position) := isPlain_toDigits (by decide) (by decide) position
  have hfound : IsPlain (" found ".toList ++ (quotedChar found).toList) := isPlain_append.2 ⟨by decide, isPlain_quotedChar found⟩
  exact isPlain_append.2 ⟨isPlain_append.2 ⟨hposition, by decide⟩, hfound⟩

/-- The rules that a spelling can break. -/
inductive Rule where
  | length
  | separator
  | digit

/-- The words up to the first number. -/
def Rule.opening : Rule → List Char
  | length => "expected 36 characters, got ".toList
  | separator => "expected '-' at position ".toList
  | digit => "expected a hex digit at position ".toList

/-- No opening continues another one. -/
theorem Rule.eq_of_append_eq {rule other : Rule} {s t : List Char} (h : rule.opening ++ s = other.opening ++ t) :
    rule = other := by
  have hlong : ∀ rule : Rule, 11 ≤ rule.opening.length := fun rule => by cases rule <;> decide
  have hbegin := take_eq_of_append_eq 11 h (hlong rule) (hlong other)
  cases rule <;> cases other <;> first | rfl | exact absurd hbegin (by decide)

theorem Rule.isPlain_opening (rule : Rule) : IsPlain rule.opening := by
  cases rule <;> decide

def rule : Defect → Rule
  | length _ => .length
  | separator _ _ => .separator
  | digit _ _ => .digit

/-- What a message has behind its opening. -/
def details : Defect → List Char
  | length actual => Nat.toDigits 10 actual
  | separator position found => placed position found
  | digit position found => placed position found

theorem toList_message (defect : Defect) : defect.message.toList = defect.rule.opening ++ defect.details := by
  have hplaced : ∀ (words : String) (position : Nat) (found : Char),
      (words ++ toString position ++ ", found " ++ quotedChar found).toList = words.toList ++ placed position found := by
    intro words position found
    rw [String.toList_append, String.toList_append, String.toList_append, toList_toString, placed]
    simp only [List.append_assoc]
    rfl
  cases defect with
  | length actual =>
    show ("expected 36 characters, got " ++ toString actual).toList = _
    rw [String.toList_append, toList_toString]
    rfl
  | separator position found => exact hplaced "expected '-' at position " position found
  | digit position found => exact hplaced "expected a hex digit at position " position found

theorem eq_of_details_eq {left right : Defect} (hrule : left.rule = right.rule) (hdetails : left.details = right.details) :
    left = right := by
  cases left with
  | length actual =>
    cases right with
    | length other => exact congrArg length (toDigits_injective (by decide) (by decide) hdetails)
    | separator _ _ => cases hrule
    | digit _ _ => cases hrule
  | separator position found =>
    cases right with
    | length _ => cases hrule
    | separator other foundOther =>
      obtain ⟨rfl, rfl⟩ := placed_inj hdetails
      rfl
    | digit _ _ => cases hrule
  | digit position found =>
    cases right with
    | length _ => cases hrule
    | separator _ _ => cases hrule
    | digit other foundOther =>
      obtain ⟨rfl, rfl⟩ := placed_inj hdetails
      rfl

theorem message_injective : Function.Injective message := by
  intro left right h
  have hsame : left.rule.opening ++ left.details = right.rule.opening ++ right.details := by
    rw [← toList_message, h, toList_message]
  have hrule := Rule.eq_of_append_eq hsame
  rw [hrule] at hsame
  exact eq_of_details_eq hrule (List.append_cancel_left hsame)

theorem isPlain_message (defect : Defect) : IsPlain defect.message.toList := by
  rw [toList_message]
  refine isPlain_append.2 ⟨defect.rule.isPlain_opening, ?_⟩
  cases defect with
  | length actual => exact isPlain_toDigits (by decide) (by decide) actual
  | separator position found => exact isPlain_placed position found
  | digit position found => exact isPlain_placed position found

end Defect

/-! ### Errors -/

namespace IdentifierError

theorem toList_message_malformed (candidate : String) (defect : Defect) : (malformed candidate defect).message.toList =
    "malformed identifier ".toList ++ ((quoted candidate).toList ++ (": ".toList ++ defect.message.toList)) := by
  show ("malformed identifier " ++ quoted candidate ++ ": " ++ defect.message).toList = _
  simp only [String.toList_append, List.append_assoc]

theorem toList_message_reserved (candidate : String) : (reserved candidate).message.toList =
    "identifier ".toList ++ ((quoted candidate).toList ++ " is the reserved nil UUID".toList) := by
  show ("identifier " ++ quoted candidate ++ " is the reserved nil UUID").toList = _
  simp only [String.toList_append, List.append_assoc]

theorem message_malformed_ne_reserved (candidate other : String) (defect : Defect) :
    (malformed candidate defect).message ≠ (reserved other).message := by
  intro h
  have hsame := congrArg String.toList h
  rw [toList_message_malformed, toList_message_reserved] at hsame
  exact absurd (take_eq_of_append_eq 1 hsame (by decide) (by decide)) (by decide)

theorem message_injective : Function.Injective message := by
  intro left right h
  have hsame := congrArg String.toList h
  cases left with
  | malformed candidate defect =>
    cases right with
    | malformed other defectOther =>
      rw [toList_message_malformed, toList_message_malformed] at hsame
      obtain ⟨rfl, hrest⟩ := selfDelimiting_quoted candidate other _ _ (List.append_cancel_left hsame)
      obtain rfl := Defect.message_injective (String.toList_inj.1 (List.append_cancel_left hrest))
      rfl
    | reserved other => exact absurd h (message_malformed_ne_reserved candidate other defect)
  | reserved candidate =>
    cases right with
    | malformed other defect => exact absurd h.symm (message_malformed_ne_reserved other candidate defect)
    | reserved other =>
      rw [toList_message_reserved, toList_message_reserved] at hsame
      obtain ⟨rfl, -⟩ := selfDelimiting_quoted candidate other _ _ (List.append_cancel_left hsame)
      rfl

theorem isPlain_message (error : IdentifierError) : IsPlain error.message.toList := by
  cases error with
  | malformed candidate defect =>
    rw [toList_message_malformed]
    refine isPlain_append.2 ⟨by decide, isPlain_append.2 ⟨isPlain_quoted candidate, ?_⟩⟩
    exact isPlain_append.2 ⟨by decide, defect.isPlain_message⟩
  | reserved candidate =>
    rw [toList_message_reserved]
    exact isPlain_append.2 ⟨by decide, isPlain_append.2 ⟨isPlain_quoted candidate, by decide⟩⟩

/-- Messages are equal for equal errors only, and none of them has a control character in it, whatever the candidate has. -/
theorem messages_unambiguous_on_one_line :
    (∀ left right : IdentifierError, left.message = right.message ↔ left = right) ∧
      ∀ error : IdentifierError, ∀ c ∈ error.message.toList, ¬ IsControl c :=
  ⟨fun _ _ => message_injective.eq_iff, isPlain_message⟩

/-- A candidate that closes the quotes and goes on with the words of a message is no way to get that message. -/
def imitation : String := "x\x22: expected 36 characters, got 1\n\x7f"

theorem messages_unambiguous_of_imitation :
    Identifier.normalize imitation = .error (.malformed imitation (.length 35)) ∧ '\n' ∈ imitation.toList ∧
      (malformed imitation (.length 35)).message ≠ (malformed "x" (.length 1)).message ∧
      ∀ c ∈ (malformed imitation (.length 35)).message.toList, ¬ IsControl c := by
  refine ⟨by decide, by decide, fun h => ?_, fun c hc => messages_unambiguous_on_one_line.2 _ c hc⟩
  have hsame := (messages_unambiguous_on_one_line.1 _ _).1 h
  exact absurd hsame (by decide)

end IdentifierError

end MessageCatalog
