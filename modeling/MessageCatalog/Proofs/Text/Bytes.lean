import Mathlib.Data.List.Lex
import Mathlib.Tactic.SplitIfs

/-!
# The bytes of a text

Texts are ordered character by character, and the bytes that encode them are ordered in the same way. Characters of more bytes begin with a greater one, and of two characters with equally many the greater one has the greater digit of base sixty-four where the two first differ, `digit_lt`. So it does not matter whether texts are sorted by their characters or by their bytes, `lt_iff_bytes_lt`.
-/

namespace MessageCatalog.Text

def bytes (text : String) : List UInt8 := text.toUTF8.data.toList

theorem bytes_eq (text : String) : bytes text = text.toList.flatMap String.utf8EncodeChar := by
  rw [bytes, String.toUTF8_eq_toByteArray, ← String.ofList_toList (s := text), String.toByteArray_ofList, String.toList_ofList,
    List.utf8Encode, List.data_toByteArray]

section Digits

variable {x y : Nat} {left right : List UInt8}

private theorem byte_lt (h : x < y) (hbound : y < 256) : UInt8.ofNat x :: left < UInt8.ofNat y :: right := by
  rw [List.cons_lt_cons_iff, UInt8.lt_iff_toNat_lt, UInt8.toNat_ofNat', UInt8.toNat_ofNat',
    Nat.mod_eq_of_lt (h.trans hbound), Nat.mod_eq_of_lt hbound]
  exact .inl h

/-- Of two numbers that agree in all greater digits, the smaller one has the smaller digit, or the same one and the rest decides. -/
private theorem digit_lt (place base mark : Nat) (h : x < y) (hbound : 0 < base ∧ base + mark ≤ 256)
    (hsame : x / place / base = y / place / base) (hrest : x / place = y / place → left < right) :
    UInt8.ofNat (x / place % base + mark) :: left < UInt8.ofNat (y / place % base + mark) :: right := by
  have hx := Nat.div_add_mod (x / place) base
  have hy := Nat.div_add_mod (y / place) base
  have hdigit := Nat.mod_lt (y / place) hbound.1
  rw [hsame] at hx
  rcases Nat.lt_or_eq_of_le (Nat.div_le_div_right h.le : x / place ≤ y / place) with hless | heq
  · exact byte_lt (by omega) (by omega)
  · rw [heq, List.cons_lt_cons_iff]
    exact .inr ⟨rfl, hrest heq⟩

private theorem lastDigit_lt (h : x < y) (hsame : x / 64 = y / 64) :
    UInt8.ofNat (x % 64 + 128) :: left < UInt8.ofNat (y % 64 + 128) :: right :=
  byte_lt (by omega) (by omega)

end Digits

theorem encoding_lt {c d : Char} (h : c < d) (rest other : List UInt8) :
    String.utf8EncodeChar c ++ rest < String.utf8EncodeChar d ++ other := by
  have hlt : c.val.toNat < d.val.toNat := h
  have hbound : d.val.toNat < 1114112 := by
    rcases d.valid with hlow | ⟨-, hhigh⟩
    · exact Nat.lt_trans hlow (by decide)
    · exact hhigh
  unfold String.utf8EncodeChar
  generalize c.val.toNat = x at hlt
  generalize d.val.toNat = y at hlt hbound
  dsimp only
  -- the greater character has more bytes, and so a greater first one, or it has as many
  by_cases hone : y ≤ 127
  · rw [if_pos (by omega : x ≤ 127), if_pos hone]
    exact byte_lt hlt (by omega)
  · rw [if_neg hone]
    by_cases htwo : y ≤ 2047
    · rw [if_pos htwo]
      split_ifs
      · exact byte_lt (by omega) (by omega)
      · exact digit_lt 64 32 192 hlt (by decide) (by omega) fun hsame => lastDigit_lt hlt hsame
      all_goals omega
    · rw [if_neg htwo]
      by_cases hthree : y ≤ 65535
      · rw [if_pos hthree]
        split_ifs
        · exact byte_lt (by omega) (by omega)
        · exact byte_lt (by omega) (by omega)
        · exact digit_lt 4096 16 224 hlt (by decide) (by omega) fun hsame =>
            digit_lt 64 64 128 hlt (by decide) (by omega) fun hsame => lastDigit_lt hlt hsame
        · omega
      · rw [if_neg hthree]
        split_ifs
        · exact byte_lt (by omega) (by omega)
        · exact byte_lt (by omega) (by omega)
        · exact byte_lt (by omega) (by omega)
        · exact digit_lt 262144 8 240 hlt (by decide) (by omega) fun hsame =>
            digit_lt 4096 64 128 hlt (by decide) (by omega) fun hsame =>
              digit_lt 64 64 128 hlt (by decide) (by omega) fun hsame => lastDigit_lt hlt hsame

private theorem encodings_lt {left right : List Char} (h : left < right) :
    left.flatMap String.utf8EncodeChar < right.flatMap String.utf8EncodeChar := by
  induction h with
  | nil =>
    rw [List.flatMap_nil, List.flatMap_cons, String.utf8EncodeChar]
    split_ifs <;> exact List.nil_lt_cons _ _
  | rel hlt => exact encoding_lt hlt _ _
  | cons _ ih => exact List.append_left_lt ih

/-- The order of texts is the order of their bytes. -/
theorem lt_iff_bytes_lt {left right : String} : left < right ↔ bytes left < bytes right := by
  have hbytes : ∀ {left right : String}, left < right → bytes left < bytes right := by
    intro left right h
    rw [bytes_eq, bytes_eq]
    exact encodings_lt h
  refine ⟨hbytes, fun h => ?_⟩
  rcases Std.lt_trichotomy left right with hlt | rfl | hgt
  · exact hlt
  · exact absurd h (List.lt_irrefl _)
  · exact absurd h (List.lt_asymm (hbytes hgt))

theorem bytes_inj {left right : String} : bytes left = bytes right ↔ left = right := by
  refine ⟨fun h => ?_, congrArg bytes⟩
  rcases Std.lt_trichotomy left right with hlt | hsame | hgt
  · exact absurd (h ▸ lt_iff_bytes_lt.1 hlt) (List.lt_irrefl _)
  · exact hsame
  · exact absurd (h ▸ lt_iff_bytes_lt.1 hgt) (List.lt_irrefl _)

theorem le_iff_bytes_le {left right : String} : left ≤ right ↔ bytes left ≤ bytes right := by
  rw [← Std.not_lt, lt_iff_bytes_lt, Std.not_lt]

end MessageCatalog.Text
