import Mathlib.Data.Bool.AllAny
import Mathlib.Data.List.Basic
import MessageCatalog.Text.Quoted

/-!
# Quoted text ends itself

Whatever comes behind a quoted text, nothing of it can be taken for a part of the text. There are three ways to write a character between quotes, `Escaped`, and every fact about quoted texts is a fact about these: their first characters tell them apart, none of them begins with the quote, and none of them has a control character in it. The one that ends with a numeral has a brace behind it, which is no digit.
-/

namespace MessageCatalog.Text

/-- A whole that begins with such a text can be taken apart behind it in one way only. -/
def SelfDelimiting {α : Type} (write : α → List Char) : Prop :=
  ∀ a b s t, write a ++ s = write b ++ t → a = b ∧ s = t

namespace SelfDelimiting

variable {α : Type} {write : α → List Char} {ending : Char}

theorem injective (h : SelfDelimiting write) : Function.Injective write :=
  fun a b hsame => (h a b [] [] (congrArg (· ++ []) hsame)).1

theorem comp {β : Type} {f : β → α} (h : SelfDelimiting write) (hf : Function.Injective f) :
    SelfDelimiting fun b => write (f b) :=
  fun a b s t hsame => (h (f a) (f b) s t hsame).imp_left fun heq => hf heq

/-- What is free of the character at its end ends there. -/
theorem of_notMem (hinjective : Function.Injective write) (hfree : ∀ a, ending ∉ write a) :
    SelfDelimiting fun a => write a ++ [ending] := by
  have hbefore : ∀ a s, (write a ++ [ending] ++ s).takeWhile (· != ending) = write a := by
    intro a s
    have hother : ∀ c ∈ write a, (c != ending) = true := fun c hc => bne_iff_ne.2 (ne_of_mem_of_not_mem hc (hfree a))
    rw [List.append_assoc, List.takeWhile_append_of_pos hother]
    simp
  intro a b s t h
  have hsame : write a = write b := by rw [← hbefore a s, h, hbefore b t]
  obtain rfl := hinjective hsame
  exact ⟨rfl, List.append_cancel_left h⟩

/-- Texts that do not begin with the character at the end may be put one behind the other. -/
theorem flatMap (h : SelfDelimiting write) (hfirst : ∀ a s t, write a ++ s ≠ ending :: t) :
    SelfDelimiting fun list : List α => list.flatMap write ++ [ending] := by
  intro left right s t hsame
  simp only [List.append_assoc, List.singleton_append] at hsame
  induction left generalizing right with
  | nil =>
    cases right with
    | nil => exact ⟨rfl, (List.cons.inj hsame).2⟩
    | cons b right =>
      rw [List.flatMap_cons, List.append_assoc] at hsame
      exact absurd hsame.symm (hfirst b _ _)
  | cons a left ih =>
    rw [List.flatMap_cons, List.append_assoc] at hsame
    cases right with
    | nil => exact absurd hsame (hfirst a _ _)
    | cons b right =>
      rw [List.flatMap_cons, List.append_assoc] at hsame
      obtain ⟨rfl, hrest⟩ := h a b _ _ hsame
      obtain ⟨rfl, hafter⟩ := ih right hrest
      exact ⟨rfl, hafter⟩

end SelfDelimiting

/-! ### Control characters -/

def IsControl (c : Char) : Prop := c.toNat ≤ 0x1f ∨ c.toNat = 0x7f

instance (c : Char) : Decidable (IsControl c) := inferInstanceAs (Decidable (_ ∨ _))

/-- There is no control character in the text, so it stays on its line. -/
def IsPlain (text : List Char) : Prop := ∀ c ∈ text, ¬ IsControl c

instance (text : List Char) : Decidable (IsPlain text) :=
  decidable_of_iff (text.all fun c => decide (¬ IsControl c)) List.all_iff_forall_prop

theorem isPlain_append {text other : List Char} : IsPlain (text ++ other) ↔ IsPlain text ∧ IsPlain other :=
  List.forall_mem_append

theorem isPlain_cons {c : Char} {text : List Char} : IsPlain (c :: text) ↔ ¬ IsControl c ∧ IsPlain text :=
  List.forall_mem_cons

theorem isHidden_of_isControl {c : Char} (h : IsControl c) : isHidden c = true := by
  rcases h with hlow | hdelete
  · exact isHidden_of_lt (Nat.lt_succ_of_le hlow)
  · have hc : c = '\x7f' := Char.toNat_inj.1 hdelete
    rw [hc]
    exact isHidden_delete

/-! ### Numerals

In every base up to sixteen. -/

section Numerals

variable {base : Nat}

def smallHexDigits : List Char := "0123456789abcdef".toList

theorem digitChar_mem {value : Nat} (h : value < 16) : value.digitChar ∈ smallHexDigits := by
  have hall : ∀ value ∈ List.range 16, value.digitChar ∈ smallHexDigits := by decide
  exact hall value (List.mem_range.2 h)

theorem eq_of_digitChar_eq {value other : Nat} (h : value < 16) (hother : other < 16)
    (hsame : value.digitChar = other.digitChar) : value = other := by
  have hall : ∀ value ∈ List.range 16, ∀ other ∈ List.range 16, value.digitChar = other.digitChar → value = other := by decide
  exact hall value (List.mem_range.2 h) other (List.mem_range.2 hother) hsame

theorem mem_smallHexDigits (hbase : 1 < base) (hsmall : base ≤ 16) {number : Nat} {c : Char} (h : c ∈ Nat.toDigits base number) :
    c ∈ smallHexDigits := by
  induction number using Nat.strongRecOn with
  | ind number ih =>
    rcases Nat.lt_or_ge number base with hlast | hmore
    · rw [Nat.toDigits_of_lt_base hlast, List.mem_singleton] at h
      exact h ▸ digitChar_mem (Nat.lt_of_lt_of_le hlast hsmall)
    · rw [Nat.toDigits_of_base_le hbase hmore, List.mem_append, List.mem_singleton] at h
      rcases h with hbefore | rfl
      · exact ih _ (Nat.div_lt_self (by omega) hbase) hbefore
      · exact digitChar_mem (Nat.lt_of_lt_of_le (Nat.mod_lt _ (Nat.zero_lt_of_lt hbase)) hsmall)

theorem toDigits_injective (hbase : 1 < base) (hsmall : base ≤ 16) : Function.Injective (Nat.toDigits base) := by
  intro number other h
  induction number using Nat.strongRecOn generalizing other with
  | ind number ih =>
    have hnonempty : ∀ {value : Nat} {c d : Char}, [c] ≠ Nat.toDigits base value ++ [d] := by
      intro value c d hsame
      exact Nat.toDigits_ne_nil (List.append_inj' (show [] ++ [c] = _ from hsame) rfl).1.symm
    rcases Nat.lt_or_ge number base with hlast | hmore <;> rcases Nat.lt_or_ge other base with hother | hother
    · rw [Nat.toDigits_of_lt_base hlast, Nat.toDigits_of_lt_base hother, List.singleton_inj] at h
      exact eq_of_digitChar_eq (Nat.lt_of_lt_of_le hlast hsmall) (Nat.lt_of_lt_of_le hother hsmall) h
    · rw [Nat.toDigits_of_lt_base hlast, Nat.toDigits_of_base_le hbase hother] at h
      exact absurd h hnonempty
    · rw [Nat.toDigits_of_base_le hbase hmore, Nat.toDigits_of_lt_base hother] at h
      exact absurd h.symm hnonempty
    · rw [Nat.toDigits_of_base_le hbase hmore, Nat.toDigits_of_base_le hbase hother] at h
      obtain ⟨hbefore, hend⟩ := List.append_inj' h rfl
      have hquotient := ih _ (Nat.div_lt_self (by omega) hbase) hbefore
      have hdigit : ∀ value : Nat, value % base < 16 := fun value =>
        Nat.lt_of_lt_of_le (Nat.mod_lt value (Nat.zero_lt_of_lt hbase)) hsmall
      have hremainder := eq_of_digitChar_eq (hdigit number) (hdigit other) (List.singleton_inj.1 hend)
      rw [← Nat.div_add_mod number base, ← Nat.div_add_mod other base, hquotient, hremainder]

/-- A numeral ends at the first character that is no digit. -/
theorem selfDelimiting_toDigits (hbase : 1 < base) (hsmall : base ≤ 16) {ending : Char} (hending : ending ∉ smallHexDigits) :
    SelfDelimiting fun number => Nat.toDigits base number ++ [ending] :=
  .of_notMem (toDigits_injective hbase hsmall) fun _ hmem => hending (mem_smallHexDigits hbase hsmall hmem)

theorem isPlain_toDigits (hbase : 1 < base) (hsmall : base ≤ 16) (number : Nat) : IsPlain (Nat.toDigits base number) := by
  have hdigits : IsPlain smallHexDigits := by decide
  exact fun c hc => hdigits c (mem_smallHexDigits hbase hsmall hc)

end Numerals

theorem selfDelimiting_codePointDigits : SelfDelimiting fun c => codePointDigits c ++ ['\x7d'] :=
  (selfDelimiting_toDigits (by decide) (by decide) (by decide)).comp fun _ _ => Char.toNat_inj.1

/-! ### One character -/

def IsQuote (quote : Char) : Prop := quote = '\x22' ∨ quote = '\x27'

/-- The characters that stand behind a backslash for a character of their own. -/
def marks : List Char := ['0', 't', 'n', 'r', '\\', '\x22', '\x27']

def unmarked : Char → Char
  | '0' => '\x00'
  | 't' => '\t'
  | 'n' => '\n'
  | 'r' => '\r'
  | c => c

/-- How a character is written between two of the quotes: as it is, by a mark, or by its number. -/
inductive Escaped (quote c : Char) : List Char → Prop where
  | plain : c ≠ '\\' → c ≠ quote → ¬ IsControl c → Escaped quote c [c]
  | marked {mark : Char} : mark ∈ marks → unmarked mark = c → Escaped quote c ['\\', mark]
  | numbered : Escaped quote c ('\\' :: 'u' :: '\x7b' :: (codePointDigits c ++ ['\x7d']))

variable {quote c d : Char} {text other s t : List Char}

theorem escaped_escape (hquote : IsQuote quote) (c : Char) : Escaped quote c (escape quote c) := by
  unfold escape
  split_ifs with hzero htab hnewline hreturn hitself hhidden
  · exact .marked (by decide) hzero.symm
  · exact .marked (by decide) htab.symm
  · exact .marked (by decide) hnewline.symm
  · exact .marked (by decide) hreturn.symm
  · have hmark : c ∈ marks ∧ unmarked c = c := by
      rcases hitself with rfl | rfl
      · decide
      · rcases hquote with rfl | rfl <;> decide
    exact .marked hmark.1 hmark.2
  · exact .numbered
  · obtain ⟨hbackslash, hother⟩ := not_or.1 hitself
    exact .plain hbackslash hother fun hcontrol => hhidden (isHidden_of_isControl hcontrol)

namespace Escaped

theorem ne_cons (h : Escaped quote c text) (hquote : IsQuote quote) (s t : List Char) : text ++ s ≠ quote :: t := by
  have hbackslash : '\\' ≠ quote := by rcases hquote with rfl | rfl <;> decide
  cases h with
  | plain _ hother _ => exact fun hsame => hother (List.cons.inj hsame).1
  | marked _ _ => exact fun hsame => hbackslash (List.cons.inj hsame).1
  | numbered => exact fun hsame => hbackslash (List.cons.inj hsame).1

/-- Which way it is, and for which character, is seen from what is written. -/
theorem unique (hc : Escaped quote c text) (hd : Escaped quote d other) (h : text ++ s = other ++ t) : c = d ∧ s = t := by
  -- two of the ways begin with a backslash, and what follows it tells them apart
  have hmark : ∀ {mark : Char}, mark ∈ marks → mark ≠ 'u' := fun hmem => ne_of_mem_of_not_mem hmem (by decide)
  cases hc with
  | plain hc _ _ =>
    cases hd with
    | plain _ _ _ => exact List.cons.inj h
    | marked _ _ => exact absurd (List.cons.inj h).1 hc
    | numbered => exact absurd (List.cons.inj h).1 hc
  | marked hmem hc =>
    cases hd with
    | plain hd _ _ => exact absurd (List.cons.inj h).1.symm hd
    | marked _ hd =>
      obtain ⟨rfl, hrest⟩ := List.cons.inj (List.cons.inj h).2
      exact ⟨hc.symm.trans hd, hrest⟩
    | numbered => exact absurd (List.cons.inj (List.cons.inj h).2).1 (hmark hmem)
  | numbered =>
    cases hd with
    | plain hd _ _ => exact absurd (List.cons.inj h).1.symm hd
    | marked hmem _ => exact absurd (List.cons.inj (List.cons.inj h).2).1.symm (hmark hmem)
    | numbered => exact selfDelimiting_codePointDigits c d s t (List.cons.inj (List.cons.inj (List.cons.inj h).2).2).2

theorem isPlain (h : Escaped quote c text) : IsPlain text := by
  cases h with
  | plain _ _ hc => exact List.forall_mem_singleton.2 hc
  | marked hmem _ =>
    have hmarks : IsPlain marks := by decide
    exact isPlain_cons.2 ⟨by decide, List.forall_mem_singleton.2 (hmarks _ hmem)⟩
  | numbered =>
    have hbegin : IsPlain ['\\', 'u', '\x7b'] := by decide
    exact isPlain_append.2 ⟨hbegin, isPlain_append.2 ⟨isPlain_toDigits (by decide) (by decide) _, by decide⟩⟩

end Escaped

/-! ### Quoted texts -/

theorem selfDelimiting_escape (hquote : IsQuote quote) : SelfDelimiting (escape quote) :=
  fun c d _ _ h => (escaped_escape hquote c).unique (escaped_escape hquote d) h

theorem selfDelimiting_quoted : SelfDelimiting fun s => (quoted s).toList := by
  have hbody : SelfDelimiting fun list : List Char => list.flatMap (escape '\x22') ++ ['\x22'] :=
    (selfDelimiting_escape (.inl rfl)).flatMap fun c => (escaped_escape (.inl rfl) c).ne_cons (.inl rfl)
  intro left right s t h
  simp only [toList_quoted, List.cons_append] at h
  obtain ⟨hsame, hrest⟩ := hbody _ _ s t (List.cons.inj h).2
  exact ⟨String.toList_inj.1 hsame, hrest⟩

theorem selfDelimiting_quotedChar : SelfDelimiting fun c => (quotedChar c).toList := by
  intro c d s t h
  simp only [toList_quotedChar, List.cons_append, List.append_assoc] at h
  obtain ⟨hsame, hrest⟩ := selfDelimiting_escape (.inr rfl) c d _ _ (List.cons.inj h).2
  exact ⟨hsame, (List.cons.inj hrest).2⟩

theorem isPlain_quoted (text : String) : IsPlain (quoted text).toList := by
  have hescaped : IsPlain (text.toList.flatMap (escape '\x22')) := by
    intro c hc
    obtain ⟨d, -, hd⟩ := List.mem_flatMap.1 hc
    exact (escaped_escape (.inl rfl) d).isPlain c hd
  rw [toList_quoted]
  exact isPlain_append.2 ⟨isPlain_cons.2 ⟨by decide, hescaped⟩, by decide⟩

theorem isPlain_quotedChar (c : Char) : IsPlain (quotedChar c).toList := by
  rw [toList_quotedChar]
  exact isPlain_append.2 ⟨isPlain_cons.2 ⟨by decide, (escaped_escape (.inr rfl) c).isPlain⟩, by decide⟩

end MessageCatalog.Text
