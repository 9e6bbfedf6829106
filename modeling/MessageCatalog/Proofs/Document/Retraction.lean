import Mathlib.Data.List.Forall2
import MessageCatalog.Document.Stored
import MessageCatalog.Proofs.Identifier.Number
import MessageCatalog.Proofs.Text.Bytes

/-!
# Stored identifiers are read again

To read a document is to parse every text in it that stands for an identifier, so it succeeds exactly on documents of the right shape with nothing but spellings in these places, and otherwise fails for the first thing that is not in order. What is written afterwards is the document in canonical spelling, which reads as what it was written from.

In an object several keys may spell one identifier. Reading goes by the bytes of the keys and each entry takes the place of an equal one, so `mem_of_readEntries` finds the entry of the last spelling behind every identifier; and small letters come after capitals, so that is the canonical spelling if it is there.
-/

namespace MessageCatalog

/-- What entries hold under a key. Of several entries the last one counts. -/
def Document.value? (entries : List (String × Document)) (key : String) : Option Document :=
  (entries.filter fun entry => entry.1 = key).getLast?.map Prod.snd

namespace Stored

open Identifier

/-! ### What is in a document -/

/-- The document has the shape, with these texts in the places of identifiers. -/
inductive Places : Shape → Document → List String → Prop where
  | one (text : String) : Places .one (.string text) [text]
  | absent : Places .optional .null []
  | present (text : String) : Places .optional (.string text) [text]
  | list (texts : List String) : Places .list (.sequence (texts.map .string)) texts
  | map (entries : List (String × Document)) : Places .map (.object entries) (entries.map Prod.fst)

/-- What is wrong with a document in the place of an identifier. -/
inductive Offends : Document → ReadError → Prop where
  | unexpected {found : Document} : (∀ text, found ≠ .string text) → Offends found (.unexpected found "a string")
  | malformed {text : String} {cause : IdentifierError} : Identifier.normalize text = .error cause →
      Offends (.string text) (.identifier cause)

/-- The first thing wrong with a document: its kind, then the first item that is no identifier, or the first such key in the order of bytes. -/
inductive FirstOffence : Shape → Document → ReadError → Prop where
  | one {document : Document} {error : ReadError} : Offends document error → FirstOffence .one document error
  | optional {document : Document} {error : ReadError} : document ≠ .null → Offends document error →
      FirstOffence .optional document error
  | notSequence {found : Document} : (∀ items, found ≠ .sequence items) →
      FirstOffence .list found (.unexpected found "a sequence")
  | item {before after : List Document} {item : Document} {error : ReadError} :
      (∀ earlier ∈ before, ∃ text canonical, earlier = .string text ∧ Identifier.normalize text = .ok canonical) →
      Offends item error → FirstOffence .list (.sequence (before ++ item :: after)) error
  | notObject {found : Document} : (∀ entries, found ≠ .object entries) →
      FirstOffence .map found (.unexpected found "a map")
  | key {entries : List (String × Document)} {entry : String × Document} {cause : IdentifierError} : entry ∈ entries →
      Identifier.normalize entry.1 = .error cause →
      (∀ other ∈ entries, Text.bytes other.1 < Text.bytes entry.1 → ∃ canonical, Identifier.normalize other.1 = .ok canonical) →
      FirstOffence .map (.object entries) (.identifier cause)

/-- The entries of an object in canonical spelling: one for each identifier, with the value of its spelling that has the greatest bytes. -/
structure CanonicalEntries (entries written : List (String × Document)) : Prop where
  ascending : written.Pairwise fun left right => Text.bytes left.1 < Text.bytes right.1
  exists_iff : ∀ canonical, (∃ value, (canonical, value) ∈ written) ↔
    ∃ entry ∈ entries, Identifier.normalize entry.1 = .ok canonical
  mem_iff : ∀ canonical value, (canonical, value) ∈ written ↔
    ∃ key, Identifier.normalize key = .ok canonical ∧ Document.value? entries key = some value ∧
      ∀ other ∈ entries, Identifier.normalize other.1 = .ok canonical → Text.bytes other.1 ≤ Text.bytes key
  /-- The canonical spelling itself is the greatest. -/
  mem_of_canonical : ∀ canonical value, Identifier.normalize canonical = .ok canonical →
    Document.value? entries canonical = some value → (canonical, value) ∈ written

/-- The document with every identifier in its canonical spelling. -/
inductive IsCanonicalForm : Shape → Document → Document → Prop where
  | one {text canonical : String} : Identifier.normalize text = .ok canonical →
      IsCanonicalForm .one (.string text) (.string canonical)
  | absent : IsCanonicalForm .optional .null .null
  | present {text canonical : String} : Identifier.normalize text = .ok canonical →
      IsCanonicalForm .optional (.string text) (.string canonical)
  | list {texts canonicals : List String} :
      List.Forall₂ (fun text canonical => Identifier.normalize text = .ok canonical) texts canonicals →
      IsCanonicalForm .list (.sequence (texts.map .string)) (.sequence (canonicals.map .string))
  | map {entries written : List (String × Document)} : CanonicalEntries entries written →
      IsCanonicalForm .map (.object entries) (.object written)

/-! ### One identifier -/

theorem readIdentifier_eq_ok_iff {document : Document} {identifier : Identifier} :
    readIdentifier document = .ok identifier ↔
      ∃ text, document = .string text ∧ Identifier.normalize text = .ok identifier.text := by
  cases document with
  | string text =>
    rw [readIdentifier]
    cases hparse : parse text with
    | ok other => simp [← parse_eq_ok_iff, hparse]
    | error cause => simp [← parse_eq_ok_iff, hparse]
  | _ => simp [readIdentifier]

theorem readIdentifier_eq_error_iff {document : Document} {error : ReadError} :
    readIdentifier document = .error error ↔ Offends document error := by
  constructor
  · intro h
    cases document with
    | string text =>
      rw [readIdentifier] at h
      cases hparse : parse text with
      | ok identifier => rw [hparse] at h; exact nomatch h
      | error cause =>
        rw [hparse, Except.error.injEq] at h
        exact h ▸ .malformed (parse_eq_error_iff.1 hparse)
    | _ => exact Except.error.inj h ▸ .unexpected (by simp)
  · rintro (⟨hother⟩ | ⟨hcause⟩)
    · cases document with
      | string text => exact absurd rfl (hother text)
      | _ => rfl
    · rw [readIdentifier, parse_eq_error_iff.2 hcause]

theorem readIdentifier_string_text (identifier : Identifier) : readIdentifier (.string identifier.text) = .ok identifier :=
  readIdentifier_eq_ok_iff.2 ⟨_, rfl, identifier.canonical⟩

/-! ### The first failure -/

section FirstFailure

variable {α β ε : Type} {f : α → Except ε β} {item : α} {items : List α} {error : ε}

/-- Something fails, and nothing before it does. -/
def FailsFirst (f : α → Except ε β) (items : List α) (error : ε) : Prop :=
  ∃ before item after, items = before ++ item :: after ∧ (∀ earlier ∈ before, ∃ result, f earlier = .ok result) ∧
    f item = .error error

theorem not_failsFirst_nil : ¬ FailsFirst f [] error := by
  rintro ⟨before, item, after, hsplit, -⟩
  exact absurd hsplit (by simp)

theorem failsFirst_cons : FailsFirst f (item :: items) error ↔
    f item = .error error ∨ (∃ result, f item = .ok result) ∧ FailsFirst f items error := by
  constructor
  · rintro ⟨before, other, after, hsplit, hbefore, hother⟩
    cases before with
    | nil =>
      rw [List.nil_append, List.cons.injEq] at hsplit
      exact .inl (hsplit.1 ▸ hother)
    | cons first before =>
      rw [List.cons_append, List.cons.injEq] at hsplit
      obtain ⟨hfirst, hlater⟩ := List.forall_mem_cons.1 hbefore
      exact .inr ⟨hsplit.1 ▸ hfirst, before, other, after, hsplit.2, hlater, hother⟩
  · rintro (hitem | ⟨hitem, before, other, after, rfl, hbefore, hother⟩)
    · exact ⟨[], item, items, rfl, by simp, hitem⟩
    · exact ⟨item :: before, other, after, rfl, List.forall_mem_cons.2 ⟨hitem, hbefore⟩, hother⟩

theorem forall_not_failsFirst_iff :
    (∀ error, ¬ FailsFirst f items error) ↔ ∀ item ∈ items, ∃ result, f item = .ok result := by
  induction items with
  | nil => simp [not_failsFirst_nil]
  | cons item items ih =>
    rw [List.forall_mem_cons, ← ih]
    simp only [failsFirst_cons]
    cases f item <;> simp

end FirstFailure

/-! ### Lists -/

theorem readItems_eq_error_iff {items : List Document} {error : ReadError} :
    readItems items = .error error ↔ FailsFirst readIdentifier items error := by
  induction items with
  | nil => simp [readItems, not_failsFirst_nil]
  | cons item rest ih =>
    rw [readItems, failsFirst_cons, ← ih]
    cases readIdentifier item with
    | error cause => simp
    | ok identifier => cases readItems rest <;> simp

/-- The items that are read are texts, each of them a spelling. -/
theorem exists_texts_of_readItems {items : List Document} {identifiers : List Identifier}
    (h : readItems items = .ok identifiers) : ∃ texts, items = texts.map .string ∧
      List.Forall₂ (fun text (identifier : Identifier) => Identifier.normalize text = .ok identifier.text) texts identifiers := by
  induction items generalizing identifiers with
  | nil => exact ⟨[], rfl, Except.ok.inj h ▸ .nil⟩
  | cons item rest ih =>
    rw [readItems] at h
    cases hitem : readIdentifier item with
    | error error => rw [hitem] at h; exact nomatch h
    | ok identifier =>
      cases hrest : readItems rest with
      | error error => rw [hitem, hrest] at h; exact nomatch h
      | ok others =>
        rw [hitem, hrest, Except.ok.injEq] at h
        obtain ⟨text, rfl, hnormal⟩ := readIdentifier_eq_ok_iff.1 hitem
        obtain ⟨texts, rfl, hall⟩ := ih hrest
        exact ⟨text :: texts, rfl, h ▸ .cons hnormal hall⟩

theorem readItems_map_text (identifiers : List Identifier) :
    readItems (identifiers.map fun identifier => .string identifier.text) = .ok identifiers := by
  induction identifiers with
  | nil => rfl
  | cons identifier rest ih =>
    rw [List.map_cons, readItems, readIdentifier_string_text]
    dsimp only
    rw [ih]

/-! ### Entries in order -/

section Entries

variable {α : Type} {entries start : List (Identifier × α)} {key other : Identifier} {value found : α}

/-- Each identifier is greater than those before it. -/
def Ascends (entries : List (Identifier × α)) : Prop := entries.Pairwise fun left right => left.1 < right.1

private theorem ne_of_lt (h : key < other) : key ≠ other := fun hsame => String.lt_irrefl other.text (hsame ▸ h)

theorem mem_insertEntry (h : Ascends entries) :
    (other, found) ∈ insertEntry key value entries ↔
      other = key ∧ found = value ∨ other ≠ key ∧ (other, found) ∈ entries := by
  induction entries with
  | nil => simp [insertEntry]
  | cons entry rest ih =>
    obtain ⟨hfirst, hrest⟩ := List.pairwise_cons.1 h
    rw [insertEntry]
    split_ifs with hsame hless
    · subst hsame
      have hnone : other = entry.1 → (other, found) ∉ rest := fun hother hmem => ne_of_lt (hfirst _ hmem) hother.symm
      rw [List.mem_cons, List.mem_cons, Prod.mk.injEq]
      by_cases hother : other = entry.1
      · simp [hother, hother ▸ hnone hother]
      · simp [hother, Prod.ext_iff]
    · have hnone : other = key → (other, found) ∉ entry :: rest := by
        rintro rfl hmem
        rcases List.mem_cons.1 hmem with hentry | hlater
        · exact hsame (congrArg Prod.fst hentry)
        · exact String.lt_irrefl other.text (String.lt_trans hless (hfirst _ hlater : entry.1.text < other.text))
      rw [List.mem_cons, Prod.mk.injEq]
      by_cases hother : other = key
      · simp [hother, hother ▸ hnone hother]
      · simp [hother]
    · rw [List.mem_cons, ih hrest, List.mem_cons]
      by_cases hother : other = key
      · have hentry : (other, found) ≠ entry := fun heq => hsame (hother ▸ congrArg Prod.fst heq)
        simp [hother, hother ▸ hentry]
      · simp [hother]

theorem fst_mem_of_insertEntry {entry : Identifier × α} (h : entry ∈ insertEntry key value entries) :
    entry.1 = key ∨ entry ∈ entries := by
  induction entries with
  | nil => exact .inl (congrArg Prod.fst (List.mem_singleton.1 h))
  | cons first rest ih =>
    rw [insertEntry] at h
    split_ifs at h
    · exact (List.mem_cons.1 h).imp (congrArg Prod.fst) (List.mem_cons_of_mem first)
    · exact (List.mem_cons.1 h).imp_left (congrArg Prod.fst)
    · rcases List.mem_cons.1 h with hfirst | hlater
      · exact .inr (hfirst ▸ List.mem_cons_self)
      · exact (ih hlater).imp_right (List.mem_cons_of_mem first)

theorem Ascends.insertEntry (h : Ascends entries) : Ascends (Stored.insertEntry key value entries) := by
  induction entries with
  | nil => exact List.pairwise_singleton _ _
  | cons entry rest ih =>
    obtain ⟨hfirst, hrest⟩ := List.pairwise_cons.1 h
    rw [Stored.insertEntry]
    split_ifs with hsame hless
    · subst hsame
      exact List.pairwise_cons.2 ⟨hfirst, hrest⟩
    · refine List.pairwise_cons.2 ⟨fun later hlater => ?_, h⟩
      rcases List.mem_cons.1 hlater with rfl | hmem
      · exact hless
      · exact lt_def.2 (String.lt_trans (lt_def.1 hless) (lt_def.1 (hfirst later hmem)))
    · have hgreater : entry.1 < key := by
        rcases Std.lt_trichotomy key.text entry.1.text with hlt | heq | hgt
        · exact absurd hlt hless
        · exact absurd (Identifier.ext heq) hsame
        · exact hgt
      refine List.pairwise_cons.2 ⟨fun later hlater => ?_, ih hrest⟩
      rcases fst_mem_of_insertEntry hlater with hkey | hmem
      · exact hkey ▸ hgreater
      · exact hfirst later hmem

theorem insertEntry_of_forall_lt (h : ∀ entry ∈ entries, entry.1 < key) :
    insertEntry key value entries = entries ++ [(key, value)] := by
  induction entries with
  | nil => rfl
  | cons entry rest ih =>
    have hlt := h entry List.mem_cons_self
    rw [insertEntry, if_neg (ne_of_lt hlt).symm, if_neg fun hgt => String.lt_asymm (lt_def.1 hlt) (lt_def.1 hgt),
      ih fun later hlater => h later (List.mem_cons_of_mem entry hlater)]
    rfl

end Entries

/-! ### Objects -/

section Objects

variable {entries : List (String × Document)} {canonical key : String} {value : Document} {error : ReadError}

/-- The last of the entries whose key spells the identifier. -/
def lastSpelling? (canonical : String) (entries : List (String × Document)) : Option (String × Document) :=
  (entries.filter fun entry => Identifier.normalize entry.1 = .ok canonical).getLast?

theorem lastSpelling?_cons_of_eq {entry : String × Document} (h : Identifier.normalize entry.1 = .ok canonical) :
    lastSpelling? canonical (entry :: entries) = some ((lastSpelling? canonical entries).getD entry) := by
  simp [lastSpelling?, h, List.getLast?_cons]

theorem lastSpelling?_cons_of_ne {entry : String × Document} (h : Identifier.normalize entry.1 ≠ .ok canonical) :
    lastSpelling? canonical (entry :: entries) = lastSpelling? canonical entries := by
  simp [lastSpelling?, h]

theorem lastSpelling?_eq_none_iff :
    lastSpelling? canonical entries = none ↔ ∀ entry ∈ entries, Identifier.normalize entry.1 ≠ .ok canonical := by
  simp [lastSpelling?]

theorem readEntries_eq_error_iff {start : List (Identifier × Document)} : readEntries start entries = .error error ↔
    ∃ cause, FailsFirst (fun entry => Identifier.normalize entry.1) entries cause ∧ error = .identifier cause := by
  induction entries generalizing start with
  | nil => simp [readEntries, not_failsFirst_nil]
  | cons entry rest ih =>
    rw [readEntries]
    simp only [failsFirst_cons]
    cases hparse : parse entry.1 with
    | error cause => simp [parse_eq_error_iff.1 hparse, eq_comm]
    | ok identifier => simpa [parse_eq_ok_iff.1 hparse] using ih

/-- Each identifier is found with the entry of its last spelling, or as it was before if nothing spells it. -/
theorem mem_of_readEntries {start found : List (Identifier × Document)} (hstart : Ascends start)
    (h : readEntries start entries = .ok found) : Ascends found ∧ ∀ identifier value, (identifier, value) ∈ found ↔
      match lastSpelling? identifier.text entries with
      | some entry => entry.2 = value
      | none => (identifier, value) ∈ start := by
  induction entries generalizing start with
  | nil => exact Except.ok.inj h ▸ ⟨hstart, fun _ _ => Iff.rfl⟩
  | cons entry rest ih =>
    rw [readEntries] at h
    cases hparse : parse entry.1 with
    | error cause => rw [hparse] at h; exact nomatch h
    | ok first =>
      rw [hparse] at h
      obtain ⟨hascends, hmem⟩ := ih hstart.insertEntry h
      refine ⟨hascends, fun identifier value => (hmem identifier value).trans ?_⟩
      have hnormal := parse_eq_ok_iff.1 hparse
      by_cases hsame : identifier = first
      · subst hsame
        rw [lastSpelling?_cons_of_eq hnormal]
        cases lastSpelling? identifier.text rest with
        | some last => rfl
        | none => simp [mem_insertEntry hstart, eq_comm]
      · have hother : Identifier.normalize entry.1 ≠ .ok identifier.text := fun hspells =>
          hsame (Identifier.ext (Except.ok.inj (hspells.symm.trans hnormal)))
        rw [lastSpelling?_cons_of_ne hother]
        cases lastSpelling? identifier.text rest with
        | some last => rfl
        | none => simp [mem_insertEntry hstart, hsame]

theorem byRawKey_perm (entries : List (String × Document)) : (byRawKey entries).Perm entries := List.mergeSort_perm _ _

theorem pairwise_byRawKey (entries : List (String × Document)) :
    (byRawKey entries).Pairwise fun left right => Text.bytes left.1 ≤ Text.bytes right.1 := by
  have hsorted : (byRawKey entries).Pairwise fun left right => decide (left.1 ≤ right.1) = true := by
    apply List.pairwise_mergeSort
    · exact fun _ _ _ hleft hright => decide_eq_true (String.le_trans (of_decide_eq_true hleft) (of_decide_eq_true hright))
    · exact fun left right => by simpa using String.le_total left.1 right.1
  exact hsorted.imp fun h => Text.le_iff_bytes_le.1 (of_decide_eq_true h)

/-- Sorting keeps the entries of one key in their order. -/
theorem filter_byRawKey (entries : List (String × Document)) (key : String) :
    (byRawKey entries).filter (fun entry => entry.1 = key) = entries.filter fun entry => entry.1 = key := by
  have hties : (entries.filter fun entry => entry.1 = key).Pairwise fun left right => decide (left.1 ≤ right.1) = true := by
    apply List.pairwise_of_forall_mem_list
    intro left hleft right hright
    rw [of_decide_eq_true (List.mem_filter.1 hleft).2, of_decide_eq_true (List.mem_filter.1 hright).2]
    exact decide_eq_true (String.le_refl _)
  have hsorted : (entries.filter fun entry => entry.1 = key).Sublist (byRawKey entries) := by
    apply List.sublist_mergeSort _ _ hties List.filter_sublist
    · exact fun _ _ _ hleft hright => decide_eq_true (String.le_trans (of_decide_eq_true hleft) (of_decide_eq_true hright))
    · exact fun left right => by simpa using String.le_total left.1 right.1
  have hfiltered := hsorted.filter fun entry => decide (entry.1 = key)
  rw [List.filter_filter, funext fun entry : String × Document => Bool.and_self (decide (entry.1 = key))] at hfiltered
  exact (hfiltered.eq_of_length ((byRawKey_perm entries).filter _).length_eq.symm).symm

theorem byRawKey_eq_self (h : entries.Pairwise fun left right => left.1 < right.1) : byRawKey entries = entries :=
  List.mergeSort_of_pairwise (h.imp fun hlt => decide_eq_true (Std.le_of_lt hlt))

theorem exists_of_failsFirst_byRawKey {cause : IdentifierError}
    (h : FailsFirst (fun entry => Identifier.normalize entry.1) (byRawKey entries) cause) :
    ∃ entry ∈ entries, Identifier.normalize entry.1 = .error cause ∧
      ∀ other ∈ entries, Text.bytes other.1 < Text.bytes entry.1 →
        ∃ canonical, Identifier.normalize other.1 = .ok canonical := by
  obtain ⟨before, entry, after, hsplit, hbefore, hcause⟩ := h
  have hmem : ∀ other, other ∈ entries ↔ other ∈ before ∨ other = entry ∨ other ∈ after := by
    intro other
    rw [← (byRawKey_perm entries).mem_iff, hsplit, List.mem_append, List.mem_cons]
  refine ⟨entry, (hmem entry).2 (.inr (.inl rfl)), hcause, fun other hother hless => ?_⟩
  rcases (hmem other).1 hother with hearlier | rfl | hlater
  · exact hbefore other hearlier
  · exact absurd hless (List.lt_irrefl _)
  · have hsorted := (List.pairwise_append.1 (hsplit ▸ pairwise_byRawKey entries)).2.1
    exact absurd hless (List.not_lt.2 ((List.pairwise_cons.1 hsorted).1 other hlater))

theorem exists_failsFirst_byRawKey {entry : String × Document} {cause : IdentifierError} (hentry : entry ∈ entries)
    (hcause : Identifier.normalize entry.1 = .error cause) :
    ∃ other, FailsFirst (fun entry => Identifier.normalize entry.1) (byRawKey entries) other := by
  by_contra hnone
  have hsorted := (byRawKey_perm entries).mem_iff.2 hentry
  obtain ⟨canonical, hnormal⟩ := forall_not_failsFirst_iff.1 (not_exists.1 hnone) entry hsorted
  exact nomatch hcause.symm.trans hnormal

/-- The keys before a bad one in the order of bytes are in order, and that tells which bad key is the first. -/
theorem failsFirst_byRawKey_iff {cause : IdentifierError} :
    FailsFirst (fun entry => Identifier.normalize entry.1) (byRawKey entries) cause ↔
      ∃ entry ∈ entries, Identifier.normalize entry.1 = .error cause ∧
        ∀ other ∈ entries, Text.bytes other.1 < Text.bytes entry.1 →
          ∃ canonical, Identifier.normalize other.1 = .ok canonical := by
  refine ⟨exists_of_failsFirst_byRawKey, ?_⟩
  rintro ⟨entry, hentry, hcause, hsmallest⟩
  obtain ⟨other, hother⟩ := exists_failsFirst_byRawKey hentry hcause
  obtain ⟨found, hfound, hcause', hsmallest'⟩ := exists_of_failsFirst_byRawKey hother
  -- neither of two first bad keys has smaller bytes
  have hkey : found.1 = entry.1 := by
    rw [← Text.bytes_inj]
    refine List.le_antisymm (List.not_lt.1 fun hless => ?_) (List.not_lt.1 fun hless => ?_)
    · obtain ⟨canonical, hnormal⟩ := hsmallest' entry hentry hless
      exact nomatch hcause.symm.trans hnormal
    · obtain ⟨canonical, hnormal⟩ := hsmallest found hfound hless
      exact nomatch hcause'.symm.trans hnormal
  rw [hkey, hcause, Except.error.injEq] at hcause'
  exact hcause' ▸ hother

/-- In the order of bytes the last spelling is the greatest one. -/
theorem of_lastSpelling?_byRawKey {entry : String × Document} (h : lastSpelling? canonical (byRawKey entries) = some entry) :
    Identifier.normalize entry.1 = .ok canonical ∧ Document.value? entries entry.1 = some entry.2 ∧
      ∀ other ∈ entries, Identifier.normalize other.1 = .ok canonical → Text.bytes other.1 ≤ Text.bytes entry.1 := by
  obtain ⟨earlier, hsplit⟩ := List.getLast?_eq_some_iff.1 h
  have hmem : ∀ other, other ∈ earlier ++ [entry] ↔ other ∈ entries ∧ Identifier.normalize other.1 = .ok canonical := by
    intro other
    rw [← hsplit, List.mem_filter, (byRawKey_perm entries).mem_iff, decide_eq_true_iff]
  have hspells := ((hmem entry).1 (List.mem_append_right earlier List.mem_cons_self)).2
  refine ⟨hspells, ?_, fun other hother hspells' => ?_⟩
  · have hties : (byRawKey entries).filter (fun other => other.1 = entry.1) =
        (earlier ++ [entry]).filter fun other => other.1 = entry.1 := by
      rw [← hsplit, List.filter_filter]
      refine List.filter_congr fun other _ => ?_
      by_cases hkey : other.1 = entry.1
      · simp [hkey, hspells]
      · simp [hkey]
    rw [Document.value?, ← filter_byRawKey, hties, List.filter_append]
    simp
  · have hsorted := (pairwise_byRawKey entries).filter fun other => decide (Identifier.normalize other.1 = .ok canonical)
    rw [hsplit] at hsorted
    rcases List.mem_append.1 ((hmem other).2 ⟨hother, hspells'⟩) with hearlier | hlast
    · exact (List.pairwise_append.1 hsorted).2.2 other hearlier entry List.mem_cons_self
    · exact List.mem_singleton.1 hlast ▸ List.le_refl _

theorem exists_lastSpelling?_byRawKey_iff :
    (∃ entry, lastSpelling? canonical (byRawKey entries) = some entry) ↔
      ∃ entry ∈ entries, Identifier.normalize entry.1 = .ok canonical := by
  rw [← Option.isSome_iff_exists, Option.isSome_iff_ne_none, ne_eq, lastSpelling?_eq_none_iff]
  simp [(byRawKey_perm entries).mem_iff]

theorem mem_of_value? (h : Document.value? entries key = some value) : (key, value) ∈ entries := by
  obtain ⟨entry, hlast, rfl⟩ := Option.map_eq_some_iff.1 h
  obtain ⟨hentry, hkey⟩ := List.mem_filter.1 (List.mem_of_getLast? hlast)
  exact of_decide_eq_true hkey ▸ hentry

theorem lastSpelling?_byRawKey_iff : (∃ entry, lastSpelling? canonical (byRawKey entries) = some entry ∧ entry.2 = value) ↔
    ∃ key, Identifier.normalize key = .ok canonical ∧ Document.value? entries key = some value ∧
      ∀ other ∈ entries, Identifier.normalize other.1 = .ok canonical → Text.bytes other.1 ≤ Text.bytes key := by
  constructor
  · rintro ⟨entry, hlast, rfl⟩
    exact ⟨entry.1, of_lastSpelling?_byRawKey hlast⟩
  · rintro ⟨key, hspells, hvalue, hgreatest⟩
    have hmem := mem_of_value? hvalue
    obtain ⟨entry, hlast⟩ := exists_lastSpelling?_byRawKey_iff.2 ⟨_, hmem, hspells⟩
    obtain ⟨hspells', hvalue', hgreatest'⟩ := of_lastSpelling?_byRawKey hlast
    have hkey : entry.1 = key := Text.bytes_inj.1
      (List.le_antisymm (hgreatest entry (mem_of_value? hvalue') hspells') (hgreatest' _ hmem hspells))
    rw [hkey, hvalue, Option.some.injEq] at hvalue'
    exact ⟨entry, hlast, hvalue'.symm⟩

/-! ### The canonical spelling is the greatest -/

theorem not_lowered_lt (c : Char) : ¬ lowered c < c := by
  rcases lowered_eq_or_isCapitalOf c with hsame | ⟨-, -, hvalue⟩
  · rw [hsame]
    exact Nat.lt_irrefl c.toNat
  · intro hlt
    have hless : (lowered c).toNat < c.toNat := hlt
    omega

theorem not_map_lowered_lt (chars : List Char) : ¬ chars.map lowered < chars := by
  induction chars with
  | nil => exact List.lt_irrefl []
  | cons c rest ih =>
    rw [List.map_cons, List.cons_lt_cons_iff]
    rintro (hlt | ⟨-, hrest⟩)
    · exact not_lowered_lt c hlt
    · exact ih hrest

theorem le_folded (text : String) : text ≤ folded text := by
  refine Std.not_lt.1 fun hlt => not_map_lowered_lt text.toList ?_
  rw [← toList_folded]
  exact hlt

theorem bytes_le_of_normalize (h : Identifier.normalize key = .ok canonical) : Text.bytes key ≤ Text.bytes canonical := by
  rw [(normalize_eq_ok_iff.1 h).2, ← Text.le_iff_bytes_le]
  exact le_folded key

/-! ### What is written -/

variable {found : List (Identifier × Document)}

/-- The entries of an object as they are written. -/
def spelledOut (entries : List (Identifier × Document)) : List (String × Document) :=
  entries.map fun entry => (entry.1.text, entry.2)

theorem mem_spelledOut (h : readEntries [] (byRawKey entries) = .ok found) : (canonical, value) ∈ spelledOut found ↔
    ∃ entry, lastSpelling? canonical (byRawKey entries) = some entry ∧ entry.2 = value := by
  obtain ⟨-, hmem⟩ := mem_of_readEntries List.Pairwise.nil h
  constructor
  · intro hwritten
    obtain ⟨⟨identifier, value⟩, hfound, heq⟩ := List.mem_map.1 hwritten
    obtain ⟨rfl, rfl⟩ := Prod.mk.inj heq
    have hlast := (hmem identifier value).1 hfound
    cases hspelling : lastSpelling? identifier.text (byRawKey entries) with
    | none => rw [hspelling] at hlast; exact absurd hlast List.not_mem_nil
    | some entry => rw [hspelling] at hlast; exact ⟨entry, rfl, hlast⟩
  · rintro ⟨entry, hlast, rfl⟩
    have hcanonical := normalize_normalize (of_lastSpelling?_byRawKey hlast).1
    refine List.mem_map.2 ⟨(⟨canonical, hcanonical⟩, entry.2), (hmem _ _).2 ?_, rfl⟩
    rw [hlast]

theorem pairwise_spelledOut (h : Ascends found) : (spelledOut found).Pairwise fun left right => left.1 < right.1 :=
  List.pairwise_map.2 h

theorem canonicalEntries_of_readEntries (h : readEntries [] (byRawKey entries) = .ok found) :
    CanonicalEntries entries (spelledOut found) where
  ascending := (pairwise_spelledOut (mem_of_readEntries List.Pairwise.nil h).1).imp Text.lt_iff_bytes_lt.1
  exists_iff canonical := by
    simp only [mem_spelledOut h, ← exists_lastSpelling?_byRawKey_iff]
    rw [exists_comm]
    simp
  mem_iff canonical value := (mem_spelledOut h).trans lastSpelling?_byRawKey_iff
  mem_of_canonical canonical value hcanonical hvalue :=
    ((mem_spelledOut h).trans lastSpelling?_byRawKey_iff).2 ⟨canonical, hcanonical, hvalue, fun _ _ => bytes_le_of_normalize⟩

theorem readEntries_spelledOut {start rest : List (Identifier × Document)} (h : Ascends (start ++ rest)) :
    readEntries start (spelledOut rest) = .ok (start ++ rest) := by
  induction rest generalizing start with
  | nil => rw [List.append_nil]; rfl
  | cons entry rest ih =>
    have hless : ∀ earlier ∈ start, earlier.1 < entry.1 := fun earlier hearlier =>
      (List.pairwise_append.1 h).2.2 earlier hearlier entry List.mem_cons_self
    rw [List.append_cons] at h ⊢
    rw [← ih h, ← insertEntry_of_forall_lt hless, spelledOut, List.map_cons, readEntries, parse_text, spelledOut]

theorem readEntries_byRawKey_spelledOut (h : Ascends found) : readEntries [] (byRawKey (spelledOut found)) = .ok found := by
  rw [byRawKey_eq_self (pairwise_spelledOut h), readEntries_spelledOut (by exact h), List.nil_append]

end Objects

/-! ### Documents of every shape -/

section Shapes

variable {shape : Shape} {document : Document} {stored : Stored} {error : ReadError} {texts : List String}

/-- What a document is read as. -/
inductive Reads : Shape → Document → Stored → Prop where
  | one {document : Document} {identifier : Identifier} : readIdentifier document = .ok identifier →
      Reads .one document (.one identifier)
  | absent : Reads .optional .null (.optional none)
  | present {document : Document} {identifier : Identifier} : readIdentifier document = .ok identifier →
      Reads .optional document (.optional (some identifier))
  | list {items : List Document} {identifiers : List Identifier} : readItems items = .ok identifiers →
      Reads .list (.sequence items) (.list identifiers)
  | map {entries : List (String × Document)} {found : List (Identifier × Document)} :
      readEntries [] (byRawKey entries) = .ok found → Reads .map (.object entries) (.map found)

theorem read_optional_of_ne_null (h : document ≠ .null) :
    read .optional document = (readIdentifier document).map fun identifier => .optional (some identifier) := by
  rw [read]
  · cases readIdentifier document <;> rfl
  · exact h

theorem read_of_reads (h : Reads shape document stored) : read shape document = .ok stored := by
  cases h with
  | one hread => rw [read, hread]
  | absent => rfl
  | present hread =>
    obtain ⟨text, rfl, -⟩ := readIdentifier_eq_ok_iff.1 hread
    rw [read_optional_of_ne_null (by simp), hread]
    rfl
  | list hread => rw [read, hread]
  | map hread => rw [read, hread]

theorem read_of_firstOffence (h : FirstOffence shape document error) : read shape document = .error error := by
  cases h with
  | one hoffends => rw [read, readIdentifier_eq_error_iff.2 hoffends]
  | optional hnull hoffends =>
    rw [read_optional_of_ne_null hnull, readIdentifier_eq_error_iff.2 hoffends]
    rfl
  | notSequence hother =>
    cases document with
    | sequence items => exact absurd rfl (hother items)
    | _ => rfl
  | @item before after item _ hbefore hoffends =>
    have hread : ∀ earlier ∈ before, ∃ identifier, readIdentifier earlier = .ok identifier := by
      intro earlier hearlier
      obtain ⟨text, canonical, rfl, hnormal⟩ := hbefore earlier hearlier
      exact ⟨⟨canonical, normalize_normalize hnormal⟩, readIdentifier_eq_ok_iff.2 ⟨text, rfl, hnormal⟩⟩
    have hitems := readItems_eq_error_iff.2 ⟨before, item, after, rfl, hread, readIdentifier_eq_error_iff.2 hoffends⟩
    rw [read, hitems]
  | notObject hother =>
    cases document with
    | object entries => exact absurd rfl (hother entries)
    | _ => rfl
  | key hmem hcause hsmallest =>
    have hfirst := failsFirst_byRawKey_iff.2 ⟨_, hmem, hcause, hsmallest⟩
    rw [read, readEntries_eq_error_iff.2 ⟨_, hfirst, rfl⟩]

/-- A document is read, or something is wrong with it first. -/
theorem reads_or_firstOffence (shape : Shape) (document : Document) :
    (∃ stored, Reads shape document stored) ∨ ∃ error, FirstOffence shape document error := by
  cases shape with
  | one =>
    cases hread : readIdentifier document with
    | ok identifier => exact .inl ⟨_, .one hread⟩
    | error cause => exact .inr ⟨_, .one (readIdentifier_eq_error_iff.1 hread)⟩
  | optional =>
    by_cases hnull : document = .null
    · subst hnull
      exact .inl ⟨_, .absent⟩
    · cases hread : readIdentifier document with
      | ok identifier => exact .inl ⟨_, .present hread⟩
      | error cause => exact .inr ⟨_, .optional hnull (readIdentifier_eq_error_iff.1 hread)⟩
  | list =>
    cases document with
    | sequence items =>
      cases hread : readItems items with
      | ok identifiers => exact .inl ⟨_, .list hread⟩
      | error cause =>
        obtain ⟨before, item, after, rfl, hbefore, hitem⟩ := readItems_eq_error_iff.1 hread
        refine .inr ⟨cause, .item (fun earlier hearlier => ?_) (readIdentifier_eq_error_iff.1 hitem)⟩
        obtain ⟨identifier, hearlier⟩ := hbefore earlier hearlier
        obtain ⟨text, rfl, hnormal⟩ := readIdentifier_eq_ok_iff.1 hearlier
        exact ⟨text, _, rfl, hnormal⟩
    | _ => exact .inr ⟨_, .notSequence (by simp)⟩
  | map =>
    cases document with
    | object entries =>
      cases hread : readEntries [] (byRawKey entries) with
      | ok found => exact .inl ⟨_, .map hread⟩
      | error _ =>
        obtain ⟨cause, hfirst, rfl⟩ := readEntries_eq_error_iff.1 hread
        obtain ⟨entry, hmem, hcause, hsmallest⟩ := failsFirst_byRawKey_iff.1 hfirst
        exact .inr ⟨_, .key hmem hcause hsmallest⟩
    | _ => exact .inr ⟨_, .notObject (by simp)⟩

theorem read_eq_ok_iff : read shape document = .ok stored ↔ Reads shape document stored := by
  refine ⟨fun h => ?_, read_of_reads⟩
  rcases reads_or_firstOffence shape document with ⟨other, hreads⟩ | ⟨error, hoffence⟩
  · exact Except.ok.inj ((read_of_reads hreads).symm.trans h) ▸ hreads
  · exact nomatch h.symm.trans (read_of_firstOffence hoffence)

theorem read_eq_error_iff : read shape document = .error error ↔ FirstOffence shape document error := by
  refine ⟨fun h => ?_, read_of_firstOffence⟩
  rcases reads_or_firstOffence shape document with ⟨stored, hreads⟩ | ⟨other, hoffence⟩
  · exact nomatch h.symm.trans (read_of_reads hreads)
  · exact Except.error.inj ((read_of_firstOffence hoffence).symm.trans h) ▸ hoffence

/-- All places hold spellings, so there is nothing to offend. -/
theorem not_firstOffence_of_places (h : Places shape document texts)
    (hall : ∀ text ∈ texts, ∃ canonical, Identifier.normalize text = .ok canonical) : ¬ FirstOffence shape document error := by
  have hoffends : ∀ {text error}, (∃ canonical, Identifier.normalize text = .ok canonical) → ¬ Offends (.string text) error := by
    rintro text error ⟨canonical, hnormal⟩ (⟨hother⟩ | ⟨hcause⟩)
    · exact hother text rfl
    · exact nomatch hnormal.symm.trans hcause
  intro hoffence
  cases h with
  | one text => cases hoffence with | one h => exact hoffends (hall text List.mem_cons_self) h
  | absent => cases hoffence with | optional hnull => exact hnull rfl
  | present text => cases hoffence with | optional _ h => exact hoffends (hall text List.mem_cons_self) h
  | list =>
    generalize hitems : Document.sequence (texts.map .string) = document at hoffence
    cases hoffence with
    | notSequence hother => exact hother _ hitems.symm
    | @item before after item _ _ h =>
      have hmem : item ∈ texts.map .string := by simp [Document.sequence.inj hitems]
      obtain ⟨text, htext, rfl⟩ := List.mem_map.1 hmem
      exact hoffends (hall text htext) h
  | map entries =>
    cases hoffence with
    | notObject hother => exact hother entries rfl
    | key hmem hcause =>
      obtain ⟨canonical, hnormal⟩ := hall _ (List.mem_map_of_mem hmem)
      exact nomatch hnormal.symm.trans hcause

namespace Reads

theorem places (h : Reads shape document stored) :
    ∃ texts, Places shape document texts ∧ ∀ text ∈ texts, ∃ canonical, Identifier.normalize text = .ok canonical := by
  cases h with
  | one hread =>
    obtain ⟨text, rfl, hnormal⟩ := readIdentifier_eq_ok_iff.1 hread
    exact ⟨_, .one text, by simp [hnormal]⟩
  | absent => exact ⟨_, .absent, by simp⟩
  | present hread =>
    obtain ⟨text, rfl, hnormal⟩ := readIdentifier_eq_ok_iff.1 hread
    exact ⟨_, .present text, by simp [hnormal]⟩
  | list hread =>
    obtain ⟨texts, rfl, -⟩ := exists_texts_of_readItems hread
    have hnone : ∀ error, ¬ FailsFirst readIdentifier (texts.map .string) error := fun error hfirst =>
      nomatch hread.symm.trans (readItems_eq_error_iff.2 hfirst)
    refine ⟨_, .list texts, fun text htext => ?_⟩
    obtain ⟨identifier, htext⟩ := forall_not_failsFirst_iff.1 hnone _ (List.mem_map_of_mem htext)
    obtain ⟨_, heq, hnormal⟩ := readIdentifier_eq_ok_iff.1 htext
    exact ⟨_, Document.string.inj heq ▸ hnormal⟩
  | @map entries found hread =>
    have hnone : ∀ cause, ¬ FailsFirst (fun entry => Identifier.normalize entry.1) (byRawKey entries) cause := fun cause hfirst =>
      nomatch hread.symm.trans (readEntries_eq_error_iff.2 ⟨cause, hfirst, rfl⟩)
    refine ⟨_, .map entries, List.forall_mem_map.2 fun entry hentry => ?_⟩
    exact forall_not_failsFirst_iff.1 hnone entry ((byRawKey_perm entries).mem_iff.2 hentry)

theorem isCanonicalForm (h : Reads shape document stored) : IsCanonicalForm shape document stored.write := by
  cases h with
  | one hread =>
    obtain ⟨text, rfl, hnormal⟩ := readIdentifier_eq_ok_iff.1 hread
    exact .one hnormal
  | absent => exact .absent
  | present hread =>
    obtain ⟨text, rfl, hnormal⟩ := readIdentifier_eq_ok_iff.1 hread
    exact .present hnormal
  | @list _ identifiers hread =>
    obtain ⟨texts, rfl, hall⟩ := exists_texts_of_readItems hread
    have hwrite : (Stored.list identifiers).write = .sequence ((identifiers.map Identifier.text).map .string) := by
      rw [List.map_map]
      rfl
    exact hwrite ▸ .list (List.forall₂_map_right_iff.2 hall)
  | map hread => exact .map (canonicalEntries_of_readEntries hread)

theorem write (h : Reads shape document stored) : Reads shape stored.write stored := by
  cases h with
  | one => exact .one (readIdentifier_string_text _)
  | absent => exact .absent
  | present => exact .present (readIdentifier_string_text _)
  | list => exact .list (readItems_map_text _)
  | map hread => exact .map (readEntries_byRawKey_spelledOut (mem_of_readEntries List.Pairwise.nil hread).1)

end Reads

theorem exists_read_iff : (∃ stored, read shape document = .ok stored) ↔
    ∃ texts, Places shape document texts ∧ ∀ text ∈ texts, ∃ canonical, Identifier.normalize text = .ok canonical := by
  constructor
  · rintro ⟨stored, h⟩
    exact (read_eq_ok_iff.1 h).places
  · rintro ⟨texts, hplaces, hall⟩
    rcases reads_or_firstOffence shape document with ⟨stored, hreads⟩ | ⟨error, hoffence⟩
    · exact ⟨stored, read_of_reads hreads⟩
    · exact absurd hoffence (not_firstOffence_of_places hplaces hall)

theorem roundTrip_of_reads (h : Reads shape document stored) : roundTrip shape document = .ok stored.write := by
  rw [roundTrip, read_of_reads h]

/-- A document is read just when it has the shape and nothing but spellings where identifiers belong, and otherwise it is refused for the first thing wrong with it. What is written of it is the document in canonical spelling, and that is read as the same and written as it stands. -/
theorem roundTrip_retracts (shape : Shape) (document : Document) :
    ((∃ stored, read shape document = .ok stored) ↔
        ∃ texts, Places shape document texts ∧ ∀ text ∈ texts, ∃ canonical, Identifier.normalize text = .ok canonical) ∧
      (∀ error, read shape document = .error error ↔ FirstOffence shape document error) ∧
      ∀ stored, read shape document = .ok stored →
        roundTrip shape document = .ok stored.write ∧ IsCanonicalForm shape document stored.write ∧
          read shape stored.write = .ok stored ∧ roundTrip shape stored.write = .ok stored.write := by
  refine ⟨exists_read_iff, fun _ => read_eq_error_iff, fun stored h => ?_⟩
  have hreads := read_eq_ok_iff.1 h
  exact ⟨roundTrip_of_reads hreads, hreads.isCanonicalForm, read_of_reads hreads.write, roundTrip_of_reads hreads.write⟩

def twoSpellings : Document :=
  .object [("4E1B2A0C-9F51-4D3E-B0B7-6B9C1F0E2A11", .integer 1), ("4e1b2a0c-9f51-4d3e-b0b7-6b9c1f0e2a11", .integer 2)]

/-- Of two spellings the one in small letters counts, and in a list the wrong kind is found before the wrong spelling. -/
theorem roundTrip_retracts_collision :
    (∃ stored, read .map twoSpellings = .ok stored ∧
        stored.write = .object [("4e1b2a0c-9f51-4d3e-b0b7-6b9c1f0e2a11", .integer 2)] ∧
        IsCanonicalForm .map twoSpellings stored.write ∧ roundTrip .map stored.write = .ok stored.write) ∧
      read .list (.sequence [.bool true, .string "4e1b"]) = .error (.unexpected (.bool true) "a string") := by
  have hcapital : parse "4E1B2A0C-9F51-4D3E-B0B7-6B9C1F0E2A11" = .ok ⟨"4e1b2a0c-9f51-4d3e-b0b7-6b9c1f0e2a11", by decide⟩ :=
    parse_eq_ok_iff.2 (by decide)
  have hsmall : parse "4e1b2a0c-9f51-4d3e-b0b7-6b9c1f0e2a11" = .ok ⟨"4e1b2a0c-9f51-4d3e-b0b7-6b9c1f0e2a11", by decide⟩ :=
    parse_eq_ok_iff.2 (by decide)
  have hread : read .map twoSpellings =
      .ok (.map [(⟨"4e1b2a0c-9f51-4d3e-b0b7-6b9c1f0e2a11", by decide⟩, .integer 2)]) := by
    rw [twoSpellings, read, byRawKey_eq_self (List.pairwise_pair.2 (by decide))]
    simp [readEntries, hcapital, hsmall, insertEntry]
  obtain ⟨-, -, hwritten⟩ := roundTrip_retracts .map twoSpellings
  obtain ⟨-, hform, -, hagain⟩ := hwritten _ hread
  refine ⟨⟨_, hread, rfl, hform, hagain⟩, ((roundTrip_retracts .list _).2.1 _).2 ?_⟩
  exact @FirstOffence.item [] _ (.bool true) _ (by simp) (.unexpected (by simp))

end Shapes

end Stored

end MessageCatalog
