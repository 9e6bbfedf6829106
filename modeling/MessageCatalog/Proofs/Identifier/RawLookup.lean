import Mathlib.Data.List.Induction
import Mathlib.Logic.Function.Basic
import MessageCatalog.Identifier.Map
import MessageCatalog.Proofs.Concurrent.Coherence
import MessageCatalog.Proofs.Identifier.NumericOrder

/-!
# Plain texts as keys

A map that is keyed by identifiers is asked with plain texts. It finds what was bound last under the identifier whose canonical text is just the one asked for, so a text that is no canonical one finds nothing, and the canonical text finds what any spelling was bound to. That this may be asked at all is a contract between a key and the text it lends, `Borrows`: with it, a table that looks in one bucket only, and finds the bucket by the hash of the text, misses nothing, `Buckets.search_insert`.
-/

namespace MessageCatalog

/-! ### The last place -/

section Last

variable {α β : Type} {p : α → Prop} {q : β → Prop} {list : List α} {a : α} {place : Nat}

def HoldsAt (p : α → Prop) (list : List α) (place : Nat) : Prop := ∃ a, list[place]? = some a ∧ p a

/-- Of the places where it holds, there is none behind this one. -/
def IsLast (p : α → Prop) (list : List α) (place : Nat) : Prop :=
  HoldsAt p list place ∧ ∀ later, place < later → ¬ HoldsAt p list later

theorem holdsAt_map {f : α → β} : HoldsAt q (list.map f) place ↔ HoldsAt (fun a => q (f a)) list place := by
  simp [HoldsAt]

theorem isLast_congr {other : List β} (h : ∀ place, HoldsAt p list place ↔ HoldsAt q other place) :
    IsLast p list place ↔ IsLast q other place := by
  simp only [IsLast, h]

theorem HoldsAt.lt_length (h : HoldsAt p list place) : place < list.length := by
  obtain ⟨a, ha, -⟩ := h
  exact (List.getElem?_eq_some_iff.1 ha).1

theorem IsLast.le (h : IsLast p list place) {other : Nat} (hother : HoldsAt p list other) : other ≤ place :=
  Nat.le_of_not_lt fun hlt => h.2 other hlt hother

theorem holdsAt_concat : HoldsAt p (list ++ [a]) place ↔ HoldsAt p list place ∨ place = list.length ∧ p a := by
  rcases Nat.lt_trichotomy place list.length with hlt | rfl | hgt
  · simp [HoldsAt, List.getElem?_append_left hlt, hlt.ne]
  · simp [HoldsAt]
  · have hnone : (list ++ [a])[place]? = none := by
      rw [List.getElem?_eq_none_iff, List.length_append, List.length_singleton]
      exact hgt
    simp [HoldsAt, hnone, List.getElem?_eq_none hgt.le, hgt.ne']

theorem isLast_concat_of_pos (h : p a) : IsLast p (list ++ [a]) place ↔ place = list.length := by
  constructor
  · rintro ⟨hplace, hlater⟩
    rcases holdsAt_concat.1 hplace with hold | ⟨rfl, -⟩
    · exact absurd (holdsAt_concat.2 (.inr ⟨rfl, h⟩)) (hlater _ hold.lt_length)
    · rfl
  · rintro rfl
    refine ⟨holdsAt_concat.2 (.inr ⟨rfl, h⟩), fun later hlt hholds => ?_⟩
    have hbound := hholds.lt_length
    rw [List.length_append, List.length_singleton] at hbound
    omega

theorem isLast_concat_of_neg (h : ¬ p a) : IsLast p (list ++ [a]) place ↔ IsLast p list place :=
  isLast_congr fun _ => holdsAt_concat.trans (or_iff_left fun hnew => h hnew.2)

theorem HoldsAt.exists_isLast (h : HoldsAt p list place) : ∃ last, IsLast p list last := by
  induction list using List.reverseRecOn with
  | nil => exact absurd h.lt_length (Nat.not_lt_zero place)
  | append_singleton list a ih =>
    by_cases ha : p a
    · exact ⟨list.length, (isLast_concat_of_pos ha).2 rfl⟩
    · rcases holdsAt_concat.1 h with hold | ⟨-, hnew⟩
      · obtain ⟨last, hlast⟩ := ih hold
        exact ⟨last, (isLast_concat_of_neg ha).2 hlast⟩
      · exact absurd hnew ha

end Last

/-! ### Filling a map -/

section Fill

variable {μ β γ : Type} {insert : μ → β → μ} {bound : β → Prop} [DecidablePred bound] {value : β → γ} {start : μ} {list : List β}

/-- If every insertion does to the answer what it should, the last one that is asked for gives the answer. -/
theorem find_foldl_eq_some_iff (find : μ → Option γ) (hstart : find start = none)
    (hinsert : ∀ map b, find (insert map b) = if bound b then some (value b) else find map) {c : γ} :
    find (list.foldl insert start) = some c ↔ ∃ place b, list[place]? = some b ∧ value b = c ∧ IsLast bound list place := by
  induction list using List.reverseRecOn with
  | nil => simp [hstart]
  | append_singleton list b ih =>
    rw [List.foldl_append, List.foldl_cons, List.foldl_nil, hinsert]
    by_cases hb : bound b
    · simp [hb, isLast_concat_of_pos hb]
    · rw [if_neg hb, ih]
      refine exists_congr fun place => exists_congr fun b => ?_
      rw [isLast_concat_of_neg hb, ← and_assoc, ← and_assoc, and_congr_left_iff]
      intro hlast
      rw [List.getElem?_append_left hlast.1.lt_length]

end Fill

/-! ### Tables of buckets -/

/-- A key may be asked for by what it lends. -/
structure Borrows {κ ρ : Type} [BEq κ] [Hashable κ] [BEq ρ] [Hashable ρ] (borrow : κ → ρ) : Prop where
  beq_eq : ∀ left right, (left == right) = (borrow left == borrow right)
  hash_eq : ∀ key, hash key = hash (borrow key)

/-- A table of pairs in buckets. Which hashes lead to one bucket is open. -/
structure Buckets (κ α : Type) where
  lead : UInt64 → Nat
  bucket : Nat → List (κ × α)

namespace Buckets

variable {κ ρ α : Type} [BEq κ] [Hashable κ] [DecidableEq ρ] [Hashable ρ] {borrow : κ → ρ}

def empty (lead : UInt64 → Nat) : Buckets κ α := ⟨lead, fun _ => []⟩

/-- The key that is there stays there. -/
def overwrite (key : κ) (value : α) : List (κ × α) → List (κ × α)
  | [] => [(key, value)]
  | pair :: rest => if pair.1 == key then (pair.1, value) :: rest else pair :: overwrite key value rest

def insert (buckets : Buckets κ α) (key : κ) (value : α) : Buckets κ α :=
  let place := buckets.lead (hash key)
  ⟨buckets.lead, Function.update buckets.bucket place (overwrite key value (buckets.bucket place))⟩

/-- Looks for what was lent, in the bucket that its hash leads to. -/
def search (borrow : κ → ρ) (buckets : Buckets κ α) (raw : ρ) : Option α :=
  ((buckets.bucket (buckets.lead (hash raw))).find? fun pair => borrow pair.1 == raw).map Prod.snd

theorem find?_overwrite (h : Borrows borrow) (key : κ) (value : α) (pairs : List (κ × α)) (raw : ρ) :
    ((overwrite key value pairs).find? fun pair => borrow pair.1 == raw).map Prod.snd =
      if borrow key = raw then some value else (pairs.find? fun pair => borrow pair.1 == raw).map Prod.snd := by
  induction pairs with
  | nil => by_cases hkey : borrow key = raw <;> simp [overwrite, hkey]
  | cons pair rest ih =>
    have hsame : pair.1 == key ↔ borrow pair.1 = borrow key := by rw [h.beq_eq, beq_iff_eq]
    rw [overwrite]
    by_cases hpair : borrow pair.1 = borrow key
    · rw [if_pos (hsame.2 hpair), List.find?_cons, List.find?_cons, hpair]
      by_cases hkey : borrow key = raw
      · simp only [hkey, beq_self_eq_true, if_true, Option.map_some]
      · simp only [beq_eq_false_iff_ne.2 hkey, if_neg hkey]
    · rw [if_neg (mt hsame.1 hpair), List.find?_cons, List.find?_cons]
      by_cases hraw : borrow pair.1 = raw
      · have hkey : borrow key ≠ raw := fun hkey => hpair (hraw.trans hkey.symm)
        simp only [hraw, beq_self_eq_true, if_neg hkey]
      · simp only [beq_eq_false_iff_ne.2 hraw]
        exact ih

/-- Where the hash of a text leads is where the keys that lend it are. -/
theorem search_insert (h : Borrows borrow) (buckets : Buckets κ α) (key : κ) (value : α) (raw : ρ) :
    (buckets.insert key value).search borrow raw = if borrow key = raw then some value else buckets.search borrow raw := by
  by_cases hplace : buckets.lead (hash raw) = buckets.lead (hash key)
  · rw [search, insert]
    simp only [hplace, Function.update_self]
    rw [find?_overwrite h, search, hplace]
  · have hkey : borrow key ≠ raw := fun hkey => hplace (by rw [h.hash_eq, hkey])
    rw [search, insert]
    simp only [Function.update_of_ne hplace]
    rw [if_neg hkey, search]

omit [BEq κ] [Hashable κ] in
theorem search_empty (lead : UInt64 → Nat) (raw : ρ) : (empty lead : Buckets κ α).search borrow raw = none := rfl

/-- Puts the pairs in, in their order. -/
def fill (lead : UInt64 → Nat) (pairs : List (κ × α)) : Buckets κ α :=
  pairs.foldl (fun buckets pair => buckets.insert pair.1 pair.2) (empty lead)

theorem search_fill (h : Borrows borrow) (lead : UInt64 → Nat) (pairs : List (κ × α)) (raw : ρ) {value : α} :
    (fill lead pairs).search borrow raw = some value ↔
      ∃ place pair, pairs[place]? = some pair ∧ pair.2 = value ∧ IsLast (fun pair => borrow pair.1 = raw) pairs place :=
  find_foldl_eq_some_iff (fun buckets : Buckets κ α => buckets.search borrow raw) (search_empty lead raw)
    fun buckets pair => search_insert h buckets pair.1 pair.2 raw

end Buckets

/-! ### Identifiers and their texts -/

namespace Identifier

theorem borrows_text : Borrows text where
  beq_eq left right := by rw [Bool.eq_iff_iff, beq_iff_eq, beq_iff_eq, Identifier.ext_iff]
  hash_eq _ := rfl

theorem not_isCapital_of_normalize {candidate raw : String} (h : normalize candidate = .ok raw) :
    ∀ c ∈ raw.toList, ¬ IsCapital c :=
  fun c hc hcapital => hcapital.lowered_ne (isSmallText_text ⟨raw, normalize_normalize h⟩ c hc)

/-- What is found under plain texts, when the place of each candidate was bound under the identifier that it spells. -/
structure SeesCanonical (candidates : List String) (find? : String → Option Nat) : Prop where
  found_iff : ∀ {raw : String} {place : Nat},
    find? raw = some place ↔ IsLast (fun candidate => normalize candidate = .ok raw) candidates place
  absent_iff : ∀ {raw : String}, find? raw = none ↔ ∀ candidate ∈ candidates, normalize candidate ≠ .ok raw
  refused : ∀ {raw : String} {cause : IdentifierError}, normalize raw = .error cause → find? raw = none
  capital : ∀ {raw : String} {c : Char}, c ∈ raw.toList → IsCapital c → find? raw = none
  /-- Under the canonical text, each place is found where a spelling stands, or a later one of the same identifier. -/
  spelling : ∀ {spelling text : String} {place : Nat}, normalize spelling = .ok text →
    HoldsAt (fun candidate => normalize candidate = normalize spelling) candidates place →
    ∃ last, find? text = some last ∧ place ≤ last ∧
      HoldsAt (fun candidate => normalize candidate = normalize spelling) candidates last

theorem SeesCanonical.of_found {candidates : List String} {find? : String → Option Nat}
    (hfound : ∀ {raw place}, find? raw = some place ↔ IsLast (fun candidate => normalize candidate = .ok raw) candidates place) :
    SeesCanonical candidates find? := by
  have habsent : ∀ {raw}, find? raw = none ↔ ∀ candidate ∈ candidates, normalize candidate ≠ .ok raw := by
    intro raw
    rw [Option.eq_none_iff_forall_ne_some]
    constructor
    · intro hnone candidate hmem hcandidate
      obtain ⟨place, hplace⟩ := List.mem_iff_getElem?.1 hmem
      have hholds : HoldsAt (fun candidate => normalize candidate = .ok raw) candidates place := ⟨candidate, hplace, hcandidate⟩
      obtain ⟨last, hlast⟩ := hholds.exists_isLast
      exact hnone last (hfound.2 hlast)
    · intro hall place hplace
      obtain ⟨candidate, hcandidate, hsame⟩ := (hfound.1 hplace).1
      exact hall candidate (List.mem_of_getElem? hcandidate) hsame
  refine ⟨hfound, habsent, fun hraw => ?_, fun hc hcapital => ?_, fun {spelling text place} htext hplace => ?_⟩
  · exact habsent.2 fun _ _ hcandidate => nomatch hraw.symm.trans (normalize_normalize hcandidate)
  · exact habsent.2 fun _ _ hcandidate => not_isCapital_of_normalize hcandidate _ hc hcapital
  · rw [htext] at hplace ⊢
    obtain ⟨last, hlast⟩ := hplace.exists_isLast
    exact ⟨last, hfound.2 hlast, hlast.le hplace, hlast.1⟩

section Places

variable {candidates : List String} {identifiers : List Identifier}

theorem map_normalize_of_parsed
    (h : List.Forall₂ (fun candidate identifier => parse candidate = .ok identifier) candidates identifiers) :
    candidates.map normalize = identifiers.map fun identifier => .ok identifier.text := by
  induction h with
  | nil => rfl
  | cons hparse _ ih => rw [List.map_cons, List.map_cons, ih, parse_eq_ok_iff.1 hparse]

theorem seesCanonical_foldl {μ : Type} {insert : μ → Identifier × Nat → μ} {start : μ} (find : String → μ → Option Nat)
    (hparsed : List.Forall₂ (fun candidate identifier => parse candidate = .ok identifier) candidates identifiers)
    (hstart : ∀ raw, find raw start = none)
    (hinsert : ∀ raw map pair, find raw (insert map pair) = if pair.1.text = raw then some pair.2 else find raw map) :
    SeesCanonical candidates fun raw => find raw (identifiers.zipIdx.foldl insert start) := by
  refine .of_found fun {raw place} => ?_
  have hholds : ∀ place, HoldsAt (fun pair : Identifier × Nat => pair.1.text = raw) identifiers.zipIdx place ↔
      HoldsAt (fun candidate => normalize candidate = .ok raw) candidates place := by
    intro place
    rw [← holdsAt_map (q := fun identifier : Identifier => identifier.text = raw) (f := Prod.fst), List.zipIdx_map_fst,
      ← holdsAt_map (q := fun result => result = .ok raw) (f := normalize), map_normalize_of_parsed hparsed, holdsAt_map]
    simp only [Except.ok.injEq]
  have hnumbered : ∀ {pair : Identifier × Nat} {place : Nat}, identifiers.zipIdx[place]? = some pair → pair.2 = place := by
    intro pair place hpair
    rw [List.getElem?_zipIdx, Option.map_eq_some_iff] at hpair
    obtain ⟨identifier, -, rfl⟩ := hpair
    exact Nat.zero_add place
  rw [find_foldl_eq_some_iff (find raw) (hstart raw) (hinsert raw), ← isLast_congr hholds]
  constructor
  · rintro ⟨found, pair, hpair, rfl, hlast⟩
    rwa [hnumbered hpair]
  · intro hlast
    obtain ⟨pair, hpair, -⟩ := hlast.1
    exact ⟨place, pair, hpair, hnumbered hpair, hlast⟩

theorem seesCanonical_ofPlaces
    (hparsed : List.Forall₂ (fun candidate identifier => parse candidate = .ok identifier) candidates identifiers) :
    SeesCanonical candidates (IdentifierMap.ofPlaces identifiers).find? :=
  seesCanonical_foldl (fun raw (map : IdentifierMap Nat) => map.find? raw) hparsed IdentifierMap.find?_empty
    fun raw map pair => map.find?_insert pair.1 pair.2 raw

theorem seesCanonical_buckets (lead : UInt64 → Nat)
    (hparsed : List.Forall₂ (fun candidate identifier => parse candidate = .ok identifier) candidates identifiers) :
    SeesCanonical candidates ((Buckets.fill lead identifiers.zipIdx).search text) :=
  seesCanonical_foldl (fun raw (buckets : Buckets Identifier Nat) => buckets.search text raw) hparsed (Buckets.search_empty lead)
    fun raw buckets pair => Buckets.search_insert borrows_text buckets pair.1 pair.2 raw

end Places

end Identifier

/-! ### The index of a registry -/

namespace Snapshot.Coherent

variable {snapshot : Snapshot}

theorem eq_of_text_eq (h : snapshot.Coherent) {entry other : Descriptor} (hentry : entry ∈ snapshot.table)
    (hother : other ∈ snapshot.table) (hsame : entry.identifier.text = other.identifier.text) : entry = other :=
  List.inj_on_of_nodup_map h.identifiers_nodup hentry hother (Identifier.ext hsame)

/-- A table keyed by the identifiers themselves finds what the index of the snapshot finds. -/
theorem search_eq (h : snapshot.Coherent) (lead : UInt64 → Nat) (raw : String) :
    (Buckets.fill lead (snapshot.table.map fun entry => (entry.identifier, entry))).search Identifier.text raw =
      snapshot.findIdentifier? raw := by
  ext entry
  rw [h.findIdentifier?_iff, Buckets.search_fill Identifier.borrows_text]
  have hholds : ∀ place, HoldsAt (fun pair : Identifier × Descriptor => pair.1.text = raw)
      (snapshot.table.map fun entry => (entry.identifier, entry)) place ↔
        HoldsAt (fun entry => entry.identifier.text = raw) snapshot.table place := fun _ => holdsAt_map
  simp only [isLast_congr hholds, List.getElem?_map, Option.map_eq_some_iff]
  constructor
  · rintro ⟨place, -, ⟨other, hother, rfl⟩, rfl, hlast⟩
    obtain ⟨found, hfound, hraw⟩ := hlast.1
    obtain rfl := Option.some.inj (hother.symm.trans hfound)
    exact ⟨List.mem_of_getElem? hother, hraw⟩
  · rintro ⟨hmem, hraw⟩
    obtain ⟨place, hplace⟩ := List.mem_iff_getElem?.1 hmem
    have hentry : HoldsAt (fun entry : Descriptor => entry.identifier.text = raw) snapshot.table place := ⟨entry, hplace, hraw⟩
    obtain ⟨last, hlast⟩ := hentry.exists_isLast
    obtain ⟨found, hfound, hsame⟩ := hlast.1
    obtain rfl := h.eq_of_text_eq (List.mem_of_getElem? hfound) hmem (hsame.trans hraw.symm)
    exact ⟨last, _, ⟨found, hfound, rfl⟩, rfl, hlast⟩

end Snapshot.Coherent

/-! ### Lookups -/

namespace Identifier

/-- Keys are compared and hashed as their texts are. So a plain text is as good as the key that lends it, and nothing is found under a text that is not canonical. -/
theorem lookups_by_raw_text :
    Borrows text ∧
      (∀ candidates, (∀ candidate ∈ candidates, ∃ identifier, parse candidate = .ok identifier) →
        ∃ identifiers, parseAll candidates = .ok identifiers ∧
          SeesCanonical candidates (IdentifierMap.ofPlaces identifiers).find? ∧
          ∀ lead, SeesCanonical candidates ((Buckets.fill lead identifiers.zipIdx).search text)) ∧
      ∀ (table : TypeTable) (registry : Registry), registry.Reachable table → ∀ raw,
        (∀ lead, (Buckets.fill lead (registry.snapshot.table.map fun entry => (entry.identifier, entry))).search text raw =
          registry.snapshot.findIdentifier? raw) ∧
        (normalize raw ≠ .ok raw → registry.snapshot.findIdentifier? raw = none) := by
  refine ⟨borrows_text, fun candidates hall => ?_, fun table registry hreachable raw => ⟨fun lead => ?_, fun hraw => ?_⟩⟩
  · obtain ⟨identifiers, hparse, hparsed⟩ := parseAllFrom_of_forall hall 0
    exact ⟨identifiers, hparse, seesCanonical_ofPlaces hparsed, fun lead => seesCanonical_buckets lead hparsed⟩
  · exact hreachable.coherent.search_eq lead raw
  · exact Option.eq_none_iff_forall_ne_some.2 fun entry hentry => hraw (hreachable.coherent.canonical hentry)

def spellings : List String :=
  ["A7D0E3F2-5B86-4C19-8E2D-9F1A6B3C5D33", "F1A3B5C7-D9E0-4F12-A345-6789ABCDEF88", "a7d0e3f2-5b86-4c19-8e2d-9f1a6b3c5d33"]

/-- The first place is overwritten by another spelling, and the place of the capital spelling is found under the small one. -/
theorem lookups_by_raw_text_capitals :
    parseAll spellings = .ok [cancelled, adjusted, cancelled] ∧
      (IdentifierMap.ofPlaces [cancelled, adjusted, cancelled]).find? "a7d0e3f2-5b86-4c19-8e2d-9f1a6b3c5d33" = some 2 ∧
      (IdentifierMap.ofPlaces [cancelled, adjusted, cancelled]).find? "f1a3b5c7-d9e0-4f12-a345-6789abcdef88" = some 1 ∧
      (IdentifierMap.ofPlaces [cancelled, adjusted, cancelled]).find? "F1A3B5C7-D9E0-4F12-A345-6789ABCDEF88" = none ∧
      ((Call.register .event (.value 0) "F1A3B5C7-D9E0-4F12-A345-6789ABCDEF88").answer Concurrent.namesakes
        (Registry.create 0 "main")).2.snapshot.findIdentifier? "F1A3B5C7-D9E0-4F12-A345-6789ABCDEF88" = none := by
  have hfirst : parse "A7D0E3F2-5B86-4C19-8E2D-9F1A6B3C5D33" = .ok cancelled := parse_eq_ok_iff.2 (by decide)
  have hsecond : parse "F1A3B5C7-D9E0-4F12-A345-6789ABCDEF88" = .ok adjusted := parse_eq_ok_iff.2 (by decide)
  have hthird : parse "a7d0e3f2-5b86-4c19-8e2d-9f1a6b3c5d33" = .ok cancelled := parse_eq_ok_iff.2 (by decide)
  have hall : parseAll spellings = .ok [cancelled, adjusted, cancelled] := by
    simp only [parseAll, spellings, parseAllFrom, hfirst, hsecond, hthird]
  obtain ⟨-, hlists, hregistries⟩ := lookups_by_raw_text
  obtain ⟨identifiers, hparse, hsees, -⟩ := hlists spellings (by simp [spellings, hfirst, hsecond, hthird])
  obtain rfl := Except.ok.inj (hparse.symm.trans hall)
  refine ⟨hall, hsees.found_iff.2 ?_, hsees.found_iff.2 ?_, hsees.capital (c := 'F') (by decide) (by decide), ?_⟩
  · exact ⟨⟨_, rfl, by decide⟩, fun later hlater hholds => absurd hholds.lt_length (Nat.not_lt_of_le hlater)⟩
  · refine ⟨⟨_, rfl, by decide⟩, fun later hlater hholds => ?_⟩
    obtain rfl : later = 2 := Nat.le_antisymm (Nat.le_of_lt_succ hholds.lt_length) hlater
    obtain ⟨candidate, hcandidate, hother⟩ := hholds
    obtain rfl : "a7d0e3f2-5b86-4c19-8e2d-9f1a6b3c5d33" = candidate := Option.some.inj hcandidate
    exact absurd hother (by decide)
  · exact (hregistries _ _ (.answer _ (.create 0 "main")) _).2 (by decide)

end Identifier

end MessageCatalog
