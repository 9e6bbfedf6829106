import Mathlib.Data.List.Forall2
import MessageCatalog.Item.Implementation

/-!
# What a contract makes of an item

An item that is no union and has no lifetime parameter gets one implementation: every parameter in its place, declared as in the item but without a default, the item applied to all of them, and what they must satisfy. Unions and items that borrow are refused, and a union that borrows is refused as a union.

A parameter is either a lifetime or declared in an implementation in one way, `declares_iff`, so the parameters of an item can be declared just when none of them is a lifetime. That decides between an implementation and a refusal, and tells all that is written.
-/

namespace MessageCatalog.Item

open Source

/-! ### How an implementation is written -/

/-- A path from the root of all crates. -/
def absolutePath (segments : List String) : Fragment :=
  segments.flatMap fun segment => [Piece.ofText "::", Piece.ofText segment]

/-- With commas between, and another one after the last if there was one. -/
def enumerated (list : List Fragment) (trailing : Bool) : Fragment :=
  List.intercalate [Piece.ofText ","] list ++ if trailing then [Piece.ofText ","] else []

def bracketed (list : List Fragment) (trailing : Bool) : Fragment :=
  if list = [] then [] else [Piece.ofText "<"] ++ enumerated list trailing ++ [Piece.ofText ">"]

def conditional (predicates : List Fragment) (trailing : Bool) : Fragment :=
  if predicates = [] then [] else [Piece.ofText "where"] ++ enumerated predicates trailing

/-- What is asked of a type parameter. -/
def messageBounds : Fragment :=
  List.intercalate [Piece.ofText "+"]
    [absolutePath ["core", "marker", "Send"], absolutePath ["core", "marker", "Sync"], absolutePath ["core", "fmt", "Debug"],
      [Piece.ofText "'static"]]

/-- How a parameter is declared in an implementation. A lifetime is not. -/
inductive Declares : Parameter → Fragment → Prop where
  | type (attributes : Fragment) (name : String) (default? : Option Fragment) :
      Declares (.type attributes name [] default?) (attributes ++ [Piece.ofText name])
  | bounded (attributes : Fragment) (name : String) {bounds : Fragment} (default? : Option Fragment) : bounds ≠ [] →
      Declares (.type attributes name bounds default?) (attributes ++ [Piece.ofText name, Piece.ofText ":"] ++ bounds)
  | const (attributes : Fragment) (name : String) (ascribed : Fragment) (default? : Option Fragment) :
      Declares (.const attributes name ascribed default?)
        (attributes ++ [Piece.ofText "const", Piece.ofText name, Piece.ofText ":"] ++ ascribed)

/-- One predicate for each type parameter, in their order. -/
inductive Requires : List Parameter → List Fragment → Prop where
  | nil : Requires [] []
  | type {attributes bounds : Fragment} {name : String} {default? : Option Fragment} {parameters : List Parameter}
      {predicates : List Fragment} : Requires parameters predicates →
      Requires (.type attributes name bounds default? :: parameters)
        (([Piece.ofText name, Piece.ofText ":"] ++ messageBounds) :: predicates)
  | const {attributes ascribed : Fragment} {name : String} {default? : Option Fragment} {parameters : List Parameter}
      {predicates : List Fragment} : Requires parameters predicates →
      Requires (.const attributes name ascribed default? :: parameters) predicates

/-- The first lifetime parameter of the item stands there. -/
def FirstLifetime (item : Item) (span : Span) : Prop :=
  ∃ before attributes name bounds after,
    item.generics.parameters.items = before ++ .lifetime attributes name bounds span :: after ∧
    ∀ earlier ∈ before, earlier.isLifetime = false

def written (contract : String) (item : Item) (declarations requirements : List Fragment) : Fragment :=
  let parameters := item.generics.parameters
  let predicates := item.generics.predicates
  [Piece.ofText "impl"] ++ bracketed declarations parameters.trailing ++ absolutePath ["courier_registry", contract] ++
    [Piece.ofText "for", Piece.ofText item.name] ++
    bracketed (parameters.items.map fun parameter => [Piece.ofText parameter.name]) parameters.trailing ++
    conditional (predicates.items ++ requirements) (requirements = [] && predicates.trailing) ++ [Piece.group .brace []]

/-- What becomes of a contract for an item: a refusal, or what is written. -/
inductive Derives (contract : String) (item : Item) : Except Refusal Fragment → Prop where
  | union : item.kind = .union → Derives contract item (.error .union)
  | borrows {span : Span} : item.kind ≠ .union → FirstLifetime item span → Derives contract item (.error (.borrows span))
  | implements {declarations requirements : List Fragment} : item.kind ≠ .union →
      List.Forall₂ Declares item.generics.parameters.items declarations →
      Requires item.generics.parameters.items requirements →
      Derives contract item (.ok (written contract item declarations requirements))

/-! ### Lists in print -/

theorem join_eq {mark : String} {trailing : Bool} {list : List Fragment} (h : list ≠ []) : Fragment.join mark trailing list =
    List.intercalate [Piece.ofText mark] list ++ if trailing then [Piece.ofText mark] else [] := by
  induction list with
  | nil => exact absurd rfl h
  | cons fragment rest ih =>
    cases rest with
    | nil => simp [Fragment.join, List.intercalate]
    | cons next rest =>
      rw [Fragment.join, ih (List.cons_ne_nil next rest)]
      simp [List.intercalate]

theorem angled_eq (list : Separated Fragment) : Implementation.angled list = bracketed list.items list.trailing := by
  by_cases h : list.items = []
  · rw [Implementation.angled, bracketed, if_pos h, if_pos (List.isEmpty_iff.2 h)]
  · rw [Implementation.angled, bracketed, if_neg h, if_neg (mt List.isEmpty_iff.1 h), Separated.fragment, join_eq h]
    rfl

theorem whereClause_eq (list : Separated Fragment) : whereClause list = conditional list.items list.trailing := by
  by_cases h : list.items = []
  · rw [whereClause, conditional, if_pos h, if_pos (List.isEmpty_iff.2 h)]
  · rw [whereClause, conditional, if_neg h, if_neg (mt List.isEmpty_iff.1 h), Separated.fragment, join_eq h]
    rfl

/-! ### Parameters and what they require -/

theorem declares_iff {parameter : Parameter} {declaration : Fragment} :
    Declares parameter declaration ↔ parameter.isLifetime = false ∧ declaration = parameter.head := by
  constructor
  · rintro (⟨attributes, name, default?⟩ | ⟨attributes, name, default?, hbounds⟩ | ⟨attributes, name, ascribed, default?⟩)
    · exact ⟨rfl, rfl⟩
    · refine ⟨rfl, ?_⟩
      rw [Parameter.head, Parameter.boundsFragment, if_neg (mt List.isEmpty_iff.1 hbounds)]
      simp
    · exact ⟨rfl, by simp [Parameter.head, Fragment.ofTexts]⟩
  · rintro ⟨hlifetime, rfl⟩
    cases parameter with
    | lifetime => exact nomatch hlifetime
    | type attributes name bounds default? =>
      by_cases hbounds : bounds = []
      · subst hbounds
        exact .type attributes name default?
      · have hdeclares := Declares.bounded attributes name default? hbounds
        rw [Parameter.head, Parameter.boundsFragment, if_neg (mt List.isEmpty_iff.1 hbounds)]
        simpa using hdeclares
    | const attributes name ascribed default? =>
      have hdeclares := Declares.const attributes name ascribed default?
      simpa [Parameter.head, Fragment.ofTexts] using hdeclares

theorem forall₂_declares_iff {parameters : List Parameter} {declarations : List Fragment} :
    List.Forall₂ Declares parameters declarations ↔
      (∀ parameter ∈ parameters, parameter.isLifetime = false) ∧ declarations = parameters.map Parameter.head := by
  induction parameters generalizing declarations with
  | nil => simp
  | cons parameter rest ih =>
    rw [List.forall₂_cons_left_iff, List.forall_mem_cons, List.map_cons]
    simp only [declares_iff, ih]
    constructor
    · rintro ⟨_, _, ⟨hfirst, rfl⟩, ⟨hrest, rfl⟩, rfl⟩
      exact ⟨⟨hfirst, hrest⟩, rfl⟩
    · rintro ⟨⟨hfirst, hrest⟩, rfl⟩
      exact ⟨_, _, ⟨hfirst, rfl⟩, ⟨hrest, rfl⟩, rfl⟩

theorem requires_iff {parameters : List Parameter} {predicates : List Fragment} : Requires parameters predicates ↔
    (∀ parameter ∈ parameters, parameter.isLifetime = false) ∧
      predicates = (parameters.filterMap Parameter.typeName?).map Implementation.requirement := by
  constructor
  · intro h
    induction h with
    | nil => simp
    | type _ ih =>
      obtain ⟨hrest, rfl⟩ := ih
      exact ⟨List.forall_mem_cons.2 ⟨rfl, hrest⟩, rfl⟩
    | const _ ih =>
      obtain ⟨hrest, rfl⟩ := ih
      exact ⟨List.forall_mem_cons.2 ⟨rfl, hrest⟩, rfl⟩
  · rintro ⟨hall, rfl⟩
    induction parameters with
    | nil => exact .nil
    | cons parameter rest ih =>
      obtain ⟨hfirst, hrest⟩ := List.forall_mem_cons.1 hall
      cases parameter with
      | lifetime => exact nomatch hfirst
      | type => exact .type (ih hrest)
      | const => exact .const (ih hrest)

theorem lifetimeSpan?_eq_none_iff {parameter : Parameter} : parameter.lifetimeSpan? = none ↔ parameter.isLifetime = false := by
  cases parameter <;> simp [Parameter.lifetimeSpan?, Parameter.isLifetime]

theorem lifetimeSpan?_eq_some_iff {parameter : Parameter} {span : Span} :
    parameter.lifetimeSpan? = some span ↔ ∃ attributes name bounds, parameter = .lifetime attributes name bounds span := by
  cases parameter <;> simp [Parameter.lifetimeSpan?]

section Outcomes

variable {contract : String} {item : Item} {implementation : Implementation} {refusal : Refusal}

theorem firstLifetime?_eq_some_iff {span : Span} : item.generics.firstLifetime? = some span ↔ FirstLifetime item span := by
  rw [Generics.firstLifetime?, List.findSome?_eq_some_iff]
  simp only [lifetimeSpan?_eq_some_iff, lifetimeSpan?_eq_none_iff]
  constructor
  · rintro ⟨before, _, after, hsplit, ⟨attributes, name, bounds, rfl⟩, hbefore⟩
    exact ⟨before, attributes, name, bounds, after, hsplit, hbefore⟩
  · rintro ⟨before, attributes, name, bounds, after, hsplit, hbefore⟩
    exact ⟨before, _, after, hsplit, ⟨attributes, name, bounds, rfl⟩, hbefore⟩

theorem firstLifetime?_eq_none_iff :
    item.generics.firstLifetime? = none ↔ ∀ parameter ∈ item.generics.parameters.items, parameter.isLifetime = false := by
  simp only [Generics.firstLifetime?, List.findSome?_eq_none_iff, lifetimeSpan?_eq_none_iff]

/-! ### Outcomes -/

theorem implement_eq_union_iff : item.implement contract = .error .union ↔ item.kind = .union := by
  rw [implement]
  split_ifs with hkind
  · simp [hkind]
  · cases item.generics.firstLifetime? <;> simp [hkind]

theorem implement_eq_borrows_iff {span : Span} :
    item.implement contract = .error (.borrows span) ↔ item.kind ≠ .union ∧ FirstLifetime item span := by
  rw [implement, ← firstLifetime?_eq_some_iff]
  split_ifs with hkind
  · simp [hkind]
  · cases item.generics.firstLifetime? <;> simp [hkind]

theorem implement_eq_ok_iff : item.implement contract = .ok implementation ↔ item.kind ≠ .union ∧
    (∀ parameter ∈ item.generics.parameters.items, parameter.isLifetime = false) ∧
      implementation = ⟨contract, item.name, item.generics.parameters,
        item.generics.predicates.append (item.generics.typeNames.map Implementation.requirement)⟩ := by
  rw [implement, ← firstLifetime?_eq_none_iff]
  split_ifs with hkind
  · simp [hkind]
  · cases item.generics.firstLifetime? <;> simp [hkind, eq_comm]

theorem trailing_append (list : Separated Fragment) (more : List Fragment) :
    (list.append more).trailing = (more = [] && list.trailing) := by
  cases more <;> simp [Separated.append]

theorem fragment_of_implement (h : item.implement contract = .ok implementation) :
    implementation.fragment = written contract item (item.generics.parameters.items.map Parameter.head)
      (item.generics.typeNames.map Implementation.requirement) := by
  obtain ⟨-, -, rfl⟩ := implement_eq_ok_iff.1 h
  rw [Implementation.fragment, angled_eq, angled_eq, whereClause_eq, Separated.items_append, trailing_append]
  simp [written, Implementation.declared, Implementation.arguments, Separated.map, absolutePath, Fragment.ofTexts]

theorem derives_iff {outcome : Except Refusal Fragment} :
    (item.implement contract).map Implementation.fragment = outcome ↔ Derives contract item outcome := by
  constructor
  · rintro rfl
    cases himplement : item.implement contract with
    | error refusal =>
      cases refusal with
      | union => exact .union (implement_eq_union_iff.1 himplement)
      | borrows span =>
        obtain ⟨hkind, hfirst⟩ := implement_eq_borrows_iff.1 himplement
        exact .borrows hkind hfirst
    | ok implementation =>
      obtain ⟨hkind, hlifetimes, -⟩ := implement_eq_ok_iff.1 himplement
      rw [Except.map, fragment_of_implement himplement]
      exact .implements hkind (forall₂_declares_iff.2 ⟨hlifetimes, rfl⟩) (requires_iff.2 ⟨hlifetimes, rfl⟩)
  · rintro (hkind | ⟨hkind, hfirst⟩ | ⟨hkind, hdeclared, hrequired⟩)
    · rw [implement_eq_union_iff.2 hkind]
      rfl
    · rw [implement_eq_borrows_iff.2 ⟨hkind, hfirst⟩]
      rfl
    · obtain ⟨hlifetimes, rfl⟩ := forall₂_declares_iff.1 hdeclared
      obtain ⟨-, rfl⟩ := requires_iff.1 hrequired
      obtain ⟨implementation, himplement⟩ : ∃ implementation, item.implement contract = .ok implementation :=
        ⟨_, implement_eq_ok_iff.2 ⟨hkind, hlifetimes, rfl⟩⟩
      rw [himplement, Except.map, fragment_of_implement himplement]
      rfl

/-! ### Messages -/

/-- The two messages end in different letters, whatever the contract. -/
theorem union_message_ne (contract : String) :
    contract ++ " cannot be derived for unions" ≠ "message types must be 'static and cannot borrow" := by
  intro h
  have hlast := congrArg (fun message : String => message.toList.getLast?) h
  have hunion : " cannot be derived for unions".toList.getLast? = some 's' := by decide
  have hborrows : "message types must be 'static and cannot borrow".toList.getLast? = some 'w' := by decide
  rw [String.toList_append, List.getLast?_append, hunion, hborrows, Option.some_or] at hlast
  exact absurd hlast (by decide)

theorem union_message_iff : (∃ refusal, item.implement contract = .error refusal ∧
    refusal.message contract = contract ++ " cannot be derived for unions") ↔ item.kind = .union := by
  constructor
  · rintro ⟨refusal, himplement, hmessage⟩
    cases refusal with
    | union => exact implement_eq_union_iff.1 himplement
    | borrows span => exact absurd hmessage.symm (union_message_ne contract)
  · exact fun hkind => ⟨.union, implement_eq_union_iff.2 hkind, rfl⟩

theorem borrows_message_iff {text place : String} : (∃ refusal, item.implement contract = .error refusal ∧
    refusal.message contract = "message types must be 'static and cannot borrow" ∧ refusal.place text = place) ↔
      item.kind ≠ .union ∧ ∃ span, FirstLifetime item span ∧ span.slice text = place := by
  constructor
  · rintro ⟨refusal, himplement, hmessage, hplace⟩
    cases refusal with
    | union => exact absurd hmessage (union_message_ne contract)
    | borrows span =>
      obtain ⟨hkind, hfirst⟩ := implement_eq_borrows_iff.1 himplement
      exact ⟨hkind, span, hfirst, hplace⟩
  · rintro ⟨hkind, span, hfirst, hplace⟩
    exact ⟨.borrows span, implement_eq_borrows_iff.2 ⟨hkind, hfirst⟩, rfl, hplace⟩

/-! ### Expansion -/

theorem expand_singleton (contract text : String) (item : Item) :
    (∃ implementation, item.implement contract = .ok implementation ∧
        expand [contract] text item = ⟨[implementation.withoutTrailing], []⟩) ∨
      ∃ refusal, item.implement contract = .error refusal ∧
        expand [contract] text item = ⟨[], [⟨refusal.message contract, refusal.place text⟩]⟩ := by
  cases himplement : item.implement contract with
  | ok implementation => exact .inl ⟨implementation, rfl, by simp [expand, himplement]⟩
  | error refusal => exact .inr ⟨refusal, rfl, by simp [expand, himplement, List.eraseDups_cons]⟩

/-- What an item lacks it lacks for every contract. -/
theorem expand_all_or_none (contracts : List String) (text : String) (item : Item) :
    ((expand contracts text item).implementations.map Implementation.contract = contracts ∧
        (expand contracts text item).complaints = []) ∨
      (expand contracts text item).implementations = [] ∧
        ∀ contract ∈ contracts, ∃ refusal, item.implement contract = .error refusal ∧
          ⟨refusal.message contract, refusal.place text⟩ ∈ (expand contracts text item).complaints := by
  by_cases hable : item.kind ≠ .union ∧ ∀ parameter ∈ item.generics.parameters.items, parameter.isLifetime = false
  · have himplement := fun contract => implement_eq_ok_iff.2 ⟨hable.1, hable.2, rfl (a := Implementation.mk contract _ _ _)⟩
    left
    simp [expand, himplement, Implementation.withoutTrailing, Function.comp_def]
  · have hrefused : ∀ contract, ∃ refusal, item.implement contract = .error refusal := by
      intro contract
      cases himplement : item.implement contract with
      | error refusal => exact ⟨refusal, rfl⟩
      | ok implementation =>
        obtain ⟨hkind, hlifetimes, -⟩ := implement_eq_ok_iff.1 himplement
        exact absurd ⟨hkind, hlifetimes⟩ hable
    refine .inr ⟨List.filterMap_eq_nil_iff.2 fun contract _ => ?_, fun contract hcontract => ?_⟩
    · obtain ⟨refusal, himplement⟩ := hrefused contract
      rw [himplement]
    · obtain ⟨refusal, himplement⟩ := hrefused contract
      refine ⟨refusal, himplement, List.mem_eraseDups.2 (List.mem_filterMap.2 ⟨contract, hcontract, ?_⟩)⟩
      rw [himplement]

/-- A contract for an item comes to one implementation, which declares and names all parameters in their order and adds one predicate for each that is a type to the predicates of the item; or, for a union and otherwise for an item that borrows, to one complaint. -/
theorem derivation_of_contract (contract : String) (item : Item) :
    (∀ outcome, (item.implement contract).map Implementation.fragment = outcome ↔ Derives contract item outcome) ∧
      ((∃ refusal, item.implement contract = .error refusal ∧
          refusal.message contract = contract ++ " cannot be derived for unions") ↔ item.kind = .union) ∧
      (∀ text place, (∃ refusal, item.implement contract = .error refusal ∧
          refusal.message contract = "message types must be 'static and cannot borrow" ∧ refusal.place text = place) ↔
        item.kind ≠ .union ∧ ∃ span, FirstLifetime item span ∧ span.slice text = place) ∧
      ∀ text, (∃ implementation, item.implement contract = .ok implementation ∧
          expand [contract] text item = ⟨[implementation.withoutTrailing], []⟩) ∨
        ∃ refusal, item.implement contract = .error refusal ∧
          expand [contract] text item = ⟨[], [⟨refusal.message contract, refusal.place text⟩]⟩ :=
  ⟨fun _ => derives_iff, union_message_iff, fun _ _ => borrows_message_iff, fun text => expand_singleton contract text item⟩

end Outcomes

def envelope : Item where
  kind := .struct
  name := "Envelope"
  generics :=
    { parameters :=
        ⟨[.type [] "T" (Fragment.ofTexts ["Clone"]) (some (Fragment.ofTexts ["u8"])),
          .const [] "N" (Fragment.ofTexts ["usize"]) (some (Fragment.ofTexts ["4"])), .type [] "U" [] none], true⟩
      predicates := ⟨[Fragment.ofTexts ["T", ":", "Copy"]], true⟩ }

/-- Defaults are gone, bounds and commas are kept, and a constant is not required to be anything. -/
theorem derivation_of_contract_envelope : Derives "Event" envelope (.ok
    (Fragment.ofTexts
      ["impl", "<", "T", ":", "Clone", ",", "const", "N", ":", "usize", ",", "U", ",", ">", "::", "courier_registry", "::", "Event",
        "for", "Envelope", "<", "T", ",", "N", ",", "U", ",", ">", "where", "T", ":", "Copy", ",",
        "T", ":", "::", "core", "::", "marker", "::", "Send", "+", "::", "core", "::", "marker", "::", "Sync", "+",
        "::", "core", "::", "fmt", "::", "Debug", "+", "'static", ",",
        "U", ":", "::", "core", "::", "marker", "::", "Send", "+", "::", "core", "::", "marker", "::", "Sync", "+",
        "::", "core", "::", "fmt", "::", "Debug", "+", "'static"] ++ [Piece.group .brace []])) :=
  ((derivation_of_contract "Event" envelope).1 _).1 rfl

end MessageCatalog.Item
