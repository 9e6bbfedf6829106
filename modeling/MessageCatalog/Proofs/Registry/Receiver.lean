import MessageCatalog.Proofs.Registry.Effect

/-!
# Types that refer to others

A box or a shared handle is refused, and the refusal names the type that it refers to. This is the type one layer further in and need not be a value: a box around a box is told to register a box. The type that is named can be registered exactly if there was one layer only, `isAcceptable_iff`. It always has a layer less, so an application that heeds every refusal comes to the value in the end, after as many refusals as there are layers, `heeds_core`.
-/

namespace MessageCatalog

/-! ### Layers -/

namespace NativeType

/-- How many boxes and shared handles there are around the value. -/
def layers : NativeType → Nat
  | value _ => 0
  | boxed inner => inner.layers + 1
  | shared inner => inner.layers + 1

/-- The value that they are around. -/
def core : NativeType → NativeType
  | value index => value index
  | boxed inner => inner.core
  | shared inner => inner.core

variable {type referent : NativeType}

theorem isValue_iff_layers_eq_zero : type.IsValue ↔ type.layers = 0 := by
  cases type <;> simp [IsValue, referent?, layers]

theorem isValue_core (type : NativeType) : type.core.IsValue := by
  induction type with
  | value index => rfl
  | boxed inner ih => exact ih
  | shared inner ih => exact ih

theorem exists_referent (h : ¬ type.IsValue) : ∃ referent, type.referent? = some referent :=
  Option.ne_none_iff_exists'.1 h

/-- What a type refers to is one layer further in, around the same value. -/
theorem layers_of_referent? (h : type.referent? = some referent) :
    type.layers = referent.layers + 1 ∧ type.core = referent.core := by
  cases type with
  | value index => exact nomatch h
  | boxed inner =>
    obtain rfl : inner = referent := Option.some.inj h
    exact ⟨rfl, rfl⟩
  | shared inner =>
    obtain rfl : inner = referent := Option.some.inj h
    exact ⟨rfl, rfl⟩

end NativeType

/-! ### Refusals -/

namespace Registry

variable {table : TypeTable} {kind : MessageKind} {type referent : NativeType} {text : String} {identifier : Identifier}

theorem register_of_referent? (htext : Identifier.parse text = .ok identifier) (h : type.referent? = some referent)
    (kind : MessageKind) (registry : Registry) :
    registry.register table kind type text =
      (.error (.receiverMismatch (table.name type) (table.name referent)), registry) :=
  register_of_refused (prepare_of_referent htext h)

/-- No registration of the type is ever refused because the type refers to another one. -/
def IsAcceptable (table : TypeTable) (type : NativeType) : Prop :=
  ∀ (registry : Registry) (kind : MessageKind) (text messageType referent : String),
    (registry.register table kind type text).1 ≠ .error (.receiverMismatch messageType referent)

theorem prepare_ne_of_isValue (h : type.IsValue) (text messageType referent : String) :
    prepare table type text ≠ .error (.receiverMismatch messageType referent) := by
  cases hparse : Identifier.parse text with
  | error cause =>
    rw [prepare_of_malformed hparse]
    simp
  | ok identifier =>
    rw [prepare_of_value hparse h]
    simp

theorem conflict?_ne (snapshot : Snapshot) (entry : Descriptor) (messageType referent : String) :
    snapshot.conflict? entry ≠ some (.receiverMismatch messageType referent) := by
  unfold Snapshot.conflict?
  split
  · split <;> simp
  · split <;> simp

theorem isAcceptable_of_isValue (h : type.IsValue) : IsAcceptable table type := by
  intro registry kind text messageType referent hresult
  rcases register_cases table kind type text registry with
    ⟨error, hprepare, hregister⟩ | ⟨entry, error, -, hconflict, hregister⟩ | ⟨entry, -, -, hregister⟩
  · rw [hregister, Except.error.injEq] at hresult
    exact prepare_ne_of_isValue h text messageType referent (hresult ▸ hprepare)
  · rw [hregister, Except.error.injEq] at hresult
    exact conflict?_ne registry.snapshot entry messageType referent (hresult ▸ hconflict)
  · rw [hregister] at hresult
    exact nomatch hresult

/-- A type can be registered if it is a value, and only then. -/
theorem isAcceptable_iff (htext : Identifier.parse text = .ok identifier) : IsAcceptable table type ↔ type.layers = 0 := by
  rw [← NativeType.isValue_iff_layers_eq_zero]
  constructor
  · intro h
    cases hreferent : type.referent? with
    | none => exact hreferent
    | some referent =>
      exact absurd (congrArg Prod.fst (register_of_referent? htext hreferent .command (create 0 ""))) (h _ _ _ _ _)
  · exact isAcceptable_of_isValue

/-! ### Heeding refusals -/

/-- Refused for what its type refers to so many times, and always trying the type that the refusal names, an application comes from the first type to the last. -/
inductive Heeds (table : TypeTable) (registry : Registry) (kind : MessageKind) (text : String) :
    NativeType → Nat → NativeType → Prop where
  | stay (type : NativeType) : Heeds table registry kind text type 0 type
  | heed {type referent last : NativeType} {count : Nat} : type.referent? = some referent →
      registry.register table kind type text =
        (.error (.receiverMismatch (table.name type) (table.name referent)), registry) →
      Heeds table registry kind text referent count last → Heeds table registry kind text type (count + 1) last

theorem heeds_core (table : TypeTable) (registry : Registry) (kind : MessageKind) (type : NativeType)
    (htext : Identifier.parse text = .ok identifier) : Heeds table registry kind text type type.layers type.core := by
  induction type with
  | value index => exact .stay _
  | boxed inner ih => exact .heed rfl (register_of_referent? htext rfl kind registry) ih
  | shared inner ih => exact .heed rfl (register_of_referent? htext rfl kind registry) ih

/-- A type that refers to another one is refused, whatever is registered, and nothing is reported. The type that the refusal names can be registered if there is one layer around the value, and is refused in its turn if there are more; whoever heeds all refusals is refused once for each layer and comes to a type that can be registered. -/
theorem register_of_not_isValue (table : TypeTable) (registry : Registry) (kind : MessageKind)
    (htype : ¬ type.IsValue) (htext : Identifier.parse text = .ok identifier) :
    (∃ referent, type.referent? = some referent ∧
        registry.register table kind type text =
          (.error (.receiverMismatch (table.name type) (table.name referent)), registry) ∧
        (IsAcceptable table referent ↔ type.layers = 1)) ∧
      Heeds table registry kind text type type.layers type.core ∧ IsAcceptable table type.core := by
  obtain ⟨referent, hreferent⟩ := NativeType.exists_referent htype
  refine ⟨⟨referent, hreferent, register_of_referent? htext hreferent kind registry, ?_⟩,
    heeds_core table registry kind type htext, isAcceptable_of_isValue type.isValue_core⟩
  rw [isAcceptable_iff htext, (NativeType.layers_of_referent? hreferent).1, Nat.succ_inj]

/-- A name that shows the layers around the value. -/
def layeredName : NativeType → String
  | .value _ => "Order"
  | .boxed inner => "Box<" ++ layeredName inner ++ ">"
  | .shared inner => "Arc<" ++ layeredName inner ++ ">"

def layered : TypeTable := ⟨layeredName, fun _ => "Order"⟩

def orderIdentifier : Identifier := ⟨"4e1b2a0c-9f51-4d3e-b0b7-6b9c1f0e2a11", rfl⟩

theorem register_of_not_isValue_thrice :
    ¬ (NativeType.shared (.boxed (.boxed (.value 0)))).IsValue ∧
      Identifier.parse orderIdentifier.text = .ok orderIdentifier ∧
      Heeds layered (create 0 "main") .command orderIdentifier.text (.shared (.boxed (.boxed (.value 0)))) 3 (.value 0) := by
  have htype : ¬ (NativeType.shared (.boxed (.boxed (.value 0)))).IsValue := by decide
  have htext := Identifier.parse_text orderIdentifier
  exact ⟨htype, htext, (register_of_not_isValue layered (create 0 "main") .command htype htext).2.1⟩

/-- The refusal of a box around a box names no value, and the box that it names is refused in its turn. -/
theorem not_isValue_of_boxed_twice :
    Identifier.parse orderIdentifier.text = .ok orderIdentifier ∧
      (¬ ∃ referent : NativeType, referent.IsValue ∧
        ((create 0 "main").register layered .command (.boxed (.boxed (.value 0))) orderIdentifier.text).1 =
          .error (.receiverMismatch "Box<Box<Order>>" (layered.name referent))) ∧
      ((create 0 "main").register layered .command (.boxed (.boxed (.value 0))) orderIdentifier.text).1 =
        .error (.receiverMismatch "Box<Box<Order>>" "Box<Order>") ∧
      ((create 0 "main").register layered .command (.boxed (.value 0)) orderIdentifier.text).1 =
        .error (.receiverMismatch "Box<Order>" "Order") := by
  have htext := Identifier.parse_text orderIdentifier
  have hrefused : ((create 0 "main").register layered .command (.boxed (.boxed (.value 0))) orderIdentifier.text).1 =
      .error (.receiverMismatch "Box<Box<Order>>" "Box<Order>") := by
    rw [register_of_referent? htext rfl]
    rfl
  refine ⟨htext, ?_, hrefused, ?_⟩
  · rintro ⟨referent, hvalue, hnamed⟩
    obtain ⟨index, rfl⟩ := NativeType.isValue_iff.1 hvalue
    have hname : "Box<Order>" = "Order" :=
      (RegisterError.receiverMismatch.inj (Except.error.inj (hrefused.symm.trans hnamed))).2
    exact absurd hname (by decide)
  · rw [register_of_referent? htext rfl]
    rfl

end Registry

end MessageCatalog
