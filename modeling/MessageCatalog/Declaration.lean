import MessageCatalog.Registry.Register

/-!
# Declared types

A package may declare its message types instead of registering them. All declarations are registered together, in the ascending order of their identifiers as they were declared, under the same rules as any registration. The first refusal ends the work; what was registered before it stays.
-/

namespace MessageCatalog

structure Declaration where
  /-- As written at the place of the declaration. -/
  identifier : String
  kind : MessageKind
  type : NativeType
  package : String
  deriving DecidableEq, Repr

namespace Declaration

/-- The order in which declarations are registered. Those with the same text keep their order. -/
def inOrder (declarations : List Declaration) : List Declaration :=
  declarations.mergeSort fun left right => decide (left.identifier ≤ right.identifier)

def event (declaration : Declaration) (registry : Registry) : Event :=
  .declaring registry.label declaration.identifier declaration.kind declaration.package

theorem inOrder_perm (declarations : List Declaration) : (inOrder declarations).Perm declarations := List.mergeSort_perm _ _

theorem pairwise_inOrder (declarations : List Declaration) :
    (inOrder declarations).Pairwise fun left right => left.identifier ≤ right.identifier := by
  have hsorted : (inOrder declarations).Pairwise fun left right => decide (left.identifier ≤ right.identifier) = true := by
    apply List.pairwise_mergeSort
    · exact fun _ _ _ hleft hright => decide_eq_true (String.le_trans (of_decide_eq_true hleft) (of_decide_eq_true hright))
    · exact fun left right => by simpa using String.le_total left.identifier right.identifier
  exact hsorted.imp of_decide_eq_true

end Declaration

namespace Registry

/-- Registers declarations in the order given and counts them, up to the first refusal. -/
def registerEach (table : TypeTable) (declarations : List Declaration) (registry : Registry) :
    Except RegisterError Nat × Registry :=
  match declarations with
  | [] => (.ok 0, registry)
  | declaration :: rest =>
    match (registry.report (declaration.event registry)).register table declaration.kind declaration.type
        declaration.identifier with
    | (.error error, registry) => (.error error, registry)
    | (.ok _, registry) =>
      match registry.registerEach table rest with
      | (.error error, registry) => (.error error, registry)
      | (.ok count, registry) => (.ok (count + 1), registry)

/-- Registers every declaration, or stops at the first that is refused. -/
def registerDeclared (table : TypeTable) (declarations : List Declaration) (registry : Registry) :
    Except RegisterError Nat × Registry :=
  match registry.registerEach table (Declaration.inOrder declarations) with
  | (.error error, registry) => (.error error, registry)
  | (.ok count, registry) => (.ok count, registry.report (.declared registry.label count))

variable {table : TypeTable} {declaration : Declaration} {registry after : Registry}

theorem registerEach_of_refused {error : RegisterError} (rest : List Declaration)
    (h : (registry.report (declaration.event registry)).register table declaration.kind declaration.type
      declaration.identifier = (.error error, after)) :
    registry.registerEach table (declaration :: rest) = (.error error, after) := by
  rw [registerEach, h]

theorem registerEach_of_registered {entry : Descriptor} (rest : List Declaration)
    (h : (registry.report (declaration.event registry)).register table declaration.kind declaration.type
      declaration.identifier = (.ok entry, after)) :
    registry.registerEach table (declaration :: rest) =
      ((after.registerEach table rest).1.map (· + 1), (after.registerEach table rest).2) := by
  rw [registerEach, h]
  rcases hrest : after.registerEach table rest with ⟨count, last⟩
  cases count <;> simp [hrest, Except.map]

end Registry

end MessageCatalog
