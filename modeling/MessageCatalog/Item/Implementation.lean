import MessageCatalog.Item.Basic

/-!
# Implementing a contract for an item

An implementation repeats the item's generics: its parameters without their defaults, the item applied to all of them, and its predicates. Then every type parameter is required to be sendable, shareable, printable and free of borrowed data. There is no implementation for a union, nor for an item that borrows.
-/

namespace MessageCatalog

open Source

inductive Refusal where
  | union
  /-- The item has a lifetime parameter: the first of them stands there. -/
  | borrows (parameter : Span)
  deriving DecidableEq, Repr

namespace Refusal

def message (contract : String) : Refusal → String
  | union => contract ++ " cannot be derived for unions"
  | borrows _ => "message types must be 'static and cannot borrow"

/-- The part of the item's text that the refusal is about. -/
def place (text : String) : Refusal → String
  | union => "union"
  | borrows parameter => parameter.slice text

end Refusal

/-- A marker implementation: it has nothing in its braces. -/
structure Implementation where
  contract : String
  item : String
  parameters : Separated Parameter
  predicates : Separated Fragment
  deriving Repr

namespace Implementation

/-- What a type parameter must satisfy so that the item is a message type for it. -/
def requirement (parameter : String) : Fragment :=
  Fragment.ofTexts
    [parameter, ":", "::", "core", "::", "marker", "::", "Send", "+", "::", "core", "::", "marker", "::", "Sync", "+",
     "::", "core", "::", "fmt", "::", "Debug", "+", "'static"]

/-- The parameters as the implementation declares them. -/
def declared (implementation : Implementation) : Separated Fragment := implementation.parameters.map Parameter.head

/-- The arguments that the item is applied to. -/
def arguments (implementation : Implementation) : Separated Fragment :=
  implementation.parameters.map fun parameter => [Piece.ofText parameter.name]

/-- A list in angle brackets, or nothing for an empty list. -/
def angled (list : Separated Fragment) : Fragment :=
  if list.items.isEmpty then [] else Piece.ofText "<" :: list.fragment "," ++ [Piece.ofText ">"]

def fragment (implementation : Implementation) : Fragment :=
  Piece.ofText "impl" :: angled implementation.declared ++
    Fragment.ofTexts ["::", "courier_registry", "::", implementation.contract, "for", implementation.item] ++
    angled implementation.arguments ++ whereClause implementation.predicates ++ [Piece.group .brace []]

def print (implementation : Implementation) : String := Fragment.print implementation.fragment

def withoutTrailing (implementation : Implementation) : Implementation :=
  { implementation with
    parameters := implementation.parameters.withoutTrailing
    predicates := implementation.predicates.withoutTrailing }

end Implementation

namespace Item

def implement (contract : String) (item : Item) : Except Refusal Implementation :=
  if item.kind = .union then .error .union
  else
    match item.generics.firstLifetime? with
    | some parameter => .error (.borrows parameter)
    | none =>
      .ok
        { contract
          item := item.name
          parameters := item.generics.parameters
          predicates := item.generics.predicates.append (item.generics.typeNames.map Implementation.requirement) }

structure Complaint where
  message : String
  place : String
  deriving DecidableEq, Repr

/-- What several contracts on one item come to: the implementations of those that it can have, and a complaint about each of the others. -/
structure Expansion where
  implementations : List Implementation
  complaints : List Complaint
  deriving Repr

/-- Implements contracts for the item of a text, in the order given. A complaint that was made is not made again, and the lists of the implementations lose their trailing commas. -/
def expand (contracts : List String) (text : String) (item : Item) : Expansion where
  implementations := contracts.filterMap fun contract =>
    match item.implement contract with
    | .ok implementation => some implementation.withoutTrailing
    | .error _ => none
  complaints := List.eraseDups (contracts.filterMap fun contract =>
    match item.implement contract with
    | .ok _ => none
    | .error refusal => some ⟨refusal.message contract, refusal.place text⟩)

end Item

end MessageCatalog
