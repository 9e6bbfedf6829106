import MessageCatalog.Source.Fragment

/-!
# Generics

The parameters of an item and the predicates on them, as they are declared.
-/

namespace MessageCatalog.Source

inductive Parameter where
  /-- The span reaches from the first attribute to the last bound. -/
  | lifetime (attributes : Fragment) (name : String) (bounds : Fragment) (span : Span)
  | type (attributes : Fragment) (name : String) (bounds : Fragment) (default? : Option Fragment)
  | const (attributes : Fragment) (name : String) (ascribed : Fragment) (default? : Option Fragment)
  deriving Repr

namespace Parameter

def name : Parameter → String
  | lifetime _ name _ _ => name
  | type _ name _ _ => name
  | const _ name _ _ => name

def isLifetime : Parameter → Bool
  | lifetime _ _ _ _ => true
  | _ => false

def typeName? : Parameter → Option String
  | type _ name _ _ => some name
  | _ => none

def lifetimeSpan? : Parameter → Option Span
  | lifetime _ _ _ span => some span
  | _ => none

/-- A colon and the bounds, if there are any. -/
def boundsFragment (bounds : Fragment) : Fragment := if bounds.isEmpty then [] else Piece.ofText ":" :: bounds

def head : Parameter → Fragment
  | lifetime attributes name bounds _ => attributes ++ Piece.ofText name :: boundsFragment bounds
  | type attributes name bounds _ => attributes ++ Piece.ofText name :: boundsFragment bounds
  | const attributes name ascribed _ => attributes ++ Fragment.ofTexts ["const", name, ":"] ++ ascribed

def default? : Parameter → Option Fragment
  | lifetime _ _ _ _ => none
  | type _ _ _ default? => default?
  | const _ _ _ default? => default?

def fragment (parameter : Parameter) : Fragment :=
  parameter.head ++ match parameter.default? with
    | some default => Piece.ofText "=" :: default
    | none => []

/-- Parameters in angle brackets, the lifetimes before the others, or nothing for an empty list. -/
def angled (parameters : Separated Parameter) : Fragment :=
  if parameters.items.isEmpty then []
  else Piece.ofText "<" :: (parameters.map fun parameter => (parameter.isLifetime, parameter.fragment)).chosenFirst ++
    [Piece.ofText ">"]

end Parameter

/-- The predicates after the word that opens them, or nothing if there are none. -/
def whereClause (predicates : Separated Fragment) : Fragment :=
  if predicates.items.isEmpty then [] else Piece.ofText "where" :: predicates.fragment ","

structure Generics where
  parameters : Separated Parameter := Separated.empty
  predicates : Separated Fragment := Separated.empty
  deriving Repr

namespace Generics

def typeNames (generics : Generics) : List String := generics.parameters.items.filterMap Parameter.typeName?

def firstLifetime? (generics : Generics) : Option Span := generics.parameters.items.findSome? Parameter.lifetimeSpan?

end Generics

end MessageCatalog.Source
