import MessageCatalog.Source.Generics

/-!
# Items

A structure, an enumeration or a union, as far as a contract for it depends on its declaration: its name and its generics. Attributes, visibility and what is inside do not matter.
-/

namespace MessageCatalog

inductive ItemKind where
  | struct
  | enumeration
  | union
  deriving DecidableEq, Repr

structure Item where
  kind : ItemKind
  name : String
  generics : Source.Generics
  deriving Repr

end MessageCatalog
