import MessageCatalog.Item.Basic
import MessageCatalog.Source.Lexer
import MessageCatalog.Source.Phrase.All

/-!
# Reading an item

A text that declares one item and nothing else, with attributes and visibility in front of it. What is inside the item has to be well-formed, but is not kept.
-/

namespace MessageCatalog.Item

open Source Source.Reader

def kind? : String → Option ItemKind
  | "struct" => some .struct
  | "enum" => some .enumeration
  | "union" => some .union
  | _ => none

/-- What follows the parameters of an item: its predicates, and what is inside. -/
def rest (grammar : Grammar) : ItemKind → Reader (Option (Separated Fragment))
  | .struct => Phrase.structureRest grammar
  | .enumeration => Phrase.enumerationRest grammar
  | .union => Phrase.unionRest grammar

def reader (grammar : Grammar) : Reader Item := do
  Phrase.attributes grammar
  let _ ← Phrase.visibility
  let some kind := kind? (← anyWord) | failure
  let name ← Reader.name
  let parameters ← if beginsMark "<" (← ahead) then Phrase.parameters grammar true else pure Separated.empty
  let predicates ← rest grammar kind
  return { kind, name, generics := { parameters, predicates := predicates.getD Separated.empty } }

def ofText? (text : String) : Option Item := do
  let tokens ← Token.lex text
  whole (reader (Grammar.forLength text.length)) tokens

end MessageCatalog.Item
