import MessageCatalog.Source.Phrase.Definition
import MessageCatalog.Source.Phrase.Statement

/-!
# The grammar of all phrases

Every phrase holds others to some depth. No phrase is deeper than its text is long, so a grammar of a depth beyond the length of the text reads all that can be read.
-/

namespace MessageCatalog.Source.Grammar

def next (grammar : Grammar) : Grammar where
  type := Phrase.type grammar
  bound := Phrase.bound grammar
  expression := Phrase.expression grammar
  operand := Phrase.operand grammar
  early := Phrase.early grammar
  pattern := Phrase.pattern grammar
  onePattern := Phrase.onePattern grammar
  statements := Phrase.statements grammar
  definition := Phrase.definition grammar
  namedFields := Phrase.namedFields grammar
  imported := Phrase.imported grammar

def ofDepth : Nat → Grammar
  | 0 => nothing
  | depth + 1 => next (ofDepth depth)

/-- The grammar for a text of so many characters. Up to three levels may be passed for one of them. -/
def forLength (length : Nat) : Grammar := ofDepth (3 * length + 16)

end MessageCatalog.Source.Grammar
