import MessageCatalog.Source.Reader

/-!
# Phrases that hold each other

Types, expressions, patterns, statements and definitions may stand inside each other to any depth. A `Grammar` holds a reader for each of them. A phrase is written as a function of the grammar for what is inside it, and the grammars of all depths are made one from another.
-/

namespace MessageCatalog.Source

/-- What kind of type was read, as far as that decides what may follow it. -/
inductive TypeForm where
  /-- One word, perhaps with arguments in angle brackets. -/
  | name
  | path
  /-- One bound without a keyword in front. -/
  | bound
  | bounds
  | other
  deriving DecidableEq

namespace TypeForm

/-- It is a path that does not begin with a type. -/
def isPath : TypeForm → Bool
  | name => true
  | path => true
  | _ => false

end TypeForm

/-- Where a bound stands, which decides on the kinds of bounds that may stand there. -/
inductive BoundPlace where
  /-- In the type of an object: traits and lifetimes. -/
  | object
  /-- In a type that is known by its bounds only: also traits under a condition, and lists of captured names. -/
  | anonymous
  /-- In a declaration: also traits under a condition. -/
  | declared
  deriving DecidableEq

inductive BoundForm where
  | lifetime
  | captured
  | trait
  deriving DecidableEq

/-- What kind of expression was read, as far as that decides what may follow it. -/
inductive ExpressionForm where
  | range
  | comparison
  /-- It ends with a block and needs no mark after it as a statement. -/
  | block
  /-- A call of a rule with braces. -/
  | bracedCall
  /-- It is written as it stood in the text, its attributes included. -/
  | verbatim
  | other
  deriving DecidableEq

inductive PatternForm where
  /-- A range without one of its ends. -/
  | halfRange
  /-- It is written as it stood in the text. -/
  | verbatim
  | other
  deriving DecidableEq

/-- Readers for the phrases inside a phrase. -/
structure Grammar where
  /-- A type. The flag allows bounds joined by plus. -/
  type : Bool → Reader TypeForm
  bound : BoundPlace → Reader BoundForm
  /-- An expression. The flag allows a structure after a bare path. -/
  expression : Bool → Reader ExpressionForm
  /-- An expression without binary operators. -/
  operand : Bool → Reader ExpressionForm
  /-- An expression that ends where a statement may: the form of the operand that it begins with, and its own. -/
  early : Reader (ExpressionForm × ExpressionForm)
  pattern : Reader PatternForm
  onePattern : Reader PatternForm
  statements : Reader Unit
  definition : Reader Unit
  namedFields : Reader Unit
  /-- What an import names: whether it has to be written as it stood. The flag allows a double colon in front. -/
  imported : Bool → Reader Bool

namespace Grammar

def nothing : Grammar where
  type _ := failure
  bound _ := failure
  expression _ := failure
  operand _ := failure
  early := failure
  pattern := failure
  onePattern := failure
  statements := failure
  definition := failure
  namedFields := failure
  imported _ := failure

/-- The statements of a block, with their braces. -/
def block (grammar : Grammar) : Reader Unit := Reader.group .brace grammar.statements

end Grammar

end MessageCatalog.Source
