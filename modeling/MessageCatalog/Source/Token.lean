/-!
# Tokens of program text

Program text is a list of tokens: words, lifetimes, punctuation marks, literals, and groups between matching delimiters. Each token knows the place in the text that it came from.
-/

namespace MessageCatalog.Source

inductive Delimiter where
  | parenthesis
  | bracket
  | brace
  deriving DecidableEq, Repr

/-- A stretch of the text, in characters from its beginning. -/
structure Span where
  start : Nat
  stop : Nat
  deriving DecidableEq, Repr

/-- From the beginning of one stretch to the end of another. -/
def Span.to (first last : Span) : Span := ⟨first.start, last.stop⟩

def Span.slice (span : Span) (text : String) : String :=
  String.ofList ((text.toList.drop span.start).take (span.stop - span.start))

inductive LiteralKind where
  | string
  | byteString
  | cString
  | byte
  | character
  | decimal
  | integer
  /-- It stands where no literal could be read. -/
  | damaged
  deriving DecidableEq, Repr

inductive Token where
  /-- An identifier or a keyword. A raw one keeps its mark. -/
  | word (text : String) (span : Span)
  /-- A lifetime with its quote. -/
  | lifetime (text : String) (span : Span)
  /-- One character, and whether another mark follows without a blank. -/
  | mark (character : Char) (joint : Bool) (span : Span)
  | literal (kind : LiteralKind) (text : String) (span : Span)
  | group (delimiter : Delimiter) (body : List Token) (span : Span)
  deriving Repr

namespace Token

def span : Token → Span
  | word _ span => span
  | lifetime _ span => span
  | mark _ _ span => span
  | literal _ _ span => span
  | group _ _ span => span

end Token

end MessageCatalog.Source
