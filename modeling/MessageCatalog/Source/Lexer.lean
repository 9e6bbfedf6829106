import MessageCatalog.Source.Literal
import MessageCatalog.Text.Blank
import MessageCatalog.Text.Quoted

/-!
# Reading tokens

Cuts a text into tokens. Blanks and comments separate tokens and are no tokens, but a documentation comment is read as the attribute that it stands for. A text with an unknown character, an unfinished literal or comment, or delimiters that do not match has no tokens at all.
-/

namespace MessageCatalog.Source

namespace Scan

def markCharacters : List Char := "~!@#$%^&*-=+|;:,<.>/?\x27".toList

/-- The text begins with a mark. A slash that opens a comment is none. -/
def beginsWithMark : List Char → Bool
  | '/' :: '/' :: _ => false
  | '/' :: '*' :: _ => false
  | c :: _ => c ∈ markCharacters
  | [] => false

/-- A comment of the block form with the comments in it, given how many are open. -/
def blockComment : Nat → Scan
  | depth, '/' :: '*' :: rest => blockComment (depth + 1) rest
  | depth, '*' :: '/' :: rest => if depth ≤ 1 then some rest else blockComment (depth - 1) rest
  | depth, _ :: rest => blockComment depth rest
  | _, [] => none

/-- The rest of the line and what follows it. The end of the line is not taken, its carriage return is. -/
def line : List Char → List Char × List Char
  | [] => ([], [])
  | '\n' :: rest => ([], '\n' :: rest)
  | '\r' :: '\n' :: rest => ([], '\n' :: rest)
  | c :: rest => let (taken, after) := line rest; (c :: taken, after)

/-- A blank, or a comment that documents nothing. -/
def blank : Scan
  | '/' :: '/' :: '/' :: '/' :: rest => some (line rest).2
  | '/' :: '/' :: '/' :: _ => none
  | '/' :: '/' :: '!' :: _ => none
  | '/' :: '/' :: rest => some (line rest).2
  | '/' :: '*' :: '*' :: '/' :: rest => some rest
  | '/' :: '*' :: '*' :: '*' :: rest => blockComment 0 ('/' :: '*' :: '*' :: '*' :: rest)
  | '/' :: '*' :: '*' :: _ => none
  | '/' :: '*' :: '!' :: _ => none
  | '/' :: '*' :: rest => blockComment 0 ('/' :: '*' :: rest)
  | c :: rest => if Text.isBlank c then some rest else none
  | [] => none

/-- The inside of a block comment that begins the text with three characters and ends with two. -/
def documentBlock (text : List Char) : Option (List Char × List Char) :=
  match blockComment 0 text with
  | some rest => some ((text.take (text.length - rest.length - 2)).drop 3, rest)
  | none => none

/-- A documentation comment: whether it is about what encloses it, its words, and what follows. -/
def document : List Char → Option (Bool × List Char × List Char)
  | '/' :: '/' :: '!' :: rest => let (words, after) := line rest; some (true, words, after)
  | '/' :: '*' :: '!' :: rest => (documentBlock ('/' :: '*' :: '!' :: rest)).map fun (words, after) => (true, words, after)
  | '/' :: '/' :: '/' :: '/' :: _ => none
  | '/' :: '/' :: '/' :: rest => let (words, after) := line rest; some (false, words, after)
  | '/' :: '*' :: '*' :: '*' :: _ => none
  | '/' :: '*' :: '*' :: rest => (documentBlock ('/' :: '*' :: '*' :: rest)).map fun (words, after) => (false, words, after)
  | _ => none

/-- No carriage return stands without a line feed after it. -/
def hasLoneReturn : List Char → Bool
  | [] => false
  | '\r' :: '\n' :: rest => hasLoneReturn rest
  | c :: rest => c == '\r' || hasLoneReturn rest

end Scan

namespace Token

/-- The attribute that a documentation comment stands for. -/
def ofDocument (inner : Bool) (words : List Char) (span : Span) : List Token :=
  let body :=
    [word "doc" span, mark '=' false span, literal .string (Text.literal words) span]
  mark '#' false span :: (if inner then [mark '!' false span] else []) ++ [group .bracket body span]

/-- A literal, a mark, a lifetime or a word, with what follows it. -/
def leaf (total : Nat) (text : List Char) : Option (Token × List Char) :=
  let spanTo (rest : List Char) : Span := ⟨total - text.length, total - rest.length⟩
  let textTo (rest : List Char) : String := String.ofList (text.take (text.length - rest.length))
  match Scan.literal text with
  | some (kind, rest) => some (literal kind (textTo rest) (spanTo rest), rest)
  | none =>
  match text with
  | [] => none
  | c :: rest =>
    if c = '\x27' then
      match Scan.word rest with
      | none => none
      | some after =>
        if after.head? = some '\x27' ∨ (after.head? = some '#' ∧ rest.take 2 ≠ ['r', '#']) then none
        else some (lifetime (textTo after) (spanTo after), after)
    else if Scan.beginsWithMark text then some (mark c (Scan.beginsWithMark rest) (spanTo rest), rest)
    else if ["r\x22", "r#\x22", "r##", "b\x22", "b\x27", "br\x22", "br#", "c\x22", "cr\x22", "cr#"].any
        fun opening => opening.toList.isPrefixOf text then none
    else
      match Scan.word text with
      | some after => some (word (textTo after) (spanTo after), after)
      | none => none

/-- What stands in a list of tokens for a literal that could not be read. -/
def damagedLiteral : String := "(/*ERROR*/)"

def opens? : Char → Option Delimiter
  | '(' => some .parenthesis
  | '[' => some .bracket
  | '\x7b' => some .brace
  | _ => none

def closes? : Char → Option Delimiter
  | ')' => some .parenthesis
  | ']' => some .bracket
  | '\x7d' => some .brace
  | _ => none

/-- A group that is open: its delimiter, where it began, and the tokens before it, last first. -/
structure Open where
  delimiter : Delimiter
  start : Nat
  before : List Token

/-- Reads the tokens of a text that is part of one of the given length, in at most so many steps. The tokens of the innermost open group are kept last first. -/
def lexFrom (total : Nat) : Nat → List Char → List Open → List Token → Option (List Token)
  | 0, _, _, _ => none
  | fuel + 1, text, groups, tokens =>
    match text with
    | [] => if groups.isEmpty then some tokens.reverse else none
    | c :: rest =>
      match Scan.blank text with
      | some after => lexFrom total fuel after groups tokens
      | none =>
      match Scan.document text with
      | some (inner, words, after) =>
        if Scan.hasLoneReturn words then none
        else
          let span := ⟨total - text.length, total - after.length⟩
          lexFrom total fuel after groups ((ofDocument inner words span).reverse ++ tokens)
      | none =>
      if damagedLiteral.toList.isPrefixOf text then
        let after := text.drop damagedLiteral.length
        let token := literal .damaged damagedLiteral ⟨total - text.length, total - after.length⟩
        lexFrom total fuel after groups (token :: tokens)
      else
      match opens? c with
      | some delimiter => lexFrom total fuel rest (⟨delimiter, total - text.length, tokens⟩ :: groups) []
      | none =>
      match closes? c with
      | some delimiter =>
        match groups with
        | [] => none
        | opened :: groups =>
          if opened.delimiter = delimiter then
            lexFrom total fuel rest groups
              (group delimiter tokens.reverse ⟨opened.start, total - rest.length⟩ :: opened.before)
          else none
      | none =>
      match leaf total text with
      | some (token, after) => lexFrom total fuel after groups (token :: tokens)
      | none => none

/-- The tokens of a text. A mark of byte order in front is no part of it. -/
def lex (text : String) : Option (List Token) :=
  let characters := match text.toList with
    | '\ufeff' :: rest => rest
    | characters => characters
  lexFrom text.toList.length (characters.length + 1) characters [] []

end Token

end MessageCatalog.Source
