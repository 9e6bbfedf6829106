import MessageCatalog.Source.Fragment

/-!
# Readers

A reader takes tokens from the front of a list, or refuses them, and writes what it took as a fragment. What is written is the regular form of what was read: the marks of an operator are joined to each other and to nothing else.
-/

namespace MessageCatalog.Source

structure Reading where
  rest : List Token
  written : Fragment := []

abbrev Reader := StateT Reading Option

/-! ### What lies ahead -/

/-- The tokens begin with these marks, joined to each other. -/
def beginsMarks : List Char → List Token → Bool
  | [], _ => true
  | [c], .mark found _ _ :: _ => c == found
  | c :: next :: more, .mark found joint _ :: rest => c == found && joint && beginsMarks (next :: more) rest
  | _, _ => false

def beginsMark (text : String) (tokens : List Token) : Bool := beginsMarks text.toList tokens

/-- One colon that is no half of a double one. -/
def beginsColon (tokens : List Token) : Bool := beginsMark ":" tokens && !beginsMark "::" tokens

def beginsKeyword (text : String) : List Token → Bool
  | .word found _ :: _ => found == text
  | _ => false

def beginsAnyWord : List Token → Bool
  | .word _ _ :: _ => true
  | _ => false

def keywords : List String :=
  ["_", "abstract", "as", "async", "await", "become", "box", "break", "const", "continue", "crate", "do", "dyn", "else",
   "enum", "extern", "false", "final", "fn", "for", "if", "impl", "in", "let", "loop", "macro", "match", "mod", "move",
   "mut", "override", "priv", "pub", "ref", "return", "Self", "self", "static", "struct", "super", "trait", "true", "try",
   "type", "typeof", "unsafe", "unsized", "use", "virtual", "where", "while", "yield"]

/-- A name: a word that is no keyword. -/
def beginsName : List Token → Bool
  | .word found _ :: _ => found ∉ keywords
  | _ => false

def beginsLifetime : List Token → Bool
  | .lifetime _ _ :: _ => true
  | _ => false

def beginsGroup (delimiter : Delimiter) : List Token → Bool
  | .group found _ _ :: _ => found == delimiter
  | _ => false

def LiteralKind.isNumber : LiteralKind → Bool
  | decimal => true
  | integer => true
  | _ => false

def beginsLiteral : List Token → Bool
  | .literal _ _ _ :: _ => true
  | .word found _ :: _ => found == "true" || found == "false"
  | .mark '-' _ _ :: .literal kind _ _ :: _ => kind.isNumber
  | _ => false

def beginsAnyGroup : List Token → Bool
  | .group _ _ _ :: _ => true
  | _ => false

def beginsString : List Token → Bool
  | .literal .string _ _ :: _ => true
  | _ => false

def beginsPathWord (tokens : List Token) : Bool :=
  beginsName tokens || beginsKeyword "super" tokens || beginsKeyword "self" tokens || beginsKeyword "Self" tokens ||
    beginsKeyword "crate" tokens

namespace Reader

variable {α β : Type}

def ahead : Reader (List Token) := do return (← get).rest

def write (piece : Piece) : Reader Unit := modify fun reading => { reading with written := reading.written ++ [piece] }

def writeAll (fragment : Fragment) : Reader Unit :=
  modify fun reading => { reading with written := reading.written ++ fragment }

/-- Takes tokens without writing them. -/
def skip (count : Nat) : Reader Unit := modify fun reading => { reading with rest := reading.rest.drop count }

/-- Goes on only if the tokens ahead are as they should be. -/
def require (condition : List Token → Bool) : Reader Unit := do
  if condition (← ahead) then return else failure

def mark (text : String) : Reader Unit := do
  require (beginsMark text)
  skip text.length
  write (.ofText text)

def keyword (text : String) : Reader Unit := do
  require (beginsKeyword text)
  skip 1
  write (.ofText text)

def anyWord : Reader String := do
  match ← ahead with
  | .word text _ :: _ => skip 1; write (.ofText text); return text
  | _ => failure

def name : Reader String := do
  require beginsName
  anyWord

def lifetime : Reader Unit := do
  match ← ahead with
  | .lifetime text _ :: _ => skip 1; write (.ofText text)
  | _ => failure

def literal : Reader Unit := do
  require beginsLiteral
  match ← ahead with
  | .literal _ text _ :: _ => skip 1; write (.ofText text)
  | .mark '-' _ _ :: .literal _ text _ :: _ => skip 2; write (.ofText "-"); write (.ofText text)
  | _ => let _ ← anyWord; return

def markIf (text : String) : Reader Bool := do
  if beginsMark text (← ahead) then mark text; return true else return false

/-- Takes one colon if it is there. Two colons are a mark of their own. -/
def colonIf : Reader Bool := do
  if beginsColon (← ahead) then mark ":"; return true else return false

def keywordIf (text : String) : Reader Bool := do
  if beginsKeyword text (← ahead) then keyword text; return true else return false

def group (delimiter : Delimiter) (inner : Reader α) : Reader α := fun reading =>
  match reading.rest with
  | .group found body _ :: rest =>
    if found = delimiter then
      match inner { rest := body } with
      | some (value, ⟨[], written⟩) =>
        some (value, { rest, written := reading.written ++ [.group delimiter written] })
      | _ => none
    else none
  | _ => none

/-- Takes a group of any kind as it was written. -/
def anyGroup : Reader Delimiter := do
  match ← ahead with
  | .group delimiter body span :: _ => skip 1; write (Token.group delimiter body span).piece; return delimiter
  | _ => failure

/-- Reads, and hands over what would have been written. -/
def captured (reader : Reader α) : Reader (α × Fragment) := fun reading =>
  match reader { rest := reading.rest } with
  | some (value, ⟨rest, written⟩) => some ((value, written), { reading with rest })
  | none => none

def silently (reader : Reader α) : Reader α := do return (← captured reader).1

/-- The tokens of a list that were taken when another list is left. -/
def taken (before after : List Token) : List Token := before.take (before.length - after.length)

/-- Reads, and writes the tokens as they stood in the text if the reader says so. -/
def verbatimIf (decide : α → Bool) (reader : Reader α) : Reader α := do
  let before ← ahead
  let (value, fragment) ← captured reader
  let after ← ahead
  writeAll (if decide value then Fragment.ofTokens (taken before after) else fragment)
  return value

/-- Reads, and writes the tokens as they stood in the text. -/
def verbatim (reader : Reader α) : Reader α := verbatimIf (fun _ => true) reader

/-- Items with a mark between any two, by at most so many. Without a first item a mark stands before the end. -/
def separatedFrom (stops : List Token → Bool) (between : String) (item : Reader α) : Nat → Reader (Separated α)
  | 0 => failure
  | fuel + 1 => do
    if stops (← ahead) then return ⟨[], true⟩
    let value ← item
    if ← markIf between then
      let more ← separatedFrom stops between item fuel
      return ⟨value :: more.items, more.trailing⟩
    return ⟨[value], false⟩

/-- Items with a mark between any two, up to what stops them or an item without a mark after it. -/
def separated (stops : List Token → Bool) (between : String) (item : Reader α) : Reader (Separated α) := do
  if stops (← ahead) then return Separated.empty
  separatedFrom stops between item ((← ahead).length + 1)

def commaSeparated (item : Reader α) : Reader (Separated α) := separated List.isEmpty "," item

def manyFrom (goesOn : List Token → Bool) (item : Reader Unit) : Nat → Reader Unit
  | 0 => return
  | fuel + 1 => do
    if goesOn (← ahead) then
      item
      manyFrom goesOn item fuel

/-- Items as long as the tokens ahead begin one. -/
def many (goesOn : List Token → Bool) (item : Reader Unit) : Reader Unit := do
  manyFrom goesOn item (← ahead).length

def iterateFrom {σ : Type} (step : σ → Reader (Option σ)) : Nat → σ → Reader σ
  | 0, state => return state
  | fuel + 1, state => do
    match ← step state with
    | some next => iterateFrom step fuel next
    | none => return state

/-- Steps from one state to the next until a step goes nowhere. Each step should take a token. -/
def iterate {σ : Type} (step : σ → Reader (Option σ)) (state : σ) : Reader σ := do
  iterateFrom step ((← ahead).length + 1) state

def whole (reader : Reader α) (tokens : List Token) : Option α :=
  match reader { rest := tokens } with
  | some (value, ⟨[], _⟩) => some value
  | _ => none

end Reader

end MessageCatalog.Source
