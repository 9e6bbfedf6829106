import MessageCatalog.Source.Phrase.Expression

/-!
# Statements

A block is a list of statements: bindings, definitions, calls of rules with braces, and expressions. An expression needs a semicolon after it unless it is the last or ends with a block.
-/

namespace MessageCatalog.Source.Phrase

open Reader

inductive RuleStatement where
  /-- It gives a definition its name. -/
  | definition
  /-- It has braces and is all of the statement. -/
  | braced
  deriving DecidableEq

/-- The call of a rule that is more than an expression, if one lies ahead. -/
def ruleStatement? (tokens : List Token) : Option RuleStatement := do
  let ((), ⟨rest, _⟩) ← plainPath { rest := tokens }
  let next := rest.drop 1
  let after := next.drop 1
  if !beginsMark "!" rest then none
  else if beginsName next || beginsKeyword "try" next then some .definition
  else if beginsGroup .brace next && !(beginsMark "." after && !beginsMark ".." after) && !beginsMark "?" after then
    some .braced
  else none

def beginsDefinition (tokens : List Token) : Bool :=
  let rest := tokens.drop 1
  let begins (word : String) : Bool := beginsKeyword word tokens
  let next (word : String) : Bool := beginsKeyword word rest
  let qualifies (tokens : List Token) : Bool := ["unsafe", "extern", "fn"].any fun word => beginsKeyword word tokens
  ["pub", "extern", "use", "fn", "mod", "type", "struct", "enum", "trait", "impl", "macro"].any begins ||
    (begins "crate" && !beginsMark "::" rest) || (begins "static" && (next "mut" || beginsName rest)) ||
    (begins "const" && !(beginsGroup .brace rest || next "static" || (next "async" && !qualifies (tokens.drop 2)) ||
      next "move" || beginsMark "|" rest)) ||
    (begins "unsafe" && !beginsGroup .brace rest) || (begins "async" && qualifies rest) ||
    (begins "union" && beginsName rest) || (begins "auto" && next "trait") ||
    (begins "default" && (next "unsafe" || next "impl"))

/-- A binding of names. What is done when the pattern does not match may not follow a brace. -/
def letStatement (grammar : Grammar) : Reader Unit := do
  keyword "let"
  let _ ← onePattern grammar
  if ← markIf ":" then
    let _ ← grammar.type true
  if ← markIf "=" then
    let before ← ahead
    let _ ← grammar.expression true
    let after ← ahead
    let braced := match (taken before after).getLast? with
      | some (.group .brace _ _) => true
      | _ => false
    if !braced then
      if ← keywordIf "else" then grammar.block
  mark ";"

/-- One statement: whether another may follow it. -/
def statement (grammar : Grammar) : Reader Bool := do
  if ← markIf ";" then return true
  let reading ← get
  let ((), attributes) ← captured (attributes grammar)
  let tokens ← ahead
  let rule? := ruleStatement? tokens
  if rule? = some .braced then
    writeAll attributes
    plainPath
    let _ ← ruleCall
    let _ ← markIf ";"
    return true
  if beginsKeyword "let" tokens then
    writeAll attributes
    letStatement grammar
    return true
  if rule? = some .definition || beginsDefinition tokens then
    set reading
    grammar.definition
    return true
  let ((leading, form), fragment) ← captured grammar.early
  writeAll (attributed attributes fragment leading form)
  if ← markIf ";" then return true
  return form = .block || form = .bracedCall

/-- Statements, each able to end where the next begins. -/
def statements (grammar : Grammar) : Reader Unit := do
  let _ ← iterate (fun mayFollow => do
    if (← ahead).isEmpty then return none
    if !mayFollow then failure
    return some (← statement grammar)) true

end MessageCatalog.Source.Phrase
