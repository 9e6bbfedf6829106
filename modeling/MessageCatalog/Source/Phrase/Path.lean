import MessageCatalog.Source.Phrase.Attribute

/-!
# Paths

A path is a list of words with double colons between them. A word may have arguments in angle brackets. In an expression the angle brackets need a double colon in front. Where a path is a bound its last word may have arguments in parentheses, like a function.
-/

namespace MessageCatalog.Source.Phrase

open Reader

inductive ArgumentsForm where
  | absent
  /-- Nothing is between the brackets. They take so many pieces, with the double colon in front. -/
  | empty (pieces : Nat)
  | present
  deriving DecidableEq

/-- What was read as a path, as far as it matters to what may follow. -/
structure PathForm where
  qualified : Bool
  rooted : Bool
  plain : Bool
  segments : Nat
  last : ArgumentsForm

/-- A constant as an argument: a literal, a name, or a block. -/
def constArgument (grammar : Grammar) : Reader Unit := do
  let tokens ← ahead
  if beginsLiteral tokens then literal
  else if beginsName tokens then
    let _ ← name
  else body grammar

/-- Bounds of a declaration joined by plus, up to what stops them. -/
def bounds (grammar : Grammar) (stops : List Token → Bool) : Reader Unit := do
  let _ ← separated stops "+" (grammar.bound .declared)

/-- Bounds after a colon, if it is there. A colon without bounds is not written. -/
def boundsIf (grammar : Grammar) (stops : List Token → Bool) : Reader Bool := do
  if ← silently colonIf then
    let ((), fragment) ← captured (bounds grammar stops)
    if !fragment.isEmpty then writeAll (Piece.ofText ":" :: fragment)
    return true
  return false

/-- An argument in angle brackets: whether it is a lifetime. -/
def argument (grammar : Grammar) : Reader Bool := do
  let tokens ← ahead
  if beginsLifetime tokens && !beginsMark "+" (tokens.drop 1) then
    lifetime
    return true
  if beginsLiteral tokens || beginsGroup .brace tokens then
    constArgument grammar
    return false
  if (← grammar.type true) = .name then
    if ← markIf "=" then
      let tokens ← ahead
      if beginsLiteral tokens || beginsGroup .brace tokens then constArgument grammar
      else
        let _ ← grammar.type true
    else if ← markIf ":" then
      bounds grammar fun tokens => beginsMark "," tokens || beginsMark ">" tokens
  return false

/-- Arguments in angle brackets, written with the lifetimes first. -/
def angleArguments (grammar : Grammar) : Reader ArgumentsForm := do
  let colons ← markIf "::"
  mark "<"
  let arguments ← silently (separated (beginsMark ">") "," (captured (argument grammar)))
  writeAll arguments.chosenFirst
  mark ">"
  return if arguments.items.isEmpty then .empty (if colons then 3 else 2) else .present

def segment (grammar : Grammar) (inExpression : Bool) : Reader ArgumentsForm := do
  let tokens ← ahead
  if ["super", "self", "crate", "try"].any fun word => beginsKeyword word tokens then
    let _ ← anyWord
    return .absent
  require fun tokens => beginsKeyword "Self" tokens || beginsName tokens
  let _ ← anyWord
  let tokens ← ahead
  if (!inExpression && beginsMark "<" tokens && !beginsMark "<=" tokens) ||
      (beginsMark "::" tokens && beginsMark "<" (tokens.drop 2)) then
    return ← angleArguments grammar
  return .absent

/-- The words of a path after those that were read. A double colon in front of parentheses is left where it is. -/
def pathRest (grammar : Grammar) (inExpression : Bool) : PathForm → Reader PathForm :=
  iterate fun form => do
    let tokens ← ahead
    if beginsMark "::" tokens && (form.qualified || !beginsGroup .parenthesis (tokens.drop 2)) then
      mark "::"
      let last ← segment grammar inExpression
      return some { form with plain := form.plain && last = .absent, segments := form.segments + 1, last }
    return none

def unqualifiedPath (grammar : Grammar) (inExpression : Bool) : Reader PathForm := do
  let rooted ← markIf "::"
  let last ← segment grammar inExpression
  pathRest grammar inExpression ⟨false, rooted, last = .absent, 1, last⟩

def path (grammar : Grammar) (inExpression : Bool) : Reader PathForm := do
  if ← markIf "<" then
    let _ ← grammar.type true
    if ← keywordIf "as" then
      let _ ← unqualifiedPath grammar false
    mark ">"
    mark "::"
    let last ← segment grammar inExpression
    pathRest grammar inExpression ⟨true, false, false, 1, last⟩
  else unqualifiedPath grammar inExpression

/-- What a function returns, if it says so. The flag allows bounds joined by plus. -/
def returnType (grammar : Grammar) (plus : Bool) : Reader Unit := do
  if ← markIf "->" then
    let _ ← grammar.type plus

/-- A path that a bound names, which may have arguments in parentheses after its last word, if it has no others, and what is returned. Neither the double colon that may stand in front of them nor an empty pair of angle brackets is written. -/
def boundPath (grammar : Grammar) : Reader Unit := do
  let (form, fragment) ← captured (unqualifiedPath grammar false)
  let tokens ← ahead
  let colons := beginsMark "::" tokens && beginsGroup .parenthesis (tokens.drop 2)
  if form.last ≠ .present && (colons || beginsGroup .parenthesis tokens) then
    let bare := match form.last with
      | .empty pieces => fragment.take (fragment.length - pieces)
      | _ => fragment
    writeAll bare
    if colons then skip 2
    let _ ← group .parenthesis (commaSeparated (grammar.type true))
    returnType grammar false
  else writeAll fragment

/-- What follows a path that calls a rule, from the exclamation mark on. -/
def beginsRuleCall (form : PathForm) (tokens : List Token) : Bool :=
  !form.qualified && form.plain && beginsMark "!" tokens && !beginsMark "!=" tokens

/-- The call of a rule after its path: which delimiters it has. -/
def ruleCall : Reader Delimiter := do
  mark "!"
  anyGroup

/-- What only the language itself may provide lies ahead. -/
def beginsBuiltin (tokens : List Token) : Bool := beginsKeyword "builtin" tokens && beginsMark "#" (tokens.drop 1)

def builtin : Reader Unit := do
  keyword "builtin"
  mark "#"
  let _ ← name
  require (beginsGroup .parenthesis)
  let _ ← anyGroup

end MessageCatalog.Source.Phrase
