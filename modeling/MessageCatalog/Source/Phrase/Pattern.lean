import MessageCatalog.Source.MemberNumber
import MessageCatalog.Source.Phrase.Path

/-!
# Patterns
-/

namespace MessageCatalog.Source.Phrase

open Reader

/-! ### Members -/

/-- The name or the number of a member: whether it is a name. The number is written in base ten. -/
def member : Reader Bool := do
  match ← ahead with
  | .literal .integer text _ :: _ =>
    match memberNumber? text with
    | some number => skip 1; write (.ofText (toString number)); return false
    | none => failure
  | _ => let _ ← name; return true

/-! ### Ranges -/

/-- The mark of a range: whether an end has to follow. Three points are written as the mark of a closed range, where they are allowed. -/
def rangeMark (points : Bool) : Reader Bool := do
  let tokens ← ahead
  if beginsMark "..=" tokens then
    mark "..="
    return true
  else if beginsMark "..." tokens then
    if !points then failure
    skip 3
    write (.ofText "..=")
    return true
  else
    mark ".."
    return false

/-- A range may end where nothing of a pattern follows. -/
def endsRange (tokens : List Token) : Bool :=
  tokens.isEmpty || ["|", "=", ",", ";"].any (fun text => beginsMark text tokens) || beginsColon tokens ||
    beginsKeyword "if" tokens

/-- A literal, a block of constants or a path as an end of a range, if there is one. -/
def rangeEnd (grammar : Grammar) : Reader Bool := do
  let tokens ← ahead
  if endsRange tokens then return false
  if beginsLiteral tokens then literal
  else if ← keywordIf "const" then body grammar
  else
    require fun tokens => beginsPathWord tokens || beginsMark "::" tokens || beginsMark "<" tokens
    let _ ← path grammar true
  return true

/-- A range in a pattern from its mark on. Without any end it stands for what is left of a list. -/
def rangeRest (grammar : Grammar) (hasStart : Bool) : Reader PatternForm := do
  let closed ← rangeMark hasStart
  let hasEnd ← rangeEnd grammar
  if closed && !hasEnd then failure
  return if hasEnd == hasStart then .other else .halfRange

/-! ### Structures and lists -/

/-- A field of a structure: its name and a pattern, or a binding of its name. A boxed binding is written as it stood. -/
def fieldPattern (grammar : Grammar) : Reader Unit := do
  let tokens ← ahead
  let boxed := beginsKeyword "box" tokens
  let _ ← verbatimIf (fun () => boxed) (do
    let _ ← keywordIf "box"
    let reference ← keywordIf "ref"
    let changeable ← keywordIf "mut"
    if boxed || reference || changeable then
      let _ ← name
    else
      let named ← member
      if !named || beginsMark ":" (← ahead) then
        mark ":"
        let _ ← grammar.pattern)

/-- The fields of a structure. The mark for the others comes last. -/
def fieldPatterns (grammar : Grammar) : Reader Unit := do
  let _ ← iterate (fun () => do
    if (← ahead).isEmpty then return none
    attributes grammar
    if ← markIf ".." then return none
    fieldPattern grammar
    if (← ahead).isEmpty then return none
    mark ","
    return some ()) ()

/-- A path, and what makes it a call of a rule, a structure, a tuple or a range. -/
def pathPattern (grammar : Grammar) : Reader PatternForm := do
  let form ← path grammar true
  let tokens ← ahead
  if beginsRuleCall form tokens then
    let _ ← ruleCall
  else if beginsGroup .brace tokens then group .brace (fieldPatterns grammar)
  else if beginsGroup .parenthesis tokens then
    let _ ← group .parenthesis (commaSeparated grammar.pattern)
  else if beginsMark ".." tokens then return ← rangeRest grammar true
  return .other

/-- The elements of a list. A range without one of its ends would have to stand in parentheses. -/
def listPattern (grammar : Grammar) : Reader Unit := do
  let _ ← group .bracket (commaSeparated (do
    if (← grammar.pattern) = .halfRange then failure))

/-- A binding of a name, and a pattern for what it names. -/
def binding (grammar : Grammar) : Reader Unit := do
  let _ ← keywordIf "ref"
  let _ ← keywordIf "mut"
  if !(← keywordIf "self") then
    let _ ← name
  if ← markIf "@" then
    let _ ← grammar.onePattern

/-! ### All patterns -/

def onePattern (grammar : Grammar) : Reader PatternForm := do
  let tokens ← ahead
  let rest := tokens.drop 1
  if (beginsName tokens && (beginsMark "::" rest || beginsMark "!" rest || beginsGroup .brace rest ||
        beginsGroup .parenthesis rest || beginsMark ".." rest)) ||
      (beginsKeyword "self" tokens && beginsMark "::" rest) || beginsMark "::" tokens || beginsMark "<" tokens ||
      ["Self", "super", "crate"].any (fun word => beginsKeyword word tokens) then
    return ← pathPattern grammar
  if beginsKeyword "box" tokens then
    verbatim (do
      keyword "box"
      let _ ← grammar.onePattern)
    return .verbatim
  if beginsLiteral tokens || beginsKeyword "const" tokens then
    let _ ← rangeEnd grammar
    if beginsMark ".." (← ahead) then return ← rangeRest grammar true
    return .other
  if beginsMark ".." tokens then return ← rangeRest grammar false
  if ["ref", "mut", "self"].any (fun word => beginsKeyword word tokens) || beginsName tokens then binding grammar
  else if ← markIf "&" then
    let _ ← keywordIf "mut"
    let _ ← grammar.onePattern
  else if beginsGroup .parenthesis tokens then
    let _ ← group .parenthesis (commaSeparated grammar.pattern)
  else if beginsGroup .bracket tokens then listPattern grammar
  else keyword "_"
  return .other

/-- A pattern with alternatives, and perhaps a bar in front of them. -/
def pattern (grammar : Grammar) : Reader PatternForm := do
  let barred ← markIf "|"
  let form ← onePattern grammar
  let goesOn (tokens : List Token) : Bool := beginsMark "|" tokens && !beginsMark "||" tokens && !beginsMark "|=" tokens
  let several := goesOn (← ahead)
  many goesOn (do
    mark "|"
    let _ ← onePattern grammar)
  return if barred || several then .other else form

end MessageCatalog.Source.Phrase
