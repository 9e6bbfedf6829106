import MessageCatalog.Source.Phrase.Field
import MessageCatalog.Source.Phrase.Signature

/-!
# Members of traits, implementations and foreign blocks

Each reader says whether the member has to be written as it stood in the text, which is so where the language has no place for it.
-/

namespace MessageCatalog.Source.Phrase

open Reader

/-! ### Parts of members -/

/-- The call of a rule in place of definitions lies ahead. -/
def beginsRulePath (tokens : List Token) : Bool :=
  beginsName tokens || ["self", "super", "crate"].any (fun word => beginsKeyword word tokens) || beginsMark "::" tokens

/-- The call of a rule in place of definitions. Without braces a semicolon ends it. The flag allows a name in front of the delimiters. -/
def ruleDefinition (named : Bool) : Reader Unit := do
  plainPath
  mark "!"
  if named && (beginsName (← ahead) || beginsKeyword "try" (← ahead)) then
    let _ ← anyWord
  if (← anyGroup) ≠ .brace then mark ";"

structure ConstantForm where
  valued : Bool
  generic : Bool

def constant (grammar : Grammar) : Reader ConstantForm := do
  keyword "const"
  require fun tokens => beginsName tokens || beginsKeyword "_" tokens
  let _ ← anyWord
  let angled ← parametersIf grammar
  mark ":"
  let _ ← grammar.type true
  let valued ← markIf "="
  if valued then
    let _ ← grammar.expression true
  let predicates ← predicates? grammar
  mark ";"
  return ⟨valued, angled || predicates.isSome⟩

structure AliasForm where
  bounded : Bool
  defined : Bool

/-- A name for a type. The flags tell whether the predicates may stand before the definition of the type and after it. -/
def typeAlias (grammar : Grammar) (before after : Bool) : Reader AliasForm := do
  keyword "type"
  let _ ← name
  let _ ← parametersIf grammar
  let bounded ← boundsIf grammar fun tokens =>
    beginsKeyword "where" tokens || beginsMark "=" tokens || beginsMark ";" tokens
  let first ← if before then predicates? grammar else pure none
  let defined ← markIf "="
  if defined then
    let _ ← grammar.type true
  if after && first.isNone then
    let _ ← predicates? grammar
  mark ";"
  return ⟨bounded, defined⟩

/-! ### Members -/

def implementedMember (grammar : Grammar) : Reader Bool := do
  attributes grammar
  let visible ← visibility
  let tokens ← ahead
  let replaceable := beginsKeyword "default" tokens && !beginsMark "!" (tokens.drop 1)
  if replaceable then keyword "default"
  let tokens ← ahead
  if beginsFunction false tokens then
    let _ ← signature grammar false
    if ← markIf ";" then return true
    body grammar
    return false
  if beginsKeyword "const" tokens then
    let form ← constant grammar
    return !form.valued || form.generic
  if beginsKeyword "type" tokens then
    let form ← typeAlias grammar false true
    return form.bounded || !form.defined
  if visible || replaceable || !beginsRulePath tokens then failure
  ruleDefinition false
  return false

def requiredMember (grammar : Grammar) : Reader Bool := do
  attributes grammar
  let visible ← visibility
  let replaceable ← keywordIf "default"
  let tokens ← ahead
  if beginsFunction false tokens then
    let _ ← signature grammar false
    if !(← markIf ";") then body grammar
    return visible || replaceable
  if beginsKeyword "const" tokens then
    let form ← constant grammar
    return visible || replaceable || form.generic
  if beginsKeyword "type" tokens then
    let _ ← typeAlias grammar false true
    return visible || replaceable
  if visible || replaceable || !beginsRulePath tokens then failure
  ruleDefinition false
  return false

def foreignMember (grammar : Grammar) : Reader Bool := do
  attributes grammar
  let visible ← visibility
  let tokens ← ahead
  let qualified := beginsKeyword "unsafe" tokens || beginsKeyword "safe" tokens
  if beginsFunction true tokens then
    let safe ← signature grammar true
    if ← markIf ";" then return safe
    body grammar
    return true
  if beginsKeyword "static" tokens || (qualified && beginsKeyword "static" (tokens.drop 1)) then
    if qualified then
      let _ ← anyWord
    keyword "static"
    let _ ← keywordIf "mut"
    let _ ← name
    mark ":"
    let _ ← grammar.type true
    let valued ← markIf "="
    if valued then
      let _ ← grammar.expression true
    mark ";"
    return qualified || valued
  if beginsKeyword "type" tokens then
    let form ← typeAlias grammar true true
    return form.bounded || form.defined
  if visible || !beginsRulePath tokens then failure
  ruleDefinition false
  return false

/-- Members in braces, with the inner attributes of what they belong to. -/
def members (grammar : Grammar) (member : Reader Bool) : Reader Unit := group .brace (do
  innerAttributes grammar
  many (fun tokens => !tokens.isEmpty) (do let _ ← verbatimIf id member))

end MessageCatalog.Source.Phrase
