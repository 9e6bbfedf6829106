import MessageCatalog.Source.Phrase.Member

/-!
# Definitions

What gives a name a meaning: functions, constants, types, traits, implementations, modules and imports. Each reader says whether the definition has to be written as it stood in the text.
-/

namespace MessageCatalog.Source.Phrase

open Reader

/-! ### Imports -/

/-- A word, or an underscore, after the word that renames. -/
def renamedIf : Reader Unit := do
  if ← keywordIf "as" then
    require fun tokens => beginsName tokens || beginsKeyword "_" tokens
    let _ ← anyWord

/-- What an import names. In braces a double colon in front is allowed as it is in front of all, but the language has no place for it. -/
def imported (grammar : Grammar) (rooted : Bool) : Reader Bool := do
  let tokens ← ahead
  if beginsName tokens || ["self", "super", "crate", "try"].any (fun word => beginsKeyword word tokens) then
    let _ ← anyWord
    if ← markIf "::" then
      let _ ← grammar.imported false
    else renamedIf
    return false
  if ← markIf "*" then return false
  let list ← group .brace (commaSeparated (do
    let colons ← if rooted then markIf "::" else pure false
    let placeless ← grammar.imported (rooted && !colons)
    return colons || placeless))
  return list.items.any id

def importDefinition (grammar : Grammar) : Reader Bool := do
  keyword "use"
  let colons ← markIf "::"
  let placeless ← grammar.imported (!colons)
  mark ";"
  return placeless

/-- A package that the text depends on. -/
def packageDefinition : Reader Unit := do
  keyword "extern"
  keyword "crate"
  if !(← keywordIf "self") then
    let _ ← name
  renamedIf
  mark ";"

/-! ### Values and types -/

def staticDefinition (grammar : Grammar) : Reader Bool := do
  keyword "static"
  let _ ← keywordIf "mut"
  let _ ← name
  let typed ← markIf ":"
  if typed then
    let _ ← grammar.type true
    if ← markIf ";" then return true
  mark "="
  let _ ← grammar.expression true
  mark ";"
  return !typed

/-- A trait, or a name for bounds. -/
def traitDefinition (grammar : Grammar) : Reader Unit := do
  let dangerous ← keywordIf "unsafe"
  let automatic ← keywordIf "auto"
  keyword "trait"
  let _ ← name
  let _ ← parametersIf grammar
  if beginsMark "=" (← ahead) && !dangerous && !automatic then
    mark "="
    bounds grammar fun tokens => beginsKeyword "where" tokens || beginsMark ";" tokens
    let _ ← predicates? grammar
    mark ";"
  else
    let _ ← boundsIf grammar fun tokens => beginsKeyword "where" tokens || beginsGroup .brace tokens
    let _ ← predicates? grammar
    members grammar (requiredMember grammar)

/-- An implementation of a trait, or of methods alone. The language has no place for a condition in front of the trait, nor for a trait that is no path. -/
def implementationDefinition (grammar : Grammar) : Reader Bool := do
  let _ ← keywordIf "default"
  let _ ← keywordIf "unsafe"
  keyword "impl"
  if beginsParameters (← ahead) then
    let _ ← parametersIf grammar
  let tokens ← ahead
  let conditional := beginsKeyword "const" tokens || (beginsMark "?" tokens && beginsKeyword "const" (tokens.drop 1))
  if conditional then
    let _ ← markIf "?"
    keyword "const"
  let tokens ← ahead
  let negative := beginsMark "!" tokens && !beginsGroup .brace (tokens.drop 1)
  if negative then mark "!"
  let form ← grammar.type true
  let hasTrait ← keywordIf "for"
  if hasTrait then
    let _ ← grammar.type true
  if negative && !hasTrait then failure
  let _ ← predicates? grammar
  members grammar (implementedMember grammar)
  return conditional || (hasTrait && !form.isPath)

def patternRule : Reader Unit := do
  keyword "macro"
  let _ ← name
  if beginsGroup .parenthesis (← ahead) then
    let _ ← anyGroup
  require (beginsGroup .brace)
  let _ ← anyGroup

/-- A module, with its definitions if they are not elsewhere. -/
def moduleDefinition (grammar : Grammar) : Reader Unit := do
  let _ ← keywordIf "unsafe"
  keyword "mod"
  if !(← keywordIf "try") then
    let _ ← name
  if !(← markIf ";") then
    group .brace (do
      innerAttributes grammar
      many (fun tokens => !tokens.isEmpty) grammar.definition)

/-- Declarations of what is defined in another language. -/
def foreignDefinition (grammar : Grammar) : Reader Unit := do
  let _ ← keywordIf "unsafe"
  convention
  members grammar (foreignMember grammar)

/-- A type with fields: the word for its kind, its name and parameters, and what follows them. -/
def fieldedDefinition (grammar : Grammar) (rest : Reader (Option (Separated Fragment))) : Reader Unit := do
  let _ ← anyWord
  let _ ← name
  let _ ← parametersIf grammar
  let _ ← rest

/-! ### All definitions -/

/-- A definition after its attributes and visibility. -/
def bareDefinition (grammar : Grammar) (visible : Bool) : Reader Bool := do
  let tokens ← ahead
  let rest := tokens.drop 1
  let begins (word : String) : Bool := beginsKeyword word tokens
  let next (word : String) : Bool := beginsKeyword word rest
  let written (reader : Reader Unit) : Reader Bool := do
    reader
    return false
  if beginsFunction false tokens then
    let _ ← signature grammar false
    if ← markIf ";" then return true
    written (body grammar)
  else if begins "extern" && next "crate" then written packageDefinition
  else if begins "extern" || (begins "unsafe" && next "extern") then
    if visible then failure
    written (foreignDefinition grammar)
  else if begins "use" then importDefinition grammar
  else if begins "static" then staticDefinition grammar
  else if begins "const" then
    let form ← constant grammar
    return !form.valued || form.generic
  else if begins "mod" || (begins "unsafe" && next "mod") then written (moduleDefinition grammar)
  else if begins "type" then
    let form ← typeAlias grammar true false
    return form.bounded || !form.defined
  else if begins "struct" then written (fieldedDefinition grammar (structureRest grammar))
  else if begins "enum" then written (fieldedDefinition grammar (enumerationRest grammar))
  else if begins "union" && beginsName rest then written (fieldedDefinition grammar (unionRest grammar))
  else if begins "trait" || ((begins "auto" || begins "unsafe") && next "trait") ||
      (begins "unsafe" && next "auto" && beginsKeyword "trait" (tokens.drop 2)) then written (traitDefinition grammar)
  else if begins "impl" || (begins "unsafe" && next "impl") || (begins "default" && !beginsMark "!" rest) then
    return (← implementationDefinition grammar) || visible
  else if begins "macro" then
    patternRule
    return true
  else
    if visible || !beginsRulePath tokens then failure
    written (ruleDefinition true)

def definition (grammar : Grammar) : Reader Unit := do
  let _ ← verbatimIf id (do
    attributes grammar
    let visible ← visibility
    bareDefinition grammar visible)

end MessageCatalog.Source.Phrase
