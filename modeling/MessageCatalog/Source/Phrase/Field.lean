import MessageCatalog.Source.Phrase.Predicate

/-!
# Fields and variants

What stands inside a structure, an enumeration or a union.
-/

namespace MessageCatalog.Source.Phrase

open Reader

/-- A visibility, if there is one. Parentheses that do not say where the definition is seen belong to what follows. -/
def visibility : Reader Bool := do
  if !(← keywordIf "pub") then return false
  match ← ahead with
  | .group .parenthesis body _ :: _ =>
    if beginsKeyword "in" body then
      group .parenthesis (do
        keyword "in"
        plainPath)
    else if body.length = 1 && ["crate", "self", "super"].any (fun word => beginsKeyword word body) then
      let _ ← anyGroup
  | _ => pure ()
  return true

/-- A field with a name. One without a name may hold fields of its own, which are written as they stood. -/
def namedField (grammar : Grammar) : Reader Unit := do
  attributes grammar
  let _ ← visibility
  if ← keywordIf "_" then
    mark ":"
    let tokens ← ahead
    if beginsKeyword "struct" tokens || (beginsKeyword "union" tokens && beginsGroup .brace (tokens.drop 1)) then
      verbatim (do
        let _ ← anyWord
        grammar.namedFields)
    else
      let _ ← grammar.type true
  else
    let _ ← name
    mark ":"
    let _ ← grammar.type true

def namedFields (grammar : Grammar) : Reader Unit := do
  let _ ← group .brace (commaSeparated (namedField grammar))

def unnamedFields (grammar : Grammar) : Reader Unit := do
  let _ ← group .parenthesis (commaSeparated (do
    attributes grammar
    let _ ← visibility
    let _ ← grammar.type true))

/-- A variant of an enumeration. Its visibility means nothing and is not written. -/
def variant (grammar : Grammar) : Reader Unit := do
  attributes grammar
  let _ ← silently visibility
  let _ ← name
  let tokens ← ahead
  if beginsGroup .brace tokens then grammar.namedFields
  else if beginsGroup .parenthesis tokens then unnamedFields grammar
  if ← markIf "=" then
    let _ ← grammar.expression true

/-- What follows the parameters of a structure: its predicates and its fields. The predicates follow fields without names. -/
def structureRest (grammar : Grammar) : Reader (Option (Separated Fragment)) := do
  match ← predicates? grammar with
  | some predicates =>
    if !(← markIf ";") then grammar.namedFields
    return some predicates
  | none =>
    if beginsGroup .parenthesis (← ahead) then
      unnamedFields grammar
      let predicates ← predicates? grammar
      mark ";"
      return predicates
    if !(← markIf ";") then grammar.namedFields
    return none

/-- What follows the parameters of an enumeration: its predicates and its variants. -/
def enumerationRest (grammar : Grammar) : Reader (Option (Separated Fragment)) := do
  let predicates ← predicates? grammar
  let _ ← group .brace (commaSeparated (variant grammar))
  return predicates

/-- What follows the parameters of a union: its predicates and its fields. -/
def unionRest (grammar : Grammar) : Reader (Option (Separated Fragment)) := do
  let predicates ← predicates? grammar
  grammar.namedFields
  return predicates

end MessageCatalog.Source.Phrase
