import MessageCatalog.Source.Phrase.Parameter

/-!
# Predicates

What a definition requires of its parameters and of other types: the clause of predicates after them.
-/

namespace MessageCatalog.Source.Phrase

open Reader

/-- What ends a clause of predicates, or one predicate of it. -/
def endsPredicates (tokens : List Token) : Bool :=
  tokens.isEmpty || beginsGroup .brace tokens || beginsMark "," tokens || beginsMark ";" tokens || beginsColon tokens ||
    beginsMark "=" tokens

def predicate (grammar : Grammar) : Reader Unit := do
  let tokens ← ahead
  if beginsLifetime tokens && beginsMark ":" (tokens.drop 1) then
    lifetime
    mark ":"
    let _ ← separated (fun tokens => endsPredicates tokens || beginsMark ":" tokens) "+" lifetime
  else
    if beginsKeyword "for" tokens then binder grammar
    let _ ← grammar.type true
    mark ":"
    bounds grammar endsPredicates

/-- The predicates after the word that opens them, if it is there. A clause without predicates is not written. -/
def predicates? (grammar : Grammar) : Reader (Option (Separated Fragment)) := do
  if ← silently (keywordIf "where") then
    if beginsParameters (← ahead) then failure
    let list ← silently (separated endsPredicates "," (captured (predicate grammar)))
    let list := list.map (·.2)
    writeAll (whereClause list)
    return some list
  return none

end MessageCatalog.Source.Phrase
