import MessageCatalog.Source.Phrase.Parameter

/-!
# Bounds

A bound is a lifetime or a trait. A trait may bring parameters of its own, and it may be relaxed with a question mark or put under a condition. In some places a list of the captured names is a bound too.
-/

namespace MessageCatalog.Source.Phrase

open Reader

/-- A trait as a bound: whether it is one under a condition. The flag allows conditions. -/
def traitBound (grammar : Grammar) (conditions : Bool) : Reader Bool := do
  let bound := beginsKeyword "for" (← ahead)
  if bound then binder grammar
  let tokens ← ahead
  let conditional := beginsGroup .bracket tokens || beginsKeyword "const" tokens
  if conditional && !conditions then failure
  if beginsGroup .bracket tokens then group .bracket (keyword "const")
  else
    let _ ← keywordIf "const"
  let relaxed ← markIf "?"
  if relaxed && (bound || beginsKeyword "for" (← ahead)) then failure
  boundPath grammar
  return conditional

/-- A captured name: whether it is a lifetime. -/
def capturedName : Reader Bool := do
  let tokens ← ahead
  if beginsLifetime tokens then
    lifetime
    return true
  require fun tokens => beginsName tokens || beginsKeyword "Self" tokens
  let _ ← anyWord
  return false

/-- The captured names of a type, written with the lifetimes first. -/
def capturedNames : Reader Unit := do
  keyword "use"
  mark "<"
  let names ← silently (separated (beginsMark ">") "," (captured capturedName))
  writeAll names.chosenFirst
  mark ">"

/-- One bound. A trait under a condition is written as it stood. -/
def bound (grammar : Grammar) (place : BoundPlace) : Reader BoundForm := do
  let tokens ← ahead
  if beginsLifetime tokens then
    lifetime
    return .lifetime
  if beginsKeyword "use" tokens then
    if place ≠ .anonymous then failure
    capturedNames
    return .captured
  let reader := traitBound grammar (place ≠ .object)
  let _ ← verbatimIf id (if beginsGroup .parenthesis tokens then group .parenthesis reader else reader)
  return .trait

end MessageCatalog.Source.Phrase
