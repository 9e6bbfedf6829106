import MessageCatalog.Source.Phrase.Bound

/-!
# Types
-/

namespace MessageCatalog.Source.Phrase

open Reader

/-! ### Bounds as types -/

def beginsBound (place : BoundPlace) (tokens : List Token) : Bool :=
  beginsAnyWord tokens || beginsMark "::" tokens || beginsMark "?" tokens || beginsLifetime tokens ||
    beginsGroup .parenthesis tokens || (place ≠ .object && beginsGroup .bracket tokens)

/-- More bounds after a first one. Nothing has to follow the last plus: the forms of the bounds, and whether a plus comes last. -/
def moreBounds (grammar : Grammar) (place : BoundPlace) (first : BoundForm) : Reader (List BoundForm × Bool) :=
  iterate (fun (forms, trailing) => do
    if trailing then return none
    if ← markIf "+" then
      if beginsBound place (← ahead) then
        let form ← grammar.bound place
        return some (forms ++ [form], false)
      return some (forms, true)
    return none) ([first], false)

/-- The type that stands for so many bounds. -/
def boundsForm (forms : List BoundForm) (trailing : Bool) : TypeForm :=
  if forms.length = 1 && !trailing then .bound else .bounds

/-- Bounds joined by plus where that is allowed, one of them a trait. -/
def someBounds (grammar : Grammar) (place : BoundPlace) (plus : Bool) : Reader TypeForm := do
  let first ← grammar.bound place
  let (forms, trailing) ← if plus then moreBounds grammar place first else pure ([first], false)
  if .trait ∉ forms then failure
  return boundsForm forms trailing

/-- Bounds of an object after what was read, each with a plus in front. -/
def boundsAfterPlus (grammar : Grammar) : Reader Unit := many (beginsMark "+") (do
  mark "+"
  let _ ← grammar.bound .object)

/-- Takes the parentheses off a fragment that is all in one pair. -/
def withoutParentheses : Fragment → Fragment
  | [.group .parenthesis body] => body
  | fragment => fragment

/-- Types in parentheses: none, one, several with commas, or a bound that others may follow. -/
def parenthesizedType (grammar : Grammar) (plus : Bool) : Reader TypeForm := do
  let inside ← match ← ahead with
    | .group .parenthesis body _ :: _ => pure body
    | _ => failure
  if inside.isEmpty then
    group .parenthesis (pure ())
    return .other
  if beginsLifetime inside then
    let _ ← group .parenthesis (someBounds grammar .object true)
    return .other
  if beginsMark "?" inside then
    let _ ← group .parenthesis (grammar.bound .object)
    let more := beginsMark "+" (← ahead)
    boundsAfterPlus grammar
    return if more then .bounds else .bound
  let ((form, list), fragment) ← captured (group .parenthesis (do
    let form ← grammar.type true
    if ← markIf "," then
      let _ ← commaSeparated (grammar.type true)
      return (form, true)
    return (form, false)))
  if !list && plus && beginsMark "+" (← ahead) && (form.isPath || form = .bound) then
    write (.group .parenthesis (withoutParentheses (withoutParentheses fragment)))
    boundsAfterPlus grammar
    return .bounds
  writeAll fragment
  return .other

/-! ### Function pointers -/

/-- The receiver that may be changed lies ahead. -/
def beginsMutableSelf (tokens : List Token) : Bool := beginsKeyword "mut" tokens && beginsKeyword "self" (tokens.drop 1)

/-- An argument of a function pointer, with a name if it has one: whether it is written as it stood. The first argument may be a receiver. -/
def plainPointerArgument (grammar : Grammar) (first : Bool) : Reader Bool := do
  let changeable := first && beginsMutableSelf (← ahead)
  if changeable then keyword "mut"
  let tokens ← ahead
  let receiver := first && beginsKeyword "self" tokens
  if (beginsName tokens || beginsKeyword "_" tokens || receiver) && beginsColon (tokens.drop 1) then
    let _ ← anyWord
    mark ":"
    if !receiver && first && beginsMutableSelf (← ahead) then
      keyword "mut"
      keyword "self"
      return true
    let _ ← grammar.type true
    return changeable
  else if changeable then
    keyword "self"
    return true
  else
    let _ ← grammar.type true
    return false

/-- The arguments of a function pointer. The last may stand for any number of them. -/
def pointerArguments (grammar : Grammar) : Reader Unit := do
  let _ ← iterate (fun first => do
    if (← ahead).isEmpty then return none
    attributes grammar
    let tokens ← ahead
    let rest := tokens.drop 1
    let named := (beginsName tokens || beginsKeyword "_" tokens) && beginsMark ":" rest && beginsMark "..." (rest.drop 1)
    if named then
      let _ ← anyWord
      mark ":"
    if ← markIf "..." then
      let _ ← markIf ","
      return none
    let _ ← verbatimIf id (plainPointerArgument grammar first)
    if (← ahead).isEmpty then return none
    mark ","
    return some false) true

/-- The word for a foreign function, and the convention of its calls. -/
def convention : Reader Unit := do
  keyword "extern"
  if beginsString (← ahead) then literal

/-- A pointer to a function, from its qualifiers on. -/
def functionPointer (grammar : Grammar) : Reader Unit := do
  let _ ← keywordIf "unsafe"
  if beginsKeyword "extern" (← ahead) then convention
  keyword "fn"
  group .parenthesis (pointerArguments grammar)
  returnType grammar false

/-! ### All types -/

/-- A type that begins with a path: the path itself, the call of a rule, or bounds. Parameters that were read in front make it a bound, and are left out where a rule is called. -/
def pathType (grammar : Grammar) (plus : Bool) (binder? : Option Fragment) : Reader TypeForm := do
  let (form, fragment) ← captured (path grammar false)
  if beginsRuleCall form (← ahead) then
    writeAll fragment
    let _ ← ruleCall
    return .other
  writeAll (binder?.getD [] ++ fragment)
  if form.qualified then return .other
  if binder?.isSome || (plus && beginsMark "+" (← ahead)) then
    let (forms, trailing) ← if plus then moreBounds grammar .object .trait else pure ([.trait], false)
    return boundsForm forms trailing
  return if form.segments = 1 && !form.rooted then .name else .path

/-- A type, and whether it is written as it stood. The flag allows bounds joined by plus. -/
def typeOrVerbatim (grammar : Grammar) (plus : Bool) : Reader (TypeForm × Bool) := do
  let bound := beginsKeyword "for" (← ahead)
  let binder? ← if bound then (do return some (← captured (binder grammar)).2) else pure none
  let tokens ← ahead
  if beginsKeyword "fn" tokens || beginsKeyword "unsafe" tokens || beginsKeyword "extern" tokens then
    writeAll (binder?.getD [])
    functionPointer grammar
    return (.other, false)
  if beginsBuiltin tokens then
    builtin
    return (.other, true)
  if beginsPathWord tokens || (!bound && (beginsMark "::" tokens || beginsMark "<" tokens)) then
    return (← pathType grammar plus binder?, false)
  if bound then failure
  if beginsGroup .parenthesis tokens then return (← parenthesizedType grammar plus, false)
  if ← keywordIf "dyn" then
    let starred ← markIf "*"
    let _ ← someBounds grammar .object plus
    return (.other, starred)
  if ← keywordIf "impl" then
    let _ ← someBounds grammar .anonymous plus
    return (.other, false)
  if beginsLifetime tokens then return (← someBounds grammar .object true, false)
  if beginsGroup .bracket tokens then
    group .bracket (do
      let _ ← grammar.type true
      if ← markIf ";" then
        let _ ← grammar.expression true)
  else if ← markIf "*" then
    if !(← keywordIf "const") then keyword "mut"
    let _ ← grammar.type false
  else if ← markIf "&" then
    if beginsLifetime (← ahead) then lifetime
    let _ ← keywordIf "mut"
    let _ ← grammar.type false
  else if !(← markIf "!") then keyword "_"
  return (.other, false)

/-- A type. The flag allows bounds joined by plus. -/
def type (grammar : Grammar) (plus : Bool) : Reader TypeForm := do
  return (← verbatimIf (·.2) (typeOrVerbatim grammar plus)).1

end MessageCatalog.Source.Phrase
