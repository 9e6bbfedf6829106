import MessageCatalog.Source.Grammar

/-!
# Attributes

An outer attribute stands in front of what it is about, an inner one at the beginning of what it is about, inside the braces.
-/

namespace MessageCatalog.Source.Phrase

open Reader

def plainPathFrom : Nat → Reader Unit
  | 0 => failure
  | fuel + 1 => do
    require beginsPathWord
    let _ ← anyWord
    if ← markIf "::" then plainPathFrom fuel

def plainPath : Reader Unit := do
  let _ ← markIf "::"
  plainPathFrom (← ahead).length

/-- What an attribute says: a path, and then a group or a value or nothing. -/
def attributeBody (grammar : Grammar) : Reader Unit := do
  if ← keywordIf "unsafe" then pure () else plainPath
  if beginsAnyGroup (← ahead) then
    let _ ← anyGroup
  else if ← markIf "=" then
    let value ← ahead
    if beginsLiteral value && value.length ≤ (if beginsMark "-" value then 2 else 1) then literal
    else if beginsMark "#" value && beginsGroup .bracket (value.drop 1) then failure
    else
      let _ ← grammar.expression true

def attributes (grammar : Grammar) : Reader Unit := many (beginsMark "#") (do
  mark "#"
  group .bracket (attributeBody grammar))

/-- The attributes of what encloses them. -/
def innerAttributes (grammar : Grammar) : Reader Unit :=
  many (fun tokens => beginsMark "#" tokens && beginsMark "!" (tokens.drop 1)) (do
    mark "#"
    mark "!"
    group .bracket (attributeBody grammar))

/-- A block that may have inner attributes. -/
def body (grammar : Grammar) : Reader Unit := group .brace (do
  innerAttributes grammar
  grammar.statements)

end MessageCatalog.Source.Phrase
