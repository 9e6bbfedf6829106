import MessageCatalog.Source.Generics
import MessageCatalog.Source.Phrase.Path

/-!
# Generic parameters

A parameter is read into its parts, so that it can be written with its default or without.
-/

namespace MessageCatalog.Source.Phrase

open Reader

/-- Lifetimes joined by plus, after a colon. -/
def outlived (stops : List Token → Bool) : Reader Fragment := do
  if ← silently (markIf ":") then
    let ((), fragment) ← captured (do let _ ← separated stops "+" lifetime)
    return fragment
  return []

def declaredBounds (grammar : Grammar) (stops : List Token → Bool) : Reader Fragment := do
  if ← silently (markIf ":") then
    let ((), fragment) ← captured (bounds grammar stops)
    return fragment
  return []

def defaultType (grammar : Grammar) : Reader (Option Fragment) := do
  if ← silently (markIf "=") then
    let (_, fragment) ← captured (grammar.type true)
    return some fragment
  return none

def defaultConstant (grammar : Grammar) : Reader (Option Fragment) := do
  if ← silently (markIf "=") then
    let ((), fragment) ← captured (constArgument grammar)
    return some fragment
  return none

/-- One parameter. The flag allows a type parameter without a name. Nothing is written. -/
def parameter (grammar : Grammar) (nameless : Bool) : Reader Parameter := silently do
  let before ← ahead
  let ((), attributes) ← captured (attributes grammar)
  match ← ahead with
  | .lifetime name span :: _ =>
    lifetime
    let bounds ← outlived fun tokens => tokens.isEmpty || beginsMark "," tokens || beginsMark ">" tokens
    let after ← ahead
    let first := (before.head?.map Token.span).getD span
    let last := if bounds.isEmpty then span else ((taken before after).getLast?.map Token.span).getD span
    return .lifetime attributes name bounds (first.to last)
  | tokens =>
    if beginsName tokens then
      let name ← name
      let bounds ← declaredBounds grammar fun tokens =>
        tokens.isEmpty || beginsMark "," tokens || beginsMark ">" tokens || beginsMark "=" tokens
      return .type attributes name bounds (← defaultType grammar)
    else if beginsKeyword "const" tokens then
      keyword "const"
      let name ← name
      mark ":"
      let (_, ascribed) ← captured (grammar.type true)
      return .const attributes name ascribed (← defaultConstant grammar)
    else if nameless then
      keyword "_"
      return .type attributes "_" [] none
    else failure

/-- Parameters in angle brackets. Nothing is written. -/
def parameters (grammar : Grammar) (nameless : Bool) : Reader (Separated Parameter) := silently do
  mark "<"
  let list ← separated (beginsMark ">") "," (parameter grammar nameless)
  mark ">"
  return list

/-- The parameters of a definition, if it has any: whether there are angle brackets. -/
def parametersIf (grammar : Grammar) : Reader Bool := do
  if beginsMark "<" (← ahead) then
    let list ← parameters grammar true
    writeAll (Parameter.angled list)
    return true
  return false

/-- Parameters that a bound, a predicate, a closure or a function pointer brings with it, written in their order. -/
def binder (grammar : Grammar) : Reader Unit := do
  keyword "for"
  let list ← parameters grammar false
  writeAll (Piece.ofText "<" :: (list.map Parameter.fragment).fragment "," ++ [Piece.ofText ">"])

/-- The angle bracket ahead opens parameters and not a type. -/
def beginsParameters (tokens : List Token) : Bool :=
  let second := tokens.drop 1
  let third := tokens.drop 2
  beginsMark "<" tokens &&
    (beginsMark ">" second || beginsMark "#" second || beginsKeyword "const" second ||
      ((beginsLifetime second || beginsName second) &&
        (beginsMark ">" third || beginsMark "," third || beginsColon third || beginsMark "=" third)))

end MessageCatalog.Source.Phrase
