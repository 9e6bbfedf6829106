import MessageCatalog.Source.Phrase.Pattern
import MessageCatalog.Source.Phrase.Predicate
import MessageCatalog.Source.Phrase.TypePhrase

/-!
# Signatures

The heads of functions: their qualifiers, parameters, arguments and results.
-/

namespace MessageCatalog.Source.Phrase

open Reader

/-- The tokens after a word that may be there or not. -/
def past (word : String) (tokens : List Token) : List Token := if beginsKeyword word tokens then tokens.drop 1 else tokens

/-- A function lies ahead, its qualifiers in their order. The flag allows it to be marked as safe. -/
def beginsFunction (safe : Bool) (tokens : List Token) : Bool :=
  let tokens := past "async" (past "const" tokens)
  let tokens := if safe && beginsKeyword "safe" tokens then tokens.drop 1 else past "unsafe" tokens
  let called := past "extern" tokens
  beginsKeyword "fn"
    (if beginsKeyword "extern" tokens && beginsString called then called.drop 1 else called)

def receiver (grammar : Grammar) : Reader Unit := do
  let reference ← markIf "&"
  if reference && beginsLifetime (← ahead) then lifetime
  let _ ← keywordIf "mut"
  keyword "self"
  if !reference then
    if ← markIf ":" then
      let _ ← grammar.type true

inductive ArgumentForm where
  | receiver
  | typed
  /-- It stands for any number of arguments. -/
  | variadic
  deriving DecidableEq

/-- A pattern and its type, or a type alone that begins like a comparison. -/
def typedArgument (grammar : Grammar) : Reader ArgumentForm := do
  let tokens ← ahead
  if beginsName tokens && beginsMark "<" (tokens.drop 1) then writeAll (Fragment.ofTexts ["_", ":"])
  else
    let _ ← onePattern grammar
    mark ":"
    if ← markIf "..." then return .variadic
  let _ ← grammar.type true
  return .typed

/-- The arguments of a function. A receiver comes first, and what stands for any number of them last. -/
def functionArguments (grammar : Grammar) : Reader Unit := do
  let _ ← iterate (fun first => do
    if (← ahead).isEmpty then return none
    attributes grammar
    let form ← if ← markIf "..." then pure .variadic
      else (do receiver grammar; return ArgumentForm.receiver) <|> typedArgument grammar
    if form = .receiver && !first then failure
    if (← ahead).isEmpty then return none
    mark ","
    return if form = .variadic then none else some false) true

/-- The head of a function: whether it is marked as safe, which the flag allows. -/
def signature (grammar : Grammar) (allowed : Bool) : Reader Bool := do
  let _ ← keywordIf "const"
  let _ ← keywordIf "async"
  let dangerous ← keywordIf "unsafe"
  let safe ← if allowed && !dangerous then keywordIf "safe" else pure false
  if beginsKeyword "extern" (← ahead) then convention
  keyword "fn"
  let _ ← name
  let _ ← parametersIf grammar
  group .parenthesis (functionArguments grammar)
  returnType grammar true
  let _ ← predicates? grammar
  return safe

end MessageCatalog.Source.Phrase
