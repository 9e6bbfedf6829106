import MessageCatalog.Source.Phrase.Pattern
import MessageCatalog.Source.Phrase.TypePhrase

/-!
# Expressions

An operand is what stands between binary operators; an expression is operands with operators between them. How tightly the operators bind matters here for two things only: comparisons do not follow each other, and nothing but a looser operator follows a range.
-/

namespace MessageCatalog.Source.Phrase

open Reader

inductive Binding where
  | lowest
  | assign
  | range
  | or
  | and
  | chain
  | compare
  | bitOr
  | bitXor
  | bitAnd
  | shift
  | sum
  | product
  | cast
  deriving DecidableEq

def Binding.rank (binding : Binding) : Nat := binding.ctorIdx

/-- The binary operators, each before those that begin it. -/
def operators : List (String × Binding) :=
  [("<<=", .assign), (">>=", .assign), ("+=", .assign), ("-=", .assign), ("*=", .assign), ("/=", .assign),
   ("%=", .assign), ("^=", .assign), ("&=", .assign), ("|=", .assign), ("&&", .and), ("||", .or), ("<<", .shift),
   (">>", .shift), ("==", .compare), ("<=", .compare), ("!=", .compare), (">=", .compare), ("+", .sum), ("-", .sum),
   ("*", .product), ("/", .product), ("%", .product), ("^", .bitXor), ("&", .bitAnd), ("|", .bitOr), ("<", .compare),
   (">", .compare)]

def operatorAhead? (tokens : List Token) : Option (String × Binding) :=
  if beginsMark "=>" tokens then none else operators.find? fun operator => beginsMark operator.1 tokens

def beginsAssignment (tokens : List Token) : Bool :=
  beginsMark "=" tokens && !beginsMark "=>" tokens && !beginsMark "==" tokens

/-- How tightly what lies ahead binds to an operand before it. -/
def bindingAhead (tokens : List Token) : Binding :=
  match operatorAhead? tokens with
  | some (_, binding) => binding
  | none =>
    if beginsAssignment tokens then .assign
    else if beginsMark ".." tokens then .range
    else if beginsKeyword "as" tokens then .cast
    else .lowest

/-! ### Operators -/

/-- The marks before which a range may end. -/
def rangeStops : List String :=
  [",", ";", "?", "=>", "=", "+", "/", "%", "^", ">", "<=", "!=", "-=", "*=", "&=", "|=", "<<="]

def stopsRange (structures : Bool) (tokens : List Token) : Bool :=
  tokens.isEmpty || rangeStops.any (fun text => beginsMark text tokens) ||
    (beginsMark "." tokens && !beginsMark ".." tokens) || (!structures && beginsGroup .brace tokens) ||
    beginsKeyword "as" tokens

/-- A cast is followed by no part of an operand. -/
def followsCast (tokens : List Token) : Bool :=
  (beginsMark "." tokens && !beginsMark ".." tokens) || beginsMark "?" tokens || beginsGroup .bracket tokens ||
    beginsGroup .parenthesis tokens

mutual

/-- What follows an operand, as far as it binds at least as tightly as is asked for. -/
def operations (grammar : Grammar) (structures : Bool) : Nat → Binding → ExpressionForm → Reader ExpressionForm
  | 0, _, _ => failure
  | fuel + 1, least, form => do
    let tokens ← ahead
    if form = .range then return form
    match operatorAhead? tokens with
    | some (text, binding) =>
      if binding.rank < least.rank then return form
      if binding = .compare && form = .comparison then failure
      mark text
      let _ ← rightOperand grammar structures fuel binding
      operations grammar structures fuel least (if binding = .compare then .comparison else .other)
    | none =>
      if beginsAssignment tokens && least.rank ≤ Binding.assign.rank then
        mark "="
        let _ ← rightOperand grammar structures fuel .assign
        operations grammar structures fuel least .other
      else if beginsMark ".." tokens && least.rank ≤ Binding.range.rank then
        upperBound grammar structures fuel
        return .range
      else if beginsKeyword "as" tokens then
        keyword "as"
        let _ ← grammar.type false
        if followsCast (← ahead) then failure
        operations grammar structures fuel least .other
      else return form

/-- The right side of an operator: an operand, and what binds to it more tightly than the operator does. -/
def rightOperand (grammar : Grammar) (structures : Bool) : Nat → Binding → Reader ExpressionForm
  | 0, _ => failure
  | fuel + 1, binding => do
    let form ← grammar.operand structures
    tighter grammar structures fuel binding form

def tighter (grammar : Grammar) (structures : Bool) : Nat → Binding → ExpressionForm → Reader ExpressionForm
  | 0, _, _ => failure
  | fuel + 1, binding, form => do
    let before ← ahead
    let next := bindingAhead before
    if binding.rank < next.rank || (next = .assign && binding = .assign) then
      let form ← operations grammar structures fuel next form
      if (← ahead).length = before.length then return form
      tighter grammar structures fuel binding form
    else return form

/-- A range from its mark on. A closed range needs an upper end. -/
def upperBound (grammar : Grammar) (structures : Bool) : Nat → Reader Unit
  | 0 => failure
  | fuel + 1 => do
    let closed ← rangeMark false
    if closed || !stopsRange structures (← ahead) then
      let _ ← rightOperand grammar structures fuel .range

end

/-- Enough steps for all the operators that can lie ahead. -/
def operatorFuel : Reader Nat := do return 4 * (← ahead).length + 4

/-! ### Operands -/

def expressions (grammar : Grammar) : Reader Unit := do
  let _ ← commaSeparated (grammar.expression true)

/-- A field of a structure: a value for a member, or a variable of the same name. -/
def fieldValue (grammar : Grammar) : Reader Unit := do
  attributes grammar
  let named ← member
  if !named || beginsColon (← ahead) then
    mark ":"
    let _ ← grammar.expression true

/-- The fields of a structure. What gives the others comes last. -/
def fieldValues (grammar : Grammar) : Reader Unit := do
  let _ ← iterate (fun () => do
    if (← ahead).isEmpty then return none
    if ← markIf ".." then
      if !(← ahead).isEmpty then
        let _ ← grammar.expression true
      return none
    fieldValue grammar
    if (← ahead).isEmpty then return none
    mark ","
    return some ()) ()

/-- A path, and what makes it a call of a rule or a structure. -/
def pathOperand (grammar : Grammar) (structures : Bool) : Reader ExpressionForm := do
  let form ← path grammar true
  let tokens ← ahead
  if beginsRuleCall form tokens then return if (← ruleCall) = .brace then .bracedCall else .other
  if structures && beginsGroup .brace tokens then group .brace (fieldValues grammar)
  return .other

def conditional (grammar : Grammar) : Reader Unit := do
  let _ ← iterate (fun () => do
    keyword "if"
    let _ ← grammar.expression false
    grammar.block
    if ← keywordIf "else" then
      if beginsKeyword "if" (← ahead) then return some ()
      grammar.block
    return none) ()

def beginsBlock (tokens : List Token) : Bool :=
  let rest := tokens.drop 1
  ["if", "while", "loop", "match", "unsafe"].any (fun word => beginsKeyword word tokens) ||
    (beginsKeyword "for" tokens && !beginsParameters rest) ||
    (["const", "try"].any (fun word => beginsKeyword word tokens) && beginsGroup .brace rest) ||
    beginsGroup .brace tokens || beginsLifetime tokens

/-- An arm of a match. A comma must follow it unless it is the last or ends with a block. -/
def arm (grammar : Grammar) : Reader Unit := do
  attributes grammar
  let _ ← grammar.pattern
  if ← keywordIf "if" then
    let _ ← grammar.expression true
  mark "=>"
  let (_, form) ← grammar.early
  if form = .block || (← ahead).isEmpty then
    let _ ← markIf ","
  else mark ","

/-- An expression that ends with a block. Only loops and plain blocks have labels. -/
def blockExpression (grammar : Grammar) : Reader Unit := do
  if beginsLifetime (← ahead) then
    lifetime
    mark ":"
    require fun tokens =>
      ["while", "for", "loop"].any (fun word => beginsKeyword word tokens) || beginsGroup .brace tokens
  if beginsKeyword "if" (← ahead) then conditional grammar
  else if ← keywordIf "while" then
    let _ ← grammar.expression false
    body grammar
  else if ← keywordIf "for" then
    let _ ← grammar.pattern
    keyword "in"
    let _ ← grammar.expression false
    body grammar
  else if ← keywordIf "match" then
    let _ ← grammar.expression false
    group .brace (do
      innerAttributes grammar
      many (fun tokens => !tokens.isEmpty) (arm grammar))
  else if ← keywordIf "try" then grammar.block
  else
    if !(← keywordIf "loop") then
      if !(← keywordIf "unsafe") then
        let _ ← keywordIf "const"
    body grammar

def closure (grammar : Grammar) (structures : Bool) : Reader Unit := do
  if beginsKeyword "for" (← ahead) then binder grammar
  let _ ← keywordIf "const"
  let _ ← keywordIf "static"
  let _ ← keywordIf "async"
  let _ ← keywordIf "move"
  mark "|"
  let _ ← separated (beginsMark "|") "," (do
    let ((), attributes) ← captured (attributes grammar)
    let (form, fragment) ← captured grammar.onePattern
    let typed := beginsMark ":" (← ahead)
    if form ≠ .verbatim || typed then writeAll attributes
    writeAll fragment
    if typed then
      mark ":"
      let _ ← grammar.type true)
  mark "|"
  if ← markIf "->" then
    let _ ← grammar.type true
    grammar.block
  else
    let _ ← grammar.expression structures

def beginsExpression (tokens : List Token) : Bool :=
  let begins (text : String) (others : List String) : Bool :=
    beginsMark text tokens && !others.any fun other => beginsMark other tokens
  (beginsAnyWord tokens && !beginsKeyword "as" tokens) || beginsAnyGroup tokens || beginsLiteral tokens ||
    beginsLifetime tokens || begins "!" ["!="] || begins "-" ["-=", "->"] || begins "*" ["*="] || begins "|" ["|="] ||
    begins "&" ["&="] || begins ".." [] || begins "<" ["<=", "<<="] || begins "::" [] || begins "#" []

/-- The value of a jump, if it has one. -/
def valueIf (grammar : Grammar) : Reader Unit := do
  if beginsExpression (← ahead) then
    let _ ← grammar.expression true

/-- Leaves a loop or a block. A block may not be its value where structures are not allowed, and a label may not be mistaken for that of a loop. -/
def leave (grammar : Grammar) (structures : Bool) : Reader Unit := do
  keyword "break"
  if beginsLifetime (← ahead) then
    lifetime
    if beginsMark ":" (← ahead) then failure
  if structures || !beginsGroup .brace (← ahead) then valueIf grammar

/-- An operand without what may be put in front of it or after it. -/
def atom (grammar : Grammar) (structures : Bool) : Reader ExpressionForm := do
  let tokens ← ahead
  let rest := tokens.drop 1
  let begins (word : String) : Bool := beginsKeyword word tokens
  if beginsLiteral tokens then
    literal
    return .other
  if begins "async" && (beginsGroup .brace rest || (beginsKeyword "move" rest && beginsGroup .brace (rest.drop 1))) then
    keyword "async"
    let _ ← keywordIf "move"
    grammar.block
    return .other
  if beginsBlock tokens then
    blockExpression grammar
    return .block
  if beginsMark "|" tokens || ["async", "static", "move", "const", "for"].any begins then
    closure grammar structures
    return .other
  if beginsBuiltin tokens then
    builtin
    return .verbatim
  if beginsPathWord tokens || beginsMark "::" tokens || beginsMark "<" tokens ||
      (begins "try" && (beginsMark "!" rest || beginsMark "::" rest)) then
    return ← pathOperand grammar structures
  if beginsGroup .parenthesis tokens then
    group .parenthesis (expressions grammar)
    return .other
  if beginsGroup .bracket tokens then
    group .bracket (do
      if !(← ahead).isEmpty then
        let _ ← grammar.expression true
        if ← markIf ";" then
          let _ ← grammar.expression true
        else if ← markIf "," then expressions grammar)
    return .other
  if begins "break" then
    leave grammar structures
    return .other
  if ← keywordIf "continue" then
    if beginsLifetime (← ahead) then lifetime
    return .other
  if begins "return" || begins "yield" then
    let _ ← anyWord
    valueIf grammar
    return .other
  if ← keywordIf "become" then
    let _ ← grammar.expression true
    return .verbatim
  if ← keywordIf "let" then
    let _ ← grammar.pattern
    mark "="
    let form ← grammar.operand structures
    let _ ← operations grammar structures (← operatorFuel) .compare form
    return .other
  if beginsMark ".." tokens then
    upperBound grammar structures (← operatorFuel)
    return .range
  keyword "_"
  return .other

/-- A member after a point. A decimal literal stands for several, with points between them. -/
def pointed (grammar : Grammar) : Reader Unit := do
  mark "."
  let complete ← match ← ahead with
    | .literal .decimal text _ :: _ =>
      match memberNumbers? text with
      | some (numbers, trailing) =>
        skip 1
        writeAll (Fragment.join "." trailing (numbers.map fun number => [Piece.ofText (toString number)]))
        pure !trailing
      | none => failure
    | _ => pure false
  if !complete then
    if !(← keywordIf "await") then
      let named ← member
      if named && beginsMark "::" (← ahead) then
        require fun tokens => beginsMark "<" (tokens.drop 2)
        let _ ← angleArguments grammar
        require (beginsGroup .parenthesis)

/-- Calls, members, indexes and question marks after an operand. -/
def trailers (grammar : Grammar) (form : ExpressionForm) : Reader ExpressionForm :=
  iterate (fun form => do
    if form = .range then return none
    let tokens ← ahead
    if beginsGroup .parenthesis tokens then
      group .parenthesis (expressions grammar)
      return some .other
    if beginsMark "." tokens && !beginsMark ".." tokens then
      pointed grammar
      return some .other
    if beginsGroup .bracket tokens then
      group .bracket (do let _ ← grammar.expression true)
      return some .other
    if ← markIf "?" then return some .other
    return none) form

/-- An operand with its attributes and what may be put in front of it or after it. A range that begins with its mark has no attributes. -/
def operand (grammar : Grammar) (structures : Bool) : Reader ExpressionForm := verbatimIf (· = .verbatim) do
  let ((), attributes) ← captured (attributes grammar)
  writeAll attributes
  let tokens ← ahead
  if ← markIf "&" then
    let raw ← ahead
    if beginsKeyword "raw" raw && (beginsKeyword "mut" (raw.drop 1) || beginsKeyword "const" (raw.drop 1)) then
      let _ ← anyWord
      let _ ← anyWord
    else
      let _ ← keywordIf "mut"
    let _ ← grammar.operand structures
    return .other
  match ["*", "!", "-"].find? fun text => beginsMark text tokens with
  | some text =>
    mark text
    let _ ← grammar.operand structures
    return .other
  | none =>
    let form ← trailers grammar (← atom grammar structures)
    if form = .range && !attributes.isEmpty then failure
    return form

def expression (grammar : Grammar) (structures : Bool) : Reader ExpressionForm := do
  let form ← operand grammar structures
  operations grammar structures (← operatorFuel) .lowest form

/-! ### Attributes and early ends -/

/-- An expression with attributes that were read before it. A range is put in parentheses for them, and what is written as it stood does not have them. -/
def attributed (attributes fragment : Fragment) (leading form : ExpressionForm) : Fragment :=
  if leading = .verbatim || attributes.isEmpty then fragment
  else if form = .range then attributes ++ [.group .parenthesis fragment]
  else attributes ++ fragment

/-- An expression that may end early: a block at its beginning is all of it, unless a point or a question mark follows. -/
def early (grammar : Grammar) : Reader (ExpressionForm × ExpressionForm) := do
  let ((), attributes) ← captured (attributes grammar)
  if beginsBlock (← ahead) then
    writeAll attributes
    blockExpression grammar
    let tokens ← ahead
    if (beginsMark "." tokens && !beginsMark ".." tokens) || beginsMark "?" tokens then
      let form ← trailers grammar .other
      return (.other, ← operations grammar true (← operatorFuel) .lowest form)
    return (.block, .block)
  let (form, fragment) ← captured (grammar.operand true)
  writeAll (attributed attributes fragment form form)
  return (form, ← operations grammar true (← operatorFuel) .lowest form)

end MessageCatalog.Source.Phrase
