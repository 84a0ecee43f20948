import WireSchema.Grammar.Generic
import WireSchema.Grammar.Operator
import WireSchema.Grammar.Pattern
import WireSchema.Token.Number

/-!
The rules of expressions without operators. Of an expression only an integer literal matters, but
all others are read, so that what is no expression is told from what is no length.
-/

namespace WireSchema.Grammar
open Parse

/-- Expressions with commas between them, in delimiters. -/
def expressions (g : Grammar) (delimiter : Delimiter) : Parse Unit :=
  discard (between delimiter (list (g.expression true) (Ahead.closing delimiter)))

/-- A field of a struct expression. A name may stand for the variable of that name. -/
def fieldValue (g : Grammar) : Parse Unit := do
  attributes g
  let named ← accept Ahead.name
  if !named then expect Ahead.position
  if ← ahead fun ts => !named || Ahead.mark ':' ts then
    mark ':'
    discard (g.expression true)

/-- The fields of a struct expression, and maybe a base that gives the others. -/
def fieldValuesWithin (g : Grammar) : Nat → Parse Unit
  | 0 => return
  | steps + 1 => do
    if ← ahead Ahead.finished then return
    if ← acceptMarks ['.', '.'] then
      if !(← ahead Ahead.finished) then discard (g.expression true)
    else
      fieldValue g
      if ← accept (Ahead.mark ',') then fieldValuesWithin g steps

/-- A path, a macro or a struct. -/
def pathOperand (g : Grammar) (structs : Bool) : Parse Operand := do
  let plain ← valuePath g
  if ← ahead fun ts => plain && Ahead.bang ts then
    mark '!'
    let braced ← ahead (Ahead.opening .brace)
    group
    return if braced then .bracedMacro else .other
  if ← ahead fun ts => structs && Ahead.opening .brace ts then
    between .brace (do fieldValuesWithin g (← get).length)
  return .other

/-- Items in brackets, or one and how often it is repeated. -/
def bracketOperand (g : Grammar) : Parse Unit :=
  between .bracket do
    if !(← ahead Ahead.finished) then
      discard (g.expression true)
      if ← accept (Ahead.mark ';') then discard (g.expression true)
      else if ← accept (Ahead.mark ',') then
        discard (list (g.expression true) (Ahead.closing .bracket))

def closureParameter (g : Grammar) : Parse Unit := do
  attributes g
  discard g.pattern
  if ← accept (Ahead.mark ':') then discard (g.type true)

def closure (g : Grammar) (structs : Bool) : Parse Unit := do
  discard (binder g)
  for text in ["const", "static", "async", "move"] do
    discard (accept (Ahead.keyword text))
  mark '|'
  discard (list (closureParameter g) (Ahead.mark '|'))
  mark '|'
  if (← returnType g true).isSome then g.block false else discard (g.expression structs)

/-- An expression may begin here. -/
def expressionAhead (ts : List Token) : Bool :=
  (Ahead.word ts && !Ahead.keyword "as" ts) || Ahead.plainLiteral ts || Ahead.lifetime ts ||
    Ahead.anyOpening ts || Ahead.bang ts ||
    (Ahead.mark '-' ts && !Ahead.marks ['-', '='] ts && !Ahead.marks ['-', '>'] ts) ||
    (Ahead.mark '*' ts && !Ahead.marks ['*', '='] ts) ||
    (Ahead.mark '|' ts && !Ahead.marks ['|', '='] ts) ||
    (Ahead.mark '&' ts && !Ahead.marks ['&', '='] ts) || Ahead.dots ts || angleAhead ts ||
    Ahead.colons ts || Ahead.mark '#' ts

/-- What may follow `break` and `return`. -/
def optionalExpression (g : Grammar) (structs : Bool) : Parse Unit := do
  if ← ahead fun ts => expressionAhead ts && (structs || !Ahead.opening .brace ts) then
    discard (g.expression structs)

/-- `if` and all that is chained to it by `else`. In a condition a brace begins a block. -/
def conditionalWithin (g : Grammar) : Nat → Parse Unit
  | 0 => failure
  | steps + 1 => do
    keyword "if"
    discard (g.expression false)
    g.block false
    if ← accept (Ahead.keyword "else") then
      if ← ahead (Ahead.keyword "if") then conditionalWithin g steps else g.block false

/-- What ends in a block and may be a statement without a mark after it. -/
def blockLikeAhead (ts : List Token) : Bool :=
  Ahead.opening .brace ts ||
    ["if", "while", "loop", "match", "unsafe"].any (Ahead.keyword · ts) ||
    (Ahead.keyword "for" ts && !binderAhead ts) || Ahead.lifetime ts ||
    (["try", "const"].any (Ahead.keyword · ts) && Ahead.opening .brace (Ahead.skip ts))

/-- What may follow an operand. A range takes no field and no question mark. -/
def trailerAhead (operand : Operand) (ts : List Token) : Bool :=
  Ahead.opening .paren ts || Ahead.opening .bracket ts ||
    (operand != .range && (Ahead.mark '?' ts || Ahead.point ts))

/-- The digits of a position, and nothing else. -/
def isPositionText (digits : List Char) : Bool :=
  match Token.integer? digits with
  | some (token, []) => Ahead.position [token]
  | _ => false

/-- A field or a method. Arguments in angle brackets make it a method. -/
def memberName (g : Grammar) : Parse Unit := do
  if ← accept Ahead.name then
    if ← acceptMarks [':', ':'] then
      discard (angled g)
      require (← ahead (Ahead.opening .paren))
  else expect fun ts => Ahead.keyword "await" ts || Ahead.position ts

/-- What stands after a point. Two positions with a point between them look like one number, and
the point after a single one may look like a part of it. -/
def member (g : Grammar) : Parse Unit := do
  match ← get with
  | .decimal text :: rest =>
    set rest
    let places := (text.toList.dropWhile (· != '.')).drop 1
    require (isPositionText (text.toList.takeWhile (· != '.')))
    if places.isEmpty then memberName g else require (isPositionText places)
  | _ => memberName g

def trailer (g : Grammar) : Parse Unit := do
  if ← ahead (Ahead.opening .paren) then expressions g .paren
  else if ← ahead (Ahead.opening .bracket) then
    discard (between .bracket (g.expression true))
  else if !(← accept (Ahead.mark '?')) then
    mark '.'
    member g

def trailersWithin (g : Grammar) : Nat → Operand → Parse Operand
  | 0, operand => return operand
  | steps + 1, operand => do
    if ← ahead (trailerAhead operand) then
      trailer g
      trailersWithin g steps .other
    else return operand

def trailers (g : Grammar) (operand : Operand) : Parse Operand := do
  trailersWithin g (← get).length operand

/-- One arm of a `match`. -/
def arm (g : Grammar) : Parse Unit := do
  attributes g
  discard (alternatives g)
  if ← accept (Ahead.keyword "if") then discard (g.expression true)
  marks ['=', '>']
  let body ← g.standalone
  if !(← accept (Ahead.mark ',')) then
    require (body = .block || (← ahead Ahead.finished))

/-- A block, maybe with a label, or what ends in a block. -/
def blockLike (g : Grammar) : Parse Unit := do
  if ← accept Ahead.lifetime then
    mark ':'
    require (← ahead fun ts => Ahead.opening .brace ts ||
      ["while", "for", "loop"].any (Ahead.keyword · ts))
  if ← ahead (Ahead.keyword "if") then conditionalWithin g (← get).length
  else if ← accept (Ahead.keyword "match") then
    discard (g.expression false)
    between .brace do
      innerAttributes g
      toEnd (arm g)
  else if ← accept (Ahead.keyword "while") then
    discard (g.expression false)
    g.block true
  else if ← accept (Ahead.keyword "for") then
    discard (alternatives g)
    keyword "in"
    discard (g.expression false)
    g.block true
  else if ← accept (Ahead.keyword "try") then g.block false
  else
    discard (accept fun ts => ["loop", "unsafe", "const"].any (Ahead.keyword · ts))
    g.block true

/-- What ends in a block goes on only with a point or a question mark. -/
def standaloneRule (g : Grammar) : Parse Operand := do
  attributes g
  if ← ahead blockLikeAhead then
    blockLike g
    if ← ahead fun ts => Ahead.point ts || Ahead.mark '?' ts then
      g.operators true (← trailers g .block) 0
    else return .block
  else g.expression true

/-- An operand that begins with a reserved word and does not end in a block of its own. -/
def keywordOperand (g : Grammar) (structs : Bool) (text : String) : Parse Unit := do
  keyword text
  match text with
  | "async" =>
    discard (accept (Ahead.keyword "move"))
    g.block false
  | "let" =>
    discard (alternatives g)
    mark '='
    discard (g.operators structs (← g.operand structs) compareLevel)
  | "break" =>
    if ← accept Ahead.lifetime then require (!(← ahead (Ahead.mark ':')))
    optionalExpression g structs
  | "continue" => discard (accept Ahead.lifetime)
  | "return" | "yield" => optionalExpression g true
  | "become" => discard (g.expression true)
  | "_" => return
  | _ => failure

def closureAhead (ts : List Token) : Bool :=
  let second := Ahead.skip ts
  Ahead.mark '|' ts || Ahead.keyword "move" ts || Ahead.keyword "static" ts || binderAhead ts ||
    (Ahead.keyword "const" ts && !Ahead.opening .brace second) ||
    (Ahead.keyword "async" ts && (Ahead.mark '|' second ||
      (Ahead.keyword "move" second && !Ahead.opening .brace (Ahead.skip second))))

def valuePathAhead (ts : List Token) : Bool :=
  let second := Ahead.skip ts
  Ahead.name ts || Ahead.pathWord ts || Ahead.colons ts || Ahead.mark '<' ts ||
    (Ahead.keyword "try" ts && (Ahead.mark '!' second || Ahead.colons second))

def atom (g : Grammar) (structs : Bool) : Parse Operand := do
  let ts ← get
  if Ahead.plainLiteral ts then return .ofLength (← literal)
  else if blockLikeAhead ts then
    blockLike g
    return .block
  else if Ahead.builtin ts then builtin
  else if closureAhead ts then closure g structs
  else if valuePathAhead ts then return ← pathOperand g structs
  else if Ahead.dots ts then return ← rangeTail g structs
  else match ts with
  | .keyword text :: _ => keywordOperand g structs text
  | .opening .bracket :: _ => bracketOperand g
  | _ => expressions g .paren
  return .other

def operandRule (g : Grammar) (structs : Bool) : Parse Operand := do
  let decorated ← ahead (Ahead.mark '#')
  attributes g
  if ← accept (Ahead.mark '&') then
    let raw := fun ts => Ahead.named "raw" ts &&
      (Ahead.keyword "mut" (Ahead.skip ts) || Ahead.keyword "const" (Ahead.skip ts))
    if ← accept raw then discard next else discard (accept (Ahead.keyword "mut"))
    discard (g.operand structs)
    return .other
  else if ← accept fun ts => ['*', '!', '-'].any (Ahead.mark · ts) then
    discard (g.operand structs)
    return .other
  else
    let operand ← trailers g (← atom g structs)
    require (!(decorated && operand = .range))
    return operand

end WireSchema.Grammar
