import WireSchema.Grammar.Expression

/-!
The rules of statements and blocks.
-/

namespace WireSchema.Grammar
open Parse

/-- What follows a path and a bang, if they come next. -/
def macroRest? (ts : List Token) : Option (List Token) := do
  let (_, rest) ← plainPath ts
  if Ahead.mark '!' rest then some (rest.drop 1) else none

/-- A macro that defines something of the name after the bang. -/
def definitionAhead (ts : List Token) : Bool :=
  (macroRest? ts).any fun rest => Ahead.name rest || Ahead.keyword "try" rest

/-- A macro in braces, unless a point or a question mark makes it an operand. -/
def macroAhead (ts : List Token) : Bool :=
  (macroRest? ts).any fun rest =>
    let after := Ahead.skip rest
    Ahead.opening .brace rest && !Ahead.point after && !Ahead.mark '?' after

/-- `const` begins a declaration, and no block or closure. -/
def constantItemAhead (ts : List Token) : Bool :=
  let second := Ahead.skip ts
  let third := Ahead.skip second
  let isFunction := ["unsafe", "extern", "fn"].any (Ahead.keyword · third)
  Ahead.keyword "const" ts && !Ahead.opening .brace second && !Ahead.mark '|' second &&
    !Ahead.keyword "static" second && !Ahead.keyword "move" second &&
    (!Ahead.keyword "async" second || isFunction)

def itemAhead (ts : List Token) : Bool :=
  let second := Ahead.skip ts
  ["pub", "extern", "use", "fn", "mod", "type", "struct", "enum", "trait", "impl", "macro"].any
      (Ahead.keyword · ts) ||
    (Ahead.keyword "crate" ts && !Ahead.colons second) ||
    (Ahead.keyword "static" ts && (Ahead.keyword "mut" second || Ahead.name second)) ||
    constantItemAhead ts || (Ahead.keyword "unsafe" ts && !Ahead.opening .brace second) ||
    (Ahead.keyword "async" ts && ["unsafe", "extern", "fn"].any (Ahead.keyword · second)) ||
    (Ahead.named "union" ts && Ahead.name second) ||
    (Ahead.named "auto" ts && Ahead.keyword "trait" second) ||
    (Ahead.named "default" ts && ["unsafe", "impl"].any (Ahead.keyword · second)) ||
    definitionAhead ts

/-- The last token between `before` and `rest` is a brace. -/
def endsInBrace (before rest : List Token) : Bool :=
  (before.take (before.length - rest.length)).getLast? == some (.closing .brace)

/-- `let` with a pattern, a type, a value and what to do if the value does not match. A value that
ends in a brace leaves no place for the latter. -/
def binding (g : Grammar) : Parse Unit := do
  keyword "let"
  discard g.pattern
  if ← accept (Ahead.mark ':') then discard (g.type true)
  let before ← get
  if ← accept (Ahead.mark '=') then
    discard (g.expression true)
    if ← accept fun ts => Ahead.keyword "else" ts && !endsInBrace before ts then g.block false
  mark ';'

/-- One statement. It needs a mark after it if it is an expression that does not end in a brace,
unless it is the last. -/
def statement (g : Grammar) : Parse Unit := do
  if ← accept (Ahead.mark ';') then return
  attributes g
  if ← ahead macroAhead then
    plainPath
    mark '!'
    group
  else if ← ahead (Ahead.keyword "let") then binding g
  else if ← ahead itemAhead then g.item
  else
    let value ← g.standalone
    if !(← accept (Ahead.mark ';')) then
      require (value = .block || value = .bracedMacro || (← ahead Ahead.finished))

def blockRule (g : Grammar) (inner : Bool) : Parse Unit :=
  between .brace do
    if inner then innerAttributes g
    toEnd (statement g)

end WireSchema.Grammar
