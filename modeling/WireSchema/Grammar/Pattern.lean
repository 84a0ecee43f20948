import WireSchema.Grammar.Path

/-!
The rules of patterns, which stand in `let`, `match`, `for`, functions and closures.
-/

namespace WireSchema.Grammar
open Parse

def barAhead (ts : List Token) : Bool :=
  Ahead.mark '|' ts && !Ahead.marks ['|', '|'] ts && !Ahead.marks ['|', '='] ts

/-- Alternatives with bars between them and maybe before the first. Without any bar it is the
pattern alone, which may be a range that lacks one of its ends. -/
def alternatives (g : Grammar) : Parse Bool := do
  let leading ← accept (Ahead.mark '|')
  let lacking ← g.pattern
  let more ← ahead barAhead
  whileAhead barAhead (fun _ => do
    mark '|'
    discard g.pattern) ()
  return lacking && !leading && !more

/-- Nothing follows that could end a range. -/
def rangeOpen (ts : List Token) : Bool :=
  Ahead.finished ts || ['|', '=', ',', ';'].any (Ahead.mark · ts) || Ahead.colon ts ||
    Ahead.keyword "if" ts

/-- A literal, a constant block or a path at either end of a range. -/
def rangeEnd (g : Grammar) : Parse Unit := do
  if ← ahead Ahead.literal then discard literal
  else if ← accept (Ahead.keyword "const") then g.block true
  else
    require (← ahead fun ts => Ahead.name ts || Ahead.pathWord ts || Ahead.colons ts ||
      Ahead.mark '<' ts)
    discard (valuePath g)

/-- The end of a range, if it has one. It has to have one if it is closed. -/
def rangeEnd? (g : Grammar) (closed : Bool) : Parse Bool := do
  if ← ahead rangeOpen then
    require (!closed)
    return false
  else
    rangeEnd g
    return true

/-- What makes a range of its start, if anything. -/
def rangeAfter (g : Grammar) : Parse Bool := do
  if !(← ahead Ahead.dots) then return false
  let closed ←
    if ← acceptMarks ['.', '.', '='] then pure true else acceptMarks ['.', '.', '.']
  if !closed then marks ['.', '.']
  return !(← rangeEnd? g closed)

/-- A range without a start, or two points in the place of any number of items. -/
def rangeBefore (g : Grammar) : Parse Bool := do
  if ← acceptMarks ['.', '.', '='] then rangeEnd? g true
  else
    require (!(← ahead Ahead.ellipsis))
    marks ['.', '.']
    rangeEnd? g false

/-- A field of a struct pattern, by name or by position. Without its own pattern it is a name that
is bound. -/
def fieldPattern (g : Grammar) : Parse Unit := do
  let boxed ← accept (Ahead.keyword "box")
  let byReference ← accept (Ahead.keyword "ref")
  let mutable ← accept (Ahead.keyword "mut")
  let unmarked := !(boxed || byReference || mutable)
  if ← accept fun ts => unmarked && Ahead.position ts then
    mark ':'
    discard (alternatives g)
  else
    name
    if ← accept fun ts => unmarked && Ahead.mark ':' ts then discard (alternatives g)

/-- The fields of a struct pattern. Two points stand for all others and come last. -/
def fieldPatternsWithin (g : Grammar) : Nat → Parse Unit
  | 0 => return
  | steps + 1 => do
    if ← ahead Ahead.finished then return
    attributes g
    if ← acceptMarks ['.', '.'] then return
    fieldPattern g
    if ← accept (Ahead.mark ',') then fieldPatternsWithin g steps

def bindingPattern (g : Grammar) : Parse Unit := do
  discard (accept (Ahead.keyword "ref"))
  discard (accept (Ahead.keyword "mut"))
  expect fun ts => Ahead.name ts || Ahead.keyword "self" ts
  if ← accept (Ahead.mark '@') then discard g.pattern

/-- What begins with a path. -/
def namedPattern (g : Grammar) : Parse Bool := do
  let plain ← valuePath g
  if ← ahead fun ts => plain && Ahead.bang ts then
    mark '!'
    group
    return false
  else if ← ahead (Ahead.opening .brace) then
    between .brace (do fieldPatternsWithin g (← get).length)
    return false
  else if ← ahead (Ahead.opening .paren) then
    discard (between .paren (list (alternatives g) (Ahead.closing .paren)))
    return false
  else rangeAfter g

def namedPatternAhead (ts : List Token) : Bool :=
  let second := Ahead.skip ts
  (Ahead.name ts && (Ahead.colons second || Ahead.mark '!' second || Ahead.dots second ||
      Ahead.opening .brace second || Ahead.opening .paren second)) ||
    (Ahead.keyword "self" ts && Ahead.colons second) || Ahead.colons ts || Ahead.mark '<' ts ||
    ["Self", "super", "crate"].any (Ahead.keyword · ts)

/-- In brackets a range needs both its ends. -/
def bracketPattern (g : Grammar) : Parse Unit :=
  discard (between .bracket (list (do require (!(← alternatives g))) (Ahead.closing .bracket)))

def patternRule (g : Grammar) : Parse Bool := do
  let ts ← get
  if namedPatternAhead ts then namedPattern g
  else if Ahead.mark '-' ts || Ahead.literal ts || Ahead.keyword "const" ts then
    rangeEnd g
    rangeAfter g
  else if Ahead.dots ts then rangeBefore g
  else
    if Ahead.keyword "_" ts then discard next
    else if ← accept (Ahead.keyword "box") then discard g.pattern
    else if ← accept (Ahead.mark '&') then
      discard (accept (Ahead.keyword "mut"))
      discard g.pattern
    else if Ahead.opening .paren ts then
      discard (between .paren (list (alternatives g) (Ahead.closing .paren)))
    else if Ahead.opening .bracket ts then bracketPattern g
    else bindingPattern g
    return false

end WireSchema.Grammar
