import WireSchema.Grammar.Function
import WireSchema.Grammar.Item.Field

/-!
The rules of declarations that hold others: traits, implementations and what is defined elsewhere.
-/

namespace WireSchema.Grammar
open Parse

/-- Declarations in braces. -/
def body (g : Grammar) (declaration : Parse Unit) : Parse Unit :=
  between .brace do
    innerAttributes g
    toEnd declaration

/-- A path and a bang may come next. -/
def macroPathAhead (ts : List Token) : Bool :=
  Ahead.name ts || Ahead.colons ts || ["self", "super", "crate"].any (Ahead.keyword · ts)

/-- A macro and its text, with a semicolon unless that is in braces. A macro that defines something
may be given its name. -/
def macroItem (defines : Bool) : Parse Unit := do
  plainPath
  mark '!'
  discard (accept fun ts => defines && (Ahead.name ts || Ahead.keyword "try" ts))
  let braced ← ahead (Ahead.opening .brace)
  group
  if !braced then mark ';'

def constantItem (g : Grammar) : Parse Unit := do
  keyword "const"
  expect Ahead.nameOrBlank
  generics g
  mark ':'
  discard (g.type true)
  if ← accept (Ahead.mark '=') then discard (g.expression true)
  discard (whereClause g)
  mark ';'

/-- A name for a type. What its parameters have to meet stands before or after that type. -/
def typeItem (g : Grammar) (before after : Bool) : Parse Unit := do
  keyword "type"
  name
  generics g
  if ← accept (Ahead.mark ':') then
    boundsUntil g true fun ts =>
      Ahead.keyword "where" ts || Ahead.mark '=' ts || Ahead.mark ';' ts
  let given ← if before then whereClause g else pure false
  if ← accept (Ahead.mark '=') then discard (g.type true)
  if after && !given then discard (whereClause g)
  mark ';'

/-- A declaration of a trait or an implementation. `defaultAhead` finds the word that allows others
to replace it. -/
def associatedItem (g : Grammar) (defaultAhead : List Token → Bool) : Parse Unit := do
  attributes g
  let visible ← visibility
  let replaceable ← accept defaultAhead
  let ts ← get
  if signatureAhead false ts then function g false
  else if Ahead.keyword "const" ts then constantItem g
  else if Ahead.keyword "type" ts then typeItem g false true
  else
    require (!visible && !replaceable && macroPathAhead ts)
    macroItem false

/-- A trait, or a name for bounds, which has no qualifiers. -/
def traitItem (g : Grammar) : Parse Unit := do
  let notSafe ← accept (Ahead.keyword "unsafe")
  let automatic ← accept (Ahead.named "auto")
  keyword "trait"
  name
  generics g
  if ← accept fun ts => !notSafe && !automatic && Ahead.mark '=' ts then
    boundsUntil g false fun ts => Ahead.keyword "where" ts || Ahead.mark ';' ts
    discard (whereClause g)
    mark ';'
  else
    if ← accept (Ahead.mark ':') then
      boundsUntil g true fun ts => Ahead.keyword "where" ts || Ahead.opening .brace ts
    discard (whereClause g)
    body g (associatedItem g (Ahead.named "default"))

/-- The word, and no macro of that name. -/
def defaultAhead (ts : List Token) : Bool :=
  Ahead.named "default" ts && !Ahead.mark '!' (Ahead.skip ts)

/-- What is implemented for a type. A trait may be said not to hold of it. -/
def implItem (g : Grammar) : Parse Unit := do
  discard (accept (Ahead.named "default"))
  discard (accept (Ahead.keyword "unsafe"))
  keyword "impl"
  if ← ahead genericsAhead then parameters g true
  if ← ahead fun ts => Ahead.keyword "const" ts ||
      (Ahead.mark '?' ts && Ahead.keyword "const" (Ahead.skip ts)) then
    discard (accept (Ahead.mark '?'))
    keyword "const"
  let negative ← accept fun ts => Ahead.mark '!' ts && !Ahead.opening .brace (Ahead.skip ts)
  discard (g.type true)
  if ← accept (Ahead.keyword "for") then discard (g.type true) else require (!negative)
  discard (whereClause g)
  body g (associatedItem g defaultAhead)

/-- A variable that is defined elsewhere. -/
def foreignVariable (g : Grammar) : Parse Unit := do
  discard (accept fun ts => !Ahead.keyword "static" ts)
  keyword "static"
  discard (accept (Ahead.keyword "mut"))
  name
  mark ':'
  discard (g.type true)
  if ← accept (Ahead.mark '=') then discard (g.expression true)
  mark ';'

def foreignMember (g : Grammar) : Parse Unit := do
  attributes g
  let visible ← visibility
  let ts ← get
  if signatureAhead true ts then function g true
  else if Ahead.keyword "static" ts || ((Ahead.keyword "unsafe" ts || Ahead.named "safe" ts) &&
      Ahead.keyword "static" (Ahead.skip ts)) then foreignVariable g
  else if Ahead.keyword "type" ts then typeItem g true true
  else
    require (!visible && macroPathAhead ts)
    macroItem false

def foreignItem (g : Grammar) : Parse Unit := do
  discard (accept (Ahead.keyword "unsafe"))
  keyword "extern"
  discard (accept Ahead.string)
  body g (foreignMember g)

end WireSchema.Grammar
