import WireSchema.Grammar.Generic

/-!
The rules of types.
-/

namespace WireSchema.Grammar
open Parse

/-- How a function is called. A string after `extern` names the convention. -/
def convention : Parse Unit := do
  if ← accept (Ahead.keyword "extern") then discard (accept Ahead.string)

/-- Any further arguments are next, maybe with a name. -/
def variadicAhead (ts : List Token) : Bool :=
  Ahead.ellipsis ts || (Ahead.nameOrBlank ts && Ahead.mark ':' (Ahead.skip ts) &&
    Ahead.ellipsis (Ahead.skip (Ahead.skip ts)))

def variadic : Parse Unit := do
  if ← accept Ahead.nameOrBlank then mark ':'
  marks ['.', '.', '.']
  discard (accept (Ahead.mark ','))

/-- One parameter of a function type, with or without a name. The first may be `self`. -/
def functionParameter (g : Grammar) (first : Bool) : Parse Unit := do
  let mutableSelf := fun ts =>
    first && Ahead.keyword "mut" ts && Ahead.keyword "self" (Ahead.skip ts)
  let marked ← accept mutableSelf
  let ownSelf ← ahead fun ts => first && Ahead.keyword "self" ts
  let named ← accept fun ts =>
    (Ahead.nameOrBlank ts || ownSelf) && Ahead.colon (Ahead.skip ts)
  if named then mark ':'
  if ← ahead fun ts => !(named && ownSelf) && mutableSelf ts then
    keyword "mut"
    keyword "self"
  else if marked && !named then keyword "self"
  else discard (g.type true)

def functionParametersWithin (g : Grammar) : Nat → Bool → Parse Unit
  | 0, _ => return
  | steps + 1, first => do
    if ← ahead Ahead.finished then return
    attributes g
    if ← ahead variadicAhead then variadic
    else
      functionParameter g first
      if ← accept (Ahead.mark ',') then functionParametersWithin g steps false

/-- A function type, from its first keyword on. -/
def functionType (g : Grammar) : Parse Unit := do
  discard (accept (Ahead.keyword "unsafe"))
  convention
  keyword "fn"
  between .paren (do functionParametersWithin g (← get).length true)
  discard (returnType g false)

def functionAhead (ts : List Token) : Bool :=
  ["fn", "unsafe", "extern"].any (Ahead.keyword · ts)

/-- A type that begins with a path: the path itself, a macro, or bounds. A path after a binder is
always a bound. -/
def pathType (g : Grammar) (plus bound : Bool) : Parse TypeForm := do
  let path ← calls g (← path g false)
  if ← ahead fun ts => path.plain && Ahead.bang ts then
    mark '!'
    group
    return .other
  if ← ahead fun ts => plus && Ahead.mark '+' ts then
    discard (moreBounds g false false true)
    return .other
  else if bound then return .bound
  else if path.call then return .call path.word.text
  else return .path path.word path.arguments path.lone

/-- Further bounds after a bound in parentheses. -/
def boundsAfter (g : Grammar) : Parse TypeForm := do
  if ← ahead (Ahead.mark '+') then
    whileAhead (Ahead.mark '+') (fun _ => do
      mark '+'
      discard (g.bound false false)) ()
    return .other
  else return .bound

/-- What begins with a parenthesis. -/
def parenType (g : Grammar) (plus : Bool) : Parse TypeForm := do
  opening .paren
  if ← accept (Ahead.closing .paren) then return .tuple
  if ← ahead Ahead.lifetime then
    traitBounds g true false false
    closing .paren
    return .paren .other
  if ← ahead (Ahead.mark '?') then
    traitBound g false
    closing .paren
    boundsAfter g
  else
    let first ← g.type true
    if ← accept (Ahead.mark ',') then
      discard (list (g.type true) (Ahead.closing .paren))
      closing .paren
      return .tuple
    closing .paren
    if ← ahead fun ts => plus && first.isBound && Ahead.mark '+' ts then boundsAfter g
    else return .paren first

/-- What begins with a bracket. -/
def bracketType (g : Grammar) : Parse TypeForm :=
  between .bracket do
    let element ← g.type true
    if ← accept (Ahead.mark ';') then
      let length ← g.expression true
      return .array element length.length
    else return .slice

def pointerType (g : Grammar) : Parse TypeForm := do
  mark '*'
  expect fun ts => Ahead.keyword "const" ts || Ahead.keyword "mut" ts
  discard (g.type false)
  return .other

def referenceType (g : Grammar) : Parse TypeForm := do
  mark '&'
  discard (accept Ahead.lifetime)
  discard (accept (Ahead.keyword "mut"))
  discard (g.type false)
  return .reference

/-- What may follow a binder, or stand without one. -/
def bindableType (g : Grammar) (plus bound : Bool) : Parse TypeForm := do
  if ← ahead functionAhead then
    functionType g
    return .other
  else if ← ahead Ahead.builtin then
    builtin
    return .other
  else pathType g plus bound

def typeRule (g : Grammar) (plus : Bool) : Parse TypeForm := do
  let ts ← get
  if Ahead.opening .paren ts then parenType g plus
  else if Ahead.opening .bracket ts then bracketType g
  else if ← binder g then
    require (← ahead fun ts => functionAhead ts || Ahead.name ts || Ahead.pathWord ts)
    bindableType g plus true
  else if functionAhead ts || Ahead.name ts || Ahead.pathWord ts || Ahead.colons ts then
    bindableType g plus false
  else if Ahead.mark '<' ts then
    discard (calls g (← qualifiedPath g false))
    return .qualified
  else if Ahead.keyword "dyn" ts then
    keyword "dyn"
    discard (accept (Ahead.mark '*'))
    traitBounds g plus false false
    return .other
  else if Ahead.mark '*' ts then pointerType g
  else if Ahead.mark '&' ts then referenceType g
  else if Ahead.keyword "impl" ts then
    keyword "impl"
    traitBounds g plus true true
    return .other
  else if ← accept fun ts => Ahead.mark '!' ts || Ahead.keyword "_" ts then return .other
  else
    require (Ahead.lifetime ts)
    traitBounds g true false false
    return .other

end WireSchema.Grammar
