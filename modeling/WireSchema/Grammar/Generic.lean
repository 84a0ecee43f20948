import WireSchema.Grammar.Path

/-!
The rules of generic parameters and of the bounds on types.
-/

namespace WireSchema.Grammar
open Parse

/-- Parameters begin here, and no qualified path. -/
def genericsAhead (ts : List Token) : Bool :=
  let second := Ahead.skip ts
  let third := Ahead.skip second
  Ahead.mark '<' ts &&
    (Ahead.mark '>' second || Ahead.mark '#' second || Ahead.keyword "const" second ||
      ((Ahead.lifetime second || Ahead.name second) &&
        (['>', ',', '='].any (Ahead.mark · third) || Ahead.colon third)))

/-- `for` and parameters, not a loop. -/
def binderAhead (ts : List Token) : Bool :=
  Ahead.keyword "for" ts && genericsAhead (Ahead.skip ts)

/-- Nothing more belongs to the bounds of a parameter. -/
def parameterOver (ts : List Token) : Bool :=
  [',', '>', '='].any (Ahead.mark · ts)

def lifetimeParameter : Parse Unit := do
  lifetime
  if ← accept (Ahead.mark ':') then
    series lifetime '+' fun ts => Ahead.mark ',' ts || Ahead.mark '>' ts

def typeParameter (g : Grammar) : Parse Unit := do
  name
  if ← accept (Ahead.mark ':') then series (g.bound false true) '+' parameterOver
  if ← accept (Ahead.mark '=') then discard (g.type true)

def constantParameter (g : Grammar) : Parse Unit := do
  keyword "const"
  name
  mark ':'
  discard (g.type true)
  if ← accept (Ahead.mark '=') then discard (constant g)

/-- `blank` allows an underscore in the place of a parameter. -/
def parameter (g : Grammar) (blank : Bool) : Parse Unit := do
  attributes g
  if ← ahead Ahead.lifetime then lifetimeParameter
  else if ← ahead Ahead.name then typeParameter g
  else if !(← accept fun ts => blank && Ahead.keyword "_" ts) then constantParameter g

def parameters (g : Grammar) (blank : Bool) : Parse Unit := do
  mark '<'
  discard (list (parameter g blank) (Ahead.mark '>'))
  mark '>'

/-- The parameters after the name of something, if it has any. -/
def generics (g : Grammar) : Parse Unit := do
  if ← ahead (Ahead.mark '<') then parameters g true

/-- Parameters of a type or a bound, if there are any. -/
def binder (g : Grammar) : Parse Bool := do
  if ← accept (Ahead.keyword "for") then
    parameters g false
    return true
  else return false

/-- A bound that is a trait. -/
def traitBound (g : Grammar) (constant : Bool) : Parse Unit := do
  let bound ← binder g
  if ← ahead (Ahead.opening .bracket) then
    between .bracket (keyword "const")
    require constant
  else if ← accept (Ahead.keyword "const") then require constant
  require (!(← accept (Ahead.mark '?')) || !bound)
  let path ← path g false
  if ← ahead fun ts => path.isBare && callAhead ts then discard (callArguments g)

/-- The parameters that a type captures. -/
def captures : Parse Unit := do
  mark '<'
  discard (list (expect fun ts => Ahead.lifetime ts || Ahead.name ts || Ahead.keyword "Self" ts)
    (Ahead.mark '>'))
  mark '>'

def boundRule (g : Grammar) (capture constant : Bool) : Parse Bool := do
  if ← accept Ahead.lifetime then return false
  if ← accept (Ahead.keyword "use") then
    require capture
    captures
    return false
  if ← ahead (Ahead.opening .paren) then between .paren (traitBound g constant)
  else traitBound g constant
  return true

def boundAhead (constant : Bool) (ts : List Token) : Bool :=
  Ahead.word ts || Ahead.colons ts || Ahead.mark '?' ts || Ahead.lifetime ts ||
    Ahead.opening .paren ts || (constant && Ahead.opening .bracket ts)

/-- Bounds after a first one. A plus sign may stand after the last. -/
def moreBoundsWithin (g : Grammar) (capture constant : Bool) : Nat → Bool → Parse Bool
  | 0, trait => return trait
  | steps + 1, trait => do
    if !(← accept (Ahead.mark '+')) then return trait
    if ← ahead (boundAhead constant) then
      moreBoundsWithin g capture constant steps ((← g.bound capture constant) || trait)
    else return trait

def moreBounds (g : Grammar) (capture constant trait : Bool) : Parse Bool := do
  moreBoundsWithin g capture constant (← get).length trait

/-- One or more bounds, among them a trait. -/
def traitBounds (g : Grammar) (plus capture constant : Bool) : Parse Unit := do
  let trait ← g.bound capture constant
  require (← if plus then moreBounds g capture constant trait else pure trait)

/-- Bounds up to where `atEnd` holds. -/
def boundsUntil (g : Grammar) (constant : Bool) (atEnd : List Token → Bool) : Parse Unit := do
  series (g.bound false constant) '+' atEnd
  require (← ahead atEnd)

def whereOver (ts : List Token) : Bool :=
  Ahead.finished ts || Ahead.opening .brace ts || [',', ';', '='].any (Ahead.mark · ts) ||
    Ahead.colon ts

def predicate (g : Grammar) : Parse Unit := do
  if ← ahead fun ts => Ahead.lifetime ts && Ahead.mark ':' (Ahead.skip ts) then
    lifetime
    mark ':'
    series lifetime '+' fun ts => whereOver ts || Ahead.mark ':' ts
  else
    discard (binder g)
    discard (g.type true)
    mark ':'
    series (g.bound false true) '+' whereOver

/-- What the parameters have to meet, if anything is said of it. -/
def whereClause (g : Grammar) : Parse Bool := do
  if ← accept (Ahead.keyword "where") then
    require (!(← ahead genericsAhead))
    series (predicate g) ',' whereOver
    return true
  else return false

end WireSchema.Grammar
