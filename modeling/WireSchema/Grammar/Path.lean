import WireSchema.Grammar.Attribute

/-!
Paths and their arguments, literals and constants.
-/

namespace WireSchema

structure PathForm where
  /-- The last segment. -/
  word : PathWord
  arguments : Option (List TypeForm)
  /-- The last segment has arguments in parentheses. -/
  call : Bool
  lone : Bool
  /-- No segment has arguments. -/
  plain : Bool

namespace PathForm

/-- The last segment has no arguments yet. -/
def isBare (path : PathForm) : Bool :=
  !path.call && (path.arguments.getD []).isEmpty

end PathForm

namespace Grammar
open Parse

def literal : Parse LengthForm := do
  match ← next with
  | .integer text value _ => return .ofNat text value
  | .decimal _ | .string | .quoted | .keyword "true" | .keyword "false" => return .other
  | .mark '-' _ =>
    match ← next with
    | .integer text _ _ => return .integer ("-" ++ text) none
    | .decimal _ => return .other
    | _ => failure
  | _ => failure

/-- A constant among generic arguments. -/
def constant (g : Grammar) : Parse LengthForm := do
  if ← ahead Ahead.literal then literal
  else
    if !(← accept Ahead.name) then g.block true
    return .other

def constantAhead (ts : List Token) : Bool :=
  Ahead.literal ts || Ahead.opening .brace ts

/-- The items between angle brackets. -/
def angled (g : Grammar) : Parse (List TypeForm) := do
  mark '<'
  let arguments ← list g.argument (Ahead.mark '>')
  mark '>'
  return arguments

/-- A bracket that is no part of a comparison or an assignment. -/
def angleAhead (ts : List Token) : Bool :=
  Ahead.mark '<' ts && !Ahead.marks ['<', '='] ts && !Ahead.marks ['<', '<', '='] ts

/-- Colons before the arguments of a segment. -/
def turbofish (ts : List Token) : Bool :=
  Ahead.colons ts && Ahead.mark '<' (ts.drop 2)

/-- In an expression arguments need colons before them, else `<` compares. -/
def segmentArguments (g : Grammar) (inExpression : Bool) : Parse (Option (List TypeForm)) := do
  if ← ahead fun ts => !inExpression && angleAhead ts then
    return some (← angled g)
  else if ← ahead turbofish then
    marks [':', ':']
    return some (← angled g)
  else return none

/-- Of the reserved words only `Self` may have arguments. -/
def segment (g : Grammar) (inExpression : Bool) : Parse (PathWord × Option (List TypeForm)) := do
  match ← next with
  | .name name => return (.name name, ← segmentArguments g inExpression)
  | .keyword text =>
    if allowed : text ∈ pathWords then
      let arguments ← if text = "Self" then segmentArguments g inExpression else pure none
      return (.reserved text allowed, arguments)
    else failure
  | _ => failure

/-- `plain` tells that no segment before has arguments. -/
def segmentAfter (g : Grammar) (inExpression plain : Bool) : Parse PathForm := do
  marks [':', ':']
  let (word, arguments) ← segment g inExpression
  return ⟨word, arguments, false, false, plain && arguments.isNone⟩

/-- More segments. Colons before a parenthesis do not belong to the path. -/
def segments (g : Grammar) (inExpression : Bool) (path : PathForm) : Parse PathForm :=
  whileAhead (fun ts => Ahead.colons ts && !Ahead.opening .paren (ts.drop 2))
    (fun path => segmentAfter g inExpression path.plain) path

def path (g : Grammar) (inExpression : Bool) : Parse PathForm := do
  let leading ← acceptMarks [':', ':']
  let (word, arguments) ← segment g inExpression
  segments g inExpression ⟨word, arguments, false, !leading, arguments.isNone⟩

/-- `<T>::name` and `<T as Path>::name`. -/
def qualifiedPath (g : Grammar) (inExpression : Bool) : Parse PathForm := do
  mark '<'
  discard (g.type true)
  if ← accept (Ahead.keyword "as") then discard (path g false)
  mark '>'
  let first ← segmentAfter g inExpression false
  whileAhead Ahead.colons (fun path => segmentAfter g inExpression path.plain) first

/-- A path in an expression or a pattern, and whether it may name a macro. -/
def valuePath (g : Grammar) : Parse Bool := do
  if ← ahead (Ahead.mark '<') then
    discard (qualifiedPath g true)
    return false
  else
    let path ← path g true
    return path.plain

/-- The return type after an arrow. -/
def returnType (g : Grammar) (plus : Bool) : Parse (Option TypeForm) := do
  if ← acceptMarks ['-', '>'] then return some (← g.type plus)
  else return none

/-- Arguments in parentheses are next, maybe after colons. -/
def callAhead (ts : List Token) : Bool :=
  Ahead.opening .paren ts || (Ahead.colons ts && Ahead.opening .paren (ts.drop 2))

/-- Arguments in parentheses and a return type. -/
def callArguments (g : Grammar) : Parse (Option TypeForm) := do
  discard (acceptMarks [':', ':'])
  discard (between .paren (list (g.type true) (Ahead.closing .paren)))
  returnType g false

/-- Arguments in parentheses, after which more segments may follow if no return type would run
into them. -/
def callsWithin (g : Grammar) : Nat → PathForm → Parse PathForm
  | 0, path => return path
  | steps + 1, path => do
    if !(← ahead fun ts => path.isBare && callAhead ts) then return path
    let called : PathForm := ⟨path.word, none, true, path.lone, false⟩
    match ← callArguments g with
    | none | some (.paren _) => callsWithin g steps (← segments g false called)
    | some _ => callsWithin g steps called

def calls (g : Grammar) (path : PathForm) : Parse PathForm := do
  callsWithin g (← get).length path

/-- The bounds of a generic argument. There may be none. -/
def constraint (g : Grammar) : Parse Unit :=
  series (g.bound false true) '+' fun ts => Ahead.mark ',' ts || Ahead.mark '>' ts

/-- A generic argument: a lifetime, a constant, a type, or a name with what it is bound to. -/
def argumentRule (g : Grammar) : Parse TypeForm := do
  if ← accept fun ts => Ahead.lifetime ts && !Ahead.mark '+' (Ahead.skip ts) then
    return .binding
  if ← ahead constantAhead then return .constant (← constant g)
  match ← g.type true with
  | .path word arguments true =>
    if ← accept (Ahead.mark '=') then
      if ← ahead constantAhead then discard (constant g) else discard (g.type true)
      return .binding
    else if ← accept (Ahead.mark ':') then
      constraint g
      return .binding
    else return .path word arguments true
  | form => return form

end Grammar
end WireSchema
