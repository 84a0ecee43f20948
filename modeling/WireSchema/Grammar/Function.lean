import WireSchema.Grammar.Type

/-!
The rules of declared functions, up to their bodies.
-/

namespace WireSchema.Grammar
open Parse

/-- The words in front of `fn`. `safe` allows the word of that name. -/
def qualifiers (safe : Bool) : Parse Unit := do
  discard (accept (Ahead.keyword "const"))
  discard (accept (Ahead.keyword "async"))
  discard (accept fun ts => Ahead.keyword "unsafe" ts || (safe && Ahead.named "safe" ts))
  convention

def signatureAhead (safe : Bool) (ts : List Token) : Bool :=
  (qualifiers safe ts).any fun (_, rest) => Ahead.keyword "fn" rest

/-- What a method is called on. -/
def receiver (g : Grammar) : Parse Unit := do
  let byReference ← accept (Ahead.mark '&')
  if byReference then discard (accept Ahead.lifetime)
  discard (accept (Ahead.keyword "mut"))
  keyword "self"
  if ← accept fun ts => !byReference && Ahead.mark ':' ts then discard (g.type true)

/-- Any further arguments, the last of the parameters. -/
def furtherArguments : Parse Unit := do
  marks ['.', '.', '.']
  if !(← ahead Ahead.finished) then mark ','

/-- A parameter that is no receiver, and whether more may follow. -/
def typedParameter (g : Grammar) : Parse Bool := do
  if ← ahead fun ts => Ahead.name ts && Ahead.mark '<' (Ahead.skip ts) then
    discard (g.type true)
    return true
  discard g.pattern
  mark ':'
  if ← ahead Ahead.ellipsis then
    furtherArguments
    return false
  else
    discard (g.type true)
    return true

/-- One parameter, and whether more may follow. Only the first may be a receiver. -/
def signatureParameter (g : Grammar) (first : Bool) : Parse Bool := do
  attributes g
  if ← ahead Ahead.ellipsis then
    furtherArguments
    return false
  else
    let received ← (do receiver g; return true) <|> return false
    if received then
      require first
      return true
    else typedParameter g

def signatureParametersWithin (g : Grammar) : Nat → Bool → Parse Unit
  | 0, _ => return
  | steps + 1, first => do
    if ← ahead Ahead.finished then return
    if ← signatureParameter g first then
      if ← accept (Ahead.mark ',') then signatureParametersWithin g steps false

def signature (g : Grammar) (safe : Bool) : Parse Unit := do
  qualifiers safe
  keyword "fn"
  name
  generics g
  between .paren (do signatureParametersWithin g (← get).length true)
  discard (returnType g true)
  discard (whereClause g)

/-- A function with its body, or a semicolon in the place of the body. -/
def function (g : Grammar) (safe : Bool) : Parse Unit := do
  signature g safe
  if !(← accept (Ahead.mark ';')) then g.block true

end WireSchema.Grammar
