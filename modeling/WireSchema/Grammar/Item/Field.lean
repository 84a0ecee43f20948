import WireSchema.Grammar.Generic

/-!
The rules of fields, and of the declarations that consist of them.
-/

namespace WireSchema.Grammar
open Parse

/-- Who may see a declaration, if that is said. -/
def visibility : Parse Bool := do
  if !(← accept (Ahead.keyword "pub")) then return false
  match ← get with
  | .opening .paren :: .keyword "in" :: rest =>
    set rest
    plainPath
    closing .paren
  | .opening .paren :: .keyword word :: .closing .paren :: rest =>
    if word ∈ ["crate", "self", "super"] then set rest
  | _ => return true
  return true

/-- Fields with names, in braces. A field without a name may hold further fields. -/
def namedFieldsWithin (g : Grammar) : Nat → Parse Unit
  | 0 => failure
  | steps + 1 => do
    let field : Parse Unit := do
      attributes g
      discard visibility
      let blank ← ahead (Ahead.keyword "_")
      expect Ahead.nameOrBlank
      mark ':'
      if ← accept fun ts => blank && (Ahead.keyword "struct" ts ||
          (Ahead.named "union" ts && Ahead.opening .brace (Ahead.skip ts))) then
        namedFieldsWithin g steps
      else discard (g.type true)
    discard (between .brace (list field (Ahead.closing .brace)))

def namedFields (g : Grammar) : Parse Unit := do
  namedFieldsWithin g (← get).length

def unnamedFields (g : Grammar) : Parse Unit := do
  let field : Parse Unit := do
    attributes g
    discard visibility
    discard (g.type true)
  discard (between .paren (list field (Ahead.closing .paren)))

/-- A struct with fields of either kind or none. What its parameters have to meet stands before
fields with names and after those without. -/
def structItem (g : Grammar) : Parse Unit := do
  keyword "struct"
  name
  generics g
  let given ← whereClause g
  if ← ahead fun ts => !given && Ahead.opening .paren ts then
    unnamedFields g
    discard (whereClause g)
    mark ';'
  else if !(← accept (Ahead.mark ';')) then namedFields g

/-- A variant of an enum, maybe with fields and a number. -/
def variant (g : Grammar) : Parse Unit := do
  attributes g
  discard visibility
  name
  if ← ahead (Ahead.opening .brace) then namedFields g
  else if ← ahead (Ahead.opening .paren) then unnamedFields g
  if ← accept (Ahead.mark '=') then discard (g.expression true)

def enumItem (g : Grammar) : Parse Unit := do
  keyword "enum"
  name
  generics g
  discard (whereClause g)
  discard (between .brace (list (variant g) (Ahead.closing .brace)))

/-- `union` is no reserved word. -/
def unionItem (g : Grammar) : Parse Unit := do
  name
  name
  generics g
  discard (whereClause g)
  namedFields g

end WireSchema.Grammar
