import WireSchema.Grammar.Parse

/-!
The rules of declarations that bring names into scope.
-/

namespace WireSchema.Grammar
open Parse

/-- Another name for what is brought into scope, or an underscore for none. -/
def newName : Parse Unit := do
  if ← accept (Ahead.keyword "as") then expect Ahead.nameOrBlank

def crateItem : Parse Unit := do
  keyword "extern"
  keyword "crate"
  expect fun ts => Ahead.name ts || Ahead.keyword "self" ts
  newName
  mark ';'

/-- A path, all that it leads to, or several paths in braces. `root` allows colons in front of
those in braces. -/
def importedWithin : Nat → Bool → Parse Unit
  | 0, _ => failure
  | steps + 1, root => do
    if ← accept fun ts => Ahead.name ts ||
        ["self", "super", "crate", "try"].any (Ahead.keyword · ts) then
      if ← acceptMarks [':', ':'] then importedWithin steps false else newName
    else if !(← accept (Ahead.mark '*')) then
      let imported : Parse Unit := do
        let rooted ← if root then acceptMarks [':', ':'] else pure false
        importedWithin steps (root && !rooted)
      discard (between .brace (list imported (Ahead.closing .brace)))

def useItem : Parse Unit := do
  keyword "use"
  let rooted ← acceptMarks [':', ':']
  importedWithin (← get).length (!rooted)
  mark ';'

end WireSchema.Grammar
