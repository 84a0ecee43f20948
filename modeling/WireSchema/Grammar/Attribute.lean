import WireSchema.Grammar.Basic

/-!
The rules of attributes, those in front of something and those at the start of a block.
-/

namespace WireSchema.Grammar
open Parse

/-- A path, maybe with a group of any tokens or with a value. -/
def attributeContent (g : Grammar) : Parse Unit := do
  if !(← accept (Ahead.keyword "unsafe")) then plainPath
  if ← ahead Ahead.anyOpening then group
  else if ← accept (Ahead.mark '=') then
    require (!(← ahead fun ts => Ahead.mark '#' ts && Ahead.opening .bracket (Ahead.skip ts)))
    discard (g.expression true)

def attributes (g : Grammar) : Parse Unit :=
  whileAhead (Ahead.mark '#') (fun _ => do
    mark '#'
    between .bracket (attributeContent g)) ()

def innerAttributes (g : Grammar) : Parse Unit :=
  whileAhead (fun ts => Ahead.mark '#' ts && Ahead.mark '!' (Ahead.skip ts)) (fun _ => do
    mark '#'
    mark '!'
    between .bracket (attributeContent g)) ()

end WireSchema.Grammar
