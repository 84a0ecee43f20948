import WireSchema.Grammar.Item.Import
import WireSchema.Grammar.Item.Member

/-!
The rule of declarations, which may stand among the statements of a block.
-/

namespace WireSchema.Grammar
open Parse

/-- A variable of the program. Its type may be left out if it has a value, and its value if it has
a type. -/
def variableItem (g : Grammar) : Parse Unit := do
  keyword "static"
  discard (accept (Ahead.keyword "mut"))
  name
  let typed ← accept (Ahead.mark ':')
  if typed then discard (g.type true)
  if ← ahead fun ts => !typed || !Ahead.mark ';' ts then
    mark '='
    discard (g.expression true)
  mark ';'

def moduleItem (g : Grammar) : Parse Unit := do
  discard (accept (Ahead.keyword "unsafe"))
  keyword "mod"
  expect fun ts => Ahead.name ts || Ahead.keyword "try" ts
  if !(← accept (Ahead.mark ';')) then
    body g do
      attributes g
      g.item

/-- A macro with its rules. -/
def ruleItem : Parse Unit := do
  keyword "macro"
  name
  if ← ahead (Ahead.opening .paren) then group
  require (← ahead (Ahead.opening .brace))
  group

/-- The first words tell the kind of a declaration. Some kinds may be marked as not safe. -/
def itemRule (g : Grammar) : Parse Unit := do
  let visible ← visibility
  let ts ← get
  let second := Ahead.skip ts
  let marked := if Ahead.keyword "unsafe" ts then second else ts
  if signatureAhead false ts then function g false
  else if Ahead.keyword "extern" ts && Ahead.keyword "crate" second then crateItem
  else if Ahead.keyword "extern" marked then
    require (!visible)
    foreignItem g
  else if Ahead.keyword "use" ts then useItem
  else if Ahead.keyword "static" ts then variableItem g
  else if Ahead.keyword "const" ts then constantItem g
  else if Ahead.keyword "mod" marked then moduleItem g
  else if Ahead.keyword "type" ts then typeItem g true false
  else if Ahead.keyword "struct" ts then structItem g
  else if Ahead.keyword "enum" ts then enumItem g
  else if Ahead.named "union" ts && Ahead.name second then unionItem g
  else if Ahead.keyword "trait" marked ||
      (Ahead.named "auto" marked && Ahead.keyword "trait" (Ahead.skip marked)) then traitItem g
  else if Ahead.keyword "impl" marked || defaultAhead ts then implItem g
  else if Ahead.keyword "macro" ts then ruleItem
  else
    require (!visible && macroPathAhead ts)
    macroItem true

end WireSchema.Grammar
