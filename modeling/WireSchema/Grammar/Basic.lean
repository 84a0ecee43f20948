import WireSchema.Grammar.Form
import WireSchema.Grammar.Parse

/-!
A grammar is a reader for each kind of phrase. Types hold expressions and expressions hold types,
so each rule is a function of a grammar that reads the phrases inside, and the rules are tied
together afterwards.
-/

namespace WireSchema

/-- `structs` tells whether a brace after a path begins the fields of a struct. -/
structure Grammar where
  /-- A type. `plus` tells whether bounds may be added to it. -/
  type (plus : Bool) : Parse TypeForm
  /-- A generic argument. -/
  argument : Parse TypeForm
  /-- A bound, and whether it is a trait. `capture` allows a list of what is captured, `constant`
  a trait that is constant. -/
  bound (capture constant : Bool) : Parse Bool
  /-- An expression without operators between its parts. -/
  operand (structs : Bool) : Parse Operand
  /-- The operators that bind at least as tightly as `base`, from the left operand on. -/
  operators (structs : Bool) (left : Operand) (base : Nat) : Parse Operand
  /-- The operators that bind the right operand more tightly than one of the given level. -/
  rightOperators (structs : Bool) (right : Operand) (level : Nat) : Parse Operand
  /-- An expression that is a statement or the body of an arm. -/
  standalone : Parse Operand
  /-- A pattern without alternatives, and whether it is a range that lacks one of its ends. -/
  pattern : Parse Bool
  /-- Statements in braces. `inner` tells whether they may begin with attributes of the block. -/
  block (inner : Bool) : Parse Unit
  /-- A declaration without the attributes in front of it. -/
  item : Parse Unit

namespace Grammar

/-- The grammar that refuses everything. -/
def refusal : Grammar where
  type _ := failure
  argument := failure
  bound _ _ := failure
  operand _ := failure
  operators _ _ _ := failure
  rightOperators _ _ _ := failure
  standalone := failure
  pattern := failure
  block _ := failure
  item := failure

def expression (g : Grammar) (structs : Bool) : Parse Operand := do
  g.operators structs (← g.operand structs) 0

end Grammar
end WireSchema
