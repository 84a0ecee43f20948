import WireSchema.Grammar.Item
import WireSchema.Grammar.Statement

/-!
The grammar as a whole. Each layer reads the phrases inside with the layer below, and the lowest
refuses everything, so a text is read to the end if there are more layers than nested phrases.
-/

namespace WireSchema.Grammar

/-- One layer on top of `g`. -/
def extend (g : Grammar) : Grammar where
  type := typeRule g
  argument := argumentRule g
  bound := boundRule g
  operand := operandRule g
  operators := operatorsRule g
  rightOperators := rightOperatorsRule g
  standalone := standaloneRule g
  pattern := patternRule g
  block := blockRule g
  item := itemRule g

def layers : Nat → Grammar
  | 0 => refusal
  | count + 1 => extend (layers count)

end WireSchema.Grammar

namespace WireSchema

/-- The form of the tokens, if they are one type and nothing else. No phrase goes through more than
three layers for each token that it takes. -/
def TypeForm.ofTokens? (tokens : List Token) : Option TypeForm := do
  if !Token.balanced [] tokens then none
  let (form, rest) ← (Grammar.layers (3 * tokens.length + 3)).type true tokens
  if rest.isEmpty then some form else none

end WireSchema
