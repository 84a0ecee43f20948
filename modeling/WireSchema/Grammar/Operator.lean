import WireSchema.Grammar.Basic

/-!
Operators between expressions. The higher its level, the more tightly an operator binds. Operators
of one level group from the left, assignments from the right; comparisons do not group at all, and
a range is no left operand.
-/

namespace WireSchema.Grammar
open Parse

def assignLevel : Nat := 1
def rangeLevel : Nat := 2
def compareLevel : Nat := 6
def castLevel : Nat := 13

/-- The operators of two operands, those first whose marks begin with those of another. -/
def operatorTable : List (List Char × Nat) :=
  [(['<', '<', '='], 1), (['>', '>', '='], 1), (['+', '='], 1), (['-', '='], 1), (['*', '='], 1),
    (['/', '='], 1), (['%', '='], 1), (['^', '='], 1), (['&', '='], 1), (['|', '='], 1),
    (['&', '&'], 4), (['|', '|'], 3), (['<', '<'], 10), (['>', '>'], 10), (['=', '='], 6),
    (['<', '='], 6), (['!', '='], 6), (['>', '='], 6), (['+'], 11), (['-'], 11), (['*'], 12),
    (['/'], 12), (['%'], 12), (['^'], 8), (['&'], 9), (['|'], 7), (['<'], 6), (['>'], 6)]

def operator? (ts : List Token) : Option (List Char × Nat) :=
  operatorTable.find? fun (cs, _) => Ahead.marks cs ts

def assignAhead (ts : List Token) : Bool :=
  Ahead.mark '=' ts && !Ahead.marks ['=', '>'] ts

/-- The level of whatever comes next; zero if it is no operator. -/
def levelAhead (ts : List Token) : Nat :=
  match operator? ts with
  | some (_, level) => level
  | none =>
    if assignAhead ts then assignLevel
    else if Ahead.dots ts then rangeLevel
    else if Ahead.keyword "as" ts then castLevel
    else 0

def rightOperand (g : Grammar) (structs : Bool) (level : Nat) : Parse Operand := do
  g.rightOperators structs (← g.operand structs) level

/-- The marks of a range, and whether it includes its end. -/
def rangeLimits : Parse Bool := do
  if ← ahead (Ahead.marks ['.', '.', '=']) then
    marks ['.', '.', '=']
    return true
  else
    require (!(← ahead (Ahead.marks ['.', '.', '.'])))
    marks ['.', '.']
    return false

/-- A range without an end is over here. -/
def rangeOver (structs : Bool) (ts : List Token) : Bool :=
  Ahead.finished ts || [',', ';', '?', '=', '+', '/', '%', '^', '>'].any (Ahead.mark · ts) ||
    (Ahead.mark '.' ts && !Ahead.dots ts) || (!structs && Ahead.opening .brace ts) ||
    [['<', '='], ['!', '='], ['-', '='], ['*', '='], ['&', '='], ['|', '='],
      ['<', '<', '=']].any (Ahead.marks · ts) || Ahead.keyword "as" ts

/-- A range from its marks on. -/
def rangeTail (g : Grammar) (structs : Bool) : Parse Operand := do
  let closed ← rangeLimits
  if !(← ahead fun ts => !closed && rangeOver structs ts) then
    discard (rightOperand g structs rangeLevel)
  return .range

def operatorsRule (g : Grammar) (structs : Bool) (left : Operand) (base : Nat) :
    Parse Operand := do
  let ts ← get
  if left = .range then return left
  match operator? ts with
  | some (cs, level) =>
    if level < base then return left
    require (!(level == compareLevel && left == .comparison))
    marks cs
    discard (rightOperand g structs level)
    g.operators structs (if level = compareLevel then .comparison else .other) base
  | none =>
    if base ≤ assignLevel && assignAhead ts then
      mark '='
      discard (rightOperand g structs assignLevel)
      g.operators structs .other base
    else if base ≤ rangeLevel && Ahead.dots ts then
      discard (rangeTail g structs)
      g.operators structs .range base
    else if Ahead.keyword "as" ts then
      keyword "as"
      discard (g.type false)
      g.operators structs .other base
    else return left

def rightOperatorsRule (g : Grammar) (structs : Bool) (right : Operand) (level : Nat) :
    Parse Operand := do
  let ts ← get
  let next := levelAhead ts
  if level < next || (next == level && level == assignLevel) then
    let right ← g.operators structs right next
    if (← get).length = ts.length then return right else g.rightOperators structs right level
  else return right

end WireSchema.Grammar
