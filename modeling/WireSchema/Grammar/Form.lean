import WireSchema.Token.Word

/-!
What the grammar keeps of a type: enough to say which type expression it is, or why it is none.
-/

namespace WireSchema

/-- What stands in the place of a length. -/
inductive LengthForm
  /-- An integer literal as written. It has no value if it is negative or takes over 64 bits. -/
  | integer (text : String) (value : Option UInt64)
  | other
  deriving Repr, DecidableEq, Inhabited

namespace LengthForm

def ofNat (text : String) (value : Nat) : LengthForm :=
  .integer text (if value < UInt64.size then some (UInt64.ofNat value) else none)

end LengthForm

/-- Reserved words that may stand in a path. -/
def pathWords : List String :=
  ["super", "self", "Self", "crate", "try"]

/-- What a segment of a path is called. -/
inductive PathWord
  | name (name : Name)
  | reserved (text : String) (allowed : text ∈ pathWords)
  deriving Repr

def PathWord.text : PathWord → String
  | name own => own.text
  | reserved text _ => text

inductive TypeForm
  /-- The last segment of a path, and whether it is the only one. -/
  | path (word : PathWord) (arguments : Option (List TypeForm)) (lone : Bool)
  /-- A path whose last segment has arguments in parentheses. -/
  | call (name : String)
  | qualified
  | reference
  | tuple
  | slice
  | array (element : TypeForm) (length : LengthForm)
  | paren (inner : TypeForm)
  /-- One bound without a keyword, to which more may be added. -/
  | bound
  | other
  /-- A generic argument that is a constant. -/
  | constant (length : LengthForm)
  /-- A generic argument that is neither a type nor a constant. -/
  | binding
  deriving Repr, Inhabited

namespace TypeForm

/-- More bounds may be added to it even in parentheses. -/
def isBound : TypeForm → Bool
  | path _ _ _ | call _ | bound => true
  | _ => false

end TypeForm

/-- What the grammar keeps of an expression. -/
inductive Operand
  | integer (text : String) (value : Option UInt64)
  | comparison
  | range
  /-- What ends in a block and needs no mark after it. -/
  | block
  /-- A macro with its text in braces. -/
  | bracedMacro
  | other
  deriving Repr, DecidableEq, Inhabited

namespace Operand

def ofLength : LengthForm → Operand
  | .integer text value => integer text value
  | .other => other

def length : Operand → LengthForm
  | integer text value => .integer text value
  | _ => .other

end Operand
end WireSchema
