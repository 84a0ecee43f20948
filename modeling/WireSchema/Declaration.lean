import WireSchema.Layout
import WireSchema.TypeExpr

/-!
Declarations of types. They refer to each other by name, in any order.
-/

namespace WireSchema
namespace Declaration

structure Field where
  name : String
  type : TypeExpr
  /-- A skipped field is left out of the layout. -/
  skip : Bool := false
  deriving Repr, DecidableEq, Inhabited

inductive Payload
  | unit
  | named (fields : List Field)
  | unnamed (members : List TypeExpr)
  deriving Repr, DecidableEq, Inhabited

structure Variant where
  name : String
  payload : Payload := .unit
  deriving Repr, DecidableEq, Inhabited

inductive Body
  | struct (fields : List Field)
  | tuple (members : List TypeExpr)
  | enum (variants : List Variant) (tag : TagWidth)
  /-- Another name for a type. -/
  | alias (target : TypeExpr)
  deriving Repr, DecidableEq, Inhabited

end Declaration

structure Declaration where
  name : String
  body : Declaration.Body
  deriving Repr, DecidableEq, Inhabited

namespace Declaration

def isAlias (d : Declaration) : Bool :=
  match d.body with
  | .alias _ => true
  | _ => false

/-- Only enums have a tag. -/
def withTag (d : Declaration) (tag : TagWidth) : Declaration :=
  match d.body with
  | .enum variants _ => { d with body := .enum variants tag }
  | _ => d

/-- How many fields of a struct are skipped. -/
def skippedCount (d : Declaration) : Nat :=
  match d.body with
  | .struct fields => fields.countP (·.skip)
  | _ => 0

end Declaration
end WireSchema
