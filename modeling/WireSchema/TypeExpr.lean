/-!
Type expressions: the types of fields and members as declarations write them.
-/

namespace WireSchema

inductive TypeExpr
  | primitive (name : String)
  /-- A declared type, or a primitive by its name. -/
  | named (name : String)
  | sequence (element : TypeExpr)
  | boundedSequence (element : TypeExpr) (bound : UInt64)
  | option (inner : TypeExpr)
  | map (key value : TypeExpr)
  | boundedMap (key value : TypeExpr) (bound : UInt64)
  | array (element : TypeExpr) (length : UInt64)
  | bytes (width : UInt64)
  | boundedString (bound : UInt64)
  deriving Repr, DecidableEq, Inhabited

namespace TypeExpr

/-- A generic type and its arguments. -/
def enclose (name : String) (arguments : List String) : String :=
  name ++ "<" ++ ", ".intercalate arguments ++ ">"

theorem toList_enclose (name : String) (arguments : List String) :
    (enclose name arguments).toList =
      name.toList ++ '<' :: ([',', ' '].intercalate (arguments.map String.toList) ++ ['>']) := by
  simp [enclose]

/-- An array and its length. -/
def bracket (element : String) (length : UInt64) : String :=
  "[" ++ element ++ "; " ++ toString length.toNat ++ "]"

theorem toList_bracket (element : String) (length : UInt64) :
    (bracket element length).toList =
      '[' :: (element.toList ++ [';', ' '] ++ (toString length.toNat).toList ++ [']']) := by
  simp [bracket]

def render : TypeExpr → String
  | primitive name | named name => name
  | sequence element => enclose "Vec" [render element]
  | boundedSequence element bound => enclose "MaxLenVec" [render element, toString bound.toNat]
  | option inner => enclose "Option" [render inner]
  | map key value => enclose "BTreeMap" [render key, render value]
  | boundedMap key value bound =>
    enclose "MaxLenBTreeMap" [render key, render value, toString bound.toNat]
  | array element length => bracket (render element) length
  | bytes width => bracket "u8" width
  | boundedString bound => enclose "MaxLenString" [toString bound.toNat]

end TypeExpr
end WireSchema
