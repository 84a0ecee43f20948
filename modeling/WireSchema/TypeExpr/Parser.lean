import WireSchema.Primitive
import WireSchema.SchemaError
import WireSchema.TypeExpr
import WireSchema.TypeExpr.Nesting
import WireSchema.Grammar.Rules
import WireSchema.Token.Scan

/-!
Text to type expressions. A text is refused before it is read if its brackets are nested too
deeply. The grammar then says what type it is, and only some types are type expressions.
-/

namespace WireSchema.TypeExpr

/-- `[N]` for `[u8; N]`, with blanks around it. -/
def shorthand? (s : List Char) : Option UInt64 := do
  match ← Token.scan? (← Primitive.unbracket? (Text.trim s)) with
  | [.integer _ value _] => if value < UInt64.size then some (UInt64.ofNat value) else none
  | _ => none

def lengthOf : LengthForm → Except TypeFault UInt64
  | .integer _ (some value) => .ok value
  | .integer text none => .error (.badLength text)
  | .other => .error .length

/-- A generic argument in its two readings. -/
structure Argument where
  type : Except TypeFault TypeExpr
  length : Except TypeFault UInt64

/-- What the generic types stand for. -/
inductive Generic
  | sequence
  | option
  | transparent
  | map
  | boundedSequence
  | boundedString
  | boundedMap
  deriving DecidableEq

namespace Generic

def ofName? : String → Option Generic
  | "Vec" | "VecDeque" => some sequence
  | "Option" => some option
  | "Box" | "Rc" | "Arc" => some transparent
  | "BTreeMap" | "HashMap" => some map
  | "MaxLenVec" => some boundedSequence
  | "MaxLenString" => some boundedString
  | "MaxLenBTreeMap" | "MaxLenBTree" => some boundedMap
  | _ => none

/-- Nothing if the number of arguments is wrong. -/
def build? : Generic → List Argument → Option (Except TypeFault TypeExpr)
  | sequence, [element] => some do return .sequence (← element.type)
  | option, [inner] => some do return .option (← inner.type)
  | transparent, [inner] => some inner.type
  | map, [key, value] => some do return .map (← key.type) (← value.type)
  | boundedSequence, [element, bound] => some do
    return .boundedSequence (← element.type) (← bound.length)
  | boundedString, [bound] => some do return .boundedString (← bound.length)
  | boundedMap, [key, value, bound] => some do
    return .boundedMap (← key.type) (← value.type) (← bound.length)
  | _, _ => none

end Generic

def ofGeneric (name : String) (arguments : List Argument) : Except TypeFault TypeExpr :=
  match Generic.ofName? name with
  | none => .error (.generic name)
  | some generic =>
    match generic.build? arguments with
    | none => .error (.argumentCount name arguments.length)
    | some result => result

/-- Without arguments a name is that of a primitive, or else of a declared type. -/
def ofName (name : String) : TypeExpr :=
  if Primitive.isName name then primitive name else named name

/-- An array of bytes is a primitive of its own. -/
def ofArray (element : TypeExpr) (length : UInt64) : TypeExpr :=
  if element = primitive "u8" then bytes length else array element length

mutual

/-- The expression of a form that lies `depth` levels deep. -/
def ofForm (depth : Nat) (form : TypeForm) : Except TypeFault TypeExpr :=
  if nestingLimit < depth then .error .nesting
  else match form with
  | .path word none _ => .ok (ofName word.text)
  | .path word (some arguments) _ => ofGeneric word.text (ofArguments (depth + 1) arguments)
  | .call name => .error (.parenthesized name)
  | .array element length => do
    let length ← lengthOf length
    return ofArray (← ofForm (depth + 1) element) length
  | .paren inner => ofForm (depth + 1) inner
  | .qualified => .error .qualifiedPath
  | .reference => .error .reference
  | .tuple => .error .tuple
  | .slice => .error .slice
  | .bound | .other | .constant _ | .binding => .error .form

def ofArguments (depth : Nat) : List TypeForm → List Argument
  | [] => []
  | form :: rest =>
    (match form with
    | .constant length => ⟨.error .typeArgument, lengthOf length⟩
    | .binding => ⟨.error .typeArgument, .error .lengthArgument⟩
    | form => ⟨ofForm depth form, .error .lengthArgument⟩) :: ofArguments depth rest

end

def ofText (s : List Char) : Except TypeFault TypeExpr :=
  if nestingLimit < nesting s then .error .nesting
  else match shorthand? s with
  | some width => .ok (.bytes width)
  | none =>
    match (Token.scan? s).bind TypeForm.ofTokens? with
    | some form => ofForm 0 form
    | none => .error .grammar

def parse (s : String) : Except SchemaError TypeExpr :=
  (ofText s.toList).mapError (.invalidTypeExpr s)

end WireSchema.TypeExpr
