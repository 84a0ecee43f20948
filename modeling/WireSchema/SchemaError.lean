/-!
What can be wrong with a schema, and the one message of each cause.
-/

namespace WireSchema

/-- Why a text is not a type expression. -/
inductive TypeFault
  | grammar
  | nesting
  | qualifiedPath
  | reference
  | tuple
  | slice
  | form
  | parenthesized (name : String)
  | argumentCount (name : String) (count : Nat)
  | generic (name : String)
  | typeArgument
  | lengthArgument
  | length
  | badLength (literal : String)
  deriving Repr, DecidableEq, Inhabited

def TypeFault.reason : TypeFault → String
  | .grammar => "not a type"
  | .nesting => "nesting too deep"
  | .qualifiedPath => "qualified paths are not supported"
  | .reference => "references are not supported"
  | .tuple => "tuples are not supported"
  | .slice => "slices need a length"
  | .form => "unsupported type syntax"
  | .parenthesized name => s!"'{name}' takes no parenthesized arguments"
  | .argumentCount name count => s!"'{name}' given {count} generic arguments"
  | .generic name => s!"unsupported generic type '{name}'"
  | .typeArgument => "expected a type argument"
  | .lengthArgument => "expected a length argument"
  | .length => "expected an integer length"
  | .badLength literal => s!"bad length '{literal}'"

inductive SchemaError
  | unknownPrimitive (name : String)
  | unresolvedReference (owner name : String)
  | cyclicReference (path : List String)
  | duplicateType (name : String)
  | duplicateField (typeName field : String)
  | invalidVariantPayload (typeName variant : String)
  | invalidTypeExpr (input : String) (fault : TypeFault)
  deriving Repr, DecidableEq, Inhabited

def SchemaError.message : SchemaError → String
  | .unknownPrimitive name => s!"unknown primitive type '{name}'"
  | .unresolvedReference owner name =>
    s!"type '{owner}' references '{name}', which is neither declared nor a primitive"
  | .cyclicReference path => "cyclic type reference: " ++ String.intercalate " -> " path
  | .duplicateType name => s!"type '{name}' is declared more than once"
  | .duplicateField typeName field =>
    s!"field '{field}' is declared more than once in '{typeName}'"
  | .invalidVariantPayload typeName variant =>
    s!"variant '{variant}' of '{typeName}' must carry a struct or tuple-struct payload"
  | .invalidTypeExpr input fault => s!"invalid type expression '{input}': {fault.reason}"

end WireSchema
