import WireSchema.Bytes

/-!
What can be wrong with a value or with its bytes, and the one message of each cause. Offsets count
bytes from the start of the encoding.
-/

namespace WireSchema

/-- How a value fails to have the shape of its layout. -/
inductive Mismatch
  | kind (layout value : String)
  | fieldCount (expected : Nat) (layout : String) (found : Nat)
  | memberCount (expected : Nat) (layout : String) (found : Nat)
  | fieldName (expected found : String)
  deriving Repr, DecidableEq, Inhabited

def Mismatch.expected : Mismatch → String
  | .kind layout _ => layout
  | .fieldCount expected layout _ => s!"{expected} fields for '{layout}'"
  | .memberCount expected layout _ => s!"{expected} members for '{layout}'"
  | .fieldName expected _ => s!"field '{expected}'"

def Mismatch.found : Mismatch → String
  | .kind _ value => value
  | .fieldCount _ _ found => s!"{found} fields"
  | .memberCount _ _ found => s!"{found} members"
  | .fieldName _ found => s!"field '{found}'"

inductive CodecError
  | invalidDiscriminant (offset : Nat) (tag : UInt8)
  | unknownVariant (typeName : String) (offset discriminant variantCount : Nat)
  | variantIndexOutOfRange (typeName : String) (index : UInt32) (variantCount : Nat)
  | truncatedInput (offset needed remaining : Nat)
  | lengthMismatch (offset expected actual : Nat)
  | duplicateKey (offset : Nat)
  | boundExceeded (offset length max : Nat)
  | zeroSizedElements (offset length : Nat)
  | valueMismatch (mismatch : Mismatch)
  | invalidBool (offset : Nat) (byte : UInt8)
  | invalidUtf8 (offset : Nat)
  | depthLimitExceeded (limit : Nat)
  deriving Repr, DecidableEq, Inhabited

def CodecError.message : CodecError → String
  | .invalidDiscriminant offset tag =>
    s!"invalid option tag {tag.toNat} at offset {offset} (expected 0 or 1)"
  | .unknownVariant typeName offset discriminant variantCount =>
    s!"unknown variant {discriminant} at offset {offset}: " ++
      s!"enum '{typeName}' has {variantCount} variants"
  | .variantIndexOutOfRange typeName index variantCount =>
    s!"variant index {index.toNat} out of range: enum '{typeName}' has {variantCount} variants"
  | .truncatedInput offset needed remaining =>
    s!"truncated input at offset {offset}: need {needed} bytes, have {remaining}"
  | .lengthMismatch offset expected actual =>
    s!"length mismatch at offset {offset}: expected {expected}, got {actual}"
  | .duplicateKey offset => s!"duplicate map key at offset {offset}"
  | .boundExceeded offset length max =>
    s!"length {length} at offset {offset} exceeds bound {max}"
  | .zeroSizedElements offset length =>
    s!"length {length} at offset {offset} counts elements that encode to zero bytes"
  | .valueMismatch mismatch =>
    s!"value mismatch: expected {mismatch.expected}, found {mismatch.found}"
  | .invalidBool offset byte =>
    s!"invalid bool byte 0x{Bytes.toHex [byte]} at offset {offset}"
  | .invalidUtf8 offset => s!"invalid UTF-8 string at offset {offset}"
  | .depthLimitExceeded limit => s!"nesting depth exceeds limit {limit}"

def ensure (p : Prop) [Decidable p] (error : CodecError) : Except CodecError Unit :=
  if p then .ok () else .error error

/-- Checks a length against the bound of its layout. -/
def checkBound (offset length : Nat) : Option UInt64 → Except CodecError Unit
  | some max => ensure (length ≤ max.toNat) (.boundExceeded offset length max.toNat)
  | none => .ok ()

/-- Checks the bytes of a key against those of the keys before it. -/
def checkKey (offset : Nat) (ks : Bytes) (seen : List Bytes) : Except CodecError Unit :=
  ensure (ks ∉ seen) (.duplicateKey offset)

end WireSchema
