import WireSchema.Codec.Encode
import WireSchema.Codec.Decode

/-!
One variant of an enum on its own, without an enum value around it. The enum has no name here, and
entering it takes no level.
-/

namespace WireSchema.Layout

def anonymousEnum : String := "<anonymous>"

def encodeVariant (variants : List (String × Layout)) (tag : TagWidth) (limits : Limits)
    (index : UInt32) (payload : Value) : Except CodecError Bytes :=
  encodeTagged anonymousEnum variants.length tag index fun outOfRange =>
    encodePayload limits.maxDepth limits.maxDepth tag.size outOfRange payload variants
      index.toNat

/-- The index, the payload and the number of bytes they took. -/
def decodeVariantWith {m : Type → Type} [Monad m] [MonadLiftT (Except CodecError) m]
    (reserve : Nat → Nat → m Unit) (variants : List (String × Layout)) (tag : TagWidth)
    (limits : Limits) (input : Bytes) : m (UInt32 × Value × Nat) := do
  let (value, c) ← decodeTagged anonymousEnum variants.length tag (fun unknown discriminant =>
    decodePayloadWith reserve limits.maxDepth limits.maxDepth unknown variants discriminant)
    (.start input)
  match value with
  | .enum index payload => return (index, payload, c.offset)
  | other =>
    (.error (.valueMismatch (.kind "enum" other.kindName)) :
      Except CodecError (UInt32 × Value × Nat))

/-- What is decoded where all room that is asked for can be had. -/
def decodeVariant (variants : List (String × Layout)) (tag : TagWidth) (limits : Limits)
    (input : Bytes) : Except CodecError (UInt32 × Value × Nat) :=
  decodeVariantWith reserveNothing variants tag limits input

def decodeVariantReserving (variants : List (String × Layout)) (tag : TagWidth) (limits : Limits)
    (input : Bytes) : Except Halt (UInt32 × Value × Nat) :=
  decodeVariantWith limits.reserve variants tag limits input

/-- What is read of an enum is a variant: that another value was found is never said. -/
theorem decodeVariant_eq (variants : List (String × Layout)) (tag : TagWidth) (limits : Limits)
    (input : Bytes) : decodeVariant variants tag limits input = (do
      let (discriminant, next) ← (Cursor.start input).readNat tag.size
      let (payload, c) ← decodePayload limits.maxDepth limits.maxDepth
        (.unknownVariant anonymousEnum 0 discriminant variants.length) variants discriminant next
      return (UInt32.ofNat discriminant, payload, c.offset)) := by
  simp only [decodeVariant, decodeVariantWith, decodeTagged, bind_assoc, pure_bind]
  rfl

end WireSchema.Layout
