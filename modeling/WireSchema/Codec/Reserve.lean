import WireSchema.Codec.Limits

/-!
Room in memory for elements that are still to be read. There is none for more bytes than the
largest block has, and then the program ends without a result.
-/

namespace WireSchema

/-- How decoding ends without a value. -/
inductive Halt
  | refused (error : CodecError)
  /-- More room was asked for than any block of memory has. -/
  | capacityOverflow
  deriving Repr, DecidableEq, Inhabited

/-- Whatever refuses the input ends the decoding. -/
instance : MonadLift (Except CodecError) (Except Halt) :=
  ⟨Except.mapError .refused⟩

/-- The bytes of the largest block of memory. -/
def largestBlock : Nat := 0x7fffffffffffffff

/-- The bytes that a value takes in memory, whatever it is: a tag and the place and length of a
list, or a tag and a number of sixteen bytes. -/
def valueWidth : Nat := 32

/-- The bytes that an entry of a map takes. -/
def entryWidth : Nat := 2 * valueWidth

/-- The bytes that a key takes among the keys before: where in the input it stands. -/
def keyWidth : Nat := 16

/-- Room for as many elements as are declared, unless that is more than the limits allow. -/
def Limits.reserve (limits : Limits) (width declared : Nat) : Except Halt Unit :=
  if width * min declared limits.maxPreallocation ≤ largestBlock then .ok ()
  else .error .capacityOverflow

end WireSchema
