import WireSchema.Codec.Error

/-!
Resource limits of the codec. They decide what is refused and how much memory is asked for, and
never change the bytes of a value.
-/

namespace WireSchema

structure Limits where
  maxDepth : Nat := 64
  /-- For how many elements room is reserved, at most, before any of them is read. -/
  maxPreallocation : Nat := 4096
  deriving Repr, DecidableEq, Inhabited

/-- Goes one level down where `room` levels are left. -/
def descend (limit : Nat) : Nat → Except CodecError Nat
  | 0 => .error (.depthLimitExceeded limit)
  | room + 1 => .ok room

end WireSchema
