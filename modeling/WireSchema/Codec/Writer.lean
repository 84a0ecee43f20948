import WireSchema.Integer

/-!
A buffer that grows by little-endian integers and raw bytes.
-/

namespace WireSchema

structure Writer where
  buffer : Bytes := []
  deriving Repr, DecidableEq, Inhabited

namespace Writer

def writeBytes (w : Writer) (bs : Bytes) : Writer :=
  ⟨w.buffer ++ bs⟩

def writeInt (w : Writer) (kind : IntKind) (word : kind.Word) : Writer :=
  w.writeBytes (kind.toBytes word)

def offset (w : Writer) : Nat :=
  w.buffer.length

/-- The bytes from offset `start` on. -/
def since (w : Writer) (start : Nat) : Bytes :=
  w.buffer.drop start

@[simp] theorem offset_writeBytes (w : Writer) (bs : Bytes) :
    (w.writeBytes bs).offset = w.offset + bs.length := by
  simp [writeBytes, offset]

@[simp] theorem since_offset_writeBytes (w : Writer) (bs : Bytes) :
    (w.writeBytes bs).since w.offset = bs := by
  simp [writeBytes, offset, since]

end Writer
end WireSchema
