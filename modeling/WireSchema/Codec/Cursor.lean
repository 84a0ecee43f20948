import WireSchema.Integer
import WireSchema.Codec.Error

/-!
A position in an input. Main statement: a read splits off the next bytes, or there are too few, and
then the error says how many and the position stays.
-/

namespace WireSchema

/-- The bytes already read, the latest first, and those ahead. -/
structure Cursor where
  read : Bytes
  ahead : Bytes
  deriving Repr, DecidableEq, Inhabited

namespace Cursor

def start (input : Bytes) : Cursor :=
  ⟨[], input⟩

def offset (c : Cursor) : Nat :=
  c.read.length

def remaining (c : Cursor) : Nat :=
  c.ahead.length

def atEnd (c : Cursor) : Bool :=
  c.ahead.isEmpty

/-- The bytes read from offset `start` on. -/
def since (c : Cursor) (start : Nat) : Bytes :=
  (c.read.take (c.offset - start)).reverse

/-- What is read and where the cursor is then. The bytes are counted before it moves. -/
def take (c : Cursor) (count : Nat) : Except CodecError Bytes × Cursor :=
  let taken := c.ahead.take count
  if taken.length = count then (.ok taken, ⟨taken.reverse ++ c.read, c.ahead.drop count⟩)
  else (.error (.truncatedInput c.offset count c.remaining), c)

def takeInt (c : Cursor) (kind : IntKind) : Except CodecError kind.Word × Cursor :=
  let (bs, d) := c.take kind.size
  (bs.map kind.ofBytes, d)

/-- A decoder goes on from the cursor after a read, and not at all after a failed one. -/
def onward {α : Type} : Except CodecError α × Cursor → Except CodecError (α × Cursor)
  | (.ok a, c) => .ok (a, c)
  | (.error e, _) => .error e

def readBytes (c : Cursor) (count : Nat) : Except CodecError (Bytes × Cursor) :=
  onward (c.take count)

def readByte (c : Cursor) : Except CodecError (UInt8 × Cursor) :=
  match c.ahead with
  | [] => .error (.truncatedInput c.offset 1 0)
  | b :: rest => .ok (b, ⟨b :: c.read, rest⟩)

/-- An unsigned little-endian number of `width` bytes. -/
def readNat (c : Cursor) (width : Nat) : Except CodecError (Nat × Cursor) := do
  let (bs, c) ← c.readBytes width
  return (bs.toNatLE, c)

def readInt (c : Cursor) (kind : IntKind) : Except CodecError (kind.Word × Cursor) :=
  onward (c.takeInt kind)

theorem take_append (read bs rest : Bytes) :
    take ⟨read, bs ++ rest⟩ bs.length = (.ok bs, ⟨bs.reverse ++ read, rest⟩) := by
  simp [take]

theorem take_of_remaining_lt {c : Cursor} {count : Nat} (h : c.remaining < count) :
    c.take count = (.error (.truncatedInput c.offset count c.remaining), c) := by
  have hne : (c.ahead.take count).length ≠ count := by
    rw [List.length_take]
    have : c.ahead.length < count := h
    omega
  simp only [take, if_neg hne]

theorem readBytes_eq_error {c : Cursor} {count : Nat} (h : c.remaining < count) :
    c.readBytes count = .error (.truncatedInput c.offset count c.remaining) := by
  rw [readBytes, take_of_remaining_lt h, onward]

theorem readInt_eq (c : Cursor) (kind : IntKind) : c.readInt kind = (do
    let (bs, d) ← c.readBytes kind.size
    return (kind.ofBytes bs, d)) := by
  rw [readInt, takeInt, readBytes]
  obtain ⟨result, d⟩ := c.take kind.size
  cases result <;> rfl

theorem since_offset (read bs rest : Bytes) :
    since ⟨bs.reverse ++ read, rest⟩ read.length = bs := by
  simp [since, offset]

end Cursor
end WireSchema
