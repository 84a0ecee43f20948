import WireSchema.Bytes

/-!
The ten fixed-width integer kinds. A value of a kind is its two's-complement word, so every word
is in range and its bytes are the little-endian bytes of the word.
-/

namespace WireSchema

inductive IntKind
  | u8 | u16 | u32 | u64 | u128
  | i8 | i16 | i32 | i64 | i128
  deriving Repr, DecidableEq, Inhabited

namespace IntKind

/-- Width in bytes. -/
def size : IntKind → Nat
  | .u8 | .i8 => 1
  | .u16 | .i16 => 2
  | .u32 | .i32 => 4
  | .u64 | .i64 => 8
  | .u128 | .i128 => 16

def signed : IntKind → Bool
  | .u8 | .u16 | .u32 | .u64 | .u128 => false
  | .i8 | .i16 | .i32 | .i64 | .i128 => true

def name : IntKind → String
  | .u8 => "u8"
  | .u16 => "u16"
  | .u32 => "u32"
  | .u64 => "u64"
  | .u128 => "u128"
  | .i8 => "i8"
  | .i16 => "i16"
  | .i32 => "i32"
  | .i64 => "i64"
  | .i128 => "i128"

def all : List IntKind :=
  [.u8, .u16, .u32, .u64, .u128, .i8, .i16, .i32, .i64, .i128]

theorem mem_all (kind : IntKind) : kind ∈ all := by
  cases kind <;> decide

def ofName? (name : String) : Option IntKind :=
  all.find? (·.name == name)

theorem ofName?_name (kind : IntKind) : ofName? kind.name = some kind := by
  cases kind <;> decide

abbrev Word (kind : IntKind) := BitVec (8 * kind.size)

def toInt (kind : IntKind) (word : kind.Word) : Int :=
  if kind.signed then word.toInt else word.toNat

/-- The word that stands for `n`, if `n` is in the range of the kind. -/
def ofInt? (kind : IntKind) (n : Int) : Option kind.Word :=
  let word := BitVec.ofInt (8 * kind.size) n
  if kind.toInt word = n then some word else none

def toBytes (kind : IntKind) (word : kind.Word) : Bytes :=
  Bytes.ofNatLE kind.size word.toNat

def ofBytes (kind : IntKind) (bs : Bytes) : kind.Word :=
  BitVec.ofNat _ bs.toNatLE

@[simp] theorem length_toBytes (kind : IntKind) (word : kind.Word) :
    (kind.toBytes word).length = kind.size := by
  simp [toBytes]

private theorem toNat_lt (kind : IntKind) (word : kind.Word) :
    word.toNat < Nat.pow 256 kind.size := by
  have h := word.isLt
  rwa [Nat.pow_mul] at h

theorem ofBytes_toBytes (kind : IntKind) (word : kind.Word) :
    kind.ofBytes (kind.toBytes word) = word := by
  rw [ofBytes, toBytes, Bytes.toNatLE_ofNatLE, Nat.mod_eq_of_lt (kind.toNat_lt word),
    BitVec.ofNat_toNat, BitVec.setWidth_eq]

theorem toBytes_ofBytes (kind : IntKind) {bs : Bytes} (h : bs.length = kind.size) :
    kind.toBytes (kind.ofBytes bs) = bs := by
  have hlt := Bytes.toNatLE_lt bs
  rw [h, Nat.pow_eq, ← Nat.pow_mul 2 8] at hlt
  rw [toBytes, ofBytes, BitVec.toNat_ofNat, Nat.mod_eq_of_lt hlt, ← h, Bytes.ofNatLE_toNatLE]

end IntKind
end WireSchema
