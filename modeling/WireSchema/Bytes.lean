/-!
Byte strings: little-endian numbers, hexadecimal text and UTF-8. Main statements: a number below
`256 ^ width` is read back from its `width` bytes, and bytes are read back from their number.
-/

namespace WireSchema

abbrev Bytes := List UInt8

namespace Bytes

/-- The `width` low bytes of `n`, least significant first; higher bits are dropped. -/
def ofNatLE : Nat → Nat → Bytes
  | 0, _ => []
  | width + 1, n => UInt8.ofNat (n % 256) :: ofNatLE width (n / 256)

def toNatLE : Bytes → Nat
  | [] => 0
  | b :: bs => b.toNat + 256 * toNatLE bs

@[simp] theorem length_ofNatLE (width n : Nat) : (ofNatLE width n).length = width := by
  induction width generalizing n with
  | zero => rfl
  | succ width ih => simp [ofNatLE, ih]

theorem toNatLE_ofNatLE (width n : Nat) : toNatLE (ofNatLE width n) = n % Nat.pow 256 width := by
  induction width generalizing n with
  | zero => exact (Nat.mod_one n).symm
  | succ width ih =>
    have hb : (UInt8.ofNat (n % 256)).toNat = n % 256 := by
      rw [UInt8.toNat_ofNat']
      exact Nat.mod_eq_of_lt (Nat.mod_lt n (by decide))
    have hp : Nat.pow 256 (width + 1) = 256 * Nat.pow 256 width := Nat.mul_comm _ _
    rw [ofNatLE, toNatLE, ih, hb, hp, Nat.mod_mul]

theorem toNatLE_lt (bs : Bytes) : toNatLE bs < Nat.pow 256 bs.length := by
  induction bs with
  | nil => decide
  | cons b bs ih =>
    have hb := b.toNat_lt
    have hp : Nat.pow 256 (bs.length + 1) = Nat.pow 256 bs.length * 256 := rfl
    rw [toNatLE, List.length_cons, hp]
    omega

theorem ofNatLE_toNatLE (bs : Bytes) : ofNatLE bs.length (toNatLE bs) = bs := by
  induction bs with
  | nil => rfl
  | cons b bs ih =>
    have hb := b.toNat_lt
    have hm : (b.toNat + 256 * toNatLE bs) % 256 = b.toNat := by omega
    have hd : (b.toNat + 256 * toNatLE bs) / 256 = toNatLE bs := by omega
    rw [List.length_cons, ofNatLE, toNatLE, hm, hd, ih, UInt8.ofNat_toNat]

def hexDigit (n : Nat) : Char :=
  Char.ofNat (if n < 10 then 48 + n else 87 + n)

/-- Two lower-case digits per byte. -/
def toHex (bs : Bytes) : String :=
  String.ofList (bs.flatMap fun b => [hexDigit (b.toNat / 16), hexDigit (b.toNat % 16)])

def hexValue? (c : Char) : Option Nat :=
  if '0' ≤ c ∧ c ≤ '9' then some (c.toNat - 48)
  else if 'a' ≤ c ∧ c ≤ 'f' then some (c.toNat - 87)
  else if 'A' ≤ c ∧ c ≤ 'F' then some (c.toNat - 55)
  else none

def ofHexDigits? : List Char → Option Bytes
  | [] => some []
  | [_] => none
  | hi :: lo :: rest => do
    let h ← hexValue? hi
    let l ← hexValue? lo
    let bs ← ofHexDigits? rest
    return UInt8.ofNat (16 * h + l) :: bs

/-- Either letter case is read; an odd number of digits is refused. -/
def ofHex? (s : String) : Option Bytes :=
  ofHexDigits? s.toList

def ofText (s : String) : Bytes :=
  s.toUTF8.data.toList

/-- The text that `bs` encodes in UTF-8, if it is well formed. -/
def toText? (bs : Bytes) : Option String :=
  String.fromUTF8? ⟨bs.toArray⟩

theorem toText?_ofText (s : String) : toText? (ofText s) = some s := by
  have h := s.isValidUTF8
  simp [toText?, ofText, String.fromUTF8?, String.fromUTF8, h]

theorem ofText_of_toText? {bs : Bytes} {s : String} (h : toText? bs = some s) :
    ofText s = bs := by
  simp only [toText?, String.fromUTF8?] at h
  split at h
  · cases h
    simp [ofText, String.fromUTF8]
  · cases h

end Bytes
end WireSchema
