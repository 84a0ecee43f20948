import WireSchema.Proofs.Encoding

/-!
Encoding against the wire format. Main statement: encoding yields bytes exactly for the values that
their layout admits and that do not nest too deep, and they are those of the wire format, in which
numbers are little-endian two's complement.
-/

namespace WireSchema

/-- Two's complement, least significant byte first: at each place the byte of `n` there. -/
def Bytes.ofInt (width : Nat) (n : Int) : Bytes :=
  (List.range width).map fun i => UInt8.ofInt (n / (Nat.pow 256 i : Nat))

theorem Bytes.ofInt_succ (width : Nat) (n : Int) :
    ofInt (width + 1) n = UInt8.ofInt n :: ofInt width (n / 256) := by
  unfold ofInt
  rw [List.range_succ_eq_map, List.map_cons, List.map_map]
  have hzero : n / (Nat.pow 256 0 : Nat) = n := Int.ediv_one n
  rw [hzero]
  congr 1
  apply List.map_congr_left
  intro i _
  have hpow : ((Nat.pow 256 (i + 1) : Nat) : Int) = 256 * (Nat.pow 256 i : Nat) :=
    congrArg Nat.cast (Nat.mul_comm (Nat.pow 256 i) 256)
  rw [Function.comp, Nat.succ_eq_add_one, hpow, Int.ediv_ediv_of_nonneg (by decide)]

/-- Only the residue of a number is written. -/
theorem Bytes.ofNatLE_eq_ofInt {width n : Nat} {m k : Int}
    (h : m = n + (Nat.pow 256 width : Nat) * k) : ofNatLE width n = ofInt width m := by
  induction width generalizing n m with
  | zero => rfl
  | succ width ih =>
    have hpow : ((Nat.pow 256 (width + 1) : Nat) : Int) * k =
        256 * ((Nat.pow 256 width : Nat) * k) := by
      rw [← Int.mul_assoc]
      exact congrArg (· * k) (congrArg Nat.cast (Nat.mul_comm (Nat.pow 256 width) 256))
    rw [hpow] at h
    have hhead : (m % 2 ^ 8).toNat = n % 256 := by omega
    have htail : m / 256 = (n / 256 : Nat) + (Nat.pow 256 width : Nat) * k := by omega
    rw [ofInt_succ, ofNatLE, ih htail, UInt8.ofInt, hhead]

theorem IntKind.toBytes_eq_ofInt (kind : IntKind) (word : kind.Word) :
    kind.toBytes word = Bytes.ofInt kind.size (kind.toInt word) := by
  have hpow : 2 ^ (8 * kind.size) = Nat.pow 256 kind.size := Nat.pow_mul 2 8 kind.size
  unfold toBytes toInt
  by_cases hsigned : kind.signed ∧ ¬2 * word.toNat < 2 ^ (8 * kind.size)
  · apply Bytes.ofNatLE_eq_ofInt (k := -1)
    rw [if_pos hsigned.1, BitVec.toInt_eq_toNat_cond, if_neg hsigned.2, hpow]
    omega
  · apply Bytes.ofNatLE_eq_ofInt (k := 0)
    rw [Int.mul_zero, Int.add_zero]
    by_cases h : kind.signed
    · rw [if_pos h, BitVec.toInt_eq_toNat_cond, if_pos (by simpa [h] using hsigned)]
    · rw [if_neg h]

example : Bytes.ofInt 2 (-2) = [0xfe, 0xff] := by decide

namespace Layout

/-- What encoding accepts and what it writes, with nothing said on errors. -/
theorem encode_iff_conforms (limits : Limits) (layout : Layout) (value : Value) (bs : Bytes) :
    (layout.encode limits value = .ok bs ↔
      layout.Admits value ∧ layout.nest value ≤ limits.maxDepth ∧ bs = layout.wire value) ∧
    (∀ (kind : IntKind) (word : kind.Word),
      (Primitive.int kind).wire (.int kind word) = Bytes.ofInt kind.size (kind.toInt word)) ∧
    (∀ length, lengthBytes length = Bytes.ofInt 4 length) ∧
    ∀ (tag : TagWidth) (index : UInt32),
      Bytes.ofNatLE tag.size index.toNat = Bytes.ofInt tag.size index.toNat := by
  have hcount : ∀ width n, Bytes.ofNatLE width n = Bytes.ofInt width n := by
    intro width n
    apply Bytes.ofNatLE_eq_ofInt (k := 0)
    rw [Int.mul_zero, Int.add_zero]
  refine ⟨?_, IntKind.toBytes_eq_ofInt, hcount 4, fun tag index => hcount tag.size index.toNat⟩
  rw [encode, encodeAt_eq_ok_iff, and_assoc]

end Layout
end WireSchema
