import WireSchema.Codec.Decode
import WireSchema.Proofs.Advance
import WireSchema.Proofs.Encoding
import WireSchema.Proofs.Shape

/-!
Decoding yields exactly the admitted values that have the shape of their layout and do not nest too
deep, and reads their wire form.
-/

namespace WireSchema

open Cursor (advance_nil advance_cons advance_append)

theorem decodeLength_eq_ok_iff {bound : Option UInt64} {c d : Cursor} {length : Nat} :
    decodeLength bound c = .ok (length, d) ↔
      Writable bound length ∧ c.Advance (lengthBytes length) d := by
  simp only [decodeLength, bind_eq_ok_iff, Prod.exists, Cursor.readNat_eq_ok_iff,
    checkBound_eq_ok_iff, exists_const, pure_eq_ok, Except.ok.injEq, Prod.mk.injEq]
  constructor
  · rintro ⟨_, _, ⟨hl, h⟩, hw, rfl, rfl⟩
    exact ⟨⟨hw, hl⟩, h⟩
  · rintro ⟨⟨hw, hl⟩, h⟩
    exact ⟨_, d, ⟨hl, h⟩, hw, rfl, rfl⟩

section Primitives
variable {c d : Cursor} {value : Value}

theorem decodeBool_eq_ok_iff :
    decodePrimitive .bool c = .ok (value, d) ↔
      Primitive.bool.Admits value ∧ c.Advance (Primitive.bool.wire value) d := by
  simp only [decodePrimitive, bind_eq_ok_iff, Prod.exists, Cursor.readByte_eq_ok_iff, pure_eq_ok]
  constructor
  · rintro ⟨byte, next, h, hb⟩
    split at hb
    · cases hb
      exact ⟨trivial, h⟩
    · cases hb
      exact ⟨trivial, h⟩
    · cases hb
  · cases value with
    | bool b =>
      rintro ⟨-, h⟩
      refine ⟨_, d, h, ?_⟩
      cases b <;> rfl
    | _ => exact fun h => h.1.elim

theorem decodeInt_eq_ok_iff {kind : IntKind} :
    decodePrimitive (.int kind) c = .ok (value, d) ↔
      (Primitive.int kind).Admits value ∧ c.Advance ((Primitive.int kind).wire value) d := by
  simp only [decodePrimitive, bind_eq_ok_iff, Prod.exists, Cursor.readInt_eq_ok_iff, pure_eq_ok,
    Except.ok.injEq, Prod.mk.injEq]
  constructor
  · rintro ⟨word, _, h, rfl, rfl⟩
    exact ⟨rfl, h⟩
  · cases value with
    | int kind' word =>
      rintro ⟨hk, h⟩
      obtain rfl : kind = kind' := hk
      exact ⟨word, d, h, rfl, rfl⟩
    | _ => exact fun h => h.1.elim

theorem decodeString_eq_ok_iff {bound : Option UInt64} :
    decodePrimitive (.string bound) c = .ok (value, d) ↔
      (Primitive.string bound).Admits value ∧
        c.Advance ((Primitive.string bound).wire value) d := by
  simp only [decodePrimitive, bind_eq_ok_iff, Prod.exists, decodeLength_eq_ok_iff,
    Cursor.readBytes_eq_ok_iff, pure_eq_ok]
  constructor
  · rintro ⟨length, start, ⟨hw, hs⟩, bs, next, ⟨rfl, hb⟩, ht⟩
    split at ht
    · rename_i s htext
      cases ht
      obtain rfl := Bytes.ofText_of_toText? htext
      exact ⟨hw, advance_append.mpr ⟨start, hs, hb⟩⟩
    · cases ht
  · cases value with
    | string s =>
      rintro ⟨hw, h⟩
      obtain ⟨start, hs, hb⟩ := advance_append.mp h
      refine ⟨_, start, ⟨hw, hs⟩, _, d, ⟨rfl, hb⟩, ?_⟩
      rw [Bytes.toText?_ofText]
    | _ => exact fun h => h.1.elim

theorem decodeFixed_eq_ok_iff {width : Nat} :
    (c.readBytes width >>= fun read => .ok (Value.bytes read.1, read.2)) = .ok (value, d) ↔
      ∃ bs, value = .bytes bs ∧ bs.length = width ∧ c.Advance bs d := by
  simp only [bind_eq_ok_iff, Prod.exists, Cursor.readBytes_eq_ok_iff, Except.ok.injEq,
    Prod.mk.injEq]
  constructor
  · rintro ⟨bs, _, h, rfl, rfl⟩
    exact ⟨bs, rfl, h⟩
  · rintro ⟨bs, rfl, h⟩
    exact ⟨bs, d, h, rfl, rfl⟩

end Primitives

theorem decodePrimitive_eq_ok_iff {kind : Primitive} {c d : Cursor} {value : Value} :
    decodePrimitive kind c = .ok (value, d) ↔
      kind.Admits value ∧ c.Advance (kind.wire value) d := by
  cases kind with
  | bool => exact decodeBool_eq_ok_iff
  | int kind => exact decodeInt_eq_ok_iff
  | string bound => exact decodeString_eq_ok_iff
  | fixedBytes width =>
    refine decodeFixed_eq_ok_iff.trans ?_
    cases value <;> simp [Primitive.Admits, Primitive.wire]
  | publicKey =>
    refine decodeFixed_eq_ok_iff.trans ?_
    cases value <;> simp [Primitive.Admits, Primitive.wire]

theorem decodeMany_eq_ok_iff {decodeOne : Cursor → Except CodecError (Value × Cursor)}
    {Yielded : Value → Prop} {wire : Value → Bytes}
    (h : ∀ c value d, decodeOne c = .ok (value, d) ↔ Yielded value ∧ c.Advance (wire value) d)
    {count : Nat} {c d : Cursor} {values : List Value} :
    decodeMany decodeOne count c = .ok (values, d) ↔
      values.length = count ∧ (∀ value ∈ values, Yielded value) ∧
        c.Advance (values.flatMap wire) d := by
  induction count generalizing c d values with
  | zero =>
    simp only [decodeMany, pure_eq_ok, Except.ok.injEq, Prod.mk.injEq, List.length_eq_zero_iff]
    constructor
    · rintro ⟨rfl, rfl⟩
      simp
    · rintro ⟨rfl, -, h⟩
      exact ⟨rfl, (advance_nil.mp h).symm⟩
  | succ count ih =>
    simp only [decodeMany, bind_eq_ok_iff, Prod.exists, h, ih, pure_eq_ok, Except.ok.injEq,
      Prod.mk.injEq]
    constructor
    · rintro ⟨value, m, ⟨hv, hm⟩, rest, _, ⟨rfl, hrest, hd⟩, rfl, rfl⟩
      exact ⟨rfl, List.forall_mem_cons.mpr ⟨hv, hrest⟩, advance_append.mpr ⟨m, hm, hd⟩⟩
    · cases values with
      | nil =>
        rintro ⟨hl, -⟩
        cases hl
      | cons value values =>
        rintro ⟨hl, hall, h⟩
        obtain ⟨m, hm, hd⟩ := advance_append.mp h
        obtain ⟨hv, hrest⟩ := List.forall_mem_cons.mp hall
        exact ⟨value, m, ⟨hv, hm⟩, values, d, ⟨Nat.succ.inj hl, hrest, hd⟩, rfl, rfl⟩

/-- The bytes that a key was read from are its wire form. -/
theorem decodeEntries_eq_ok_iff
    {decodeKey decodeValue : Cursor → Except CodecError (Value × Cursor)}
    {YieldedKey Yielded : Value → Prop} {wireKey wire : Value → Bytes}
    (hk : ∀ c key d, decodeKey c = .ok (key, d) ↔ YieldedKey key ∧ c.Advance (wireKey key) d)
    (hv : ∀ c value d, decodeValue c = .ok (value, d) ↔ Yielded value ∧ c.Advance (wire value) d)
    {seen : List Bytes} {count : Nat} {c d : Cursor} {entries : List (Value × Value)} :
    decodeEntries decodeKey decodeValue seen count c = .ok (entries, d) ↔
      entries.length = count ∧
      ((entries.map fun entry => wireKey entry.1).Nodup ∧
        ∀ entry ∈ entries, wireKey entry.1 ∉ seen) ∧
      (∀ entry ∈ entries, YieldedKey entry.1 ∧ Yielded entry.2) ∧
      c.Advance (entries.flatMap fun entry => wireKey entry.1 ++ wire entry.2) d := by
  induction count generalizing seen c d entries with
  | zero =>
    simp only [decodeEntries, pure_eq_ok, Except.ok.injEq, Prod.mk.injEq, List.length_eq_zero_iff]
    constructor
    · rintro ⟨rfl, rfl⟩
      simp
    · rintro ⟨rfl, -, -, h⟩
      exact ⟨rfl, (advance_nil.mp h).symm⟩
  | succ count ih =>
    simp only [decodeEntries, liftM_eq, bind_eq_ok_iff, Prod.exists, hk, hv, ih, checkKey_eq_ok_iff,
      exists_const, pure_eq_ok, Except.ok.injEq, Prod.mk.injEq]
    constructor
    · rintro ⟨key, m, ⟨hka, hm⟩, hs, value, m', ⟨hva, hm'⟩, rest, _,
        ⟨rfl, ⟨hnd, hall⟩, hacc, hd⟩, rfl, rfl⟩
      simp only [hm.since, List.mem_cons, not_or] at hs hall
      refine ⟨rfl, ⟨?_, ?_⟩, List.forall_mem_cons.mpr ⟨⟨hka, hva⟩, hacc⟩, ?_⟩
      · simp only [List.map_cons, List.nodup_cons, List.mem_map, not_exists, not_and]
        exact ⟨fun entry he => (hall entry he).1, hnd⟩
      · exact List.forall_mem_cons.mpr ⟨hs, fun entry he => (hall entry he).2⟩
      · exact advance_append.mpr ⟨m', advance_append.mpr ⟨m, hm, hm'⟩, hd⟩
    · cases entries with
      | nil =>
        rintro ⟨hl, -⟩
        cases hl
      | cons entry entries =>
        rintro ⟨hl, ⟨hnd, hns⟩, hacc, h⟩
        obtain ⟨m', hm', hd⟩ := advance_append.mp h
        obtain ⟨m, hm, hm'⟩ := advance_append.mp hm'
        obtain ⟨⟨hka, hva⟩, hacc⟩ := List.forall_mem_cons.mp hacc
        obtain ⟨hs, hns⟩ := List.forall_mem_cons.mp hns
        simp only [List.map_cons, List.nodup_cons, List.mem_map, not_exists, not_and] at hnd
        refine ⟨entry.1, m, ⟨hka, hm⟩, by rwa [hm.since], entry.2, m', ⟨hva, hm'⟩, entries, d,
          ⟨Nat.succ.inj hl, ⟨hnd.2, ?_⟩, hacc, hd⟩, rfl, rfl⟩
        simp only [hm.since, List.mem_cons, not_or]
        exact fun entry he => ⟨hnd.1 entry he, hns entry he⟩

theorem TagWidth.lt_pow_iff (tag : TagWidth) {n : Nat} :
    n < Nat.pow 256 tag.size ↔ n ≤ tag.maxDiscriminant := by
  cases tag <;> simp only [size, maxDiscriminant, Nat.pow_eq] <;> omega

/-- Every tag that the width can hold is a variant index. -/
theorem TagWidth.toNat_ofNat (tag : TagWidth) {n : Nat} (h : n < Nat.pow 256 tag.size) :
    (UInt32.ofNat n).toNat = n := by
  have hlt : n < UInt32.size := by
    cases tag <;> simp only [size, Nat.pow_eq, UInt32.size] at h ⊢ <;> omega
  exact UInt32.toNat_ofNat_of_lt' hlt

namespace Layout

/-- What decoding yields from every position, where `room` levels are left. -/
def DecodesWire (layout : Layout) : Prop :=
  ∀ limit room c value d, layout.decodeAt limit room c = .ok (value, d) ↔
    (layout.Admits value ∧ layout.nest value ≤ room ∧ layout.reshape value = value) ∧
      c.Advance (layout.wire value) d

theorem decodeFields_eq_ok_iff {fields : List (String × Layout)}
    (h : ∀ field ∈ fields, field.2.DecodesWire) {limit room : Nat} {c d : Cursor}
    {values : List (String × Value)} :
    decodeFields limit room fields c = .ok (values, d) ↔
      (AdmitsFields fields values ∧ nestFields fields values ≤ room ∧
        reshapeFields fields values = values) ∧ c.Advance (wireFields fields values) d := by
  induction fields generalizing c d values with
  | nil =>
    cases values <;>
      simp [decodeFields_nil, AdmitsFields, nestFields, reshapeFields, wireFields, eq_comm]
  | cons field fields ih =>
    obtain ⟨name, layout⟩ := field
    have hlayout : layout.DecodesWire := h _ List.mem_cons_self
    have hfields : ∀ f ∈ fields, f.2.DecodesWire := fun f hf => h f (List.mem_cons_of_mem _ hf)
    simp only [decodeFields_cons, bind_eq_ok_iff, Prod.exists, hlayout _ _ _ _ _, ih hfields,
      pure_eq_ok, Except.ok.injEq, Prod.mk.injEq]
    constructor
    · rintro ⟨value, m, ⟨⟨ha, hd, hr⟩, hm⟩, values, _, ⟨⟨has, hds, hrs⟩, hms⟩, rfl, rfl⟩
      exact ⟨⟨⟨rfl, ha, has⟩, Nat.max_le.mpr ⟨hd, hds⟩, by simp [reshapeFields, hr, hrs]⟩,
        advance_append.mpr ⟨m, hm, hms⟩⟩
    · cases values with
      | nil => exact fun h => h.1.1.elim
      | cons entry values =>
        obtain ⟨name', value⟩ := entry
        rintro ⟨⟨⟨rfl, ha, has⟩, hd, hr⟩, hadv⟩
        obtain ⟨hd, hds⟩ := Nat.max_le.mp hd
        obtain ⟨m, hm, hms⟩ := advance_append.mp hadv
        simp only [reshapeFields, List.cons.injEq, Prod.mk.injEq, true_and] at hr
        exact ⟨value, m, ⟨⟨ha, hd, hr.1⟩, hm⟩, values, d, ⟨⟨has, hds, hr.2⟩, hms⟩, rfl, rfl⟩

theorem decodeMembers_eq_ok_iff {members : List Layout}
    (h : ∀ member ∈ members, member.DecodesWire) {limit room : Nat} {c d : Cursor}
    {values : List Value} :
    decodeMembers limit room members c = .ok (values, d) ↔
      (AdmitsMembers members values ∧ nestMembers members values ≤ room ∧
        reshapeMembers members values = values) ∧ c.Advance (wireMembers members values) d := by
  induction members generalizing c d values with
  | nil =>
    cases values <;>
      simp [decodeMembers_nil, AdmitsMembers, nestMembers, reshapeMembers, wireMembers, eq_comm]
  | cons layout members ih =>
    have hlayout : layout.DecodesWire := h _ List.mem_cons_self
    have hmembers : ∀ m ∈ members, m.DecodesWire := fun m hm => h m (List.mem_cons_of_mem _ hm)
    simp only [decodeMembers_cons, bind_eq_ok_iff, Prod.exists, hlayout _ _ _ _ _, ih hmembers,
      pure_eq_ok, Except.ok.injEq, Prod.mk.injEq]
    constructor
    · rintro ⟨value, m, ⟨⟨ha, hd, hr⟩, hm⟩, values, _, ⟨⟨has, hds, hrs⟩, hms⟩, rfl, rfl⟩
      exact ⟨⟨⟨ha, has⟩, Nat.max_le.mpr ⟨hd, hds⟩, by simp [reshapeMembers, hr, hrs]⟩,
        advance_append.mpr ⟨m, hm, hms⟩⟩
    · cases values with
      | nil => exact fun h => h.1.1.elim
      | cons value values =>
        rintro ⟨⟨⟨ha, has⟩, hd, hr⟩, hadv⟩
        obtain ⟨hd, hds⟩ := Nat.max_le.mp hd
        obtain ⟨m, hm, hms⟩ := advance_append.mp hadv
        simp only [reshapeMembers, List.cons.injEq] at hr
        exact ⟨value, m, ⟨⟨ha, hd, hr.1⟩, hm⟩, values, d, ⟨⟨has, hds, hr.2⟩, hms⟩, rfl, rfl⟩

theorem decodePayload_eq_ok_iff {variants : List (String × Layout)}
    (h : ∀ variant ∈ variants, variant.2.DecodesWire) {limit room position : Nat}
    {unknown : CodecError} {c d : Cursor} {value : Value} :
    decodePayload limit room unknown variants position c = .ok (value, d) ↔
      (AdmitsPayload variants position value ∧ 1 + nestPayload variants position value ≤ room ∧
        reshapePayload variants position value = value) ∧
        c.Advance (wirePayload variants position value) d := by
  induction variants generalizing position with
  | nil => simp [decodePayload_nil, AdmitsPayload]
  | cons variant variants ih =>
    obtain ⟨name, payload⟩ := variant
    cases position with
    | zero =>
      have hpayload : payload.DecodesWire := h _ List.mem_cons_self
      cases room with
      | zero => simp [decodePayload_zero, descend_zero, error_bind]
      | succ room =>
        simp only [decodePayload_zero, descend_succ, ok_bind, hpayload _ _ _ _ _, AdmitsPayload,
          nestPayload, reshapePayload, wirePayload, Nat.add_comm 1, Nat.add_le_add_iff_right]
    | succ position =>
      simpa only [decodePayload_succ, AdmitsPayload, nestPayload, reshapePayload, wirePayload] using
        ih fun v hv => h v (List.mem_cons_of_mem _ hv)

theorem decodeAt_no_room {layout : Layout} (h : ¬layout.isPrimitive) (limit : Nat) (c : Cursor) :
    layout.decodeAt limit 0 c = .error (.depthLimitExceeded limit) := by
  cases layout with
  | primitive name kind => exact absurd rfl h
  | _ => rfl

theorem decodesWire_of_room {layout : Layout} (hc : ¬layout.isPrimitive)
    (h : ∀ limit room c value d, layout.decodeAt limit (room + 1) c = .ok (value, d) ↔
      (layout.Admits value ∧ layout.nest value ≤ room + 1 ∧ layout.reshape value = value) ∧
        c.Advance (layout.wire value) d) : layout.DecodesWire := by
  intro limit room c value d
  cases room with
  | zero =>
    have hpos := nest_pos hc value
    rw [decodeAt_no_room hc]
    constructor
    · intro hok
      cases hok
    · rintro ⟨⟨_, hn, _⟩, _⟩
      omega
  | succ room => exact h limit room c value d

section Shapes
attribute [local simp] Admits nest reshape wire

theorem decodesWire_primitive (name : String) (kind : Primitive) :
    (primitive name kind).DecodesWire := by
  intro limit room c value d
  simp [decodeAt_primitive, decodePrimitive_eq_ok_iff]

theorem decodesWire_array (name : String) {element : Layout} (length : UInt64)
    (helement : element.DecodesWire) : (array name element length).DecodesWire := by
  refine decodesWire_of_room (by simp [isPrimitive]) fun limit room c value d => ?_
  simp only [decodeAt_array, descend_succ, ok_bind, bind_eq_ok_iff, Prod.exists,
    decodeMany_eq_ok_iff (helement limit room), pure_eq_ok, Except.ok.injEq, Prod.mk.injEq]
  cases value with
  | array elements =>
    simp only [Value.array.injEq, Admits, nest, reshape, wire, Nat.add_comm 1,
      Nat.add_le_add_iff_right, deepest_le_iff, map_eq_self_iff]
    constructor
    · rintro ⟨_, _, ⟨hl, hall, hadv⟩, rfl, rfl⟩
      exact ⟨⟨⟨hl, fun v hv => (hall v hv).1⟩, fun v hv => (hall v hv).2.1,
        fun v hv => (hall v hv).2.2⟩, hadv⟩
    · rintro ⟨⟨⟨hl, ha⟩, hd, hr⟩, hadv⟩
      exact ⟨_, d, ⟨hl, fun v hv => ⟨ha v hv, hd v hv, hr v hv⟩, hadv⟩, rfl, rfl⟩
  | _ => simp

theorem decodesWire_sequence (name : String) {element : Layout} (bound : Option UInt64)
    (helement : element.DecodesWire) : (sequence name element bound).DecodesWire := by
  refine decodesWire_of_room (by simp [isPrimitive]) fun limit room c value d => ?_
  simp only [decodeAt_sequence, descend_succ, ok_bind, bind_eq_ok_iff, Prod.exists,
    ensure_eq_ok_iff, exists_const, decodeLength_eq_ok_iff,
    decodeMany_eq_ok_iff (helement limit room), pure_eq_ok, Except.ok.injEq, Prod.mk.injEq]
  cases value with
  | sequence elements =>
    simp only [Value.sequence.injEq, Admits, nest, reshape, wire, Nat.add_comm 1,
      Nat.add_le_add_iff_right, deepest_le_iff, map_eq_self_iff, advance_append,
      ← List.length_eq_zero_iff]
    constructor
    · rintro ⟨_, m, ⟨hw, hm⟩, hz, _, _, ⟨rfl, hall, hadv⟩, rfl, rfl⟩
      exact ⟨⟨⟨hw, hz, fun v hv => (hall v hv).1⟩, fun v hv => (hall v hv).2.1,
        fun v hv => (hall v hv).2.2⟩, m, hm, hadv⟩
    · rintro ⟨⟨⟨hw, hz, ha⟩, hd, hr⟩, m, hm, hadv⟩
      exact ⟨_, m, ⟨hw, hm⟩, hz, _, d,
        ⟨rfl, fun v hv => ⟨ha v hv, hd v hv, hr v hv⟩, hadv⟩, rfl, rfl⟩
  | _ => simp

theorem decodesWire_map (name : String) {key content : Layout} (bound : Option UInt64)
    (hkey : key.DecodesWire) (hcontent : content.DecodesWire) :
    (map name key content bound).DecodesWire := by
  refine decodesWire_of_room (by simp [isPrimitive]) fun limit room c value d => ?_
  simp only [decodeAt_map, descend_succ, ok_bind, bind_eq_ok_iff, Prod.exists,
    decodeLength_eq_ok_iff, decodeEntries_eq_ok_iff (hkey limit room) (hcontent limit room),
    List.not_mem_nil, not_false_eq_true, implies_true, and_true, pure_eq_ok, Except.ok.injEq,
    Prod.mk.injEq]
  cases value with
  | map entries =>
    simp only [Value.map.injEq, Admits, nest, reshape, wire, Nat.add_comm 1,
      Nat.add_le_add_iff_right, deepest_le_iff, Nat.max_le, map_eq_self_iff, advance_append,
      Prod.ext_iff]
    constructor
    · rintro ⟨_, m, ⟨hw, hm⟩, _, _, ⟨rfl, hnd, hall, hadv⟩, rfl, rfl⟩
      exact ⟨⟨⟨hw, hnd, fun e he => ⟨(hall e he).1.1, (hall e he).2.1⟩⟩,
        fun e he => ⟨(hall e he).1.2.1, (hall e he).2.2.1⟩,
        fun e he => ⟨(hall e he).1.2.2, (hall e he).2.2.2⟩⟩, m, hm, hadv⟩
    · rintro ⟨⟨⟨hw, hnd, ha⟩, hd, hr⟩, m, hm, hadv⟩
      exact ⟨_, m, ⟨hw, hm⟩, _, d, ⟨rfl, hnd, fun e he =>
        ⟨⟨(ha e he).1, (hd e he).1, (hr e he).1⟩, (ha e he).2, (hd e he).2, (hr e he).2⟩, hadv⟩,
        rfl, rfl⟩
  | _ => simp

theorem decodesWire_option (name : String) {inner : Layout} (hinner : inner.DecodesWire) :
    (option name inner).DecodesWire := by
  refine decodesWire_of_room (by simp [isPrimitive]) fun limit room c value d => ?_
  simp only [decodeAt_option, descend_succ, ok_bind, bind_eq_ok_iff, Prod.exists,
    Cursor.readByte_eq_ok_iff]
  constructor
  · rintro ⟨tag, next, htag, h⟩
    split at h
    · cases h
      exact ⟨⟨trivial, by simp [nest], rfl⟩, htag⟩
    · simp only [bind_eq_ok_iff, Prod.exists, hinner limit room _ _ _, pure_eq_ok, Except.ok.injEq,
        Prod.mk.injEq] at h
      obtain ⟨v, _, ⟨⟨ha, hd, hr⟩, hadv⟩, rfl, rfl⟩ := h
      exact ⟨⟨ha, by simp only [nest]; omega, by simp [reshape, hr]⟩,
        advance_cons.mpr ⟨next, htag, hadv⟩⟩
    · cases h
  · cases value with
    | absent => exact fun h => ⟨0, d, h.2, rfl⟩
    | present v =>
      rintro ⟨⟨ha, hd, hr⟩, hadv⟩
      obtain ⟨next, htag, hadv⟩ := advance_cons.mp hadv
      have hd' : inner.nest v ≤ room := by simp only [nest] at hd; omega
      refine ⟨1, next, htag, ?_⟩
      simp only [bind_eq_ok_iff, Prod.exists]
      exact ⟨v, d, (hinner limit room next v d).mpr ⟨⟨ha, hd', Value.present.inj hr⟩, hadv⟩, rfl⟩
    | _ => exact fun h => h.1.1.elim

theorem decodesWire_struct (name : String) {fields : List (String × Layout)}
    (hfields : ∀ field ∈ fields, field.2.DecodesWire) : (struct name fields).DecodesWire := by
  refine decodesWire_of_room (by simp [isPrimitive]) fun limit room c value d => ?_
  simp only [decodeAt_struct, descend_succ, ok_bind, bind_eq_ok_iff, Prod.exists,
    decodeFields_eq_ok_iff hfields, pure_eq_ok, Except.ok.injEq, Prod.mk.injEq]
  cases value with
  | struct values =>
    simp only [Value.struct.injEq, Admits, nest, reshape, wire, Nat.add_comm 1,
      Nat.add_le_add_iff_right]
    constructor
    · rintro ⟨_, _, h, rfl, rfl⟩
      exact h
    · exact fun h => ⟨values, d, h, rfl, rfl⟩
  | tuple values => cases fields <;> cases values <;> simp
  | _ => simp

theorem decodesWire_tuple (name : String) {members : List Layout}
    (hmembers : ∀ member ∈ members, member.DecodesWire) : (tuple name members).DecodesWire := by
  refine decodesWire_of_room (by simp [isPrimitive]) fun limit room c value d => ?_
  simp only [decodeAt_tuple, descend_succ, ok_bind, bind_eq_ok_iff, Prod.exists,
    decodeMembers_eq_ok_iff hmembers, pure_eq_ok, Except.ok.injEq, Prod.mk.injEq]
  cases value with
  | tuple values =>
    simp only [Value.tuple.injEq, Admits, nest, reshape, wire, Nat.add_comm 1,
      Nat.add_le_add_iff_right]
    constructor
    · rintro ⟨_, _, h, rfl, rfl⟩
      exact h
    · exact fun h => ⟨values, d, h, rfl, rfl⟩
  | struct values => cases members <;> cases values <;> simp
  | _ => simp

theorem decodesWire_enum (name : String) {variants : List (String × Layout)} (tag : TagWidth)
    (hvariants : ∀ variant ∈ variants, variant.2.DecodesWire) :
    (enum name variants tag).DecodesWire := by
  refine decodesWire_of_room (by simp [isPrimitive]) fun limit room c value d => ?_
  simp only [decodeAt_enum, decodeTagged, liftM_eq, descend_succ, ok_bind, bind_eq_ok_iff,
    Prod.exists, Cursor.readNat_eq_ok_iff, decodePayload_eq_ok_iff hvariants, pure_eq_ok,
    Except.ok.injEq, Prod.mk.injEq]
  cases value with
  | enum index payload =>
    simp only [Value.enum.injEq, Admits, nest, reshape, wire, advance_append, true_and]
    constructor
    · rintro ⟨n, m, ⟨hn, hm⟩, _, _, ⟨⟨ha, hd, hr⟩, hadv⟩, ⟨rfl, rfl⟩, rfl⟩
      rw [tag.toNat_ofNat hn]
      exact ⟨⟨⟨tag.lt_pow_iff.mp hn, ha⟩, by omega, hr⟩, m, hm, hadv⟩
    · rintro ⟨⟨⟨ht, ha⟩, hd, hr⟩, m, hm, hadv⟩
      exact ⟨index.toNat, m, ⟨tag.lt_pow_iff.mpr ht, hm⟩, payload, d,
        ⟨⟨ha, by omega, hr⟩, hadv⟩, ⟨UInt32.ofNat_toNat, rfl⟩, rfl⟩
  | _ => simp

end Shapes

theorem decodeAt_eq_ok_iff (layout : Layout) : layout.DecodesWire := by
  induction layout with
  | primitive name kind => exact decodesWire_primitive name kind
  | array name element length ih => exact decodesWire_array name length ih
  | sequence name element bound ih => exact decodesWire_sequence name bound ih
  | map name key content bound ihk ihc => exact decodesWire_map name bound ihk ihc
  | option name inner ih => exact decodesWire_option name ih
  | struct name fields ih => exact decodesWire_struct name ih
  | tuple name members ih => exact decodesWire_tuple name ih
  | enum name variants tag ih => exact decodesWire_enum name tag ih

theorem decode_eq_ok_iff {layout : Layout} {limits : Limits} {input : Bytes} {value : Value}
    {consumed : Nat} : layout.decode limits input = .ok (value, consumed) ↔
      ∃ d : Cursor, d.offset = consumed ∧
        layout.decodeAt limits.maxDepth limits.maxDepth (.start input) = .ok (value, d) := by
  simp only [decode_eq, bind_eq_ok_iff, Prod.exists, pure_eq_ok, Except.ok.injEq, Prod.mk.injEq]
  constructor
  · rintro ⟨_, d, h, rfl, rfl⟩
    exact ⟨d, rfl, h⟩
  · rintro ⟨d, rfl, h⟩
    exact ⟨value, d, h, rfl, rfl⟩

theorem decode_eq_error_iff {layout : Layout} {limits : Limits} {input : Bytes} {e : CodecError} :
    layout.decode limits input = .error e ↔
      layout.decodeAt limits.maxDepth limits.maxDepth (.start input) = .error e := by
  simp [decode_eq, bind_eq_error_iff, pure_eq_ok]

end Layout
end WireSchema
