import WireSchema.Codec.Encode
import WireSchema.Proofs.Wire

/-!
Encoding accepts exactly the admitted values that do not nest too deep, and writes their wire form.
-/

namespace WireSchema

theorem encodeLength_eq_ok_iff {offset length : Nat} {bound : Option UInt64} {bs : Bytes} :
    encodeLength offset length bound = .ok bs ↔
      Writable bound length ∧ bs = lengthBytes length := by
  simp only [encodeLength, bind_eq_ok_iff, checkBound_eq_ok_iff, ensure_eq_ok_iff, exists_const,
    pure_eq_ok, Except.ok.injEq, Writable, lengthBytes, and_assoc, @eq_comm Bytes bs]

theorem encodeFixed_eq_ok_iff {offset width : Nat} {bs written : Bytes} :
    encodeFixed offset width bs = .ok written ↔ bs.length = width ∧ written = bs := by
  by_cases h : bs.length = width <;> simp [encodeFixed, h, eq_comm]

theorem encodePrimitive_eq_ok_iff {offset : Nat} {layout : Layout} {kind : Primitive}
    {value : Value} {bs : Bytes} :
    encodePrimitive offset layout kind value = .ok bs ↔
      kind.Admits value ∧ bs = kind.wire value := by
  cases kind with
  | bool => cases value <;> simp [encodePrimitive, Primitive.Admits, Primitive.wire, eq_comm]
  | int kind =>
    cases value with
    | int kind' word =>
      by_cases h : kind = kind' <;>
        simp [encodePrimitive, Primitive.Admits, Primitive.wire, h, eq_comm]
    | _ => simp [encodePrimitive, Primitive.Admits]
  | string bound =>
    cases value with
    | string s =>
      simp only [encodePrimitive, bind_eq_ok_iff, encodeLength_eq_ok_iff, pure_eq_ok,
        Except.ok.injEq, Primitive.Admits, Primitive.wire]
      constructor
      · rintro ⟨count, ⟨hw, rfl⟩, rfl⟩
        exact ⟨hw, rfl⟩
      · rintro ⟨hw, rfl⟩
        exact ⟨_, ⟨hw, rfl⟩, rfl⟩
    | _ => simp [encodePrimitive, Primitive.Admits]
  | fixedBytes width =>
    cases value with
    | bytes bs => simp [encodePrimitive, Primitive.Admits, Primitive.wire, encodeFixed_eq_ok_iff]
    | _ => simp [encodePrimitive, Primitive.Admits]
  | publicKey =>
    cases value with
    | bytes bs => simp [encodePrimitive, Primitive.Admits, Primitive.wire, encodeFixed_eq_ok_iff]
    | _ => simp [encodePrimitive, Primitive.Admits]

/-- Elements are written one after the other, and all of them have to be accepted. -/
theorem encodeMany_eq_ok_iff {encodeOne : Nat → Value → Except CodecError Bytes}
    {Accepted : Value → Prop} {wire : Value → Bytes}
    (h : ∀ offset value bs, encodeOne offset value = .ok bs ↔ Accepted value ∧ bs = wire value)
    {offset : Nat} {values : List Value} {bs : Bytes} :
    encodeMany encodeOne offset values = .ok bs ↔
      (∀ value ∈ values, Accepted value) ∧ bs = values.flatMap wire := by
  induction values generalizing offset bs with
  | nil => simp [encodeMany, eq_comm]
  | cons value values ih =>
    simp only [encodeMany, bind_eq_ok_iff, h, ih, pure_eq_ok, Except.ok.injEq,
      List.forall_mem_cons, List.flatMap_cons]
    constructor
    · rintro ⟨_, ⟨hv, rfl⟩, _, ⟨hvs, rfl⟩, rfl⟩
      exact ⟨⟨hv, hvs⟩, rfl⟩
    · rintro ⟨⟨hv, hvs⟩, rfl⟩
      exact ⟨_, ⟨hv, rfl⟩, _, ⟨hvs, rfl⟩, rfl⟩

/-- Besides, no two keys have the same bytes, and none has those of a key before. -/
theorem encodeEntries_eq_ok_iff {encodeKey encodeValue : Nat → Value → Except CodecError Bytes}
    {AcceptedKey Accepted : Value → Prop} {wireKey wire : Value → Bytes}
    (hk : ∀ offset key bs, encodeKey offset key = .ok bs ↔ AcceptedKey key ∧ bs = wireKey key)
    (hv : ∀ offset value bs, encodeValue offset value = .ok bs ↔ Accepted value ∧ bs = wire value)
    {seen : List Bytes} {offset : Nat} {entries : List (Value × Value)} {bs : Bytes} :
    encodeEntries encodeKey encodeValue seen offset entries = .ok bs ↔
      ((entries.map fun entry => wireKey entry.1).Nodup ∧
        ∀ entry ∈ entries, wireKey entry.1 ∉ seen) ∧
      (∀ entry ∈ entries, AcceptedKey entry.1 ∧ Accepted entry.2) ∧
      bs = entries.flatMap fun entry => wireKey entry.1 ++ wire entry.2 := by
  induction entries generalizing seen offset bs with
  | nil => simp [encodeEntries, eq_comm]
  | cons entry entries ih =>
    obtain ⟨key, value⟩ := entry
    simp only [encodeEntries, bind_eq_ok_iff, hk, hv, ih, checkKey_eq_ok_iff, exists_const,
      pure_eq_ok, Except.ok.injEq, List.mem_cons, forall_eq_or_imp, List.flatMap_cons,
      List.map_cons, List.nodup_cons, List.mem_map, not_exists, not_and, not_or]
    constructor
    · rintro ⟨_, ⟨hka, rfl⟩, hs, _, ⟨hva, rfl⟩, _, ⟨⟨hnd, hall⟩, hacc, rfl⟩, rfl⟩
      exact ⟨⟨⟨fun e he => (hall e he).1, hnd⟩, hs, fun e he => (hall e he).2⟩,
        ⟨⟨hka, hva⟩, hacc⟩, rfl⟩
    · rintro ⟨⟨⟨hne, hnd⟩, hs, hall⟩, ⟨⟨hka, hva⟩, hacc⟩, rfl⟩
      exact ⟨_, ⟨hka, rfl⟩, hs, _, ⟨hva, rfl⟩, _,
        ⟨⟨hnd, fun e he => ⟨hne e he, hall e he⟩⟩, hacc, rfl⟩, rfl⟩

namespace Layout

/-- What encoding yields on every value, at every offset, where `room` levels are left. -/
def EncodesWire (layout : Layout) : Prop :=
  ∀ limit room offset value bs, layout.encodeAt limit room offset value = .ok bs ↔
    (layout.Admits value ∧ layout.nest value ≤ room) ∧ bs = layout.wire value

section Shapes
attribute [local simp] encodeAt encodeFields encodeMembers encodePayload
attribute [local simp] Admits AdmitsFields AdmitsMembers AdmitsPayload
attribute [local simp] nest nestFields nestMembers nestPayload
attribute [local simp] wire wireFields wireMembers wirePayload

theorem encodeFields_eq_ok_iff {fields : List (String × Layout)}
    (h : ∀ field ∈ fields, field.2.EncodesWire) {limit room offset : Nat}
    {values : List (String × Value)} (hlen : fields.length = values.length) {bs : Bytes} :
    encodeFields limit room offset fields values = .ok bs ↔
      (AdmitsFields fields values ∧ nestFields fields values ≤ room) ∧
        bs = wireFields fields values := by
  induction fields generalizing offset values bs with
  | nil =>
    obtain rfl : values = [] := List.length_eq_zero_iff.mp hlen.symm
    simp [eq_comm]
  | cons field fields ih =>
    obtain ⟨name, layout⟩ := field
    obtain ⟨⟨name', value⟩, values, rfl⟩ : ∃ v vs, values = v :: vs :=
      List.exists_cons_of_length_eq_add_one hlen.symm
    have hlayout : layout.EncodesWire := h _ List.mem_cons_self
    have hfields : ∀ f ∈ fields, f.2.EncodesWire := fun f hf => h f (List.mem_cons_of_mem _ hf)
    simp only [encodeFields, bind_eq_ok_iff, ensure_eq_ok_iff, exists_const, hlayout _ _ _ _ _,
      ih hfields (Nat.succ.inj hlen), pure_eq_ok, Except.ok.injEq, AdmitsFields, nestFields,
      wireFields, Nat.max_le]
    constructor
    · rintro ⟨hn, _, ⟨⟨ha, hd⟩, rfl⟩, _, ⟨⟨has, hds⟩, rfl⟩, rfl⟩
      exact ⟨⟨⟨hn, ha, has⟩, hd, hds⟩, rfl⟩
    · rintro ⟨⟨⟨hn, ha, has⟩, hd, hds⟩, rfl⟩
      exact ⟨hn, _, ⟨⟨ha, hd⟩, rfl⟩, _, ⟨⟨has, hds⟩, rfl⟩, rfl⟩

theorem encodeMembers_eq_ok_iff {members : List Layout}
    (h : ∀ member ∈ members, member.EncodesWire) {limit room offset : Nat} {values : List Value}
    (hlen : members.length = values.length) {bs : Bytes} :
    encodeMembers limit room offset members values = .ok bs ↔
      (AdmitsMembers members values ∧ nestMembers members values ≤ room) ∧
        bs = wireMembers members values := by
  induction members generalizing offset values bs with
  | nil =>
    obtain rfl : values = [] := List.length_eq_zero_iff.mp hlen.symm
    simp [eq_comm]
  | cons layout members ih =>
    obtain ⟨value, values, rfl⟩ := List.exists_cons_of_length_eq_add_one hlen.symm
    have hlayout : layout.EncodesWire := h _ List.mem_cons_self
    have hmembers : ∀ m ∈ members, m.EncodesWire := fun m hm => h m (List.mem_cons_of_mem _ hm)
    simp only [encodeMembers, bind_eq_ok_iff, hlayout _ _ _ _ _, ih hmembers (Nat.succ.inj hlen),
      pure_eq_ok, Except.ok.injEq, AdmitsMembers, nestMembers, wireMembers, Nat.max_le]
    constructor
    · rintro ⟨_, ⟨⟨ha, hd⟩, rfl⟩, _, ⟨⟨has, hds⟩, rfl⟩, rfl⟩
      exact ⟨⟨⟨ha, has⟩, hd, hds⟩, rfl⟩
    · rintro ⟨⟨⟨ha, has⟩, hd, hds⟩, rfl⟩
      exact ⟨_, ⟨⟨ha, hd⟩, rfl⟩, _, ⟨⟨has, hds⟩, rfl⟩, rfl⟩

theorem encodePayload_eq_ok_iff {variants : List (String × Layout)}
    (h : ∀ variant ∈ variants, variant.2.EncodesWire) {limit room offset position : Nat}
    {outOfRange : CodecError} {value : Value} {bs : Bytes} :
    encodePayload limit room offset outOfRange value variants position = .ok bs ↔
      (AdmitsPayload variants position value ∧ 1 + nestPayload variants position value ≤ room) ∧
        bs = wirePayload variants position value := by
  induction variants generalizing position with
  | nil => simp
  | cons variant variants ih =>
    obtain ⟨name, payload⟩ := variant
    cases position with
    | zero =>
      have hpayload : payload.EncodesWire := h _ List.mem_cons_self
      cases room with
      | zero => simp [bind_eq_ok_iff, descend]
      | succ room =>
        simp only [encodePayload, descend, bind_eq_ok_iff, Except.ok.injEq, exists_eq_left',
          hpayload _ _ _ _ _, AdmitsPayload, nestPayload, wirePayload, Nat.add_comm 1,
          Nat.add_le_add_iff_right]
    | succ position =>
      simpa only [encodePayload, AdmitsPayload, nestPayload, wirePayload] using
        ih fun v hv => h v (List.mem_cons_of_mem _ hv)

theorem encodeAt_no_room {layout : Layout} (h : ¬layout.isPrimitive) (limit offset : Nat)
    (value : Value) :
    layout.encodeAt limit 0 offset value = .error (.depthLimitExceeded limit) := by
  cases layout with
  | primitive name kind => exact absurd rfl h
  | _ => rfl

theorem nest_pos {layout : Layout} (h : ¬layout.isPrimitive) (value : Value) :
    0 < layout.nest value := by
  cases layout with
  | primitive name kind => exact absurd rfl h
  | _ => cases value <;> simp only [nest] <;> omega

/-- A composite takes a level before its value is looked at. -/
theorem encodesWire_of_room {layout : Layout} (hc : ¬layout.isPrimitive)
    (h : ∀ limit room offset value bs, layout.encodeAt limit (room + 1) offset value = .ok bs ↔
      (layout.Admits value ∧ layout.nest value ≤ room + 1) ∧ bs = layout.wire value) :
    layout.EncodesWire := by
  intro limit room offset value bs
  cases room with
  | zero =>
    have hpos := nest_pos hc value
    rw [encodeAt_no_room hc]
    constructor
    · intro hok
      cases hok
    · rintro ⟨⟨_, hn⟩, _⟩
      omega
  | succ room => exact h limit room offset value bs

theorem encodesWire_primitive (name : String) (kind : Primitive) :
    (primitive name kind).EncodesWire := by
  intro limit room offset value bs
  simp [encodePrimitive_eq_ok_iff]

theorem encodesWire_array (name : String) {element : Layout} (length : UInt64)
    (helement : element.EncodesWire) : (array name element length).EncodesWire := by
  refine encodesWire_of_room (by simp [isPrimitive]) fun limit room offset value bs => ?_
  cases value with
  | array elements =>
    simp only [encodeAt, descend_succ, ok_bind, bind_eq_ok_iff, ensure_eq_ok_iff, exists_const,
      encodeMany_eq_ok_iff (fun offset => helement limit room offset), Admits, nest, wire,
      Nat.add_comm 1, Nat.add_le_add_iff_right, deepest_le_iff, forall_and, and_assoc]
  | _ => simp [descend_succ, ok_bind]

theorem encodesWire_sequence (name : String) {element : Layout} (bound : Option UInt64)
    (helement : element.EncodesWire) : (sequence name element bound).EncodesWire := by
  refine encodesWire_of_room (by simp [isPrimitive]) fun limit room offset value bs => ?_
  cases value with
  | sequence elements =>
    simp only [encodeAt, descend_succ, ok_bind, bind_eq_ok_iff, ensure_eq_ok_iff, exists_const,
      encodeLength_eq_ok_iff, encodeMany_eq_ok_iff (fun offset => helement limit room offset),
      Admits, nest, wire, Nat.add_comm 1, Nat.add_le_add_iff_right, deepest_le_iff, forall_and,
      List.isEmpty_iff, pure_eq_ok, Except.ok.injEq]
    constructor
    · rintro ⟨hz, _, ⟨hw, rfl⟩, _, ⟨⟨ha, hd⟩, rfl⟩, rfl⟩
      exact ⟨⟨⟨hw, hz, ha⟩, hd⟩, rfl⟩
    · rintro ⟨⟨⟨hw, hz, ha⟩, hd⟩, rfl⟩
      exact ⟨hz, _, ⟨hw, rfl⟩, _, ⟨⟨ha, hd⟩, rfl⟩, rfl⟩
  | _ => simp [descend_succ, ok_bind]

theorem encodesWire_map (name : String) {key content : Layout} (bound : Option UInt64)
    (hkey : key.EncodesWire) (hcontent : content.EncodesWire) :
    (map name key content bound).EncodesWire := by
  refine encodesWire_of_room (by simp [isPrimitive]) fun limit room offset value bs => ?_
  cases value with
  | map entries =>
    simp only [encodeAt, descend_succ, ok_bind, bind_eq_ok_iff, encodeLength_eq_ok_iff,
      encodeEntries_eq_ok_iff (fun offset => hkey limit room offset)
        (fun offset => hcontent limit room offset), Admits, nest, wire, Nat.add_comm 1,
      Nat.add_le_add_iff_right, deepest_le_iff, Nat.max_le, List.not_mem_nil, not_false_eq_true,
      implies_true, and_true, pure_eq_ok, Except.ok.injEq]
    constructor
    · rintro ⟨_, ⟨hw, rfl⟩, _, ⟨hnd, ha, rfl⟩, rfl⟩
      exact ⟨⟨⟨hw, hnd, fun e he => ⟨(ha e he).1.1, (ha e he).2.1⟩⟩,
        fun e he => ⟨(ha e he).1.2, (ha e he).2.2⟩⟩, rfl⟩
    · rintro ⟨⟨⟨hw, hnd, ha⟩, hd⟩, rfl⟩
      exact ⟨_, ⟨hw, rfl⟩, _, ⟨hnd, fun e he =>
        ⟨⟨(ha e he).1, (hd e he).1⟩, (ha e he).2, (hd e he).2⟩, rfl⟩, rfl⟩
  | _ => simp [descend_succ, ok_bind]

theorem encodesWire_option (name : String) {inner : Layout} (hinner : inner.EncodesWire) :
    (option name inner).EncodesWire := by
  refine encodesWire_of_room (by simp [isPrimitive]) fun limit room offset value bs => ?_
  cases value with
  | absent => simp [descend_succ, ok_bind, pure_eq_ok, eq_comm]
  | present value =>
    simp only [encodeAt, descend_succ, ok_bind, bind_eq_ok_iff, hinner limit room _ _ _, pure_eq_ok,
      Except.ok.injEq, Admits, nest, wire, Nat.add_comm 1, Nat.add_le_add_iff_right]
    constructor
    · rintro ⟨_, ⟨h, rfl⟩, rfl⟩
      exact ⟨h, rfl⟩
    · rintro ⟨h, rfl⟩
      exact ⟨_, ⟨h, rfl⟩, rfl⟩
  | _ => simp [descend_succ, ok_bind]

theorem encodesWire_struct (name : String) {fields : List (String × Layout)}
    (hfields : ∀ field ∈ fields, field.2.EncodesWire) : (struct name fields).EncodesWire := by
  refine encodesWire_of_room (by simp [isPrimitive]) fun limit room offset value bs => ?_
  cases value with
  | struct values =>
    simp only [encodeAt, descend_succ, ok_bind, bind_eq_ok_iff, ensure_eq_ok_iff, exists_const,
      Admits, nest, wire, Nat.add_comm 1, Nat.add_le_add_iff_right]
    constructor
    · rintro ⟨hlen, h⟩
      exact (encodeFields_eq_ok_iff hfields hlen).mp h
    · rintro ⟨⟨ha, hd⟩, rfl⟩
      have hlen := ha.length_eq
      exact ⟨hlen, (encodeFields_eq_ok_iff hfields hlen).mpr ⟨⟨ha, hd⟩, rfl⟩⟩
  | tuple values =>
    cases values with
    | nil =>
      cases fields <;>
        simp [descend_succ, ok_bind, pure_eq_ok, eq_comm]
    | cons value values => simp [descend_succ, ok_bind]
  | _ => simp [descend_succ, ok_bind]

theorem encodesWire_tuple (name : String) {members : List Layout}
    (hmembers : ∀ member ∈ members, member.EncodesWire) : (tuple name members).EncodesWire := by
  refine encodesWire_of_room (by simp [isPrimitive]) fun limit room offset value bs => ?_
  cases value with
  | tuple values =>
    simp only [encodeAt, descend_succ, ok_bind, bind_eq_ok_iff, ensure_eq_ok_iff, exists_const,
      Admits, nest, wire, Nat.add_comm 1, Nat.add_le_add_iff_right]
    constructor
    · rintro ⟨hlen, h⟩
      exact (encodeMembers_eq_ok_iff hmembers hlen).mp h
    · rintro ⟨⟨ha, hd⟩, rfl⟩
      have hlen := ha.length_eq
      exact ⟨hlen, (encodeMembers_eq_ok_iff hmembers hlen).mpr ⟨⟨ha, hd⟩, rfl⟩⟩
  | struct values =>
    cases values with
    | nil =>
      cases members <;>
        simp [descend_succ, ok_bind, pure_eq_ok, eq_comm]
    | cons value values => simp [descend_succ, ok_bind]
  | _ => simp [descend_succ, ok_bind]

theorem encodesWire_enum (name : String) {variants : List (String × Layout)} (tag : TagWidth)
    (hvariants : ∀ variant ∈ variants, variant.2.EncodesWire) :
    (enum name variants tag).EncodesWire := by
  refine encodesWire_of_room (by simp [isPrimitive]) fun limit room offset value bs => ?_
  cases value with
  | enum index payload =>
    simp only [encodeAt, encodeTagged, descend_succ, ok_bind, bind_eq_ok_iff, ensure_eq_ok_iff,
      exists_const, encodePayload_eq_ok_iff hvariants, pure_eq_ok, Except.ok.injEq, Admits,
      nest, wire]
    have hroom : 2 + nestPayload variants index.toNat payload ≤ room + 1 ↔
        1 + nestPayload variants index.toNat payload ≤ room := by omega
    rw [hroom]
    constructor
    · rintro ⟨ht, _, ⟨⟨ha, hd⟩, rfl⟩, rfl⟩
      exact ⟨⟨⟨ht, ha⟩, hd⟩, rfl⟩
    · rintro ⟨⟨⟨ht, ha⟩, hd⟩, rfl⟩
      exact ⟨ht, _, ⟨⟨ha, hd⟩, rfl⟩, rfl⟩
  | _ => simp [descend_succ, ok_bind]

end Shapes

theorem encodeAt_eq_ok_iff (layout : Layout) : layout.EncodesWire := by
  induction layout with
  | primitive name kind => exact encodesWire_primitive name kind
  | array name element length ih => exact encodesWire_array name length ih
  | sequence name element bound ih => exact encodesWire_sequence name bound ih
  | map name key content bound ihk ihc => exact encodesWire_map name bound ihk ihc
  | option name inner ih => exact encodesWire_option name ih
  | struct name fields ih => exact encodesWire_struct name ih
  | tuple name members ih => exact encodesWire_tuple name ih
  | enum name variants tag ih => exact encodesWire_enum name tag ih

end Layout
end WireSchema
