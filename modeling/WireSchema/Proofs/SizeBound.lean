import Mathlib.Algebra.Order.BigOperators.Group.List
import Mathlib.Algebra.Order.Group.Nat
import WireSchema.Proofs.RoundTrip
import WireSchema.Proofs.Size

/-!
The size bound of a layout against its encodings. Main statement: no encoding, written or read, is
longer than the size bound of its layout says.
-/

namespace WireSchema

theorem length_flatMap_le {α : Type} {wire : α → Bytes} {parts : List α} {max : Nat}
    (h : ∀ part ∈ parts, (wire part).length ≤ max) :
    (parts.flatMap wire).length ≤ max * parts.length := by
  rw [List.length_flatMap, Nat.mul_comm]
  have hsum := List.sum_le_card_nsmul (parts.map fun part => (wire part).length) max
    (List.forall_mem_map.mpr h)
  simpa using hsum

theorem Primitive.length_wire_le {kind : Primitive} {value : Value} {max : Nat}
    (hmax : kind.maxEncodedLen? = some max) (ha : kind.Admits value) :
    (kind.wire value).length ≤ max := by
  cases kind with
  | string bound =>
    simp only [maxEncodedLen?, Option.bind_eq_bind, Option.bind_eq_some_iff,
      checkedAdd?_eq_some_iff] at hmax
    obtain ⟨bound, rfl, -, rfl⟩ := hmax
    cases value with
    | string s =>
      have hle : (Bytes.ofText s).length ≤ bound.toNat := ha.1 bound rfl
      simp only [wire, List.length_append, length_lengthBytes]
      omega
    | _ => exact ha.elim
  | bool =>
    obtain rfl := Option.some.inj hmax
    cases value with
    | bool b => exact Nat.le_refl 1
    | _ => exact ha.elim
  | int kind =>
    obtain rfl := Option.some.inj hmax
    cases value with
    | int kind' word =>
      obtain rfl : kind = kind' := ha
      exact Nat.le_of_eq (kind.length_toBytes word)
    | _ => exact ha.elim
  | fixedBytes width =>
    obtain rfl := Option.some.inj hmax
    cases value with
    | bytes bs => exact Nat.le_of_eq ha
    | _ => exact ha.elim
  | publicKey =>
    obtain rfl := Option.some.inj hmax
    cases value with
    | bytes bs => exact Nat.le_of_eq ha
    | _ => exact ha.elim

namespace Layout

/-- No value of the layout takes more bytes than its size bound says. -/
def KeepsSizeBound (layout : Layout) : Prop :=
  ∀ max, layout.maxEncodedLen? = some max → ∀ value, layout.Admits value →
    (layout.wire value).length ≤ max

theorem length_wireMembers_le {members : List Layout}
    (h : ∀ member ∈ members, member.KeepsSizeBound) {total max : Nat}
    (hmax : sumMaxMembers? total members = some max) {values : List Value}
    (ha : AdmitsMembers members values) : total + (wireMembers members values).length ≤ max := by
  induction members generalizing values total with
  | nil =>
    obtain rfl := Option.some.inj hmax
    simp [wireMembers]
  | cons member members ih =>
    cases values with
    | nil => exact ha.elim
    | cons value values =>
      simp only [sumMaxMembers?, Option.bind_eq_bind, Option.bind_eq_some_iff,
        checkedAdd?_eq_some_iff] at hmax
      obtain ⟨len, hlen, _, ⟨-, rfl⟩, hrest⟩ := hmax
      have hfirst := h member List.mem_cons_self len hlen value ha.1
      have hothers := ih (fun m hm => h m (List.mem_cons_of_mem _ hm)) hrest ha.2
      rw [wireMembers, List.length_append]
      omega

theorem length_wireFields_le {fields : List (String × Layout)}
    (h : ∀ field ∈ fields, field.2.KeepsSizeBound) {max : Nat}
    (hmax : sumMaxFields? 0 fields = some max) {values : List (String × Value)}
    (ha : AdmitsFields fields values) : (wireFields fields values).length ≤ max := by
  rw [sumMaxFields?_eq] at hmax
  rw [wireFields_eq]
  have hle := length_wireMembers_le (List.forall_mem_map.mpr h) hmax ha.members
  rwa [Nat.zero_add] at hle

theorem le_widestVariant? {variants : List (String × Layout)} {widest max : Nat}
    (hmax : widestVariant? widest variants = some max) : widest ≤ max := by
  induction variants generalizing widest with
  | nil => exact Nat.le_of_eq (Option.some.inj hmax)
  | cons variant variants ih =>
    simp only [widestVariant?, Option.bind_eq_bind, Option.bind_eq_some_iff] at hmax
    obtain ⟨len, -, hrest⟩ := hmax
    exact Nat.le_trans (Nat.le_max_left widest len) (ih hrest)

theorem length_wirePayload_le {variants : List (String × Layout)}
    (h : ∀ variant ∈ variants, variant.2.KeepsSizeBound) {widest max : Nat}
    (hmax : widestVariant? widest variants = some max) {position : Nat} {value : Value}
    (ha : AdmitsPayload variants position value) :
    (wirePayload variants position value).length ≤ max := by
  induction variants generalizing widest position with
  | nil => exact ha.elim
  | cons variant variants ih =>
    simp only [widestVariant?, Option.bind_eq_bind, Option.bind_eq_some_iff] at hmax
    obtain ⟨len, hlen, hrest⟩ := hmax
    cases position with
    | zero =>
      have hfirst := h variant List.mem_cons_self len hlen value ha
      have hwidest := le_widestVariant? hrest
      exact Nat.le_trans hfirst (Nat.le_trans (Nat.le_max_right widest len) hwidest)
    | succ position => exact ih (fun v hv => h v (List.mem_cons_of_mem _ hv)) hrest ha

section Shapes
variable {name : String} {bound : Option UInt64} {element key content inner : Layout}
  {fields variants : List (String × Layout)} {members : List Layout}

theorem KeepsSizeBound.array (h : element.KeepsSizeBound) (length : UInt64) :
    (array name element length).KeepsSizeBound := by
  intro max hmax value ha
  simp only [maxEncodedLen?, Option.bind_eq_bind, Option.bind_eq_some_iff,
    checkedMul?_eq_some_iff] at hmax
  obtain ⟨len, hlen, -, rfl⟩ := hmax
  cases value with
  | array elements =>
    obtain ⟨hcount, hall⟩ := ha
    rw [wire, ← hcount]
    exact length_flatMap_le fun v hv => h len hlen v (hall v hv)
  | _ => exact ha.elim

theorem KeepsSizeBound.sequence (h : element.KeepsSizeBound) :
    (sequence name element bound).KeepsSizeBound := by
  intro max hmax value ha
  simp only [maxEncodedLen?, Option.bind_eq_bind, Option.bind_eq_some_iff,
    checkedAdd?_eq_some_iff, checkedMul?_eq_some_iff] at hmax
  obtain ⟨most, rfl, len, hlen, _, ⟨-, rfl⟩, -, rfl⟩ := hmax
  cases value with
  | sequence elements =>
    obtain ⟨⟨hwithin, -⟩, -, hall⟩ := ha
    have hcount : len * elements.length ≤ len * most.toNat :=
      Nat.mul_le_mul_left len (hwithin most rfl)
    have helements := length_flatMap_le fun v hv => h len hlen v (hall v hv)
    rw [wire, List.length_append, length_lengthBytes]
    omega
  | _ => exact ha.elim

theorem KeepsSizeBound.map (hkey : key.KeepsSizeBound) (hcontent : content.KeepsSizeBound) :
    (map name key content bound).KeepsSizeBound := by
  intro max hmax value ha
  simp only [maxEncodedLen?, Option.bind_eq_bind, Option.bind_eq_some_iff,
    checkedAdd?_eq_some_iff, checkedMul?_eq_some_iff] at hmax
  obtain ⟨most, rfl, klen, hklen, clen, hclen, _, ⟨-, rfl⟩, _, ⟨-, rfl⟩, -, rfl⟩ := hmax
  cases value with
  | map entries =>
    obtain ⟨⟨hwithin, -⟩, -, hall⟩ := ha
    have hcount : (klen + clen) * entries.length ≤ (klen + clen) * most.toNat :=
      Nat.mul_le_mul_left _ (hwithin most rfl)
    have hentry : ∀ entry ∈ entries,
        (key.wire entry.1 ++ content.wire entry.2).length ≤ klen + clen := by
      intro entry hentry
      rw [List.length_append]
      exact Nat.add_le_add (hkey klen hklen _ (hall entry hentry).1)
        (hcontent clen hclen _ (hall entry hentry).2)
    have hentries := length_flatMap_le hentry
    rw [wire, List.length_append, length_lengthBytes]
    omega
  | _ => exact ha.elim

theorem KeepsSizeBound.option (h : inner.KeepsSizeBound) :
    (option name inner).KeepsSizeBound := by
  intro max hmax value ha
  simp only [maxEncodedLen?, Option.bind_eq_bind, Option.bind_eq_some_iff,
    checkedAdd?_eq_some_iff] at hmax
  obtain ⟨len, hlen, -, rfl⟩ := hmax
  cases value with
  | absent => exact Nat.le_add_left 1 len
  | present value => exact Nat.succ_le_succ (h len hlen value ha)
  | _ => exact ha.elim

theorem KeepsSizeBound.struct (h : ∀ field ∈ fields, field.2.KeepsSizeBound) :
    (struct name fields).KeepsSizeBound := by
  intro max hmax value ha
  cases value with
  | struct values => exact length_wireFields_le h hmax ha
  | tuple values => exact Nat.zero_le max
  | _ => exact ha.elim

theorem KeepsSizeBound.tuple (h : ∀ member ∈ members, member.KeepsSizeBound) :
    (tuple name members).KeepsSizeBound := by
  intro max hmax value ha
  cases value with
  | tuple values =>
    have hle := length_wireMembers_le h hmax ha
    rwa [Nat.zero_add] at hle
  | struct values => exact Nat.zero_le max
  | _ => exact ha.elim

theorem KeepsSizeBound.enum (h : ∀ variant ∈ variants, variant.2.KeepsSizeBound)
    (tag : TagWidth) : (enum name variants tag).KeepsSizeBound := by
  intro max hmax value ha
  simp only [maxEncodedLen?, Option.bind_eq_bind, Option.bind_eq_some_iff,
    checkedAdd?_eq_some_iff] at hmax
  obtain ⟨widest, hwidest, -, rfl⟩ := hmax
  cases value with
  | enum index payload =>
    have hle := length_wirePayload_le h hwidest ha.2
    rw [wire, List.length_append, Bytes.length_ofNatLE]
    omega
  | _ => exact ha.elim

end Shapes

theorem keepsSizeBound (layout : Layout) : layout.KeepsSizeBound := by
  induction layout with
  | primitive name kind => exact fun max hmax value ha => Primitive.length_wire_le hmax ha
  | array name element length ih => exact ih.array length
  | sequence name element bound ih => exact ih.sequence
  | map name key content bound ihk ihc => exact ihk.map ihc
  | option name inner ih => exact ih.option
  | struct name fields ih => exact .struct ih
  | tuple name members ih => exact .tuple ih
  | enum name variants tag ih => exact .enum ih tag

/-- The bound holds for every encoding, whatever the limits, and for whatever bytes are decoded. -/
theorem length_le_maxEncodedLen {layout : Layout} {max : Nat}
    (h : layout.maxEncodedLen? = some max) :
    (∀ limits value bs, layout.encode limits value = .ok bs → bs.length ≤ max) ∧
      ∀ limits input value consumed, layout.decode limits input = .ok (value, consumed) →
        consumed ≤ max := by
  have hencode : ∀ limits value bs, layout.encode limits value = .ok bs → bs.length ≤ max := by
    intro limits value bs hok
    obtain ⟨⟨hadmits, -⟩, rfl⟩ := (encodeAt_eq_ok_iff layout _ _ _ _ _).mp hok
    exact layout.keepsSizeBound max h value hadmits
  refine ⟨hencode, ?_⟩
  intro limits input value consumed hok
  obtain ⟨hconsumed, hagain⟩ := encode_of_decode hok
  have hle := hencode limits value _ hagain
  rwa [List.length_take, Nat.min_eq_left hconsumed] at hle

/-- A shape with a bounded map and variants of different sizes, filled to its bound of 17 bytes. -/
theorem length_le_maxEncodedLen_shape :
    let layout := Layout.enum "Shape" [("Empty", .struct "ShapeEmpty" []),
      ("Named", .tuple "ShapeNamed" [.map "" (.primitive "" (.int .u8))
        (.primitive "" (.string (some 1))) (some 2)])] .one
    let entry := fun word => (Value.int .u8 word, Value.string "a")
    layout.maxEncodedLen? = some 17 ∧
      (layout.encode {} (.enum 1 (.tuple [.map [entry 1, entry 2]]))).map List.length = .ok 17 ∧
      ∀ limits value bs, layout.encode limits value = .ok bs → bs.length ≤ 17 := by
  intro layout entry
  have hmax : layout.maxEncodedLen? = some 17 := by decide
  exact ⟨hmax, by rfl, (length_le_maxEncodedLen hmax).1⟩

end Layout
end WireSchema
