import WireSchema.Proofs.Wire

/-!
Layouts whose values take no bytes. Main statements: the values of a layout take no bytes either all
or none of them, and where they take none the size bound of the layout, if it has one, is zero.
-/

namespace WireSchema

theorem checkedAdd?_eq_some_iff {a b n : Nat} :
    checkedAdd? a b = some n ↔ a + b < UInt64.size ∧ n = a + b := by
  simp [checkedAdd?, eq_comm]

theorem checkedMul?_eq_some_iff {a b n : Nat} :
    checkedMul? a b = some n ↔ a * b < UInt64.size ∧ n = a * b := by
  simp [checkedMul?, eq_comm]

theorem lengthBytes_append_ne_nil (length : Nat) (bs : Bytes) : lengthBytes length ++ bs ≠ [] := by
  intro h
  have hlen := congrArg List.length h
  simp [lengthWidth] at hlen

theorem IntKind.toBytes_ne_nil (kind : IntKind) (word : kind.Word) : kind.toBytes word ≠ [] := by
  intro h
  have hlen := kind.length_toBytes word
  rw [h] at hlen
  cases kind <;> simp [IntKind.size] at hlen

theorem TagWidth.ofNatLE_append_ne_nil (tag : TagWidth) (n : Nat) (bs : Bytes) :
    Bytes.ofNatLE tag.size n ++ bs ≠ [] := by
  intro h
  have hlen := congrArg List.length h
  cases tag <;> simp [size] at hlen

/-- Parts that take a byte each at least. -/
theorem length_le_length_flatMap {α : Type} {wire : α → Bytes} {parts : List α}
    (h : ∀ part ∈ parts, wire part ≠ []) : parts.length ≤ (parts.flatMap wire).length := by
  induction parts with
  | nil => exact Nat.le_refl 0
  | cons part parts ih =>
    obtain ⟨hpart, hparts⟩ := List.forall_mem_cons.mp h
    have hpos := List.length_pos_iff.mpr hpart
    have hle := ih hparts
    simp only [List.flatMap_cons, List.length_append, List.length_cons]
    omega

theorem Primitive.eq_fixedBytes_zero {kind : Primitive} {value : Value} (hv : kind.Admits value)
    (h : kind.wire value = []) : kind = .fixedBytes 0 := by
  cases kind with
  | bool => cases value <;> first | exact hv.elim | simp [wire] at h
  | int kind =>
    cases value with
    | int kind' word => exact absurd h (kind'.toBytes_ne_nil word)
    | _ => exact hv.elim
  | string bound =>
    cases value with
    | string s => exact absurd h (lengthBytes_append_ne_nil _ _)
    | _ => exact hv.elim
  | fixedBytes width =>
    cases value with
    | bytes bs =>
      simp only [wire, Admits] at h hv
      rw [h] at hv
      have hzero : width = 0 := UInt64.toNat_inj.mp hv.symm
      rw [hzero]
    | _ => exact hv.elim
  | publicKey =>
    cases value with
    | bytes bs =>
      simp only [wire, Admits] at h hv
      rw [h] at hv
      cases hv
    | _ => exact hv.elim

namespace Layout

/-- Made of nothing but fixed bytes of width zero, arrays of length zero, structs and tuples. -/
inductive Weightless : Layout → Prop
  | fixedBytes : Weightless (.primitive typeName (.fixedBytes 0))
  | emptyArray : Weightless (.array typeName element 0)
  | array : Weightless element → Weightless (.array typeName element length)
  | struct : (∀ field ∈ fields, Weightless field.2) → Weightless (.struct typeName fields)
  | tuple : (∀ member ∈ members, Weightless member) → Weightless (.tuple typeName members)

theorem weightless_members {members : List Layout} {values : List Value}
    (h : ∀ member ∈ members, ∀ value, member.Admits value → member.wire value = [] →
      member.Weightless)
    (ha : AdmitsMembers members values) (hw : wireMembers members values = []) :
    ∀ member ∈ members, member.Weightless := by
  induction members generalizing values with
  | nil => exact List.forall_mem_nil _
  | cons member members ih =>
    cases values with
    | nil => exact ha.elim
    | cons value values =>
      obtain ⟨ha, has⟩ := ha
      obtain ⟨hw, hws⟩ := List.append_eq_nil_iff.mp hw
      exact List.forall_mem_cons.mpr ⟨h _ List.mem_cons_self _ ha hw,
        ih (fun m hm => h m (List.mem_cons_of_mem _ hm)) has hws⟩

/-- One value that takes no bytes is enough. -/
theorem weightless_of_wire_eq_nil {layout : Layout} {value : Value} (ha : layout.Admits value)
    (hw : layout.wire value = []) : layout.Weightless := by
  induction layout generalizing value with
  | primitive name kind =>
    simp only [Admits, wire] at ha hw
    rw [kind.eq_fixedBytes_zero ha hw]
    exact .fixedBytes
  | array name element length ih =>
    cases value with
    | array elements =>
      obtain ⟨hlen, ha⟩ := ha
      cases elements with
      | nil =>
        have hzero : length = 0 := UInt64.toNat_inj.mp hlen.symm
        rw [hzero]
        exact .emptyArray
      | cons first elements =>
        obtain ⟨hfirst, -⟩ := List.append_eq_nil_iff.mp hw
        exact .array (ih (ha first List.mem_cons_self) hfirst)
    | _ => exact ha.elim
  | sequence name element bound ih =>
    cases value with
    | sequence elements => exact absurd hw (lengthBytes_append_ne_nil _ _)
    | _ => exact ha.elim
  | map name key content bound ihk ihc =>
    cases value with
    | map entries => exact absurd hw (lengthBytes_append_ne_nil _ _)
    | _ => exact ha.elim
  | option name inner ih =>
    cases value with
    | absent => cases hw
    | present value => cases hw
    | _ => exact ha.elim
  | struct name fields ih =>
    cases value with
    | struct values =>
      rw [wire, wireFields_eq] at hw
      have hmembers : ∀ member ∈ fields.map (·.2), member.Weightless :=
        weightless_members (List.forall_mem_map.mpr fun f hf value => ih f hf) ha.members hw
      exact .struct (List.forall_mem_map.mp hmembers)
    | tuple values =>
      obtain ⟨rfl, -⟩ := ha
      exact .struct (List.forall_mem_nil _)
    | _ => exact ha.elim
  | tuple name members ih =>
    cases value with
    | tuple values => exact .tuple (weightless_members (fun m hm value => ih m hm) ha hw)
    | struct values =>
      obtain ⟨rfl, -⟩ := ha
      exact .tuple (List.forall_mem_nil _)
    | _ => exact ha.elim
  | enum name variants tag ih =>
    cases value with
    | enum index payload => exact absurd hw (tag.ofNatLE_append_ne_nil _ _)
    | _ => exact ha.elim

theorem wireMembers_eq_nil {members : List Layout}
    (h : ∀ member ∈ members, ∀ value, member.Admits value → member.wire value = [])
    {values : List Value} (ha : AdmitsMembers members values) :
    wireMembers members values = [] := by
  induction members generalizing values with
  | nil => cases values <;> rfl
  | cons member members ih =>
    cases values with
    | nil => exact ha.elim
    | cons value values =>
      obtain ⟨ha, has⟩ := ha
      rw [wireMembers, h _ List.mem_cons_self _ ha,
        ih (fun m hm => h m (List.mem_cons_of_mem _ hm)) has]
      rfl

theorem Weightless.wire_eq_nil {layout : Layout} (h : layout.Weightless) {value : Value}
    (ha : layout.Admits value) : layout.wire value = [] := by
  induction h generalizing value with
  | fixedBytes =>
    cases value with
    | bytes bs => exact List.length_eq_zero_iff.mp ha
    | _ => exact ha.elim
  | emptyArray =>
    cases value with
    | array elements =>
      obtain rfl := List.length_eq_zero_iff.mp ha.1
      rfl
    | _ => exact ha.elim
  | array _ ih =>
    cases value with
    | array elements => exact List.flatMap_eq_nil_iff.mpr fun v hv => ih (ha.2 v hv)
    | _ => exact ha.elim
  | struct _ ih =>
    cases value with
    | struct values =>
      rw [wire, wireFields_eq]
      exact wireMembers_eq_nil (List.forall_mem_map.mpr fun f hf value => ih f hf) ha.members
    | tuple values => rfl
    | _ => exact ha.elim
  | tuple _ ih =>
    cases value with
    | tuple values => exact wireMembers_eq_nil (fun m hm value => ih m hm) ha
    | struct values => rfl
    | _ => exact ha.elim

theorem sumMaxMembers?_eq {members : List Layout}
    (h : ∀ member ∈ members, ∀ max, member.maxEncodedLen? = some max → max = 0) {total max : Nat}
    (hmax : sumMaxMembers? total members = some max) : max = total := by
  induction members generalizing total with
  | nil => exact (Option.some.inj hmax).symm
  | cons member members ih =>
    simp only [sumMaxMembers?, Option.bind_eq_bind, Option.bind_eq_some_iff,
      checkedAdd?_eq_some_iff] at hmax
    obtain ⟨len, hlen, _, ⟨-, rfl⟩, hmax⟩ := hmax
    rw [h _ List.mem_cons_self _ hlen, Nat.add_zero] at hmax
    exact ih (fun m hm => h m (List.mem_cons_of_mem _ hm)) hmax

theorem Weightless.maxEncodedLen?_eq_zero {layout : Layout} (h : layout.Weightless) {max : Nat}
    (hmax : layout.maxEncodedLen? = some max) : max = 0 := by
  induction h generalizing max with
  | fixedBytes => exact (Option.some.inj hmax).symm
  | emptyArray =>
    simp only [maxEncodedLen?, Option.bind_eq_bind, Option.bind_eq_some_iff,
      checkedMul?_eq_some_iff] at hmax
    obtain ⟨_, -, -, rfl⟩ := hmax
    exact Nat.mul_zero _
  | array _ ih =>
    simp only [maxEncodedLen?, Option.bind_eq_bind, Option.bind_eq_some_iff,
      checkedMul?_eq_some_iff] at hmax
    obtain ⟨len, hlen, -, rfl⟩ := hmax
    rw [ih hlen, Nat.zero_mul]
  | struct _ ih =>
    rw [maxEncodedLen?, sumMaxFields?_eq] at hmax
    exact sumMaxMembers?_eq (List.forall_mem_map.mpr fun f hf max => ih f hf) hmax
  | tuple _ ih => exact sumMaxMembers?_eq (fun m hm max => ih m hm) hmax

theorem Weightless.isZeroSized_iff {layout : Layout} (h : layout.Weightless) :
    layout.isZeroSized ↔ layout.maxEncodedLen? ≠ none := by
  cases hmax : layout.maxEncodedLen? with
  | none => simp [isZeroSized, hmax]
  | some max => simp [isZeroSized, hmax, h.maxEncodedLen?_eq_zero hmax]

end Layout
end WireSchema
