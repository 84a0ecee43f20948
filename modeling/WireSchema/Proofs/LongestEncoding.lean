import WireSchema.Proofs.Parts
import WireSchema.Proofs.SizeBound

/-!
The size bound is reached. Main statement: where a layout without maps has a size bound and its
counts can be written, some value is encoded to as many bytes as the bound says, and none to more.
-/

namespace WireSchema

theorem Bytes.length_ofText_replicate (n : Nat) :
    (ofText (String.ofList (List.replicate n 'a'))).length = n := by
  have hsize : (List.replicate n 'a').utf8Encode.size = n := by
    induction n with
    | zero => rfl
    | succ n ih =>
      rw [List.replicate_succ, List.utf8Encode_cons, ByteArray.size_append, ih]
      exact Nat.add_comm 1 n
  simpa [ofText] using hsize

namespace Layout

/-- Counts up to the bound fit in four bytes, and the variants, of which there are some, have each a
tag of their own. Maps are left out, since their keys have to differ. -/
def Fillable : Layout → Prop
  | .primitive _ (.string (some bound)) | .sequence _ _ (some bound) => bound.toNat < UInt32.size
  | .map _ _ _ _ => False
  | .enum _ variants tag => variants ≠ [] ∧ variants.length ≤ tag.maxDiscriminant + 1
  | _ => True

/-- Some value takes as many bytes as the size bound says. -/
def Attains (layout : Layout) : Prop :=
  ∀ max, layout.maxEncodedLen? = some max →
    ∃ value, layout.Admits value ∧ (layout.wire value).length = max

theorem attains_primitive (name : String) {kind : Primitive}
    (h : (primitive name kind).Fillable) : (primitive name kind).Attains := by
  intro max hmax
  cases kind with
  | bool => exact ⟨.bool true, trivial, Option.some.inj hmax⟩
  | int kind => exact ⟨.int kind 0, rfl, (kind.length_toBytes 0).trans (Option.some.inj hmax)⟩
  | string bound =>
    simp only [maxEncodedLen?, Primitive.maxEncodedLen?, Option.bind_eq_bind,
      Option.bind_eq_some_iff, checkedAdd?_eq_some_iff] at hmax
    obtain ⟨bound, rfl, -, rfl⟩ := hmax
    have hlen := Bytes.length_ofText_replicate bound.toNat
    refine ⟨.string (String.ofList (List.replicate bound.toNat 'a')), ⟨?_, ?_⟩, ?_⟩
    · rintro _ ⟨⟩
      exact Nat.le_of_eq hlen
    · rwa [hlen]
    · rw [wire, Primitive.wire, List.length_append, length_lengthBytes, hlen, Nat.add_comm]
  | fixedBytes width =>
    have hlen : (List.replicate width.toNat (0 : UInt8)).length = width.toNat :=
      List.length_replicate
    exact ⟨.bytes (List.replicate width.toNat 0), hlen, hlen.trans (Option.some.inj hmax)⟩
  | publicKey =>
    exact ⟨.bytes (List.replicate Primitive.publicKeyWidth 0), rfl, Option.some.inj hmax⟩

theorem length_flatMap_replicate (element : Layout) (count : Nat) (value : Value) :
    ((List.replicate count value).flatMap element.wire).length =
      (element.wire value).length * count := by
  simp [List.length_flatMap, Nat.mul_comm]

theorem attains_array (name : String) {element : Layout} (length : UInt64)
    (helement : element.Attains) : (array name element length).Attains := by
  intro max hmax
  simp only [maxEncodedLen?, Option.bind_eq_bind, Option.bind_eq_some_iff,
    checkedMul?_eq_some_iff] at hmax
  obtain ⟨len, hlen, -, rfl⟩ := hmax
  obtain ⟨value, hadmits, rfl⟩ := helement len hlen
  refine ⟨.array (List.replicate length.toNat value), ⟨List.length_replicate, ?_⟩, ?_⟩
  · intro v hv
    rwa [List.eq_of_mem_replicate hv]
  · exact length_flatMap_replicate element length.toNat value

theorem attains_sequence (name : String) {element : Layout} {bound : Option UInt64}
    (h : (sequence name element bound).Fillable) (helement : element.Attains) :
    (sequence name element bound).Attains := by
  intro max hmax
  simp only [maxEncodedLen?, Option.bind_eq_bind, Option.bind_eq_some_iff,
    checkedAdd?_eq_some_iff, checkedMul?_eq_some_iff] at hmax
  obtain ⟨bound, rfl, len, hlen, _, ⟨-, rfl⟩, -, rfl⟩ := hmax
  -- Elements without bytes are refused, and none of them are as long as all of them.
  by_cases hzero : element.isZeroSized
  · have hnone : len = 0 := by simpa [isZeroSized, hlen] using hzero
    refine ⟨.sequence [],
      ⟨⟨fun _ _ => Nat.zero_le _, by decide⟩, .inl rfl, List.forall_mem_nil _⟩, ?_⟩
    simp [wire, hnone]
  · obtain ⟨value, hadmits, rfl⟩ := helement len hlen
    refine ⟨.sequence (List.replicate bound.toNat value), ⟨⟨?_, ?_⟩, .inr hzero, ?_⟩, ?_⟩
    · rintro _ ⟨⟩
      exact Nat.le_of_eq List.length_replicate
    · rwa [List.length_replicate]
    · intro v hv
      rwa [List.eq_of_mem_replicate hv]
    · rw [wire, List.length_append, length_lengthBytes, length_flatMap_replicate, Nat.add_comm]

theorem attains_option (name : String) {inner : Layout} (hinner : inner.Attains) :
    (option name inner).Attains := by
  intro max hmax
  simp only [maxEncodedLen?, Option.bind_eq_bind, Option.bind_eq_some_iff,
    checkedAdd?_eq_some_iff] at hmax
  obtain ⟨len, hlen, -, rfl⟩ := hmax
  obtain ⟨value, hadmits, rfl⟩ := hinner len hlen
  exact ⟨.present value, hadmits, rfl⟩

theorem attains_members {members : List Layout} (h : ∀ member ∈ members, member.Attains)
    {total max : Nat} (hmax : sumMaxMembers? total members = some max) :
    ∃ values, AdmitsMembers members values ∧
      total + (wireMembers members values).length = max := by
  induction members generalizing total with
  | nil => exact ⟨[], trivial, Option.some.inj hmax⟩
  | cons member members ih =>
    obtain ⟨hmember, hmembers⟩ := List.forall_mem_cons.mp h
    simp only [sumMaxMembers?, Option.bind_eq_bind, Option.bind_eq_some_iff,
      checkedAdd?_eq_some_iff] at hmax
    obtain ⟨len, hlen, _, ⟨-, rfl⟩, hrest⟩ := hmax
    obtain ⟨value, hvalue, rfl⟩ := hmember len hlen
    obtain ⟨values, hvalues, hsum⟩ := ih hmembers hrest
    exact ⟨value :: values, ⟨hvalue, hvalues⟩, by
      rw [wireMembers, List.length_append, ← Nat.add_assoc, hsum]⟩

theorem exists_admitsFields {fields : List (String × Layout)} {values : List Value}
    (h : AdmitsMembers (fields.map (·.2)) values) :
    ∃ named, AdmitsFields fields named ∧ named.map (·.2) = values := by
  induction fields generalizing values with
  | nil =>
    cases values with
    | nil => exact ⟨[], trivial, rfl⟩
    | cons value values => exact h.elim
  | cons field fields ih =>
    cases values with
    | nil => exact h.elim
    | cons value values =>
      obtain ⟨named, hnamed, rfl⟩ := ih h.2
      exact ⟨(field.1, value) :: named, ⟨rfl, h.1, hnamed⟩, rfl⟩

theorem attains_struct (name : String) {fields : List (String × Layout)}
    (hfields : ∀ field ∈ fields, field.2.Attains) : (struct name fields).Attains := by
  intro max hmax
  rw [maxEncodedLen?, sumMaxFields?_eq] at hmax
  obtain ⟨values, hvalues, hsum⟩ := attains_members (List.forall_mem_map.mpr hfields) hmax
  obtain ⟨named, hnamed, rfl⟩ := exists_admitsFields hvalues
  refine ⟨.struct named, hnamed, ?_⟩
  rw [wire, wireFields_eq, ← hsum, Nat.zero_add]

theorem attains_tuple (name : String) {members : List Layout}
    (hmembers : ∀ member ∈ members, member.Attains) : (tuple name members).Attains := by
  intro max hmax
  obtain ⟨values, hvalues, hsum⟩ := attains_members hmembers hmax
  exact ⟨.tuple values, hvalues, by rw [wire, ← hsum, Nat.zero_add]⟩

/-- The widest variant is among those that were looked at, unless the widest before them is. -/
theorem attains_payload {variants : List (String × Layout)}
    (h : ∀ variant ∈ variants, variant.2.Attains) {widest max : Nat}
    (hmax : widestVariant? widest variants = some max) :
    max = widest ∨ ∃ position value, position < variants.length ∧
      AdmitsPayload variants position value ∧
      (wirePayload variants position value).length = max := by
  induction variants generalizing widest with
  | nil => exact .inl (Option.some.inj hmax).symm
  | cons variant variants ih =>
    obtain ⟨hvariant, hvariants⟩ := List.forall_mem_cons.mp h
    simp only [widestVariant?, Option.bind_eq_bind, Option.bind_eq_some_iff] at hmax
    obtain ⟨len, hlen, hrest⟩ := hmax
    rcases ih hvariants hrest with hself | ⟨position, value, hlt, hadmits, hlength⟩
    · by_cases hle : len ≤ widest
      · exact .inl (hself.trans (Nat.max_eq_left hle))
      · obtain ⟨value, hadmits, hlength⟩ := hvariant len hlen
        refine .inr ⟨0, value, Nat.zero_lt_succ _, hadmits, ?_⟩
        rw [wirePayload, hlength, hself, Nat.max_eq_right (Nat.le_of_not_le hle)]
    · exact .inr ⟨position + 1, value, Nat.succ_lt_succ hlt, hadmits, hlength⟩

/-- No variant is wider than the first one where the widest takes no bytes. -/
theorem attains_widest {variants : List (String × Layout)} (hne : variants ≠ [])
    (h : ∀ variant ∈ variants, variant.2.Attains) {max : Nat}
    (hmax : widestVariant? 0 variants = some max) :
    ∃ position value, position < variants.length ∧ AdmitsPayload variants position value ∧
      (wirePayload variants position value).length = max := by
  rcases attains_payload h hmax with rfl | hwidest
  · obtain ⟨variant, variants, rfl⟩ := List.exists_cons_of_ne_nil hne
    simp only [widestVariant?, Option.bind_eq_bind, Option.bind_eq_some_iff] at hmax
    obtain ⟨len, hlen, hrest⟩ := hmax
    obtain ⟨value, hadmits, hlength⟩ := h variant List.mem_cons_self len hlen
    have hzero : len = 0 :=
      Nat.le_zero.mp (Nat.le_trans (Nat.le_max_right 0 len) (le_widestVariant? hrest))
    exact ⟨0, value, Nat.zero_lt_succ _, hadmits, hlength.trans hzero⟩
  · exact hwidest

theorem attains_enum (name : String) {variants : List (String × Layout)} {tag : TagWidth}
    (h : (enum name variants tag).Fillable)
    (hvariants : ∀ variant ∈ variants, variant.2.Attains) :
    (enum name variants tag).Attains := by
  intro max hmax
  obtain ⟨hne, hcount⟩ := h
  simp only [maxEncodedLen?, Option.bind_eq_bind, Option.bind_eq_some_iff,
    checkedAdd?_eq_some_iff] at hmax
  obtain ⟨widest, hwidest, -, rfl⟩ := hmax
  obtain ⟨position, value, hlt, hadmits, rfl⟩ := attains_widest hne hvariants hwidest
  have hfits : position ≤ tag.maxDiscriminant := by omega
  have hindex := tag.toNat_ofNat (tag.lt_pow_iff.mpr hfits)
  refine ⟨.enum (UInt32.ofNat position) value, ⟨?_, ?_⟩, ?_⟩
  · rwa [hindex]
  · rwa [hindex]
  · rw [wire, List.length_append, Bytes.length_ofNatLE, hindex, Nat.add_comm]

theorem attains {layout : Layout} (h : ∀ part : Layout, part.Occurs layout → part.Fillable) :
    layout.Attains := by
  induction layout with obtain ⟨hself, hinside⟩ := forall_occurs.mp h
  | primitive name kind => exact attains_primitive name hself
  | array name element length ih =>
    exact attains_array name length (ih (hinside element List.mem_cons_self))
  | sequence name element bound ih =>
    exact attains_sequence name hself (ih (hinside element List.mem_cons_self))
  | map name key content bound => exact hself.elim
  | option name inner ih => exact attains_option name (ih (hinside inner List.mem_cons_self))
  | struct name fields ih =>
    refine attains_struct name fun field hfield => ?_
    exact ih field hfield (hinside field.2 (List.mem_map_of_mem hfield))
  | tuple name members ih =>
    exact attains_tuple name fun member hmember => ih member hmember (hinside member hmember)
  | enum name variants tag ih =>
    refine attains_enum name hself fun variant hvariant => ?_
    exact ih variant hvariant (hinside variant.2 (List.mem_map_of_mem hvariant))

/-- The bound is the length of the longest encoding: some value takes that many bytes wherever its
levels are there, and none takes more. -/
theorem maxEncodedLen_attained {layout : Layout}
    (h : ∀ part : Layout, part.Occurs layout → part.Fillable) {max : Nat}
    (hmax : layout.maxEncodedLen? = some max) :
    (∃ value room, ∀ limits : Limits, room ≤ limits.maxDepth →
      ∃ bs, layout.encode limits value = .ok bs ∧ bs.length = max) ∧
    ∀ limits value bs, layout.encode limits value = .ok bs → bs.length ≤ max := by
  constructor
  · obtain ⟨value, hadmits, hlength⟩ := attains h max hmax
    refine ⟨value, layout.nest value, fun limits hroom => ⟨layout.wire value, ?_, hlength⟩⟩
    exact (encodeAt_eq_ok_iff layout _ _ _ _ _).mpr ⟨⟨hadmits, hroom⟩, rfl⟩
  · intro limits value bs hok
    obtain ⟨⟨hadmits, -⟩, rfl⟩ := (encodeAt_eq_ok_iff layout _ _ _ _ _).mp hok
    exact layout.keepsSizeBound max hmax value hadmits

/-- No units at all, as units are not counted, and the wider one of two variants. -/
theorem maxEncodedLen_attained_parcel :
    let parcel := struct "Parcel" [("marks", .sequence "" (.struct "Unit" []) (some 7)),
      ("state", .enum "State" [("Lost", .struct "StateLost" []),
        ("Sent", .tuple "StateSent" [.option "" (.primitive "" (.string (some 2)))])] .one)]
    parcel.maxEncodedLen? = some 12 ∧
    (∀ part : Layout, part.Occurs parcel → part.Fillable) ∧
    (∃ value room, ∀ limits : Limits, room ≤ limits.maxDepth →
      ∃ bs, parcel.encode limits value = .ok bs ∧ bs.length = 12) ∧
    ∀ limits value bs, parcel.encode limits value = .ok bs → bs.length ≤ 12 := by
  intro parcel
  have hmax : parcel.maxEncodedLen? = some 12 := by decide
  have hfillable : ∀ part : Layout, part.Occurs parcel → part.Fillable := by
    simp [@forall_occurs _ (struct _ _), @forall_occurs _ (sequence _ _ _),
      @forall_occurs _ (enum _ _ _), @forall_occurs _ (tuple _ _), @forall_occurs _ (option _ _),
      @forall_occurs _ (primitive _ _), parcel, parts, Fillable, UInt32.size,
      TagWidth.maxDiscriminant, TagWidth.size]
  exact ⟨hmax, hfillable, maxEncodedLen_attained hfillable hmax⟩

end Layout
end WireSchema
