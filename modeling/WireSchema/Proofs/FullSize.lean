import WireSchema.Codec.Encode
import WireSchema.Proofs.Parts
import WireSchema.Proofs.Size

/-!
The size bound against the size that the wire format tells, in numbers without a limit. Main
statement: there is no bound exactly where something is unbounded, where the full size is no 64-bit
word, or where such a size occurs in what is repeated no times at all. Elsewhere the bound is the
full size.
-/

namespace WireSchema

/-- How often a bound lets something be repeated. What has no bound has no full size either. -/
def most (bound : Option UInt64) : Nat :=
  (bound.map UInt64.toNat).getD 0

def Primitive.fullSize : Primitive → Nat
  | .string bound => lengthWidth + most bound
  | kind => kind.size?.getD 0

/-- What is computed from `a`, where the first step yields nothing else. -/
theorem bind_eq_some_iff_of {first : Option Nat} {p : Prop} {a : Nat}
    (h : ∀ n, first = some n ↔ p ∧ n = a) {step : Nat → Option Nat} {n : Nat} :
    first.bind step = some n ↔ p ∧ step a = some n := by
  simp only [Option.bind_eq_some_iff, h]
  constructor
  · rintro ⟨_, ⟨hp, rfl⟩, hstep⟩
    exact ⟨hp, hstep⟩
  · rintro ⟨hp, hstep⟩
    exact ⟨a, ⟨hp, rfl⟩, hstep⟩

/-- A product fits if it fits with the length in front. -/
theorem checkedRepeat?_eq_some_iff {size count max : Nat} :
    ((checkedMul? size count).bind fun product => checkedAdd? product lengthWidth) = some max ↔
      lengthWidth + count * size < UInt64.size ∧ max = lengthWidth + count * size := by
  simp only [Option.bind_eq_some_iff, checkedMul?_eq_some_iff, checkedAdd?_eq_some_iff,
    Nat.mul_comm size, Nat.add_comm _ lengthWidth]
  constructor
  · rintro ⟨_, ⟨-, rfl⟩, h⟩
    exact h
  · rintro ⟨hfits, rfl⟩
    exact ⟨_, ⟨by omega, rfl⟩, hfits, rfl⟩

namespace Layout

mutual

/-- The bytes of a value in which everything is present and repeated as often as may be. -/
def fullSize : Layout → Nat
  | .primitive _ kind => kind.fullSize
  | .array _ element length => length.toNat * fullSize element
  | .sequence _ element bound => lengthWidth + most bound * fullSize element
  | .map _ key content bound => lengthWidth + most bound * (fullSize key + fullSize content)
  | .option _ inner => optionTagWidth + fullSize inner
  | .struct _ fields => fullSizeFields fields
  | .tuple _ members => fullSizeMembers members
  | .enum _ variants tag => tag.size + fullSizeVariants variants

def fullSizeFields : List (String × Layout) → Nat
  | [] => 0
  | (_, layout) :: rest => fullSize layout + fullSizeFields rest

def fullSizeMembers : List Layout → Nat
  | [] => 0
  | layout :: rest => fullSize layout + fullSizeMembers rest

def fullSizeVariants : List (String × Layout) → Nat
  | [] => 0
  | (_, payload) :: rest => max (fullSize payload) (fullSizeVariants rest)

end

/-- A key with its value. The two are added up before they are repeated. -/
def entrySize : Layout → Nat
  | .map _ key content _ => key.fullSize + content.fullSize
  | _ => 0

/-- A string, a sequence or a map without bound. -/
def LacksBound : Layout → Prop
  | .primitive _ (.string none) | .sequence _ _ none | .map _ _ _ none => True
  | _ => False

/-- Neither the layout nor an entry of it fits in a 64-bit word. -/
def Oversized (layout : Layout) : Prop :=
  UInt64.size ≤ layout.fullSize ∨ UInt64.size ≤ layout.entrySize

/-- What it holds is repeated no times. -/
def Repeatless : Layout → Prop
  | .array _ _ length => length = 0
  | .sequence _ _ bound | .map _ _ _ bound => bound = some 0
  | _ => False

/-- Something without bound occurs, however deep. -/
def Unbounded (layout : Layout) : Prop :=
  ∃ part : Layout, part.Occurs layout ∧ part.LacksBound

/-- What is repeated no times holds something that is too large for a word. -/
def HidesOversized (layout : Layout) : Prop :=
  ∃ outer part : Layout, outer.Occurs layout ∧ outer.Repeatless ∧ part.Occurs outer ∧
    part.Oversized

/-- Every size on the way to the full size is there and fits in a word. -/
def Sized (layout : Layout) : Prop :=
  ∀ part : Layout, part.Occurs layout → ¬part.LacksBound ∧ ¬part.Oversized

theorem sized_iff {layout : Layout} :
    layout.Sized ↔
      (∀ child ∈ layout.parts, child.Sized) ∧ ¬layout.LacksBound ∧ ¬layout.Oversized :=
  forall_occurs.trans and_comm

/-- The bound of the layout is its full size, if it has one. -/
def BoundsFullSize (layout : Layout) : Prop :=
  ∀ max, layout.maxEncodedLen? = some max ↔ layout.Sized ∧ max = layout.fullSize

theorem fullSizeFields_eq (fields : List (String × Layout)) :
    fullSizeFields fields = fullSizeMembers (fields.map (·.2)) := by
  induction fields with
  | nil => rfl
  | cons field fields ih => simp [fullSizeFields, fullSizeMembers, ih]

/-- Sums only grow, so one that fits in the end has fitted all along. -/
theorem sumMaxMembers?_eq_some_iff {members : List Layout}
    (h : ∀ member ∈ members, member.BoundsFullSize) {total n : Nat}
    (htotal : total < UInt64.size) :
    sumMaxMembers? total members = some n ↔ (∀ member ∈ members, member.Sized) ∧
      total + fullSizeMembers members < UInt64.size ∧ n = total + fullSizeMembers members := by
  induction members generalizing total with
  | nil => simp [sumMaxMembers?, fullSizeMembers, htotal, eq_comm]
  | cons member members ih =>
    obtain ⟨hmember, hmembers⟩ := List.forall_mem_cons.mp h
    rw [sumMaxMembers?, Option.bind_eq_bind, bind_eq_some_iff_of hmember,
      bind_eq_some_iff_of fun _ => checkedAdd?_eq_some_iff, List.forall_mem_cons, fullSizeMembers,
      ← Nat.add_assoc, and_assoc]
    refine and_congr_right fun _ => ?_
    constructor
    · rintro ⟨hfits, hrest⟩
      exact (ih hmembers hfits).mp hrest
    · rintro ⟨hothers, hlt, rfl⟩
      have hfits : total + member.fullSize < UInt64.size := by omega
      exact ⟨hfits, (ih hmembers hfits).mpr ⟨hothers, hlt, rfl⟩⟩

theorem widestVariant?_eq_some_iff {variants : List (String × Layout)}
    (h : ∀ variant ∈ variants, variant.2.BoundsFullSize) {widest n : Nat} :
    widestVariant? widest variants = some n ↔ (∀ variant ∈ variants, variant.2.Sized) ∧
      n = max widest (fullSizeVariants variants) := by
  induction variants generalizing widest with
  | nil => simp [widestVariant?, fullSizeVariants, eq_comm]
  | cons variant variants ih =>
    obtain ⟨hvariant, hvariants⟩ := List.forall_mem_cons.mp h
    rw [widestVariant?, Option.bind_eq_bind, bind_eq_some_iff_of hvariant, ih hvariants,
      List.forall_mem_cons, fullSizeVariants, and_assoc, Nat.max_assoc]

section Shapes
attribute [local simp] fullSize entrySize LacksBound Oversized parts most and_assoc

theorem boundsFullSize_primitive (name : String) (kind : Primitive) :
    (primitive name kind).BoundsFullSize := by
  intro max
  rw [sized_iff, maxEncodedLen?]
  cases kind with
  | string bound =>
    cases bound with
    | none => simp [Primitive.maxEncodedLen?]
    | some bound =>
      simp [Primitive.maxEncodedLen?, Primitive.fullSize, checkedAdd?_eq_some_iff, Nat.add_comm]
  | bool =>
    simp [Primitive.maxEncodedLen?, Primitive.fullSize, Primitive.size?, UInt64.size, eq_comm]
  | int kind =>
    have hlt : kind.size < UInt64.size := by cases kind <;> decide
    simp [Primitive.maxEncodedLen?, Primitive.fullSize, Primitive.size?, hlt, eq_comm]
  | fixedBytes width =>
    have hlt : width.toNat < UInt64.size := width.toNat_lt
    simp [Primitive.maxEncodedLen?, Primitive.fullSize, Primitive.size?, hlt, eq_comm]
  | publicKey =>
    have hlt : Primitive.publicKeyWidth < UInt64.size := by decide
    simp [Primitive.maxEncodedLen?, Primitive.fullSize, Primitive.size?, hlt, eq_comm]

theorem boundsFullSize_array (name : String) {element : Layout} (length : UInt64)
    (helement : element.BoundsFullSize) : (array name element length).BoundsFullSize := by
  intro max
  rw [sized_iff, maxEncodedLen?]
  simp [bind_eq_some_iff_of helement, checkedMul?_eq_some_iff, Nat.mul_comm element.fullSize]

theorem boundsFullSize_sequence (name : String) {element : Layout} (bound : Option UInt64)
    (helement : element.BoundsFullSize) : (sequence name element bound).BoundsFullSize := by
  intro max
  rw [sized_iff, maxEncodedLen?]
  cases bound with
  | none => simp
  | some bound => simp [bind_eq_some_iff_of helement, checkedRepeat?_eq_some_iff]

theorem boundsFullSize_map (name : String) {key content : Layout} (bound : Option UInt64)
    (hkey : key.BoundsFullSize) (hcontent : content.BoundsFullSize) :
    (map name key content bound).BoundsFullSize := by
  intro max
  rw [sized_iff, maxEncodedLen?]
  cases bound with
  | none => simp
  | some bound =>
    simp [bind_eq_some_iff_of hkey, bind_eq_some_iff_of hcontent,
      bind_eq_some_iff_of fun _ => checkedAdd?_eq_some_iff, checkedRepeat?_eq_some_iff,
      and_left_comm]

theorem boundsFullSize_option (name : String) {inner : Layout} (hinner : inner.BoundsFullSize) :
    (option name inner).BoundsFullSize := by
  intro max
  rw [sized_iff, maxEncodedLen?]
  simp [bind_eq_some_iff_of hinner, checkedAdd?_eq_some_iff, Nat.add_comm inner.fullSize]

theorem boundsFullSize_struct (name : String) {fields : List (String × Layout)}
    (hfields : ∀ field ∈ fields, field.2.BoundsFullSize) : (struct name fields).BoundsFullSize := by
  intro max
  have hzero : 0 < UInt64.size := by decide
  rw [sized_iff, maxEncodedLen?, sumMaxFields?_eq,
    sumMaxMembers?_eq_some_iff (List.forall_mem_map.mpr hfields) hzero]
  simp [fullSizeFields_eq]

theorem boundsFullSize_tuple (name : String) {members : List Layout}
    (hmembers : ∀ member ∈ members, member.BoundsFullSize) :
    (tuple name members).BoundsFullSize := by
  intro max
  have hzero : 0 < UInt64.size := by decide
  rw [sized_iff, maxEncodedLen?, sumMaxMembers?_eq_some_iff hmembers hzero]
  simp

theorem boundsFullSize_enum (name : String) {variants : List (String × Layout)} (tag : TagWidth)
    (hvariants : ∀ variant ∈ variants, variant.2.BoundsFullSize) :
    (enum name variants tag).BoundsFullSize := by
  intro max
  have hparts : (∀ child ∈ (enum name variants tag).parts, child.Sized) ↔
      ∀ variant ∈ variants, variant.2.Sized := List.forall_mem_map
  rw [sized_iff, maxEncodedLen?, hparts, Option.bind_eq_bind,
    bind_eq_some_iff_of fun _ => widestVariant?_eq_some_iff hvariants]
  simp [checkedAdd?_eq_some_iff, Nat.add_comm tag.size]

end Shapes

theorem boundsFullSize (layout : Layout) : layout.BoundsFullSize := by
  induction layout with
  | primitive name kind => exact boundsFullSize_primitive name kind
  | array name element length ih => exact boundsFullSize_array name length ih
  | sequence name element bound ih => exact boundsFullSize_sequence name bound ih
  | map name key content bound ihk ihc => exact boundsFullSize_map name bound ihk ihc
  | option name inner ih => exact boundsFullSize_option name ih
  | struct name fields ih => exact boundsFullSize_struct name ih
  | tuple name members ih => exact boundsFullSize_tuple name ih
  | enum name variants tag ih => exact boundsFullSize_enum name tag ih

theorem le_mul_of_ne_zero {count : UInt64} (h : count ≠ 0) (n : Nat) : n ≤ count.toNat * n := by
  have hpos : 0 < count.toNat := Nat.pos_of_ne_zero fun hzero => h (UInt64.toNat_inj.mp hzero)
  exact Nat.le_mul_of_pos_left n hpos

theorem fullSize_le_of_mem_members {member : Layout} {members : List Layout}
    (h : member ∈ members) : member.fullSize ≤ fullSizeMembers members := by
  induction members with
  | nil => cases h
  | cons first members ih =>
    rw [fullSizeMembers]
    rcases List.mem_cons.mp h with rfl | h
    · exact Nat.le_add_right _ _
    · exact Nat.le_trans (ih h) (Nat.le_add_left _ _)

theorem fullSize_le_of_mem_variants {variant : String × Layout} {variants : List (String × Layout)}
    (h : variant ∈ variants) : variant.2.fullSize ≤ fullSizeVariants variants := by
  induction variants with
  | nil => cases h
  | cons first variants ih =>
    rw [fullSizeVariants]
    rcases List.mem_cons.mp h with rfl | h
    · exact Nat.le_max_left _ _
    · exact Nat.le_trans (ih h) (Nat.le_max_right _ _)

section Repeated
variable {layout : Layout} (hbound : ¬layout.LacksBound) (hrepeats : ¬layout.Repeatless)
include hbound hrepeats

theorem entrySize_le_fullSize : layout.entrySize ≤ layout.fullSize := by
  cases layout with
  | map name key content bound =>
    cases bound with
    | none => exact absurd trivial hbound
    | some count =>
      have hcount : count ≠ 0 := fun h => hrepeats (congrArg some h)
      exact Nat.le_trans (le_mul_of_ne_zero hcount _) (Nat.le_add_left _ _)
  | _ => exact Nat.zero_le _

/-- What is repeated at all takes no more than the whole. -/
theorem fullSize_le_of_mem_parts {child : Layout} (hchild : child ∈ layout.parts) :
    child.fullSize ≤ layout.fullSize := by
  cases layout with
  | primitive name kind => cases hchild
  | array name element length =>
    obtain rfl := List.mem_singleton.mp hchild
    exact le_mul_of_ne_zero hrepeats _
  | sequence name element bound =>
    obtain rfl := List.mem_singleton.mp hchild
    cases bound with
    | none => exact absurd trivial hbound
    | some count =>
      have hcount : count ≠ 0 := fun h => hrepeats (congrArg some h)
      exact Nat.le_trans (le_mul_of_ne_zero hcount _) (Nat.le_add_left _ _)
  | map name key content bound =>
    have hentry := entrySize_le_fullSize hbound hrepeats
    simp only [parts, List.mem_cons, List.not_mem_nil, or_false] at hchild
    rcases hchild with rfl | rfl
    · exact Nat.le_trans (Nat.le_add_right _ _) hentry
    · exact Nat.le_trans (Nat.le_add_left _ _) hentry
  | option name inner =>
    obtain rfl := List.mem_singleton.mp hchild
    exact Nat.le_add_left _ _
  | struct name fields =>
    rw [fullSize, fullSizeFields_eq]
    exact fullSize_le_of_mem_members hchild
  | tuple name members => exact fullSize_le_of_mem_members hchild
  | enum name variants tag =>
    obtain ⟨variant, hvariant, rfl⟩ := List.mem_map.mp hchild
    exact Nat.le_trans (fullSize_le_of_mem_variants hvariant) (Nat.le_add_left _ _)

end Repeated

/-- From where it occurs outwards, what is too large makes all around it so, up to where it is
repeated no times. -/
theorem Occurs.oversized {part layout : Layout} (h : part.Occurs layout) (hpart : part.Oversized)
    (hbound : ¬layout.Unbounded) : UInt64.size ≤ layout.fullSize ∨ layout.HidesOversized := by
  induction h with
  | self =>
    by_cases hrepeats : part.Repeatless
    · exact .inr ⟨part, part, .self, hrepeats, .self, hpart⟩
    · have hentry := entrySize_le_fullSize (fun h => hbound ⟨part, .self, h⟩) hrepeats
      exact .inl (hpart.elim id fun hlarge => Nat.le_trans hlarge hentry)
  | @inside child layout hchild hinside ih =>
    have hbelow : ¬child.Unbounded := by
      rintro ⟨deeper, hdeeper, hlacks⟩
      exact hbound ⟨deeper, .inside hchild hdeeper, hlacks⟩
    rcases ih hbelow with hlarge | ⟨outer, inner, houter, hrest⟩
    · by_cases hrepeats : layout.Repeatless
      · exact .inr ⟨layout, child, .self, hrepeats, .inside hchild .self, .inl hlarge⟩
      · have hle := fullSize_le_of_mem_parts (fun h => hbound ⟨layout, .self, h⟩) hrepeats hchild
        exact .inl (Nat.le_trans hlarge hle)
    · exact .inr ⟨outer, inner, .inside hchild houter, hrest⟩

theorem sized_iff_of_bounds {layout : Layout} : layout.Sized ↔
    ¬layout.Unbounded ∧ layout.fullSize < UInt64.size ∧ ¬layout.HidesOversized := by
  constructor
  · intro h
    refine ⟨?_, ?_, ?_⟩
    · rintro ⟨part, hpart, hlacks⟩
      exact (h part hpart).1 hlacks
    · exact Nat.lt_of_not_le fun hlarge => (h layout .self).2 (.inl hlarge)
    · rintro ⟨outer, part, houter, -, hpart, hlarge⟩
      exact (h part (hpart.trans houter)).2 hlarge
  · rintro ⟨hbound, hlt, hhides⟩ part hpart
    refine ⟨fun hlacks => hbound ⟨part, hpart, hlacks⟩, fun hlarge => ?_⟩
    exact (hpart.oversized hlarge hbound).elim (Nat.not_le.mpr hlt) hhides

/-- There is no bound for the two reasons that are told, or since a size is computed that is then
repeated no times. -/
theorem maxEncodedLen?_eq_none_iff (layout : Layout) :
    (layout.maxEncodedLen? = none ↔
      layout.Unbounded ∨ UInt64.size ≤ layout.fullSize ∨ layout.HidesOversized) ∧
    ∀ n, layout.maxEncodedLen? = some n ↔
      (¬layout.Unbounded ∧ layout.fullSize < UInt64.size ∧ ¬layout.HidesOversized) ∧
        n = layout.fullSize := by
  have hsome : ∀ n, layout.maxEncodedLen? = some n ↔
      (¬layout.Unbounded ∧ layout.fullSize < UInt64.size ∧ ¬layout.HidesOversized) ∧
        n = layout.fullSize := by
    intro n
    rw [boundsFullSize layout n, sized_iff_of_bounds]
  refine ⟨?_, hsome⟩
  rw [Option.eq_none_iff_forall_ne_some]
  constructor
  · intro hnone
    refine Classical.byContradiction fun h => ?_
    simp only [not_or, Nat.not_le] at h
    exact hnone layout.fullSize ((hsome _).mpr ⟨h, rfl⟩)
  · intro h n hn
    obtain ⟨⟨hbound, hlt, hhides⟩, -⟩ := (hsome n).mp hn
    exact h.elim hbound fun h => h.elim (Nat.not_le.mpr hlt) hhides

/-- An array of no arrays that would take 2 ^ 67 bytes each. Its value takes none. -/
theorem empty_array_without_bound :
    let layout := array "" (array "" (primitive "" (.int .u128)) 0x8000000000000000) 0
    layout.maxEncodedLen? = none ∧ ¬layout.Unbounded ∧ layout.fullSize = 0 ∧
      layout.encode {} (.array []) = .ok [] := by
  have hbounds : ∀ part : Layout,
      part.Occurs (array "" (array "" (primitive "" (.int .u128)) 0x8000000000000000) 0) →
        ¬part.LacksBound := by
    simp [@forall_occurs _ (array _ _ _), @forall_occurs _ (primitive _ _), parts, LacksBound]
  refine ⟨by decide, ?_, by decide, rfl⟩
  rintro ⟨part, hpart, hlacks⟩
  exact hbounds part hpart hlacks

end Layout
end WireSchema
