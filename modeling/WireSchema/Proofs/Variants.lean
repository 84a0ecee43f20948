import WireSchema.Codec.Variant
import WireSchema.Layout.Checked
import WireSchema.Proofs.Decoding
import WireSchema.Text.Decimal

/-!
Which variants of an enum a value can have. No check holds the number of variants against the width
of the tag. Main statement: every variant of an enum that was built is written and read under its
index exactly when the tag can hold the index of the last one; the index of any other variant is
refused as if there were no such variant.
-/

namespace WireSchema.Layout

section Payload
variable {variants : List (String × Layout)} {limit room position : Nat}

theorem encodePayload_of_getElem? {variant : String × Layout}
    (h : variants[position]? = some variant) (offset : Nat) (outOfRange : CodecError)
    (payload : Value) :
    encodePayload limit room offset outOfRange payload variants position =
      (descend limit room >>= fun room => variant.2.encodeAt limit room offset payload) := by
  induction variants generalizing position with
  | nil => cases h
  | cons first variants ih =>
    cases position with
    | zero =>
      cases h
      rfl
    | succ position => exact ih h

theorem encodePayload_of_length_le (h : variants.length ≤ position) (offset : Nat)
    (outOfRange : CodecError) (payload : Value) :
    encodePayload limit room offset outOfRange payload variants position = .error outOfRange := by
  induction variants generalizing position with
  | nil => rfl
  | cons first variants ih =>
    cases position with
    | zero => cases h
    | succ position => exact ih (Nat.le_of_succ_le_succ h)

theorem decodePayload_of_getElem? {variant : String × Layout}
    (h : variants[position]? = some variant) (unknown : CodecError) (c : Cursor) :
    decodePayload limit room unknown variants position c =
      (descend limit room >>= fun room => variant.2.decodeAt limit room c) := by
  induction variants generalizing position with
  | nil => cases h
  | cons first variants ih =>
    cases position with
    | zero =>
      cases h
      rfl
    | succ position => exact ih h

theorem decodePayload_of_length_le (h : variants.length ≤ position) (unknown : CodecError)
    (c : Cursor) :
    decodePayload limit room unknown variants position c = .error unknown := by
  induction variants generalizing position with
  | nil => rfl
  | cons first variants ih =>
    cases position with
    | zero => cases h
    | succ position => exact ih (Nat.le_of_succ_le_succ h)

end Payload

/-- A tag and after it a payload, one level further down. -/
def writeVariant (limit room offset : Nat) (tag : TagWidth) (index : UInt32) (variant : Layout)
    (payload : Value) : Except CodecError Bytes := do
  let room ← descend limit room
  return Bytes.ofNatLE tag.size index.toNat ++
    (← variant.encodeAt limit room (offset + tag.size) payload)

/-- The payload that comes after a tag. -/
def readVariant (limit room : Nat) (variant : Layout) (c : Cursor) :
    Except CodecError (Value × Cursor) := do
  let room ← descend limit room
  variant.decodeAt limit room c

/-- An index that stands for a variant, in values as well as in bytes. Once the enum was entered,
whatever goes wrong goes wrong in the payload. -/
structure StandsFor (layout : Layout) (variants : List (String × Layout)) (tag : TagWidth)
    (index : UInt32) (variant : Layout) : Prop where
  written : ∀ limit room offset payload,
    layout.encodeAt limit (room + 1) offset (.enum index payload) =
      writeVariant limit room offset tag index variant payload
  writtenAlone : ∀ (limits : Limits) payload,
    encodeVariant variants tag limits index payload =
      writeVariant limits.maxDepth limits.maxDepth 0 tag index variant payload
  read : ∀ limit room (c d : Cursor), c.Advance (Bytes.ofNatLE tag.size index.toNat) d →
    layout.decodeAt limit (room + 1) c = (do
      let (payload, last) ← readVariant limit room variant d
      return (.enum index payload, last))
  readAlone : ∀ (limits : Limits) input d,
    (Cursor.start input).Advance (Bytes.ofNatLE tag.size index.toNat) d →
    decodeVariant variants tag limits input = (do
      let (payload, last) ← readVariant limits.maxDepth limits.maxDepth variant d
      return (index, payload, last.offset))

/-- An index that no value can have, whatever the payload. -/
structure OutOfRange (layout : Layout) (variants : List (String × Layout)) (tag : TagWidth)
    (index : UInt32) : Prop where
  refused : ∀ limit room offset payload,
    layout.encodeAt limit (room + 1) offset (.enum index payload) =
      .error (.variantIndexOutOfRange layout.name index variants.length)
  refusedAlone : ∀ (limits : Limits) payload,
    encodeVariant variants tag limits index payload =
      .error (.variantIndexOutOfRange anonymousEnum index variants.length)

/-- A number that stands for no variant where it is read as a tag. -/
structure Unknown (layout : Layout) (variants : List (String × Layout)) (tag : TagWidth)
    (discriminant : Nat) : Prop where
  refused : ∀ limit room (c d : Cursor), c.readNat tag.size = .ok (discriminant, d) →
    layout.decodeAt limit (room + 1) c =
      .error (.unknownVariant layout.name c.offset discriminant variants.length)
  refusedAlone : ∀ (limits : Limits) input d,
    (Cursor.start input).readNat tag.size = .ok (discriminant, d) →
    decodeVariant variants tag limits input =
      .error (.unknownVariant anonymousEnum 0 discriminant variants.length)

variable {name : String} {variants : List (String × Layout)} {tag : TagWidth} {index : UInt32}

theorem encodeTagged_of_fits (hfits : index.toNat ≤ tag.maxDiscriminant) (typeName : String)
    (count : Nat) (encodePayload : CodecError → Except CodecError Bytes) :
    encodeTagged typeName count tag index encodePayload = (do
      let payload ← encodePayload (.variantIndexOutOfRange typeName index count)
      return Bytes.ofNatLE tag.size index.toNat ++ payload) := by
  rw [encodeTagged, ensure, if_pos hfits, ok_bind]

theorem encodeTagged_of_not_fits (hfits : ¬index.toNat ≤ tag.maxDiscriminant) (typeName : String)
    (count : Nat) (encodePayload : CodecError → Except CodecError Bytes) :
    encodeTagged typeName count tag index encodePayload =
      .error (.variantIndexOutOfRange typeName index count) := by
  rw [encodeTagged, ensure, if_neg hfits, error_bind]

/-- The error does not tell an index without a variant from one that the tag cannot hold. -/
theorem encodeTagged_outOfRange
    (h : variants.length ≤ index.toNat ∨ tag.maxDiscriminant < index.toNat) (typeName : String)
    (limit room offset : Nat) (payload : Value) :
    encodeTagged typeName variants.length tag index (fun outOfRange =>
      encodePayload limit room offset outOfRange payload variants index.toNat) =
      .error (.variantIndexOutOfRange typeName index variants.length) := by
  by_cases hfits : index.toNat ≤ tag.maxDiscriminant
  · have hlength : variants.length ≤ index.toNat := h.resolve_right (Nat.not_lt.mpr hfits)
    rw [encodeTagged_of_fits hfits, encodePayload_of_length_le hlength, error_bind]
  · exact encodeTagged_of_not_fits hfits _ _ _

theorem outOfRange_of_lt
    (h : variants.length ≤ index.toNat ∨ tag.maxDiscriminant < index.toNat) :
    OutOfRange (enum name variants tag) variants tag index where
  refused limit room offset payload := by
    rw [encodeAt, descend_succ, ok_bind]
    exact encodeTagged_outOfRange h name limit room _ payload
  refusedAlone limits payload := encodeTagged_outOfRange h anonymousEnum _ _ _ payload

theorem unknown_of_length_le {discriminant : Nat} (h : variants.length ≤ discriminant) :
    Unknown (enum name variants tag) variants tag discriminant where
  refused limit room c d hread := by
    rw [decodeAt_enum, descend_succ, ok_bind, decodeTagged, liftM_eq, hread, ok_bind]
    dsimp only
    rw [decodePayload_of_length_le h, error_bind]
    rfl
  refusedAlone limits input d hread := by
    rw [decodeVariant_eq, hread, ok_bind]
    dsimp only
    rw [decodePayload_of_length_le h, error_bind]

theorem standsFor_of_le {variant : String × Layout}
    (h : variants[index.toNat]? = some variant) (hfits : index.toNat ≤ tag.maxDiscriminant) :
    StandsFor (enum name variants tag) variants tag index variant.2 where
  written limit room offset payload := by
    rw [encodeAt, descend_succ, ok_bind]
    dsimp only
    rw [encodeTagged_of_fits hfits, encodePayload_of_getElem? h, writeVariant, bind_assoc]
  writtenAlone limits payload := by
    rw [encodeVariant, encodeTagged_of_fits hfits, encodePayload_of_getElem? h, writeVariant,
      bind_assoc, Nat.zero_add]
  read limit room c d hadv := by
    have hread := Cursor.readNat_eq_ok_iff.mpr ⟨tag.lt_pow_iff.mpr hfits, hadv⟩
    rw [decodeAt_enum, descend_succ, ok_bind, decodeTagged, liftM_eq, hread, ok_bind]
    dsimp only
    rw [decodePayload_of_getElem? h, UInt32.ofNat_toNat, readVariant]
  readAlone limits input d hadv := by
    have hread := Cursor.readNat_eq_ok_iff.mpr ⟨tag.lt_pow_iff.mpr hfits, hadv⟩
    rw [decodeVariant_eq, hread, ok_bind]
    dsimp only
    rw [decodePayload_of_getElem? h, UInt32.ofNat_toNat, readVariant]

/-- No index stands for a variant and is out of range: without a level left for the payload, the
one is told as too deep. -/
theorem StandsFor.not_outOfRange {layout variant : Layout}
    (h : layout.StandsFor variants tag index variant) :
    ¬layout.OutOfRange variants tag index := by
  intro hout
  have hwritten := h.written 0 0 0 (.struct [])
  rw [hout.refused, writeVariant, descend_zero, error_bind] at hwritten
  cases hwritten

/-- Every variant has an index exactly when the tag can hold the position of the last one. -/
theorem all_standFor_iff :
    (∀ position variant, variants[position]? = some variant → ∃ index : UInt32,
      index.toNat = position ∧
        (enum name variants tag).StandsFor variants tag index variant.2) ↔
      variants.length ≤ tag.maxDiscriminant + 1 := by
  constructor
  · intro hall
    refine Nat.le_of_not_lt fun hlt => ?_
    obtain ⟨index, hindex, hstands⟩ := hall _ _ (List.getElem?_eq_getElem hlt)
    exact hstands.not_outOfRange (outOfRange_of_lt (.inr (by omega)))
  · intro hlength position variant hvariant
    obtain ⟨hlt, -⟩ := List.getElem?_eq_some_iff.mp hvariant
    have hfits : position ≤ tag.maxDiscriminant := by omega
    have hindex : (UInt32.ofNat position).toNat = position :=
      tag.toNat_ofNat (tag.lt_pow_iff.mpr hfits)
    refine ⟨_, hindex, standsFor_of_le ?_ ?_⟩
    · rwa [hindex]
    · rwa [hindex]

/-- An enum that was built takes the index of every variant that its tag can hold and refuses every
other one. These are all of its variants exactly when the tag can tell as many apart. -/
theorem checkedEnum_variants {layout : Layout} (h : checkedEnum name variants tag = .ok layout) :
    (∀ (index : UInt32) variant, variants[index.toNat]? = some variant →
      index.toNat ≤ tag.maxDiscriminant →
      layout.StandsFor variants tag index variant.2) ∧
    (∀ index : UInt32, variants.length ≤ index.toNat ∨ tag.maxDiscriminant < index.toNat →
      layout.OutOfRange variants tag index) ∧
    (∀ discriminant, variants.length ≤ discriminant →
      layout.Unknown variants tag discriminant) ∧
    ((∀ position variant, variants[position]? = some variant → ∃ index : UInt32,
      index.toNat = position ∧ layout.StandsFor variants tag index variant.2) ↔
      variants.length ≤ tag.maxDiscriminant + 1) := by
  obtain ⟨-, rfl⟩ := checkedEnum_eq_ok_iff.mp h
  refine ⟨fun index variant hvariant hfits => ?_, fun index hout => ?_,
    fun discriminant hlength => ?_, all_standFor_iff⟩
  · exact standsFor_of_le hvariant hfits
  · exact outOfRange_of_lt hout
  · exact unknown_of_length_le hlength

theorem checkedEnum_variants_lock :
    checkedEnum "Lock" [unitVariant "Free", unitVariant "Held"] .one =
      .ok (.enum "Lock" [unitVariant "Free", unitVariant "Held"] .one) ∧
    (enum "Lock" [unitVariant "Free", unitVariant "Held"] .one).StandsFor
      [unitVariant "Free", unitVariant "Held"] .one 1 (.struct "Held" []) := by
  have hbuilt : checkedEnum "Lock" [unitVariant "Free", unitVariant "Held"] .one =
      .ok (.enum "Lock" [unitVariant "Free", unitVariant "Held"] .one) := by
    rfl
  exact ⟨hbuilt, (checkedEnum_variants hbuilt).1 1 _ rfl (by decide)⟩

/-- Different names are all it takes, so there can be any number of variants. -/
theorem checkedEnum_units {names : List String} (h : names.Nodup) (name : String)
    (tag : TagWidth) :
    checkedEnum name (names.map unitVariant) tag =
      .ok (.enum name (names.map unitVariant) tag) := by
  refine checkedEnum_eq_ok_iff.mpr ⟨⟨?_, fun variant hvariant => ?_⟩, rfl⟩
  · rw [List.map_map]
    exact (List.map_id names).symm ▸ h
  · obtain ⟨unit, -, rfl⟩ := List.mem_map.mp hvariant
    rfl

/-- The names `v0`, `v1` and so on. -/
def numberedNames (count : Nat) : List String :=
  (List.range count).map fun n => String.ofList ('v' :: Text.digits n)

theorem nodup_numberedNames (count : Nat) : (numberedNames count).Nodup := by
  refine List.pairwise_map.mpr (List.nodup_range.imp fun hne hmn => hne ?_)
  exact Text.eq_of_digits_eq (List.cons.inj (String.ofList_inj.mp hmn)).2

/-- One variant more than a tag of one byte can tell apart. The last one has an index, and the
error that refuses it counts it among the variants. -/
theorem checkedEnum_last_refused :
    checkedEnum "" ((numberedNames 257).map unitVariant) .one =
      .ok (.enum "" ((numberedNames 257).map unitVariant) .one) ∧
    (enum "" ((numberedNames 257).map unitVariant) .one).encode {} (.enum 256 (.struct [])) =
      .error (.variantIndexOutOfRange "" 256 257) := by
  have hlength : ((numberedNames 257).map unitVariant).length = 257 := by
    simp [numberedNames]
  have hout : (enum "" ((numberedNames 257).map unitVariant) .one).OutOfRange
      ((numberedNames 257).map unitVariant) .one 256 := outOfRange_of_lt (.inr (by decide))
  have hrefused := hout.refused 64 63 0 (.struct [])
  rw [hlength] at hrefused
  exact ⟨checkedEnum_units (nodup_numberedNames 257) "" .one, hrefused⟩

end WireSchema.Layout
