import WireSchema.Proofs.Depth
import WireSchema.Proofs.Faults
import WireSchema.Proofs.Variants

/-!
A variant that is written or read on its own, beside an enum value with that variant. Main
statement: with one level more for the enum value both come to the same. Their errors differ in the
name of the enum and in the limit that was exceeded, and in nothing else.
-/

namespace WireSchema

/-- Two operations that come to the same: to results that go together, or to errors that do. -/
inductive Agree {α β : Type} (SameError : CodecError → CodecError → Prop)
    (SameResult : α → β → Prop) : Except CodecError α → Except CodecError β → Prop
  | ok {a b} : SameResult a b → Agree SameError SameResult (.ok a) (.ok b)
  | error {e e'} : SameError e e' → Agree SameError SameResult (.error e) (.error e')

theorem Agree.map {α β γ δ : Type} {SameError : CodecError → CodecError → Prop}
    {SameResult : α → β → Prop} {SameResult' : γ → δ → Prop} {result : Except CodecError α}
    {result' : Except CodecError β} (h : Agree SameError SameResult result result') {f : α → γ}
    {g : β → δ} (hfg : ∀ a b, SameResult a b → SameResult' (f a) (g b)) :
    Agree SameError SameResult' (result >>= fun a => .ok (f a))
      (result' >>= fun b => .ok (g b)) := by
  cases h with
  | ok hsame => exact .ok (hfg _ _ hsame)
  | error hsame => exact .error hsame

namespace Layout

/-- The error for a variant on its own, and the one for the value of an enum of that name, which may
go one level deeper. -/
inductive Counterpart (name : String) (limit : Nat) : CodecError → CodecError → Prop
  | outOfRange (index : UInt32) (count : Nat) : Counterpart name limit
      (.variantIndexOutOfRange anonymousEnum index count) (.variantIndexOutOfRange name index count)
  | unknown (offset discriminant count : Nat) : Counterpart name limit
      (.unknownVariant anonymousEnum offset discriminant count)
      (.unknownVariant name offset discriminant count)
  | tooDeep : Counterpart name limit (.depthLimitExceeded limit) (.depthLimitExceeded (limit + 1))
  | same {e : CodecError} : ¬e.isTooDeep → Counterpart name limit e e

variable {name : String} {variants : List (String × Layout)} {tag : TagWidth} {limit : Nat}

theorem agree_of_deepened {α : Type} {result result' : Except CodecError α}
    (h : Deepened limit (limit + 1) 0 result result') :
    Agree (Counterpart name limit) (· = ·) result result' := by
  cases h with
  | same hshallow =>
    cases result with
    | error e => exact .error (.same (hshallow e rfl))
    | ok a => exact .ok rfl
  | exceeded hexceeded =>
    rw [hexceeded rfl]
    exact .error .tooDeep

theorem deepened_writeVariant (variant : Layout) (index : UInt32) (payload : Value) :
    Deepened limit (limit + 1) 0 (writeVariant limit limit 0 tag index variant payload)
      (writeVariant (limit + 1) limit 0 tag index variant payload) :=
  .descend (fun room => (deepened_encodeAt variant room _ payload).map (_ ++ ·)) limit

theorem deepened_readVariant (variant : Layout) (c : Cursor) :
    Deepened limit (limit + 1) 0 (readVariant limit limit variant c)
      (readVariant (limit + 1) limit variant c) :=
  .descend (fun room => deepened_decodeAt variant room c) limit

/-- Limits for a value that holds the variant: one level more. -/
def deeper (limits : Limits) : Limits :=
  { limits with maxDepth := limits.maxDepth + 1 }

theorem agree_encodeVariant (name : String) (variants : List (String × Layout)) (tag : TagWidth)
    (limits : Limits) (index : UInt32) (payload : Value) :
    Agree (Counterpart name limits.maxDepth) (· = ·)
      (encodeVariant variants tag limits index payload)
      ((enum name variants tag).encode (deeper limits) (.enum index payload)) := by
  by_cases hout : variants.length ≤ index.toNat ∨ tag.maxDiscriminant < index.toNat
  · have hrefused : OutOfRange (enum name variants tag) variants tag index := outOfRange_of_lt hout
    rw [encode, deeper, hrefused.refusedAlone, hrefused.refused]
    exact .error (.outOfRange index variants.length)
  · rw [not_or, Nat.not_le, Nat.not_lt] at hout
    have hstands : StandsFor (enum name variants tag) variants tag index variants[index.toNat].2 :=
      standsFor_of_le (List.getElem?_eq_getElem hout.1) hout.2
    rw [encode, deeper, hstands.writtenAlone, hstands.written]
    exact agree_of_deepened (deepened_writeVariant _ index payload)

theorem agree_decodeVariant (name : String) (variants : List (String × Layout)) (tag : TagWidth)
    (limits : Limits) (input : Bytes) :
    Agree (Counterpart name limits.maxDepth)
      (fun alone whole => whole = (.enum alone.1 alone.2.1, alone.2.2))
      (decodeVariant variants tag limits input)
      ((enum name variants tag).decode (deeper limits) input) := by
  cases hread : (Cursor.start input).readNat tag.size with
  | error e =>
    have hwhole : (enum name variants tag).decode (deeper limits) input = .error e := by
      rw [decode_eq_error_iff, deeper, decodeAt_enum, descend_succ, ok_bind, decodeTagged, liftM_eq,
        hread, error_bind]
    rw [hwhole, decodeVariant_eq, hread, error_bind]
    exact .error (.same (shallow_readNat _ _ e hread))
  | ok read =>
    obtain ⟨discriminant, d⟩ := read
    by_cases hlength : variants.length ≤ discriminant
    · have hunknown : Unknown (enum name variants tag) variants tag discriminant :=
        unknown_of_length_le hlength
      have hwhole := decode_eq_error_iff.mpr
        (hunknown.refused (deeper limits).maxDepth limits.maxDepth (.start input) d hread)
      rw [hwhole, hunknown.refusedAlone limits input d hread]
      exact .error (.unknown 0 discriminant variants.length)
    · obtain ⟨hlt, hadv⟩ := Cursor.readNat_eq_ok_iff.mp hread
      obtain ⟨index, rfl⟩ : ∃ index : UInt32, index.toNat = discriminant :=
        ⟨_, tag.toNat_ofNat hlt⟩
      have hindex : index.toNat < variants.length := Nat.lt_of_not_le hlength
      have hstands :
          StandsFor (enum name variants tag) variants tag index variants[index.toNat].2 :=
        standsFor_of_le (List.getElem?_eq_getElem hindex) (tag.lt_pow_iff.mp hlt)
      rw [hstands.readAlone limits input d hadv, decode_eq, deeper,
        hstands.read (limits.maxDepth + 1) limits.maxDepth _ d hadv, bind_assoc]
      refine (agree_of_deepened (deepened_readVariant _ d)).map fun read _ hsame => ?_
      rw [← hsame]

theorem not_valueMismatch_of_decode {layout : Layout} {limits : Limits} {input : Bytes}
    (mismatch : Mismatch) : layout.decode limits input ≠ .error (.valueMismatch mismatch) :=
  fun h => describes_of_decode h

/-- Nothing but the level of the enum value lies between the two. A variant on its own is written to
the same bytes as the enum value and read from the same bytes, with the same number of them, or the
errors go together. What is read is a variant, so that nothing is ever said of a wrong value. -/
theorem variant_alone_agrees (name : String) (variants : List (String × Layout)) (tag : TagWidth)
    (limits : Limits) :
    (∀ index payload, Agree (Counterpart name limits.maxDepth) (· = ·)
      (encodeVariant variants tag limits index payload)
      ((enum name variants tag).encode (deeper limits) (.enum index payload))) ∧
    (∀ input, Agree (Counterpart name limits.maxDepth)
      (fun alone whole => whole = (.enum alone.1 alone.2.1, alone.2.2))
      (decodeVariant variants tag limits input)
      ((enum name variants tag).decode (deeper limits) input)) ∧
    ∀ input mismatch,
      decodeVariant variants tag limits input ≠ .error (.valueMismatch mismatch) := by
  refine ⟨agree_encodeVariant name variants tag limits,
    agree_decodeVariant name variants tag limits, fun input mismatch h => ?_⟩
  have hagree := agree_decodeVariant name variants tag limits input
  rw [h] at hagree
  generalize hwhole : (enum name variants tag).decode (deeper limits) input = whole at hagree
  cases hagree with
  | error hsame =>
    cases hsame with
    | same => exact not_valueMismatch_of_decode mismatch hwhole

end Layout
end WireSchema
