import WireSchema.Proofs.Lockstep

/-!
Decoding in blocks of memory. Main statement: it comes to what decoding comes to without a thought
of room, and only for an array of more values than a block holds may there be no room. What a length
prefix declares always has room.
-/

namespace WireSchema

namespace Limits
variable {limits limits' : Limits} {width count : Nat}

/-- A block of memory holds as many values as the limits allow room for. -/
def Fits (limits : Limits) : Prop :=
  valueWidth * limits.maxPreallocation ≤ largestBlock

instance (limits : Limits) : Decidable limits.Fits :=
  inferInstanceAs (Decidable (valueWidth * limits.maxPreallocation ≤ largestBlock))

theorem fits_iff : limits.Fits ↔ limits.maxPreallocation < 0x400000000000000 := by
  simp only [Fits, valueWidth, largestBlock]
  omega

theorem reserve_eq_ok_or (limits : Limits) (width count : Nat) :
    limits.reserve width count = .ok () ∨
      limits.reserve width count = .error .capacityOverflow := by
  unfold reserve
  split
  · exact .inl rfl
  · exact .inr rfl

theorem reserve_of_fits (h : limits.Fits) (count : Nat) :
    limits.reserve valueWidth count = .ok () := by
  have hle : valueWidth * min count limits.maxPreallocation ≤ largestBlock :=
    Nat.le_trans (Nat.mul_le_mul_left _ (Nat.min_le_right _ _)) h
  rw [reserve, if_pos hle]

theorem reserve_of_le (h : width * count ≤ largestBlock) : limits.reserve width count = .ok () := by
  have hle : width * min count limits.maxPreallocation ≤ largestBlock :=
    Nat.le_trans (Nat.mul_le_mul_left _ (Nat.min_le_left _ _)) h
  rw [reserve, if_pos hle]

/-- There is room for all that four bytes can count. -/
theorem reserve_counted (hwidth : width ≤ entryWidth) (hcount : count < UInt32.size) :
    limits.reserve width count = .ok () :=
  reserve_of_le (Nat.le_trans (Nat.mul_le_mul hwidth (Nat.le_of_lt hcount)) (by decide))

theorem reserve_of_not_fits (h : ¬limits.Fits) (hcount : largestBlock < valueWidth * count) :
    limits.reserve valueWidth count = .error .capacityOverflow := by
  rw [fits_iff] at h
  simp only [valueWidth, largestBlock] at hcount
  have hnot : ¬valueWidth * min count limits.maxPreallocation ≤ largestBlock := by
    simp only [valueWidth, largestBlock]
    omega
  rw [reserve, if_neg hnot]

end Limits

/-- What came of decoding in blocks and of decoding where all room can be had: the same, or there
was no room, where it may be missing. -/
def Roomy (short : Prop) (α : Type) (result : Except Halt α) (result' : Except CodecError α) :
    Prop :=
  result = result'.mapError .refused ∨ short ∧ result = .error .capacityOverflow

theorem lockstep_roomy (short : Prop) (limits : Limits) (limit : Nat) :
    Lockstep (Roomy short) limits.reserve reserveNothing limit limit 0 where
  ret _ := .inl rfl
  bind {_ _ _ step' _ _} h hnext := by
    rcases h with rfl | ⟨hshort, rfl⟩
    · cases step' with
      | error e => exact .inl rfl
      | ok a => exact hnext a
    · exact .inr ⟨hshort, rfl⟩
  lift _ := .inl rfl
  after {_ _ step _ _} _ hnext := by
    cases step with
    | error e => exact .inl rfl
    | ok a => exact hnext a rfl
  descend h room := by
    cases room with
    | zero => exact .inl rfl
    | succ room => exact h room
  reserve _ _ hwidth hcount := .inl (Limits.reserve_counted hwidth hcount)

namespace Layout
variable {limits : Limits} {layout : Layout}

/-- A block holds the elements of the layout, if it is an array. -/
def Addressable : Layout → Prop
  | .array _ _ length => valueWidth * length.toNat ≤ largestBlock
  | _ => True

/-- Room may be missing under the limits: they allow more of it than a block has, and an array of
the layout has more elements. -/
def MayLackRoom (limits : Limits) (layout : Layout) : Prop :=
  ¬limits.Fits ∧ ∃ part : Layout, part.Occurs layout ∧ ¬part.Addressable

theorem roomInStep_of_occurs {part : Layout} (h : part.Occurs layout) :
    part.RoomInStep (Roomy (layout.MayLackRoom limits)) limits.reserve reserveNothing := by
  cases part with
  | array name element length =>
    rcases limits.reserve_eq_ok_or valueWidth length.toNat with hok | hoverflow
    · exact .inl hok
    · refine .inr ⟨⟨fun hfits => ?_, _, h, fun haddressable => ?_⟩, hoverflow⟩
      · rw [Limits.reserve_of_fits hfits] at hoverflow
        cases hoverflow
      · rw [Limits.reserve_of_le haddressable] at hoverflow
        cases hoverflow
  | _ => trivial

/-- A program that decodes in blocks of memory comes to what it would come to with blocks of any
size, or it ends for want of room. -/
theorem decodeReserving_roomy (layout : Layout) (limits : Limits) (input : Bytes) :
    Roomy (layout.MayLackRoom limits) _ (layout.decodeReserving limits input)
      (layout.decode limits input) ∧
    Roomy (layout.MayLackRoom limits) _ (layout.decodeExactReserving limits input)
      (layout.decodeExact limits input) ∧
    ∀ name variants tag, layout = .enum name variants tag →
      Roomy (layout.MayLackRoom limits) _ (decodeVariantReserving variants tag limits input)
        (decodeVariant variants tag limits input) := by
  have hstep := lockstep_roomy (layout.MayLackRoom limits) limits limits.maxDepth
  have hroom : ∀ part : Layout, part.Occurs layout → part.RoomInStep
      (Roomy (layout.MayLackRoom limits)) limits.reserve reserveNothing :=
    fun _ => roomInStep_of_occurs
  refine ⟨hstep.decodeWith rfl layout hroom input, hstep.decodeExactWith rfl layout hroom input, ?_⟩
  rintro name variants tag rfl
  obtain ⟨-, hinside⟩ := forall_occurs.mp hroom
  exact hstep.decodeVariantWith rfl variants
    (fun variant hvariant => hinside variant.2 (List.mem_map_of_mem hvariant)) tag input

end Layout
end WireSchema
